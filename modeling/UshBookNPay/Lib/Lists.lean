import Mathlib.Data.List.Flatten
import Mathlib.Data.List.Forall2
import Mathlib.Data.List.Sort

/-!
# Lists

What does not look at the places of a numbered list, what two lists have in common whose members
correspond one to one, what lies in the parts of a joined list, and the order of lists and their members. An audit
trail is a list of entries that say from what to what something has changed: it is closed when each entry
begins where the one before it has ended.
-/

namespace Lists

variable {α β γ : Type} {R : α → β → Prop} {l : List α} {l' : List β}

/-! ## Places -/

/-- A function that does not look at the places. -/
theorem map_zipIdx {f : α × ℕ → γ} {g : α → γ} (h : ∀ x i, f (x, i) = g x) (l : List α) (n : ℕ) :
    (l.zipIdx n).map f = l.map g := by
  have hfst : f = g ∘ Prod.fst := funext fun x => h x.1 x.2
  rw [hfst, ← List.map_map, List.zipIdx_map_fst]

theorem forall₂_zipIdx_left {n : ℕ} :
    List.Forall₂ (fun x y => R x.1 y) (l.zipIdx n) l' ↔ List.Forall₂ R l l' := by
  have hfst : List.Forall₂ R l l' ↔ List.Forall₂ R ((l.zipIdx n).map Prod.fst) l' := by
    rw [List.zipIdx_map_fst]
  rw [hfst, List.forall₂_map_left_iff]

theorem forall₂_zipIdx_right {n : ℕ} :
    List.Forall₂ (fun x y => R x y.1) l (l'.zipIdx n) ↔ List.Forall₂ R l l' := by
  have hfst : List.Forall₂ R l l' ↔ List.Forall₂ R l ((l'.zipIdx n).map Prod.fst) := by
    rw [List.zipIdx_map_fst]
  rw [hfst, List.forall₂_map_right_iff]

/-! ## Correspondence -/

theorem forall₂_zipIdx (h : List.Forall₂ R l l') (n : ℕ) :
    List.Forall₂ (fun x x' => R x.1 x'.1 ∧ x'.2 = x.2) (l.zipIdx n) (l'.zipIdx n) := by
  induction h generalizing n with
  | nil => exact .nil
  | cons hx _ ih => exact .cons ⟨hx, rfl⟩ (ih (n + 1))

theorem exists_left_of_forall₂ (h : List.Forall₂ R l l') {y : β} (hy : y ∈ l') : ∃ x ∈ l, R x y := by
  induction h with
  | nil => cases hy
  | cons hx _ ih =>
    rcases List.mem_cons.mp hy with rfl | hy
    · exact ⟨_, List.mem_cons_self, hx⟩
    · obtain ⟨x, hmem, hxy⟩ := ih hy
      exact ⟨x, List.mem_cons_of_mem _ hmem, hxy⟩

theorem exists_right_of_forall₂ (h : List.Forall₂ R l l') {x : α} (hx : x ∈ l) : ∃ y ∈ l', R x y :=
  exists_left_of_forall₂ h.flip hx

/-- What stands at one place of two lists that correspond. -/
theorem getElem?_forall₂ (h : List.Forall₂ R l l') (i : ℕ) :
    (l[i]? = none ∧ l'[i]? = none) ∨ ∃ x y, l[i]? = some x ∧ l'[i]? = some y ∧ R x y := by
  induction h generalizing i with
  | nil => exact .inl ⟨rfl, rfl⟩
  | @cons x y l l' hxy _ ih =>
    cases i with
    | zero => exact .inr ⟨x, y, rfl, rfl, hxy⟩
    | succ i => simpa using ih i

theorem map_eq_of_forall₂ {f : α → γ} {f' : β → γ} (h : List.Forall₂ R l l')
    (hR : ∀ x x', R x x' → f' x' = f x) : l'.map f' = l.map f := by
  induction h with
  | nil => rfl
  | cons hx _ ih => rw [List.map_cons, List.map_cons, hR _ _ hx, ih]

theorem filterMap_eq_of_forall₂ {f : α → Option γ} {f' : β → Option γ} (h : List.Forall₂ R l l')
    (hR : ∀ x x', R x x' → f' x' = f x) : l'.filterMap f' = l.filterMap f :=
  calc l'.filterMap f' = (l'.map f').filterMap id := by rw [List.filterMap_map]; rfl
    _ = (l.map f).filterMap id := by rw [map_eq_of_forall₂ h hR]
    _ = l.filterMap f := by rw [List.filterMap_map]; rfl

/-- One item of two lists apart. -/
theorem forall₂_varied {R : α → α → Prop} (hrefl : ∀ x, R x x) {pre post : List α} {x x' : α}
    (h : R x x') : List.Forall₂ R (pre ++ x :: post) (pre ++ x' :: post) :=
  List.rel_append (List.forall₂_same.mpr fun y _ => hrefl y)
    (.cons h (List.forall₂_same.mpr fun y _ => hrefl y))

/-- Lists that correspond are the two sides of one list of pairs. -/
theorem exists_pairs (h : List.Forall₂ R l l') :
    ∃ z : List (α × β), l = z.map Prod.fst ∧ l' = z.map Prod.snd ∧ ∀ p ∈ z, R p.1 p.2 := by
  induction h with
  | nil => exact ⟨[], rfl, rfl, by simp⟩
  | @cons x x' _ _ hx _ ih =>
    obtain ⟨z, rfl, rfl, hz⟩ := ih
    refine ⟨(x, x') :: z, rfl, rfl, fun p hp => ?_⟩
    rcases List.mem_cons.mp hp with rfl | hp
    · exact hx
    · exact hz p hp

/-- Lists that are sorted by corresponding keys correspond. -/
theorem forall₂_insertionSort {r : α → α → Prop} [DecidableRel r] {r' : β → β → Prop}
    [DecidableRel r'] (h : List.Forall₂ R l l')
    (hkey : ∀ {x y x' y'}, R x x' → R y y' → (r x y ↔ r' x' y')) :
    List.Forall₂ R (l.insertionSort r) (l'.insertionSort r') := by
  obtain ⟨z, rfl, rfl, hz⟩ := exists_pairs h
  have hfst := List.map_insertionSort (r := fun p q : α × β => r p.1 q.1) (s := r) Prod.fst z
    fun p _ q _ => Iff.rfl
  have hsnd := List.map_insertionSort (r := fun p q : α × β => r p.1 q.1) (s := r') Prod.snd z
    fun p hp q hq => hkey (hz p hp) (hz q hq)
  rw [← hfst, ← hsnd, List.forall₂_map_left_iff, List.forall₂_map_right_iff, List.forall₂_same]
  intro p hp
  exact hz p ((List.mem_insertionSort _).mp hp)

/-! ## Words

A list that lacks the separator lies in what the separator joins only if it lies in one of the parts. -/

theorem prefix_append_sep {w l r : List α} {c : α} (hc : c ∉ w) :
    w <+: l ++ c :: r ↔ w <+: l := by
  refine ⟨fun h => ?_, fun h => h.trans (List.prefix_append l _)⟩
  induction l generalizing w with
  | nil =>
    cases w with
    | nil => exact List.nil_prefix
    | cons a w =>
      rw [List.nil_append, List.cons_prefix_cons] at h
      exact absurd (h.1 ▸ List.mem_cons_self) hc
  | cons b l ih =>
    cases w with
    | nil => exact List.nil_prefix
    | cons a w =>
      rw [List.cons_append, List.cons_prefix_cons] at h
      rw [List.cons_prefix_cons]
      exact ⟨h.1, ih (fun hmem => hc (List.mem_cons_of_mem _ hmem)) h.2⟩

theorem infix_append_sep {w l r : List α} {c : α} (hc : c ∉ w) :
    w <:+: l ++ c :: r ↔ w <:+: l ∨ w <:+: r := by
  induction l with
  | nil =>
    have hnil : w <+: c :: r ↔ w <+: [] := prefix_append_sep (l := []) hc
    rw [List.nil_append, List.infix_cons_iff, hnil, List.prefix_nil, List.infix_nil]
  | cons b l ih =>
    have hcons : w <+: b :: (l ++ c :: r) ↔ w <+: b :: l := prefix_append_sep (l := b :: l) hc
    rw [List.cons_append, List.infix_cons_iff, List.infix_cons_iff, hcons, ih, or_assoc]

theorem infix_intercalate {w : List α} {c : α} (hc : c ∉ w) (hne : w ≠ []) (parts : List (List α)) :
    w <:+: [c].intercalate parts ↔ ∃ l ∈ parts, w <:+: l := by
  induction parts with
  | nil => simp [hne]
  | cons l parts ih =>
    cases parts with
    | nil => simp
    | cons l' parts =>
      rw [List.intercalate_cons_cons, List.append_assoc, List.singleton_append, infix_append_sep hc, ih]
      simp

/-! ## Order -/

theorem append_lt_append_iff [LinearOrder α] (l : List α) {m n : List α} :
    l ++ m < l ++ n ↔ m < n := by
  induction l with
  | nil => rfl
  | cons a l ih =>
    rw [List.cons_append, List.cons_append, List.cons_lt_cons_iff, ih]
    simp

theorem exists_greatest_from [LinearOrder α] {f : Option α → α → Option α}
    (hsome : ∀ m v, f (some m) v = some (if m < v then v else m)) (l : List α) (m : α) :
    ∃ a ∈ m :: l, l.foldl f (some m) = some a ∧ ∀ c ∈ m :: l, c ≤ a := by
  induction l generalizing m with
  | nil => exact ⟨m, List.mem_cons_self, rfl, by simp⟩
  | cons v l ih =>
    obtain ⟨a, ha, hfold, hmax⟩ := ih (if m < v then v else m)
    have hle : ∀ c ∈ m :: v :: l, c ≤ a := by
      intro c hc
      have hhead : (if m < v then v else m) ≤ a := hmax _ List.mem_cons_self
      rcases List.mem_cons.mp hc with rfl | hc
      · refine le_trans ?_ hhead
        split_ifs with h
        exacts [h.le, le_rfl]
      · rcases List.mem_cons.mp hc with rfl | hc
        · refine le_trans ?_ hhead
          split_ifs with h
          exacts [le_rfl, not_lt.mp h]
        · exact hmax c (List.mem_cons_of_mem _ hc)
    refine ⟨a, ?_, by rw [List.foldl_cons, hsome, hfold], hle⟩
    rcases List.mem_cons.mp ha with rfl | ha
    · split_ifs
      exacts [List.mem_cons_of_mem _ List.mem_cons_self, List.mem_cons_self]
    · exact List.mem_cons_of_mem _ (List.mem_cons_of_mem _ ha)

/-- A fold that keeps the greater of two members finds the greatest one. -/
theorem exists_greatest [LinearOrder α] {f : Option α → α → Option α}
    (hnone : ∀ v, f none v = some v)
    (hsome : ∀ m v, f (some m) v = some (if m < v then v else m)) {l : List α} (hne : l ≠ []) :
    ∃ a ∈ l, l.foldl f none = some a ∧ ∀ c ∈ l, c ≤ a := by
  cases l with
  | nil => exact absurd rfl hne
  | cons m l =>
    rw [List.foldl_cons, hnone]
    exact exists_greatest_from hsome l m

end Lists

/-! ## Trails -/

section Trails

variable {R S : Type*}

/-- The entries lead from `s` to `s'`. -/
def Trail (old new : R → S) : S → List R → S → Prop
  | s, [], s' => s = s'
  | s, r :: rest, s' => old r = s ∧ Trail old new (new r) rest s'

namespace Trail

variable {old new : R → S} {s s' : S}

theorem append_iff {rs rs' : List R} :
    Trail old new s (rs ++ rs') s' ↔ ∃ t, Trail old new s rs t ∧ Trail old new t rs' s' := by
  induction rs generalizing s with
  | nil =>
    constructor
    · exact fun h => ⟨s, rfl, h⟩
    · rintro ⟨t, rfl, h⟩
      exact h
  | cons r rest ih =>
    constructor
    · rintro ⟨hold, h⟩
      obtain ⟨t, ht, h'⟩ := ih.mp h
      exact ⟨t, ⟨hold, ht⟩, h'⟩
    · rintro ⟨t, ⟨hold, ht⟩, h'⟩
      exact ⟨hold, ih.mpr ⟨t, ht, h'⟩⟩

end Trail

end Trails
