import Mathlib.Data.Prod.Lex
import Mathlib.Order.MinMax
import Mathlib.Order.Interval.Set.Basic
import Mathlib.Data.List.Basic

/-!
# Lists of half-open intervals

Intervals `[start, stop)` over a linear order, the set of points a list of them covers, and lists in
merged form: sorted, without empty intervals, and disjoint.
-/

/-- The half-open interval `[start, stop)`. -/
structure HalfOpen (α : Type*) where
  start : α
  stop : α
  deriving DecidableEq, Repr

namespace Intervals

variable {α : Type*} [LinearOrder α]

/-- The points of an interval. -/
def points (iv : HalfOpen α) : Set α := Set.Ico iv.start iv.stop

/-- The points of the intervals of a list. -/
def covered (ivs : List (HalfOpen α)) : Set α := {x | ∃ iv ∈ ivs, x ∈ points iv}

/-- Sorted, without empty intervals, and disjoint. -/
structure Merged (ivs : List (HalfOpen α)) : Prop where
  nonempty : ∀ iv ∈ ivs, iv.start < iv.stop
  ordered : ivs.Pairwise fun a b => a.stop ≤ b.start

/-- In merged form, and no two intervals touch. -/
structure Separated (ivs : List (HalfOpen α)) : Prop where
  nonempty : ∀ iv ∈ ivs, iv.start < iv.stop
  ordered : ivs.Pairwise fun a b => a.stop < b.start

theorem Separated.merged {ivs : List (HalfOpen α)} (h : Separated ivs) : Merged ivs :=
  ⟨h.nonempty, h.ordered.imp le_of_lt⟩

theorem mem_points {iv : HalfOpen α} {x : α} : x ∈ points iv ↔ iv.start ≤ x ∧ x < iv.stop := Iff.rfl

theorem mem_covered {ivs : List (HalfOpen α)} {x : α} :
    x ∈ covered ivs ↔ ∃ iv ∈ ivs, iv.start ≤ x ∧ x < iv.stop := Iff.rfl

@[simp] theorem covered_nil : covered ([] : List (HalfOpen α)) = ∅ := by
  ext x
  simp [covered]

theorem covered_cons (iv : HalfOpen α) (ivs : List (HalfOpen α)) :
    covered (iv :: ivs) = points iv ∪ covered ivs := by
  ext x
  simp [covered]

theorem covered_append (ivs ivs' : List (HalfOpen α)) :
    covered (ivs ++ ivs') = covered ivs ∪ covered ivs' := by
  ext x
  constructor
  · rintro ⟨iv, hiv, hx⟩
    exact (List.mem_append.mp hiv).imp (fun h => ⟨iv, h, hx⟩) fun h => ⟨iv, h, hx⟩
  · rintro (⟨iv, hiv, hx⟩ | ⟨iv, hiv, hx⟩)
    · exact ⟨iv, List.mem_append_left _ hiv, hx⟩
    · exact ⟨iv, List.mem_append_right _ hiv, hx⟩

theorem covered_perm {ivs ivs' : List (HalfOpen α)} (h : ivs.Perm ivs') :
    covered ivs = covered ivs' := by
  ext x
  simp only [mem_covered, h.mem_iff]

/-- An interval that lies in intervals that do not touch lies in one of them. -/
theorem Separated.exists_of_subset {ivs : List (HalfOpen α)} (h : Separated ivs) {x y : α}
    (hxy : x < y) (hsub : Set.Ico x y ⊆ covered ivs) :
    ∃ iv ∈ ivs, iv.start ≤ x ∧ y ≤ iv.stop := by
  obtain ⟨iv, hiv, hstart, hstop⟩ := hsub (Set.left_mem_Ico.mpr hxy)
  refine ⟨iv, hiv, hstart, ?_⟩
  -- its end would be a point of the interval that nothing covers
  by_contra hlt
  rw [not_le] at hlt
  obtain ⟨iv', hiv', hstart', hstop'⟩ := hsub ⟨hstop.le, hlt⟩
  have hne : iv ≠ iv' := by
    rintro rfl
    exact lt_irrefl _ hstop'
  rcases List.pairwise_iff_getElem.mp h.ordered with hord
  obtain ⟨i, hi, rfl⟩ := List.getElem_of_mem hiv
  obtain ⟨j, hj, rfl⟩ := List.getElem_of_mem hiv'
  rcases lt_trichotomy i j with hij | hij | hij
  · exact absurd (hord i j hi hj hij) (not_lt.mpr hstart')
  · subst hij
    exact hne rfl
  · have hback := hord j i hj hi hij
    have hown := h.nonempty _ hiv
    exact absurd (hstop'.trans hback) (not_lt.mpr hown.le)

theorem Merged.tail {b : HalfOpen α} {bs : List (HalfOpen α)} (h : Merged (b :: bs)) : Merged bs :=
  ⟨fun iv hiv => h.nonempty iv (List.mem_cons_of_mem _ hiv), List.Pairwise.of_cons h.ordered⟩

/-- Later intervals begin where the first one has ended. -/
theorem Merged.stop_le {b : HalfOpen α} {bs : List (HalfOpen α)} (h : Merged (b :: bs)) {x : α}
    (hx : x ∈ covered bs) : b.stop ≤ x := by
  obtain ⟨iv, hiv, hstart, -⟩ := hx
  exact (List.rel_of_pairwise_cons h.ordered hiv).trans hstart

theorem Merged.start_le {b : HalfOpen α} {bs : List (HalfOpen α)} (h : Merged (b :: bs)) {x : α}
    (hx : x ∈ covered (b :: bs)) : b.start ≤ x := by
  rw [covered_cons] at hx
  rcases hx with hx | hx
  · exact hx.1
  · exact (h.nonempty b List.mem_cons_self).le.trans (h.stop_le hx)

/-- Lists of intervals that do not touch are determined by the points they cover. -/
theorem Separated.ext {ivs ivs' : List (HalfOpen α)} (h : Separated ivs) (h' : Separated ivs')
    (hcov : covered ivs = covered ivs') : ivs = ivs' := by
  -- a first interval begins the list, and lies in the first interval of the other one
  have hfirst : ∀ {x y : HalfOpen α} {xs ys : List (HalfOpen α)}, Separated (x :: xs) →
      Separated (y :: ys) → covered (x :: xs) = covered (y :: ys) →
      y.start ≤ x.start ∧ (y.start = x.start → x.stop ≤ y.stop) := by
    intro x y xs ys hx hy heq
    have hne := hx.nonempty x List.mem_cons_self
    have hsub : Set.Ico x.start x.stop ⊆ covered (y :: ys) := by
      rw [← heq, covered_cons]
      exact Set.subset_union_left
    refine ⟨hy.merged.start_le (hsub (Set.left_mem_Ico.mpr hne)), fun hstart => ?_⟩
    obtain ⟨iv, hiv, hle, hstop⟩ := hy.exists_of_subset hne hsub
    rcases List.mem_cons.mp hiv with rfl | hiv
    · exact hstop
    · have hlt := (hy.nonempty y List.mem_cons_self).trans (List.rel_of_pairwise_cons hy.ordered hiv)
      exact absurd (hstart ▸ hle) (not_le.mpr hlt)
  induction ivs generalizing ivs' with
  | nil =>
    cases ivs' with
    | nil => rfl
    | cons y ys =>
      have hy : y.start ∈ covered (y :: ys) :=
        ⟨y, List.mem_cons_self, le_refl _, h'.nonempty y List.mem_cons_self⟩
      rw [← hcov, covered_nil] at hy
      exact absurd hy (Set.notMem_empty _)
  | cons x xs ih =>
    cases ivs' with
    | nil =>
      have hx : x.start ∈ covered (x :: xs) :=
        ⟨x, List.mem_cons_self, le_refl _, h.nonempty x List.mem_cons_self⟩
      rw [hcov, covered_nil] at hx
      exact absurd hx (Set.notMem_empty _)
    | cons y ys =>
      obtain ⟨hyx, hstop⟩ := hfirst h h' hcov
      obtain ⟨hxy, hstop'⟩ := hfirst h' h hcov.symm
      have hstart : y.start = x.start := le_antisymm hyx hxy
      have hends : x.stop = y.stop := le_antisymm (hstop hstart) (hstop' hstart.symm)
      have hhead : x = y := by
        cases x
        cases y
        simp_all
      subst hhead
      have hrest : covered xs = covered ys := by
        ext z
        have hz := Set.ext_iff.mp hcov z
        rw [covered_cons, covered_cons] at hz
        constructor
        · intro hmem
          refine (hz.mp (.inr hmem)).resolve_left fun hp => ?_
          exact absurd hp.2 (not_lt.mpr (h.merged.stop_le hmem))
        · intro hmem
          refine (hz.mpr (.inr hmem)).resolve_left fun hp => ?_
          exact absurd hp.2 (not_lt.mpr (h'.merged.stop_le hmem))
      have htail : ∀ {zs : List (HalfOpen α)}, Separated (x :: zs) → Separated zs := fun hs =>
        ⟨fun iv hiv => hs.nonempty iv (List.mem_cons_of_mem _ hiv), List.Pairwise.of_cons hs.ordered⟩
      rw [ih (htail h) (htail h') hrest]

/-- Of two intervals that are not empty, the one that begins first has no point of the other exactly if it
ends before the other begins. -/
theorem stop_le_start_iff {a b : HalfOpen α} (hb : b.start < b.stop) (hle : a.start ≤ b.start) :
    a.stop ≤ b.start ↔ ∀ t ∈ points a, t ∉ points b := by
  constructor
  · intro h t ha hb'
    exact absurd ha.2 (not_lt.mpr (h.trans hb'.1))
  · intro h
    by_contra hlt
    exact h b.start ⟨hle, not_le.mp hlt⟩ ⟨le_refl _, hb⟩

theorem separated_nil : Separated ([] : List (HalfOpen α)) := ⟨by simp, List.Pairwise.nil⟩

/-! ## Intervals with their end

An interval without points may still count. With the end of each interval moved just behind its stop it
has a point. -/

def closed (iv : HalfOpen α) : HalfOpen (α ×ₗ Bool) :=
  ⟨toLex (iv.start, false), toLex (iv.stop, true)⟩

omit [LinearOrder α] in
theorem closed_injective : Function.Injective (closed (α := α)) := by
  intro a b h
  cases a
  cases b
  simpa [closed] using h

theorem closed_lt {iv : HalfOpen α} (h : iv.start ≤ iv.stop) : (closed iv).start < (closed iv).stop := by
  show toLex (iv.start, false) < toLex (iv.stop, true)
  rw [Prod.Lex.toLex_lt_toLex]
  rcases h.lt_or_eq with hlt | heq
  · exact .inl hlt
  · exact .inr ⟨heq, Bool.false_lt_true⟩

theorem closed_start_le (a b : HalfOpen α) :
    (closed a).start ≤ (closed b).start ↔ a.start ≤ b.start := by
  show toLex (a.start, false) ≤ toLex (b.start, false) ↔ _
  rw [Prod.Lex.toLex_le_toLex]
  constructor
  · rintro (hlt | ⟨heq, -⟩)
    · exact hlt.le
    · exact heq.le
  · intro hle
    exact hle.lt_or_eq.imp id fun heq => ⟨heq, le_refl _⟩

theorem closed_start_le_stop (a b : HalfOpen α) :
    (closed a).start ≤ (closed b).stop ↔ a.start ≤ b.stop := by
  show toLex (a.start, false) ≤ toLex (b.stop, true) ↔ _
  rw [Prod.Lex.toLex_le_toLex]
  constructor
  · rintro (hlt | ⟨heq, -⟩)
    · exact hlt.le
    · exact heq.le
  · intro hle
    exact hle.lt_or_eq.imp id fun heq => ⟨heq, Bool.false_le true⟩

theorem closed_extend (a b : HalfOpen α) :
    closed ⟨a.start, max a.stop b.stop⟩ = ⟨(closed a).start, max (closed a).stop (closed b).stop⟩ := by
  have hmono : Monotone fun x : α => toLex (x, true) := by
    intro x y hxy
    rw [Prod.Lex.toLex_le_toLex]
    exact hxy.lt_or_eq.imp id fun heq => ⟨heq, le_refl _⟩
  have hmax : toLex (max a.stop b.stop, true) = max (toLex (a.stop, true)) (toLex (b.stop, true)) :=
    hmono.map_max
  simp only [closed, hmax]

end Intervals
