import Mathlib.Tactic.Cases

/-!
# Inverting fallible computations

What a computation in `Except` has done when it returned.
-/

namespace Fallible

universe u v

variable {ε : Type u} {α β : Type v}

theorem bind_eq_ok {x : Except ε α} {f : α → Except ε β} {b : β} :
    x >>= f = .ok b ↔ ∃ a, x = .ok a ∧ f a = .ok b := by
  cases x with
  | error e =>
    constructor
    · intro h
      cases h
    · rintro ⟨a, h, -⟩
      cases h
  | ok a =>
    constructor
    · intro h
      exact ⟨a, rfl, h⟩
    · rintro ⟨a, ⟨rfl⟩, h⟩
      exact h

theorem map_eq_ok {x : Except ε α} {f : α → β} {b : β} :
    f <$> x = .ok b ↔ ∃ a, x = .ok a ∧ f a = b := by
  cases x with
  | error e =>
    constructor
    · intro h
      cases h
    · rintro ⟨a, h, -⟩
      cases h
  | ok a =>
    constructor
    · rintro ⟨rfl⟩
      exact ⟨a, rfl, rfl⟩
    · rintro ⟨a, ⟨rfl⟩, rfl⟩
      rfl

theorem pure_eq_ok {a b : α} : (pure a : Except ε α) = .ok b ↔ a = b := by
  constructor
  · rintro ⟨rfl⟩
    rfl
  · rintro rfl
    rfl

theorem not_throw_eq_ok {e : ε} {a : α} : ¬ (throw e : Except ε α) = .ok a := by
  rintro ⟨⟩

/-- Where the function is defined on the whole list, so is its `mapM`. -/
theorem mapM_eq_ok_map {f : α → Except ε β} {g : α → β} {l : List α}
    (h : ∀ a ∈ l, f a = .ok (g a)) : l.mapM f = .ok (l.map g) := by
  induction l with
  | nil => rfl
  | cons a l ih =>
    rw [List.mapM_cons, h a List.mem_cons_self, ih fun x hx => h x (List.mem_cons_of_mem _ hx)]
    rfl

/-- Every result of a mapped computation is the result of one of its arguments. -/
theorem mem_of_mapM_eq_ok {f : α → Except ε β} {l : List α} {r : List β} (h : l.mapM f = .ok r)
    {y : β} (hy : y ∈ r) : ∃ x ∈ l, f x = .ok y := by
  induction l generalizing r with
  | nil =>
    rw [List.mapM_nil] at h
    cases h
    cases hy
  | cons x l ih =>
    rw [List.mapM_cons] at h
    obtain ⟨first, hfirst, h⟩ := bind_eq_ok.mp h
    obtain ⟨rest, hrest, h⟩ := bind_eq_ok.mp h
    rw [← pure_eq_ok.mp h] at hy
    rcases List.mem_cons.mp hy with rfl | hy
    · exact ⟨x, List.mem_cons_self, hfirst⟩
    · obtain ⟨x', hx', hfx⟩ := ih hrest hy
      exact ⟨x', List.mem_cons_of_mem _ hx', hfx⟩

/-- Every argument of a mapped computation has given one of its results. -/
theorem exists_of_mapM_eq_ok {f : α → Except ε β} {l : List α} {r : List β} (h : l.mapM f = .ok r)
    {x : α} (hx : x ∈ l) : ∃ y ∈ r, f x = .ok y := by
  induction l generalizing r with
  | nil => cases hx
  | cons x' l ih =>
    rw [List.mapM_cons] at h
    obtain ⟨first, hfirst, h⟩ := bind_eq_ok.mp h
    obtain ⟨rest, hrest, h⟩ := bind_eq_ok.mp h
    rw [← pure_eq_ok.mp h]
    rcases List.mem_cons.mp hx with rfl | hx
    · exact ⟨first, List.mem_cons_self, hfirst⟩
    · obtain ⟨y, hy, hfx⟩ := ih hrest hx
      exact ⟨y, List.mem_cons_of_mem _ hy, hfx⟩

/-- A mapped computation gives each argument its result. -/
theorem forall₂_of_mapM_eq_ok {f : α → Except ε β} {l : List α} {r : List β} (h : l.mapM f = .ok r) :
    List.Forall₂ (fun x y => f x = .ok y) l r := by
  induction l generalizing r with
  | nil =>
    rw [List.mapM_nil] at h
    cases h
    exact .nil
  | cons x l ih =>
    rw [List.mapM_cons] at h
    obtain ⟨first, hfirst, h⟩ := bind_eq_ok.mp h
    obtain ⟨rest, hrest, h⟩ := bind_eq_ok.mp h
    rw [← pure_eq_ok.mp h]
    exact .cons hfirst (ih hrest)

/-- Where each computation of the second list returns something related to what the one of the first
returns, so do the mapped computations. -/
theorem mapM_related {α' β' : Type v} {R : β → β' → Prop} {f : α → Except ε β}
    {g : α' → Except ε β'} {l : List α} {m : List α'}
    (h : List.Forall₂ (fun x x' => ∀ y, f x = .ok y → ∃ y', g x' = .ok y' ∧ R y y') l m)
    {ys : List β} (hys : l.mapM f = .ok ys) :
    ∃ ys', m.mapM g = .ok ys' ∧ List.Forall₂ R ys ys' := by
  induction h generalizing ys with
  | nil =>
    rw [List.mapM_nil] at hys
    cases hys
    exact ⟨[], rfl, .nil⟩
  | cons hx _ ih =>
    rw [List.mapM_cons] at hys
    obtain ⟨y, hy, hys⟩ := bind_eq_ok.mp hys
    obtain ⟨rest, hrest, hys⟩ := bind_eq_ok.mp hys
    obtain rfl := pure_eq_ok.mp hys
    obtain ⟨y', hy', hR⟩ := hx y hy
    obtain ⟨rest', hrest', hRs⟩ := ih hrest
    refine ⟨y' :: rest', ?_, .cons hR hRs⟩
    rw [List.mapM_cons, hy', hrest']
    rfl

/-- Mapping one computation and then another over what the first returns. -/
theorem mapM_zip {γ : Type v} {f : α → Except ε β} {g : α → β → Nat → Except ε γ} {l : List α} {n : Nat}
    {out : List γ} :
    (∃ mid, l.mapM f = .ok mid ∧
      ((l.zip mid).zipIdx n).mapM (fun x => g x.1.1 x.1.2 x.2) = .ok out) ↔
      (l.zipIdx n).mapM (fun x => f x.1 >>= fun y => g x.1 y x.2) = .ok out := by
  induction l generalizing n out with
  | nil =>
    constructor
    · rintro ⟨mid, hmid, h⟩
      exact h
    · intro h
      exact ⟨[], rfl, h⟩
  | cons x l ih =>
    rw [List.zipIdx_cons, List.mapM_cons, List.mapM_cons]
    constructor
    · rintro ⟨mid, hmid, h⟩
      obtain ⟨y, hy, hmid⟩ := bind_eq_ok.mp hmid
      obtain ⟨ys, hys, hmid⟩ := bind_eq_ok.mp hmid
      obtain rfl := pure_eq_ok.mp hmid
      rw [List.zip_cons_cons, List.zipIdx_cons, List.mapM_cons] at h
      obtain ⟨z, hz, h⟩ := bind_eq_ok.mp h
      obtain ⟨zs, hzs, h⟩ := bind_eq_ok.mp h
      obtain rfl := pure_eq_ok.mp h
      rw [hy, ih.mp ⟨ys, hys, hzs⟩]
      exact bind_eq_ok.mpr ⟨z, hz, rfl⟩
    · intro h
      obtain ⟨z, hz, h⟩ := bind_eq_ok.mp h
      obtain ⟨zs, hzs, h⟩ := bind_eq_ok.mp h
      obtain rfl := pure_eq_ok.mp h
      obtain ⟨y, hy, hz⟩ := bind_eq_ok.mp hz
      obtain ⟨ys, hys, hzs⟩ := ih.mpr hzs
      refine ⟨y :: ys, ?_, ?_⟩
      · rw [hy, hys]
        rfl
      · rw [List.zip_cons_cons, List.zipIdx_cons, List.mapM_cons]
        exact bind_eq_ok.mpr ⟨z, hz, bind_eq_ok.mpr ⟨zs, hzs, rfl⟩⟩

/-- A mapped computation around one of its arguments. -/
theorem mapM_split {f : α → Except ε β} {pre post : List α} {x : α} {out : List β} :
    (pre ++ x :: post).mapM f = .ok out ↔ ∃ before y after, pre.mapM f = .ok before ∧
      f x = .ok y ∧ post.mapM f = .ok after ∧ out = before ++ y :: after := by
  rw [List.mapM_append, List.mapM_cons]
  constructor
  · intro h
    obtain ⟨before, hbefore, h⟩ := bind_eq_ok.mp h
    obtain ⟨rest, hrest, h⟩ := bind_eq_ok.mp h
    obtain ⟨y, hy, hrest⟩ := bind_eq_ok.mp hrest
    obtain ⟨after, hafter, hrest⟩ := bind_eq_ok.mp hrest
    obtain rfl := pure_eq_ok.mp hrest
    obtain rfl := pure_eq_ok.mp h
    exact ⟨before, y, after, hbefore, hy, hafter, rfl⟩
  · rintro ⟨before, y, after, hbefore, hy, hafter, rfl⟩
    rw [hbefore, hy, hafter]
    rfl

/-- What is to hold of the result is decided on the result. -/
scoped instance decidableForallOk (x : Except ε α) (P : α → Prop) [DecidablePred P] :
    Decidable (∀ a, x = .ok a → P a) :=
  match x with
  | .ok a => decidable_of_iff (P a) ⟨fun h _ ha => by cases ha; exact h, fun h => h a rfl⟩
  | .error _ => .isTrue fun _ h => by cases h

scoped instance decidableForallSome (x : Option α) (P : α → Prop) [DecidablePred P] :
    Decidable (∀ a, x = some a → P a) :=
  match x with
  | some a => decidable_of_iff (P a) ⟨fun h _ ha => by cases ha; exact h, fun h => h a rfl⟩
  | none => .isTrue fun _ h => by cases h

/-- So is what is to hold of the element of a list of one. -/
scoped instance decidableForallSingle (l : List α) (P : α → Prop) [DecidablePred P] :
    Decidable (∀ a, l = [a] → P a) :=
  match l with
  | [a] => decidable_of_iff (P a) ⟨fun h _ ha => by cases ha; exact h, fun h => h a rfl⟩
  | [] => .isTrue fun _ h => by cases h
  | _ :: _ :: _ => .isTrue fun _ h => by cases h

scoped instance decidableForallCons (l : List α) (P : α → List α → Prop) [∀ a r, Decidable (P a r)] :
    Decidable (∀ a r, l = a :: r → P a r) :=
  match l with
  | a :: r => decidable_of_iff (P a r)
      ⟨fun h _ _ ha => by cases ha; exact h, fun h => h a r rfl⟩
  | [] => .isTrue fun _ _ h => by cases h

/-! ## Validation -/

/-- The computation returns where `c` holds and fails with an error of `fails` elsewhere. -/
def Decides (fails : ε → Prop) (c : Prop) : Except ε α → Prop
  | .ok _ => c
  | .error e => fails e ∧ ¬ c

section Decides

variable {fails : ε → Prop} {b c : Prop}

theorem Decides.congr {x : Except ε α} (h : Decides fails b x) (hc : b ↔ c) :
    Decides fails c x := by
  cases x with
  | ok a => exact hc.mp h
  | error e => exact ⟨h.1, fun hc' => h.2 (hc.mpr hc')⟩

/-- Checks that follow one another all have to hold. -/
theorem Decides.bind {x : Except ε α} {f : α → Except ε β} (hx : Decides fails b x)
    (hf : ∀ a, x = .ok a → Decides fails c (f a)) : Decides fails (b ∧ c) (x >>= f) := by
  cases x with
  | ok a =>
    have hb : b ↔ True := iff_of_true hx trivial
    refine (hf a rfl).congr ?_
    rw [hb, true_and]
  | error e => exact ⟨hx.1, fun h => hx.2 h.1⟩

theorem Decides.map {x : Except ε α} (h : Decides fails b x) (f : α → β) :
    Decides fails b (f <$> x) := by
  cases x with
  | ok a => exact h
  | error e => exact h

end Decides

end Fallible
