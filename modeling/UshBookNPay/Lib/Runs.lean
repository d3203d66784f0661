import Mathlib.Data.List.Basic

/-!
# Runs of a deterministic machine

A machine is a total step function `exec : S → O → S`; a run applies a list of operations from the
left. `Always` says that a property holds in every state a run goes through, `AllSteps` that every
step of the run meets a condition on the state before it and the operation it takes.
-/

namespace Runs

variable {S O : Type*} {exec : S → O → S}

/-- The state after the operations `ops`. -/
def run (exec : S → O → S) (s : S) (ops : List O) : S := ops.foldl exec s

/-- `P` holds in every state of the run, its first and its last one included. -/
def Always (exec : S → O → S) (P : S → Prop) : S → List O → Prop
  | s, [] => P s
  | s, o :: os => P s ∧ Always exec P (exec s o) os

/-- Every step of the run meets `Q` in the state before it. -/
def AllSteps (exec : S → O → S) (Q : S → O → Prop) : S → List O → Prop
  | _, [] => True
  | s, o :: os => Q s o ∧ AllSteps exec Q (exec s o) os

instance (Q : S → O → Prop) [∀ s o, Decidable (Q s o)] : ∀ s os, Decidable (AllSteps exec Q s os)
  | _, [] => .isTrue trivial
  | s, o :: os =>
    have := instDecidableAllSteps Q (exec s o) os
    inferInstanceAs (Decidable (Q s o ∧ AllSteps exec Q (exec s o) os))

@[simp] theorem run_nil (s : S) : run exec s [] = s := rfl

@[simp] theorem run_cons (s : S) (o : O) (os : List O) :
    run exec s (o :: os) = run exec (exec s o) os := rfl

theorem run_append (s : S) (os os' : List O) :
    run exec s (os ++ os') = run exec (run exec s os) os' := by
  simp [run]

theorem Always.head {P : S → Prop} {s : S} {os : List O} (h : Always exec P s os) : P s := by
  cases os with
  | nil => exact h
  | cons o os => exact h.1

theorem Always.last {P : S → Prop} {s : S} {os : List O} (h : Always exec P s os) :
    P (run exec s os) := by
  induction os generalizing s with
  | nil => exact h
  | cons o os ih => exact ih h.2

theorem Always.mono {P P' : S → Prop} (hP : ∀ s, P s → P' s) {s : S} {os : List O}
    (h : Always exec P s os) : Always exec P' s os := by
  induction os generalizing s with
  | nil => exact hP s h
  | cons o os ih => exact ⟨hP s h.1, ih h.2⟩

theorem Always.and {P P' : S → Prop} {s : S} {os : List O} (h : Always exec P s os)
    (h' : Always exec P' s os) : Always exec (fun s => P s ∧ P' s) s os := by
  induction os generalizing s with
  | nil => exact ⟨h, h'⟩
  | cons o os ih => exact ⟨⟨h.1, h'.1⟩, ih h.2 h'.2⟩

/-- The invariant rule: a property kept by every step that meets `Q` holds all along a run whose
steps meet `Q`. -/
theorem always_of_allSteps {P : S → Prop} {Q : S → O → Prop}
    (step : ∀ s o, P s → Q s o → P (exec s o)) {s : S} {os : List O} (hs : P s)
    (h : AllSteps exec Q s os) : Always exec P s os := by
  induction os generalizing s with
  | nil => exact hs
  | cons o os ih => exact ⟨hs, ih (step s o hs h.1) h.2⟩

/-- The invariant rule without a condition on the steps. -/
theorem always_of_step {P : S → Prop} (step : ∀ s o, P s → P (exec s o)) {s : S} (hs : P s)
    (os : List O) : Always exec P s os := by
  induction os generalizing s with
  | nil => exact hs
  | cons o os ih => exact ⟨hs, ih (step s o hs)⟩

/-- The invariant rule for a property of the steps: `Q'` holds of every step of a run whose steps meet
`Q`, where a step that meets `Q` from the invariant `I` keeps `I` and meets `Q'`. -/
theorem allSteps_of_allSteps {I : S → Prop} {Q Q' : S → O → Prop}
    (step : ∀ s o, I s → Q s o → I (exec s o) ∧ Q' s o) {s : S} {os : List O} (hs : I s)
    (h : AllSteps exec Q s os) : AllSteps exec Q' s os := by
  induction os generalizing s with
  | nil => trivial
  | cons o os ih =>
    obtain ⟨hi, hq⟩ := step s o hs h.1
    exact ⟨hq, ih hi h.2⟩

/-- Where `Q` and `Q'` say the same of a step that meets `A` from the invariant `I`, they say the same
of a run whose steps meet `A`. -/
theorem allSteps_iff {I : S → Prop} {A Q Q' : S → O → Prop} (inv : ∀ s o, I s → I (exec s o))
    (step : ∀ s o, I s → A s o → (Q s o ↔ Q' s o)) {s : S} {os : List O} (hs : I s)
    (hA : AllSteps exec A s os) : AllSteps exec Q s os ↔ AllSteps exec Q' s os := by
  induction os generalizing s with
  | nil => exact Iff.rfl
  | cons o os ih => exact and_congr (step s o hs hA.1) (ih (inv s o hs) hA.2)

theorem AllSteps.and {Q Q' : S → O → Prop} {s : S} {os : List O} (h : AllSteps exec Q s os)
    (h' : AllSteps exec Q' s os) : AllSteps exec (fun s o => Q s o ∧ Q' s o) s os := by
  induction os generalizing s with
  | nil => trivial
  | cons o os ih => exact ⟨⟨h.1, h'.1⟩, ih h.2 h'.2⟩

/-- What holds of the operations holds of every step. -/
theorem allSteps_of_mem {P : O → Prop} {s : S} {os : List O} (h : ∀ o ∈ os, P o) :
    AllSteps exec (fun _ o => P o) s os := by
  induction os generalizing s with
  | nil => trivial
  | cons o os ih => exact ⟨h o List.mem_cons_self, ih fun o ho => h o (List.mem_cons_of_mem _ ho)⟩

theorem AllSteps.append_iff {Q : S → O → Prop} {s : S} {os os' : List O} :
    AllSteps exec Q s (os ++ os') ↔ AllSteps exec Q s os ∧ AllSteps exec Q (run exec s os) os' := by
  induction os generalizing s with
  | nil => exact ⟨fun h => ⟨trivial, h⟩, fun h => h.2⟩
  | cons o os ih =>
    constructor
    · rintro ⟨hq, h⟩
      exact ⟨⟨hq, (ih.mp h).1⟩, (ih.mp h).2⟩
    · rintro ⟨⟨hq, h⟩, h'⟩
      exact ⟨hq, ih.mpr ⟨h, h'⟩⟩

/-- The exactness rule: where, under an invariant `I`, a step keeps `P` exactly when it meets `Q`,
a run keeps `P` throughout exactly when all its steps meet `Q`. -/
theorem always_iff_allSteps {I P : S → Prop} {Q : S → O → Prop}
    (inv : ∀ s o, I s → I (exec s o))
    (step : ∀ s o, I s → P s → (P (exec s o) ↔ Q s o)) {s : S} {os : List O} (hI : I s)
    (hs : P s) : Always exec P s os ↔ AllSteps exec Q s os := by
  induction os generalizing s with
  | nil => exact ⟨fun _ => trivial, fun _ => hs⟩
  | cons o os ih =>
    constructor
    · rintro ⟨-, h⟩
      exact ⟨(step s o hI hs).mp h.head, (ih (inv s o hI) h.head).mp h⟩
    · rintro ⟨hq, h⟩
      have hs' : P (exec s o) := (step s o hI hs).mpr hq
      exact ⟨hs, (ih (inv s o hI) hs').mpr h⟩

/-- The exactness rule with an invariant that lasts as long as the steps meet `Q`: where a step from
the invariant `J` keeps `J` if it meets `Q` and breaks `P` if it does not, a run keeps `P` throughout
exactly when all its steps meet `Q`. -/
theorem always_iff_of_invariant {J P : S → Prop} {Q : S → O → Prop} (good : ∀ s, J s → P s)
    (keep : ∀ s o, J s → Q s o → J (exec s o)) (exact : ∀ s o, J s → P (exec s o) → Q s o)
    {s : S} {os : List O} (hJ : J s) : Always exec P s os ↔ AllSteps exec Q s os := by
  induction os generalizing s with
  | nil => exact ⟨fun _ => trivial, fun _ => good s hJ⟩
  | cons o os ih =>
    constructor
    · rintro ⟨-, h⟩
      have hq : Q s o := exact s o hJ h.head
      exact ⟨hq, (ih (keep s o hJ hq)).mp h⟩
    · rintro ⟨hq, h⟩
      exact ⟨good s hJ, (ih (keep s o hJ hq)).mpr h⟩

/-! ## Histories -/

/-- The machine that also records the operations it has taken. -/
def recorded (exec : S → O → S) (x : S × List O) (o : O) : S × List O := (exec x.1 o, x.2 ++ [o])

/-- Recording takes nothing from a condition on the steps. -/
theorem allSteps_recorded {Q : S → O → Prop} {s : S} {taken os : List O} :
    AllSteps (recorded exec) (fun x o => Q x.1 o) (s, taken) os ↔ AllSteps exec Q s os := by
  induction os generalizing s taken with
  | nil => exact Iff.rfl
  | cons o os ih => exact and_congr Iff.rfl ih

end Runs
