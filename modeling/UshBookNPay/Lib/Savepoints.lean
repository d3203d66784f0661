import UshBookNPay.Lib.RelyGuarantee

/-!
# Savepoints

A program that runs in a nested transaction: where it raises, what it has written is undone and the
transaction around it goes on.
-/

namespace Transactions

open Prog

variable {D K E A ε α P : Type}

/-- The program with its writes held back: `w` are the ones made so far. -/
def Prog.heldBack (w : D → D) : Prog D K E A ε α → Prog D K E A ε α
  | .ret a => .stmt (fun _ _ => { write := w }) fun _ _ => .ret a
  | .raise e => .raise e
  | .stmt eff next => .stmt (fun a d => { eff a (w d) with write := id })
      fun a d => heldBack ((eff a (w d)).write ∘ w) (next a (w d))

/-- `async with session.begin_nested()` -/
def Prog.savepoint (p : Prog D K E A ε α) : Prog D K E A ε α := p.heldBack id

/-! ## Rules -/

theorem Spares.heldBack {g : D → P} {p : Prog D K E A ε α} (h : Spares g p) {w : D → D}
    (hw : ∀ d, g (w d) = g d) : Spares g (p.heldBack w) := by
  induction p generalizing w with
  | ret a => exact fun _ _ => ⟨hw, trivial⟩
  | raise e => trivial
  | stmt eff next ih =>
    intro a d
    refine ⟨fun _ => rfl, ih a (w d) (h a (w d)).2 fun d' => ?_⟩
    exact ((h a (w d)).1 (w d')).trans (hw d')

theorem Spares.savepoint {g : D → P} {p : Prog D K E A ε α} (h : Spares g p) :
    Spares g p.savepoint :=
  h.heldBack fun _ => rfl

/-- What holds after a savepoint: of the program at its end, or of the database it began with. -/
def AfterSavepoint (Q : Except ε α → D → List E → Prop) (d : D) : Except ε α → D → List E → Prop
  | .ok a, d', es => Q (.ok a) d' es
  | .error e, d', es => d' = d ∧ ∃ d'', Q (.error e) d'' es

theorem Ensures.heldBack {Q : Except ε α → D → List E → Prop} {w : D → D} {d : D} {es : List E}
    {p : Prog D K E A ε α} (h : Ensures (fun _ => True) Q p (w d) es) :
    Ensures (fun _ => True) (AfterSavepoint Q d) (p.heldBack w) d es := by
  induction p generalizing w es with
  | ret a =>
    intro _
    have hnil : es ++ ([] : List E) = es := List.append_nil es
    exact ⟨trivial, by rw [hnil]; exact h⟩
  | raise e => exact ⟨rfl, w d, h⟩
  | stmt eff next ih => exact fun a => ⟨trivial, ih a (w d) (h a).2⟩

/-- The rule of a savepoint. -/
theorem Ensures.savepoint {Q : Except ε α → D → List E → Prop} {d : D} {es : List E}
    {p : Prog D K E A ε α} (h : Ensures (fun _ => True) Q p d es) :
    Ensures (fun _ => True) (AfterSavepoint Q d) p.savepoint d es :=
  Ensures.heldBack (w := id) h

end Transactions
