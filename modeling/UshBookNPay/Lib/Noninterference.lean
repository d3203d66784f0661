import UshBookNPay.Lib.Runs
import UshBookNPay.Lib.Transactions

/-!
# Noninterference by unwinding

Some operations of a machine are to have no effect on an observer. The observer sees a view of the
state, and of the operations of the run what `sees` shows. Where a hidden operation leaves the view
alone and any other one carries equal views to equal views, a run and the same run without its hidden
operations cannot be told apart.
-/

namespace Noninterference

section Machine

open Runs (run AllSteps)

variable {S O V W : Type*} {exec : S → O → S} {view : S → V} {sees : S → O → Option W}
  {kept : O → Bool} {I : S → Prop} {Q : S → O → Prop}

/-- What the observer sees of the operations of a run. -/
def trace (exec : S → O → S) (sees : S → O → Option W) : S → List O → List W
  | _, [] => []
  | s, o :: os => (sees s o).toList ++ trace exec sees (exec s o) os

/-- The unwinding conditions, for states of the invariant `I` and steps that meet `Q` in the run with
all its operations. -/
structure Unwinds (exec : S → O → S) (view : S → V) (sees : S → O → Option W) (kept : O → Bool)
    (I : S → Prop) (Q : S → O → Prop) : Prop where
  inv : ∀ s o, I s → I (exec s o)
  hidden_view : ∀ s o, I s → Q s o → ¬ kept o → view (exec s o) = view s
  hidden_sees : ∀ s o, ¬ kept o → sees s o = none
  kept_view : ∀ s s' o, I s → I s' → Q s o → kept o → view s = view s' →
    view (exec s o) = view (exec s' o)
  kept_sees : ∀ s s' o, I s → I s' → Q s o → kept o → view s = view s' → sees s o = sees s' o

/-- The unwinding theorem. -/
theorem Unwinds.unaffected (h : Unwinds exec view sees kept I Q) {s s' : S} {os : List O} (hs : I s)
    (hs' : I s') (heq : view s = view s') (hQ : AllSteps exec Q s os) :
    view (run exec s os) = view (run exec s' (os.filter kept)) ∧
      trace exec sees s os = trace exec sees s' (os.filter kept) := by
  induction os generalizing s s' with
  | nil => exact ⟨heq, rfl⟩
  | cons o os ih =>
    by_cases hkept : kept o
    · rw [List.filter_cons_of_pos hkept]
      have hview := h.kept_view s s' o hs hs' hQ.1 hkept heq
      have hsees := h.kept_sees s s' o hs hs' hQ.1 hkept heq
      obtain ⟨hrun, htrace⟩ := ih (h.inv s o hs) (h.inv s' o hs') hview hQ.2
      refine ⟨hrun, ?_⟩
      show (sees s o).toList ++ _ = (sees s' o).toList ++ _
      rw [hsees, htrace]
    · rw [List.filter_cons_of_neg hkept]
      have hview : view (exec s o) = view s' := (h.hidden_view s o hs hQ.1 hkept).trans heq
      obtain ⟨hrun, htrace⟩ := ih (h.inv s o hs) hs' hview hQ.2
      refine ⟨hrun, ?_⟩
      show (sees s o).toList ++ _ = _
      rw [h.hidden_sees s o hkept, htrace]
      rfl

end Machine

/-! ## Programs that do the same -/

open Transactions (Prog exec)
open Transactions.Prog (query ask update checkedUpdate raiseIf)

section Programs

variable {D K E A ε α β : Type} {R : D → D → Prop}

/-- Run from two databases that `R` relates, the program executes the same statements. -/
def Respects (R : D → D → Prop) : Prog D K E A ε α → Prop
  | .ret _ => True
  | .raise _ => True
  | .stmt eff next => ∀ a d d', R d d' → next a d = next a d' ∧
      R ((eff a d).write d) ((eff a d').write d') ∧ Respects R (next a d)

theorem respects_pure (a : α) : Respects R (pure a : Prog D K E A ε α) := trivial

theorem respects_throw (e : ε) : Respects R (throw e : Prog D K E A ε α) := trivial

theorem Respects.bind {p : Prog D K E A ε α} {f : α → Prog D K E A ε β} (hp : Respects R p)
    (hf : ∀ a, Respects R (f a)) : Respects R (p >>= f) := by
  induction p with
  | ret a => exact hf a
  | raise e => trivial
  | stmt eff next ih =>
    intro a d d' h
    obtain ⟨hnext, hwrite, hrest⟩ := hp a d d' h
    refine ⟨?_, hwrite, ih a d hrest⟩
    show (next a d).bind f = (next a d').bind f
    rw [hnext]

theorem respects_query {q : D → α} (h : ∀ d d', R d d' → q d = q d') :
    Respects R (query q : Prog D K E A ε α) := by
  intro a d d' hR
  refine ⟨?_, hR, trivial⟩
  show Prog.ret (q d) = Prog.ret (q d')
  rw [h d d' hR]

theorem respects_ask (g : A → α) : Respects R (ask g : Prog D K E A ε α) :=
  fun _ _ _ hR => ⟨rfl, hR, trivial⟩

theorem respects_update (locks : List K) {w : D → D} (h : ∀ d d', R d d' → R (w d) (w d')) :
    Respects R (update locks w : Prog D K E A ε Unit) :=
  fun _ d d' hR => ⟨rfl, h d d' hR, trivial⟩

theorem respects_checkedUpdate {check : D → Option ε} (locks : List K) {w : D → D}
    (hcheck : ∀ d d', R d d' → check d = check d') (hw : ∀ d d', R d d' → R (w d) (w d')) :
    Respects R (checkedUpdate check locks w : Prog D K E A ε Unit) := by
  intro a d d' hR
  have heq := hcheck d d' hR
  dsimp only
  rw [← heq]
  refine ⟨rfl, ?_, ?_⟩
  · split_ifs
    · exact hR
    · exact hw d d' hR
  · cases check d with
    | none => trivial
    | some e => trivial

/-- The program comes to the same result. -/
theorem Respects.exec {p : Prog D K E A ε α} (hp : Respects R p) {d d' : D} (h : R d d')
    (env : ℕ → A) : (Transactions.exec env p d).1 = (Transactions.exec env p d').1 ∧
      R (Transactions.exec env p d).2.1 (Transactions.exec env p d').2.1 := by
  induction p generalizing d d' env with
  | ret a => exact ⟨rfl, h⟩
  | raise e => exact ⟨rfl, h⟩
  | stmt eff next ih =>
    obtain ⟨hnext, hwrite, hrest⟩ := hp (env 0) d d' h
    have hexec := ih (env 0) d hrest hwrite fun n => env (n + 1)
    unfold Transactions.exec
    dsimp only
    rw [← hnext]
    exact hexec

end Programs

end Noninterference
