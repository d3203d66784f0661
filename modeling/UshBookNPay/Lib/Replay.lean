import Mathlib.Order.ConditionallyCompletePartialOrder.Defs
import Mathlib.Data.List.Basic

/-!
# Replaying idempotent operations

Operations that are repeated, but never before an older one, come to what each of them applied once comes
to.
-/

namespace Replay

variable {α β : Type*}

/-- The least element of a list comes first in a sorted one. -/
theorem eq_of_head_mem [LinearOrder α] {a b : α} {as bs : List α} (ha : (a :: as).Pairwise (· ≤ ·))
    (hb : (b :: bs).Pairwise (· < ·)) (hmem : ∀ c, c ∈ a :: as ↔ c ∈ b :: bs) : a = b := by
  have hle : a ≤ b := by
    rcases List.mem_cons.mp ((hmem b).mpr List.mem_cons_self) with rfl | h
    · exact le_refl _
    · exact List.rel_of_pairwise_cons ha h
  have hge : b ≤ a := by
    rcases List.mem_cons.mp ((hmem a).mp List.mem_cons_self) with rfl | h
    · exact le_refl _
    · exact le_of_lt (List.rel_of_pairwise_cons hb h)
  exact le_antisymm hle hge

/-- A sorted log of idempotent operations, and the list of those that occur in it. -/
theorem foldl_eq_of_sorted [LinearOrder α] {f : β → α → β} (idem : ∀ x a, f (f x a) a = f x a)
    {log ops : List α} (hlog : log.Pairwise (· ≤ ·)) (hops : ops.Pairwise (· < ·))
    (hmem : ∀ a, a ∈ log ↔ a ∈ ops) (x : β) : log.foldl f x = ops.foldl f x := by
  induction log generalizing ops x with
  | nil =>
    have hnil : ops = [] := List.eq_nil_iff_forall_not_mem.mpr fun a ha => by
      simpa using (hmem a).mpr ha
    rw [hnil]
  | cons a log ih =>
    cases ops with
    | nil => simpa using hmem a
    | cons b ops =>
      obtain rfl := eq_of_head_mem hlog hops hmem
      have hlog' := List.Pairwise.of_cons hlog
      by_cases ha : a ∈ log
      · -- the operation is repeated
        have hmem' : ∀ c, c ∈ log ↔ c ∈ a :: ops := by
          intro c
          rw [← hmem c, List.mem_cons]
          exact ⟨.inr, fun h => h.elim (fun heq => heq ▸ ha) id⟩
        rw [List.foldl_cons, ih hlog' hops hmem', List.foldl_cons, idem, List.foldl_cons]
      · have hmem' : ∀ c, c ∈ log ↔ c ∈ ops := by
          intro c
          have h := hmem c
          rw [List.mem_cons, List.mem_cons] at h
          have hnot : a ∉ ops := fun h' =>
            absurd (List.rel_of_pairwise_cons hops h') (lt_irrefl a)
          by_cases hc : c = a
          · subst hc
            exact iff_of_false ha hnot
          · simpa [hc] using h
        rw [List.foldl_cons, List.foldl_cons]
        exact ih hlog' (List.Pairwise.of_cons hops) hmem' _

end Replay
