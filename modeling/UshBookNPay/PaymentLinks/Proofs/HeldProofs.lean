import UshBookNPay.PaymentLinks.Proofs.SettlementRunProofs

/-!
# The money held for a target

A settlement adds the amount of its link to the money held for the target exactly where the newest
payment of the target leaves room for it.
-/

open Transactions (Prog Ensures EnsuresUnder exec)
open Transactions

namespace PaymentLinks

/-! ## One payment -/

theorem CreatedFor.isOfTarget {link : PaymentLinkRow} {r : PaymentRow} (h : CreatedFor link r)
    (ht : link.targetType ≠ .product) : PaymentLinks.ofTarget link.targetType link.targetId r := by
  have hb := h.booking
  have hv := h.voucher
  cases htype : link.targetType with
  | product => exact absurd htype ht
  | booking =>
    rw [if_pos htype] at hb
    simp [PaymentLinks.ofTarget, hb]
  | giftVoucher =>
    rw [if_pos htype] at hv
    simp [PaymentLinks.ofTarget, hv]

theorem heldAmount_created {link : PaymentLinkRow} {r : PaymentRow} (h : CreatedFor link r)
    (ht : link.targetType ≠ .product) :
    heldAmount link.targetType link.targetId r = link.amount := by
  unfold heldAmount
  rw [if_pos ⟨h.isOfTarget ht, .inl h.status⟩, h.total, h.refunded, sub_zero]

/-- A payment a settlement has changed counts in full. -/
theorem heldAmount_changed {link : PaymentLinkRow} {r r' : PaymentRow}
    {targetType : PaymentLinkTarget} {targetId : Uuid} (h : ChangedTo link r r')
    (hof : ofTarget targetType targetId r) :
    heldAmount targetType targetId r' = r.totalAmount - r.amountRefunded := by
  have hof' : ofTarget targetType targetId r' := by
    rw [h.ofTarget]
    exact hof
  unfold heldAmount
  rw [if_pos ⟨hof', .inl h.status⟩, h.total, h.refunded]

theorem newest_mem {link : PaymentLinkRow} {d : Db} {p : PaymentRow}
    (h : (paymentsOf link.targetType link.targetId d).getLast? = some p) :
    p ∈ d.payments ∧ ofTarget link.targetType link.targetId p := by
  have hmem : p ∈ paymentsOf link.targetType link.targetId d := List.mem_of_getLast? h
  unfold paymentsOf at hmem
  rw [List.mem_filter] at hmem
  exact hmem

/-! ## A settlement -/

theorem PaymentsStep.held_iff {link : PaymentLinkRow} {d d' : Db} {q : PaymentRow}
    (h : PaymentsStep link d d'.payments q) (ht : link.targetType ≠ .product)
    (hu : Table.Unique d.payments) :
    held link.targetType link.targetId d' = held link.targetType link.targetId d + link.amount ↔
      FreshFor link d := by
  unfold held
  generalize d'.payments = ps at h
  rcases h with ⟨_, hnone, -, hcreated⟩ | ⟨p, f, hnew, hchanged⟩
  · rw [Table.total_append, Table.total_singleton, heldAmount_created hcreated ht]
    unfold FreshFor
    simp [hnone]
  · obtain ⟨hmem, hof⟩ := newest_mem hnew
    have hget : Table.get d.payments p.id = some p := Table.get_eq_of_mem hu hmem
    have hkey : ∀ r, Table.Keyed.key (f r) = Table.Keyed.key r := fun r => (hchanged r).id
    have hafter := Table.total_modify hu hget hkey (heldAmount link.targetType link.targetId)
    have hbefore := Table.total_eq_erase_add hu hget (heldAmount link.targetType link.targetId)
    rw [heldAmount_changed (hchanged p) hof] at hafter
    have hfresh : FreshFor link d ↔
        if holds p then link.amount = 0 else p.totalAmount - p.amountRefunded = link.amount := by
      unfold FreshFor
      simp [hnew]
    rw [hfresh, hafter, hbefore]
    unfold heldAmount
    by_cases hholds : holds p
    · rw [if_pos hholds, if_pos ⟨hof, hholds⟩]
      constructor
      · intro h
        linarith
      · intro h
        linarith
    · rw [if_neg hholds, if_neg fun h => hholds h.2]
      constructor
      · intro h
        linarith
      · intro h
        linarith

theorem SettledBy.held_iff {link : PaymentLinkRow} {state : GatewayPaymentState} {d d' : Db}
    {es es' : List Emission} (h : SettledBy link state d d' es es')
    (ht : link.targetType ≠ .product) (hu : Table.Unique d.payments) :
    held link.targetType link.targetId d' = held link.targetType link.targetId d + link.amount ↔
      FreshFor link d := by
  obtain ⟨q, hq⟩ := h.payments ht
  exact hq.held_iff ht hu

/-- A call that settles a link of a booking or a gift voucher adds its amount to the money held for
the target if and only if the newest payment of the target is fresh for the link. -/
theorem held_grows_iff (d : Db) (link : PaymentLinkRow) (state : GatewayPaymentState)
    (source : String) (env : ℕ → Env) (hu : Table.Unique d.payments)
    (hlink : Table.get d.paymentLinks link.id = some link) (ht : link.targetType ≠ .product)
    (hsettled : (exec env (applyTo link.id state source) d).1 = .ok (some .settled)) :
    held link.targetType link.targetId (exec env (applyTo link.id state source) d).2.1 =
        held link.targetType link.targetId d + link.amount ↔ FreshFor link d := by
  have hs := not_settled_of_exec hlink hsettled
  have happlied : Applied (fun _ => True) link state .settled d _ [] _ :=
    exec_applyTo (fun _ => trivial) hs hlink hsettled
  exact (happlied.settled rfl).held_iff ht hu

/-! ## A booking that is paid again -/

/-- The link of a second payment of booking 3. -/
def repayment : PaymentLinkRow :=
  { id := 5, targetType := .booking, targetId := 3, gateway := "myfatoorah",
    providerLabel := "MyFatoorah", gatewayInvoiceId := some "900", amount := 10000,
    status := .pending }

/-- The customer has got the 10.000 of booking 3 back and pays once more. -/
def repaid : Db where
  bookings := [
    { id := 3, customerId := 4, therapistId := 8, appointmentStart := 0, appointmentEnd := 60,
      totalAmount := 10000, status := .confirmed, paymentStatus := .refunded }]
  payments := [
    { id := 1, bookingId := some 3, totalAmount := 10000, amountRefunded := 10000,
      status := some .refunded }]
  paymentLinks := [repayment]

/-- Invoice 900 is paid. -/
def repaidState : GatewayPaymentState :=
  { status := .paid, invoiceId := some "900", paymentId := some "901",
    amount := some { unscaled := 10000, decimals := 3 } }

/-- The payment of the earlier attempt is paid again, and nothing is held under it. -/
theorem repayment_not_held :
    (exec (fun _ => {}) (applyTo 5 repaidState "webhook") repaid).1 = .ok (some .settled) ∧
      held .booking 3 (exec (fun _ => {}) (applyTo 5 repaidState "webhook") repaid).2.1 ≠
        held .booking 3 repaid + repayment.amount := by
  decide +kernel

/-- The criterion on this booking. -/
theorem held_grows_iff_repaid :
    held .booking 3 (exec (fun _ => {}) (applyTo 5 repaidState "webhook") repaid).2.1 =
        held .booking 3 repaid + repayment.amount ↔ FreshFor repayment repaid :=
  held_grows_iff repaid repayment repaidState "webhook" (fun _ => {})
    (by unfold Table.Unique; decide +kernel) (by decide +kernel) (by decide) (by decide +kernel)

end PaymentLinks
