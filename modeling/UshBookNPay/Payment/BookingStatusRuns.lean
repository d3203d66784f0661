import UshBookNPay.Booking.StateMachine
import UshBookNPay.Booking.Values
import UshBookNPay.Payment.RefundSummaries

/-!
# The booking of a refunded payment

What the refunds of a payment do to the status of its booking, and when they keep to the transition
table and leave a booking its time slot.
-/

open Booking (validTransitions nonBlockingBookingStatuses)

namespace Payment

/-- The payment is refunded up to the fee that is kept. -/
def RefundedUpToFee (pid : Uuid) (d : Db) : Prop :=
  ∃ p, Table.get d.payments pid = some p ∧
    Covers p.amountRefunded (p.totalAmount - largestFee d pid none)

instance (pid : Uuid) (d : Db) : Decidable (RefundedUpToFee pid d) :=
  decidable_of_iff (∃ p ∈ Table.get d.payments pid,
    Covers p.amountRefunded (p.totalAmount - largestFee d pid none)) (by simp [RefundedUpToFee])

/-- The status of the booking changes along the table only, and the booking gives up its time slot only
where the payment is refunded up to the fee. -/
structure StatusLawful (pid bid : Uuid) (d d' : Db) : Prop where
  table : ∀ b b', Table.get d.bookings bid = some b → Table.get d'.bookings bid = some b' →
    b'.status = b.status ∨ b'.status ∈ validTransitions b.status
  slot : ∀ b b', Table.get d.bookings bid = some b → Table.get d'.bookings bid = some b' →
    b.status ∉ nonBlockingBookingStatuses → b'.status ∈ nonBlockingBookingStatuses →
      RefundedUpToFee pid d'

/-- The status `complete` leaves the booking of the refund. -/
def completedStatus (r : RefundRow) (b : BookingRow) : Booking.BookingStatus :=
  (completedBooking (isLoyalty r.refundMethod) false true b).status

/-- The refunded amount of the payment once the refund is completed. -/
def amountAfter (d : Db) (p : PaymentRow) (r : RefundRow) : Fils :=
  if isLoyalty r.refundMethod then p.amountRefunded
  else max (sumOf d p.id [.completed] (some r.id) + r.refundedAmount)
    (p.amountRefunded + r.refundedAmount)

/-- The completion of an open refund takes its booking along the table, and refunds the payment up to
the fee where the booking has a time slot. -/
def CompletesLawfully (pid bid : Uuid) (d : Db) (r : RefundRow) : Prop :=
  ∀ b, Table.get d.bookings bid = some b → ∀ p, Table.get d.payments pid = some p →
    (completedStatus r b = b.status ∨ completedStatus r b ∈ validTransitions b.status) ∧
    (b.status ∉ nonBlockingBookingStatuses →
      Covers (amountAfter d p r) (p.totalAmount - largestFee d pid none))

instance (pid bid : Uuid) (d : Db) (r : RefundRow) : Decidable (CompletesLawfully pid bid d r) :=
  decidable_of_iff (∀ b ∈ Table.get d.bookings bid, ∀ p ∈ Table.get d.payments pid,
    (completedStatus r b = b.status ∨ completedStatus r b ∈ validTransitions b.status) ∧
    (b.status ∉ nonBlockingBookingStatuses →
      Covers (amountAfter d p r) (p.totalAmount - largestFee d pid none)))
    (by simp [CompletesLawfully])

/-- `P` of the open refund of the booking that the step completes. -/
def OfCompletion (bid : Uuid) (P : Db → RefundRow → Prop) (d : Db)
    (x : LifecycleOp × (ℕ → Env)) : Prop :=
  match x.1 with
  | .complete refundId _ _ _ _ _ => ∀ r, Table.get d.refunds refundId = some r →
      r.bookingId = some bid → r.status ∈ OPEN_STATUSES → P d r
  | _ => True

instance (bid : Uuid) (P : Db → RefundRow → Prop) [∀ d, DecidablePred (P d)] (d : Db) :
    ∀ x, Decidable (OfCompletion bid P d x)
  | (.complete refundId _ _ _ _ _, _) =>
    decidable_of_iff (∀ r ∈ Table.get d.refunds refundId, r.bookingId = some bid →
      r.status ∈ OPEN_STATUSES → P d r) (by simp [OfCompletion])
  | (.request .., _) | (.updateRequestedAmounts .., _) | (.reject .., _) | (.approve .., _)
  | (.markProcessing .., _) | (.fail .., _) => .isTrue trivial

/-- The refund of the booking is one of the payment. -/
def OnPayment (pid : Uuid) (_ : Db) (r : RefundRow) : Prop := r.paymentId = some pid

instance (pid : Uuid) (d : Db) : DecidablePred (OnPayment pid d) :=
  fun _ => inferInstanceAs (Decidable (_ = _))

end Payment
