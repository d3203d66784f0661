import Mathlib.Data.List.Sort
import UshBookNPay.Core.Environment

/-!
# BookingStateMachine

The transition table of the booking statuses.
-/

open Transactions.Prog (raiseIf)

namespace Booking

/-- `VALID_TRANSITIONS` -/
def validTransitions : BookingStatus → List BookingStatus
  | .draft => [.confirmed, .paymentPending, .requested, .cancelled, .paymentFailed]
  | .requested => [.draft, .paymentPending, .confirmed, .paymentFailed, .cancelled]
  | .paymentPending => [.confirmed, .paymentFailed, .cancelled]
  | .confirmed => [.checkedIn, .inProgress, .rescheduleRequested, .cancelled, .refunded, .completed,
      .noShow, .parked]
  | .checkedIn => [.inProgress, .completed, .cancelled, .noShow]
  | .inProgress => [.completed, .cancelled]
  | .paymentFailed => [.paymentPending, .cancelled]
  | .rescheduleRequested => [.rescheduleApproved, .confirmed, .cancelled, .refunded]
  | .rescheduleApproved => [.confirmed, .cancelled, .refunded]
  | .parked => [.confirmed, .cancelled, .refunded]
  | .cancelled => [.refunded]
  | .refunded => []
  | .completed => []
  | .noShow => []

/-- The statuses a booking can go on to, as they stand in a message. -/
def allowedText (status : BookingStatus) : String :=
  let allowed := ((validTransitions status).map BookingStatus.value).insertionSort (· ≤ ·)
  if allowed = [] then "none (terminal state)" else Json.text (.arr (allowed.map Json.str))

/-- `transition_to` -/
def transitionTo (current target : BookingStatus) : Tx Unit :=
  raiseIf (target ∉ validTransitions current) (.bookingState
    ("Cannot transition booking from '" ++ current.value ++ "' to '" ++ target.value ++
      "'. Allowed transitions: " ++ allowedText current ++ "."))

end Booking
