/-!
# Booking value objects
-/

namespace Booking

inductive BookingStatus where
  | draft | requested | paymentPending | confirmed | checkedIn | inProgress | paymentFailed
  | rescheduleRequested | rescheduleApproved | cancelled | refunded | completed | noShow | parked
  deriving DecidableEq, Repr

def BookingStatus.value : BookingStatus → String
  | .draft => "draft"
  | .requested => "requested"
  | .paymentPending => "payment_pending"
  | .confirmed => "confirmed"
  | .checkedIn => "checked_in"
  | .inProgress => "in_progress"
  | .paymentFailed => "payment_failed"
  | .rescheduleRequested => "reschedule_requested"
  | .rescheduleApproved => "reschedule_approved"
  | .cancelled => "cancelled"
  | .refunded => "refunded"
  | .completed => "completed"
  | .noShow => "no_show"
  | .parked => "parked"

/-- `NON_BLOCKING_BOOKING_STATUSES`: the statuses that no longer occupy a therapist. -/
def nonBlockingBookingStatuses : List BookingStatus :=
  [.cancelled, .noShow, .refunded, .paymentFailed, .parked]

/-- The payment states of a booking. -/
inductive PaymentStatus where
  | notInitiated | initiated | pending | success | failed | cancelled | refunded | rewarded
  | partiallyRefunded | refundRequested | refundedWithPoints
  deriving DecidableEq, Repr

def PaymentStatus.value : PaymentStatus → String
  | .notInitiated => "not_initiated"
  | .initiated => "initiated"
  | .pending => "pending"
  | .success => "success"
  | .failed => "failed"
  | .cancelled => "cancelled"
  | .refunded => "refunded"
  | .rewarded => "rewarded"
  | .partiallyRefunded => "partially_refunded"
  | .refundRequested => "refund_requested"
  | .refundedWithPoints => "refunded_with_points"

end Booking
