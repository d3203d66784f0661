import UshBookNPay.Payment.PaymentsApi
import UshBookNPay.PaymentLinks.SettlementRuns

/-!
# Received money

The calls that record a booking as paid: the two endpoints of the payments API, the two gateway
webhooks and the settlement of a payment link. The money they receive has a place where the booking is
paid and keeps its therapist, or where it is sent back.
-/

open Transactions (transact)

namespace PaymentLinks

inductive ReceiptOp where
  | createPayment (body : Payment.CreatePaymentRequest)
  | updatePayment (paymentId : Uuid) (body : Payment.UpdatePaymentRequest) (actorId : String)
  | myfatoorahWebhook (body : String)
  | tapWebhook (body : String)
  | settle (linkId : Uuid) (state : GatewayPaymentState) (source : String)

def receiptCode : ReceiptOp → Tx Unit
  | .createPayment body => Payment.Api.createPayment body
  | .updatePayment paymentId body actorId => Payment.Api.updatePayment paymentId body actorId
  | .myfatoorahWebhook body => Payment.myfatoorahWebhook body
  | .tapWebhook body => Payment.tapWebhook body
  | .settle linkId state source => discard (applyTo linkId state source)

/-- A call, with what the environment answers to its statements. -/
def receiptStep (s : Desk) (x : ReceiptOp × (ℕ → Env)) : Desk := transact x.2 (receiptCode x.1) s

/-! ## What is recorded -/

/-- The payment is a successful one of the booking. -/
def Succeeds (bookingId paymentId : Uuid) (d : Db) : Prop :=
  ∃ p ∈ Table.get d.payments paymentId, p.status = some .success ∧ p.bookingId = some bookingId

instance (bookingId paymentId : Uuid) (d : Db) : Decidable (Succeeds bookingId paymentId d) :=
  inferInstanceAs (Decidable (∃ p ∈ Table.get d.payments paymentId, _))

/-- The link is one of the booking and is not settled. -/
def Unsettled (bookingId linkId : Uuid) (d : Db) : Prop :=
  ∃ link ∈ Table.get d.paymentLinks linkId, link.targetType = .booking ∧ link.targetId = bookingId ∧
    link.status ∉ SETTLED

instance (bookingId linkId : Uuid) (d : Db) : Decidable (Unsettled bookingId linkId d) :=
  inferInstanceAs (Decidable (∃ link ∈ Table.get d.paymentLinks linkId, _))

/-- From `d` to `d'` the call has recorded a success for the booking: the payment `id` succeeds, or
the link `id` is settled with a paid state. -/
def Records (bookingId id : Uuid) (op : ReceiptOp) (d d' : Db) : Prop :=
  match op with
  | .settle linkId state _ =>
    id = linkId ∧ state.status = .paid ∧ Unsettled bookingId linkId d ∧ Settled linkId d'
  | _ => ¬ Succeeds bookingId id d ∧ Succeeds bookingId id d'

/-! ## Where the money is -/

/-- The booking is paid, and its status keeps its therapist. -/
def PaidBooking (bookingId : Uuid) (d : Db) : Prop :=
  ∃ b ∈ Table.get d.bookings bookingId, b.paymentStatus = .success ∧
    b.status ∉ Booking.nonBlockingBookingStatuses

instance (bookingId : Uuid) (d : Db) : Decidable (PaidBooking bookingId d) :=
  inferInstanceAs (Decidable (∃ b ∈ Table.get d.bookings bookingId, _))

/-- A refund of the payment is requested, under way or done. -/
def RefundStands (paymentId : Uuid) (d : Db) : Prop :=
  ∃ r ∈ d.refunds, r.paymentId = some paymentId ∧
    r.status ∉ [Payment.RefundStatus.rejected, .failed, .cancelled]

instance (paymentId : Uuid) (d : Db) : Decidable (RefundStands paymentId d) :=
  inferInstanceAs (Decidable (∃ r ∈ d.refunds, _))

/-- The money the call has received under `id` goes back: a refund of the payment stands, or the
gateway has accepted the refund of the link. -/
def GoesBack (id : Uuid) (op : ReceiptOp) (d : Db) (s : Desk) : Prop :=
  match op with
  | .settle linkId state _ => ∃ link ∈ Table.get d.paymentLinks linkId, RefundSent link state s.log
  | _ => RefundStands id s.db

/-- The money the call has received under `id` for the booking has a place. -/
def Placed (bookingId id : Uuid) (op : ReceiptOp) (d : Db) (s : Desk) : Prop :=
  PaidBooking bookingId s.db ∨ GoesBack id op d s

/-! ## When it has a place -/

/-- `confirm_booking` takes the booking. -/
def Confirmable (b : BookingRow) : Prop :=
  b.status = .confirmed ∨ .confirmed ∈ Booking.validTransitions b.status

instance (b : BookingRow) : Decidable (Confirmable b) := inferInstanceAs (Decidable (_ ∨ _))

/-- The call confirms the booking of the payment: `create_payment` where the booking has no payment
yet, `update_payment` where the payment was not successful before. -/
def Confirms (bookingId id : Uuid) (d : Db) : ReceiptOp → Prop
  | .createPayment body =>
    body.bookingId = some bookingId ∧ ∀ p ∈ d.payments, p.bookingId ≠ some bookingId
  | .updatePayment .. => ∀ p ∈ Table.get d.payments id, p.status ≠ some .success
  | .myfatoorahWebhook _ => True
  | .tapWebhook _ => False
  | .settle .. => False

/-- The calls whose money has a place. A payment of the API or of a webhook: its booking is confirmed,
is paid and kept already, or the payment has a refund. A link: its booking is kept, or it can no longer
be paid and the gateway takes the refund. -/
def HasPlace (answer : Except String Payment.RefundResponse) (b : BookingRow) (id : Uuid)
    (op : ReceiptOp) (d : Db) : Prop :=
  match op with
  | .settle linkId _ _ => b.status ∉ Booking.nonBlockingBookingStatuses ∨
      (b.status ∈ NOT_PAYABLE_BOOKING ∧
        ∃ link ∈ Table.get d.paymentLinks linkId, RefundAccepted link answer)
  | op => (Confirms b.id id d op ∧ Confirmable b) ∨
      (b.paymentStatus = .success ∧ b.status ∉ Booking.nonBlockingBookingStatuses) ∨
      RefundStands id d

end PaymentLinks
