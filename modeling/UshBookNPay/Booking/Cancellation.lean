import UshBookNPay.Booking.BookingService
import UshBookNPay.Booking.Repository
import UshBookNPay.Lib.Savepoints
import UshBookNPay.Payment.RefundService
import UshBookNPay.PaymentLinks.LinkService

/-!
# Cancelling a booking

`cancel_booking`: the booking is cancelled, for a paid one a refund is requested, for an unpaid one the
payments are cancelled, and its payment links are deleted. The cache of the appointments is left out.
-/

open Transactions.Prog (query raiseIf ask emit forSome savepoint)

namespace Payment

/-! ## find_payment_for_booking -/

/-- `PAID_PAYMENT_STATUSES` of the lifecycle -/
def PAID_PAYMENT_STATUSES : List PaymentStatus :=
  [.success, .paid, .partiallyRefunded, .refunded, .refundedWithPoints]

/-- The first sort key of `find_payment_for_booking`, highest first; `NULL` sorts before `true`. -/
def lifecycleRank (p : PaymentRow) : ℕ :=
  match p.status with
  | none => 2
  | some s => if s ∈ PAID_PAYMENT_STATUSES then 1 else 0

/-- The payment of the highest rank, the newest of them. -/
def newestPaid (payments : List PaymentRow) : Option PaymentRow :=
  payments.foldl (fun best p => match best with
    | some b => if lifecycleRank b ≤ lifecycleRank p then some p else some b
    | none => some p) none

/-- `find_payment_for_booking`, without a lock -/
def findPaymentForBooking (booking : BookingRow) : Tx (Option PaymentRow) := do
  let payment ← query fun d => newestPaid (d.payments.filter (·.bookingId = some booking.id))
  match payment, booking.paymentId with
  | some p, _ => pure (some p)
  | none, none => pure none
  | none, some ref => query fun d => if ref = .text "" then none else (paymentsOf ref d).head?

end Payment

namespace Booking

/-- The arguments of `cancel_booking`. -/
structure CancelArgs where
  reason : String := ""
  cancelledBy : String := "customer"
  changeByUser : Option String := none
  refundAmount : Option ℚ := none
  cancellationFee : Option ℚ := none

/-- The user a cancellation is recorded with. -/
def CancelArgs.effectiveUser (args : CancelArgs) : String :=
  Text.orEmpty (Text.or args.changeByUser (some args.cancelledBy))

/-- The columns of a cancelled booking. -/
def cancelledColumns (args : CancelArgs) (b : BookingRow) : BookingRow :=
  { b with
    status := .cancelled
    internalNotes := some (Text.strip (Text.orEmpty b.internalNotes ++ "\nCancelled by " ++
      args.cancelledBy ++ ": " ++ args.reason)) }

/-! ## The refund of a paid booking -/

/-- `is_refund_req`: the booking has been paid, or its refund requested. -/
def refundRequired (status : PaymentStatus) : Bool := status = .refundRequested ∨ status = .success

/-- `calc_refundable` -/
def calcRefundable (args : CancelArgs) (b : BookingRow) : ℚ :=
  args.refundAmount.getD (max 0 (toDecimal b.totalAmount - args.cancellationFee.getD 0))

/-- `_ensure_cancellation_refund`: the refund of a cancelled booking, requested once. -/
def ensureCancellationRefund (args : CancelArgs) (b : BookingRow) : Tx RefundRow := do
  let payment ← Payment.findPaymentForBooking b
  let (refund, _) ← Payment.request b payment (max 0 (calcRefundable args b))
    (args.cancellationFee.getD 0) "manual" "cash"
    (Text.or (some args.reason) (some "Booking cancellation refund"))
    (some ("Auto-generated on booking cancellation by " ++ args.cancelledBy))
    (some (Payment.cancellationIdempotencyKey b.id)) (some args.effectiveUser)
  pure refund.row

/-! ## The payments of an unpaid booking -/

/-- The payment ids a booking names, in its column and its payment data. -/
def namedPayments (b : BookingRow) : List PaymentRef :=
  let named := b.paymentData.bind fun data =>
    match (data.field? "payment_id").filter Json.truthy with
    | some id => some id
    | none => (data.field? "id").filter Json.truthy
  (b.paymentId.filter (· ≠ .text "")).toList ++ (named.map fun id => PaymentRef.ofText id.text).toList

/-- The payments of a reference, by their own id or the provider's. -/
def paymentsNamed (ref : PaymentRef) (d : Db) : List PaymentRow :=
  match ref with
  | .uuid id => d.payments.filter fun p => p.id = id ∨ p.paymentId = some (uuidStr id)
  | .text s => d.payments.filter (·.paymentId = some s)

/-- The payments of each reference that are not among `found` yet. -/
def findNamed (found : List PaymentRow) : List PaymentRef → Tx (List PaymentRow)
  | [] => pure found
  | ref :: rest => do
    let rows ← query (paymentsNamed ref)
    findNamed (found ++ rows.filter fun p => p.id ∉ found.map (·.id)) rest

/-- A payment of the booking with another status. -/
def syncedPayment (bookingId : Uuid) (target : Payment.PaymentStatus) (p : PaymentRow) : PaymentRow :=
  { p with bookingId := some bookingId, status := some target }

/-- Write the status of the payments, with a history entry for each that changes. -/
def syncPayments (b : BookingRow) (target : Payment.PaymentStatus) (args : CancelArgs) :
    List PaymentRow → Tx Unit
  | [] => pure ()
  | p :: rest => do
    discard (flushPayment ((Orm.ofRow p).set (syncedPayment b.id target)))
    if p.status ≠ some target then
      addPaymentHistory
        { paymentId := p.id
          oldStatus := p.status
          newStatus := target
          source := args.cancelledBy
          reason := Text.orEmpty (Text.or (some args.reason) (some "Booking cancelled"))
          providerReference := none
          correlationId := Text.orEmpty (Text.or p.paymentId (some (uuidStr p.id)))
          refundId := none
          refundStatus := none
          refundedAmount := none
          amountRefundedTotal := none
          changeByUser := args.effectiveUser }
    else pure ()
    syncPayments b target args rest

/-- `_sync_booking_payment_status`, as far as a cancellation goes: no payment is created. -/
def syncBookingPaymentStatus (b : BookingRow) (target : Payment.PaymentStatus) (args : CancelArgs) :
    Tx Unit := do
  let payments ← query fun d => d.payments.filter (·.bookingId = some b.id)
  let payments ← if payments = [] then findNamed [] (namedPayments b) else pure payments
  syncPayments b target args payments

/-- What a cancellation does about the payment: the booking, and the refund that is requested. -/
def cancelPayment (args : CancelArgs) (b : BookingRow) : Tx (BookingRow × Option RefundRow) :=
  if refundRequired b.paymentStatus then do
    let refund ← attempt survivable (ensureCancellationRefund args b)
    pure (b, refund.toOption)
  else if b.paymentStatus = .pending ∨ b.paymentStatus = .notInitiated then do
    let written ← flushBooking ((Orm.ofRow b).set (·.setPaymentStatus .cancelled))
    discard (attempt (fun _ => true) (savepoint (syncBookingPaymentStatus written.row .cancelled args)))
    pure (written.row, none)
  else pure (b, none)

/-! ## The payment links -/

/-- `_cancel_booking_payment_links` -/
def cancelBookingPaymentLinks (settings : PaymentLinks.LinkSettings) (b : BookingRow) :
    Tx BookingRow := do
  let r ← attempt survivable do
    let gateway ← PaymentLinks.getGateway settings
      (PaymentLinks.resolveGatewayName b.paymentProvider settings.defaultGateway)
    discard (PaymentLinks.cancelAndDeleteLinksForTarget
      { gateway := gateway, expiryMinutes := settings.expiryMinutes } .booking b.id)
    let row ← query fun d => Table.get d.bookings b.id
    let written ← flushBooking ((Orm.ofRow (row.getD b)).set PaymentLinks.clearPaymentUrl)
    pure written.row
  pure (r.toOption.getD b)

/-! ## cancel_booking -/

/-- A booking paid with loyalty points is never cancelled. -/
def paidWithPoints (b : BookingRow) : Bool :=
  Text.lower b.bookingType = "loyalty" ∧ b.loyaltyData.any Json.truthy

/-- `cancel_booking` -/
def cancelBooking (settings : PaymentLinks.LinkSettings) (bookingId : Uuid) (args : CancelArgs) :
    Tx BookingRow := do
  let row ← getById bookingId
  raiseIf (paidWithPoints row)
    (.validation "Bookings made using loyalty points cannot be cancelled or refunded.")
  transitionTo row.status .cancelled
  let written ← flushBooking ((Orm.ofRow row).set (cancelledColumns args))
  deleteHold bookingId
  addBookingHistory { bookingId := bookingId, oldStatus := some row.status, newStatus := .cancelled,
                      source := args.cancelledBy, reason := args.reason }
  let (booking, refund) ← cancelPayment args written.row
  emit (.bookingCancelled bookingId (refundRequired row.paymentStatus) (refund.map (·.id)))
  cancelBookingPaymentLinks settings booking

end Booking
