import UshBookNPay.Booking.StateMachine
import UshBookNPay.Core.Flush

/-!
# BookingService

`confirm_booking`, with the invoice accounting keeps for a paid booking, and `request_reschedule` with
the rules it asserts. The event of the request is left out.
-/

open Transactions.Prog (query queryForUpdate update raiseIf ask emit)

namespace Booking

/-- `get_by_id` with a lock -/
def getById (bookingId : Uuid) : Tx BookingRow := do
  let row ← queryForUpdate (fun _ => [.row "bookings" bookingId])
    fun d => Table.get d.bookings bookingId
  match row with
  | some b => pure b
  | none => throw (.notFound ("Booking " ++ uuidStr bookingId ++ " not found."))

/-- The `payment_data` of a booking with what a payment reports. -/
def mergePaymentData (data : Option (List (String × Json))) (b : BookingRow) : BookingRow :=
  match data with
  | some fields => { b with paymentData := some (Json.withFields b.paymentData fields) }
  | none => b

/-! ## The invoice -/

/-- A payment of the booking with its invoice number. -/
def withInvoice (bookingId : Uuid) (invoiceNumber : String) (p : PaymentRow) : PaymentRow :=
  if p.bookingId = some bookingId then { p with invoiceNumber := some invoiceNumber } else p

/-- The invoice number of a booking on all its payments. -/
def setPaymentInvoices (bookingId : Uuid) (invoiceNumber : String) : Tx Unit :=
  update [] fun d => { d with payments := d.payments.map (withInvoice bookingId invoiceNumber) }

/-- No invoice is made for a booking that is paid with a gift voucher. -/
def paidByVoucher (b : BookingRow) : Bool :=
  let normal := fun s : String => Text.lower (Text.strip s)
  normal b.bookingType = "gift_voucher" ∨ normal b.paymentType = "gift_voucher" ∨
    normal (Text.orEmpty b.paymentMethod) ∈ ["voucher", "gift_voucher"]

def setInvoiceNumber (invoiceNumber : String) (b : BookingRow) : BookingRow :=
  { b with invoiceNumber := some invoiceNumber }

/-- `_ensure_booking_invoice` -/
def ensureBookingInvoice (booking : BookingRow) : Tx BookingRow :=
  if booking.paymentStatus ≠ .success ∨ paidByVoucher booking then pure booking
  else if Text.truthy booking.invoiceNumber then do
    setPaymentInvoices booking.id (Text.orEmpty booking.invoiceNumber)
    pure booking
  else do
    let found ← ask Env.invoice
    match found with
    | none => pure booking
    | some (_, name) =>
      if name = "" then pure booking
      else do
        let written ← flushBooking ((Orm.ofRow booking).set (setInvoiceNumber name))
        setPaymentInvoices booking.id name
        pure written.row

/-! ## Confirmation -/

def confirmedColumns (paymentData : Option (List (String × Json))) (b : BookingRow) : BookingRow :=
  mergePaymentData paymentData { b with status := .confirmed, paymentStatus := .success }

/-- The columns of a booking that is confirmed already: a payment without data leaves it alone. -/
def paidColumns (paymentData : Option (List (String × Json))) (b : BookingRow) : BookingRow :=
  match paymentData with
  | some _ => mergePaymentData paymentData { b with paymentStatus := .success }
  | none => b

/-- `confirm_booking`. The hold of the booking and the refreshed loyalty details of its services are
left out. -/
def confirmBooking (bookingId : Uuid) (paymentData : Option (List (String × Json)))
    (source : String) : Tx BookingRow := do
  let row ← getById bookingId
  if row.status = .confirmed then do
    let written ← flushBooking ((Orm.ofRow row).set (paidColumns paymentData))
    ensureBookingInvoice written.row
  else do
    transitionTo row.status .confirmed
    let written ← flushBooking ((Orm.ofRow row).set (confirmedColumns paymentData))
    addBookingHistory { bookingId := bookingId, oldStatus := some row.status,
                        newStatus := .confirmed, source := source, reason := "" }
    let booking ← ensureBookingInvoice written.row
    emit (.bookingConfirmed bookingId)
    pure booking

/-! ## Requesting another time -/

/-- `min_hours_before` -/
def MIN_HOURS_BEFORE : ℤ := 6

/-- `assert_booking_is_reschedulable` -/
def assertBookingIsReschedulable (status : BookingStatus) : Tx Unit :=
  raiseIf (status ≠ .confirmed) (.validation
    ("Only confirmed bookings can request rescheduling. Current status: '" ++ status.value ++ "'."))

/-- `assert_reschedule_window` -/
def assertRescheduleWindow (appointmentStart : Instant) : Tx Unit := do
  let now ← ask Env.now
  raiseIf (appointmentStart ≤ now + minutes (60 * MIN_HOURS_BEFORE)) (.validation
    ("Rescheduling must be requested at least " ++ toString MIN_HOURS_BEFORE ++
      " hours before the appointment. Appointment starts at " ++ isoformat appointmentStart ++
      ", current time is " ++ isoformat now ++ "."))

/-- The line the request leaves in the notes and in the history. -/
def rescheduleNote (newStart newEnd : Instant) : String :=
  "Reschedule requested: " ++ isoformat newStart ++ " to " ++ isoformat newEnd

/-- The columns of a booking whose customer asks for another time. -/
def rescheduleColumns (newStart newEnd : Instant) (b : BookingRow) : BookingRow :=
  { b with
    status := .rescheduleRequested
    internalNotes := some (Text.strip (Text.orEmpty b.internalNotes ++ "\n" ++
      rescheduleNote newStart newEnd)) }

/-- `request_reschedule`. `AuthorizationError` is answered with 403. -/
def requestReschedule (bookingId : Uuid) (newStart newEnd : Instant) (customerId : Uuid)
    (source : String) : Tx BookingRow := do
  let row ← getById bookingId
  raiseIf (row.customerId ≠ customerId) (.http 403 "You can only reschedule your own bookings.")
  assertBookingIsReschedulable row.status
  assertRescheduleWindow row.appointmentStart
  transitionTo row.status .rescheduleRequested
  let written ← flushBooking ((Orm.ofRow row).set (rescheduleColumns newStart newEnd))
  addBookingHistory { bookingId := bookingId, oldStatus := some row.status,
                      newStatus := .rescheduleRequested, source := source
                      reason := rescheduleNote newStart newEnd }
  pure written.row

end Booking
