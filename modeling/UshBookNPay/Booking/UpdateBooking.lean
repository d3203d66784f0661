import UshBookNPay.Booking.BookingService
import UshBookNPay.Booking.Repository

/-!
# Updating a booking

`update_booking`: the sessions and the services are replaced, the therapists and the times are moved,
and the stored sessions are synchronized with the columns where the update brings none of its own.
-/

open Transactions.Prog (query raiseIf ask emit forSome)
open Voucher (intOr)

namespace Booking

/-- The fields of an update. -/
structure UpdateArgs where
  status : Option BookingStatus := none
  paymentStatus : Option PaymentStatus := none
  paymentId : Option PaymentRef := none
  paymentProvider : Option String := none
  paymentGateway : Option String := none
  paymentThrough : Option String := none
  paymentMethod : Option String := none
  paymentUrl : Option String := none
  paymentType : Option String := none
  paymentData : Option (List (String × Json)) := none
  therapistId : Option Uuid := none
  therapistData : Option Json := none
  secondaryTherapistId : Option Uuid := none
  secondaryTherapistData : Option Json := none
  secondaryTherapistProvided : Bool := false
  branchId : Option Uuid := none
  serviceArrangementId : Option Uuid := none
  serviceArrangementData : Option Json := none
  services : Option (List ServiceEntry) := none
  appointmentStart : Option Instant := none
  extraMinutes : Option ℤ := none
  internalNotes : Option String := none
  reason : Option String := none
  source : String := "admin"
  loyaltyData : Option Json := none
  rewardId : Option Uuid := none
  invoiceNumber : Option String := none
  addons : Option (List Json) := none
  addonPrice : Option Fils := none
  addonsDuration : Option ℤ := none
  priceForExtraMinutes : Option Fils := none
  totalDuration : Option ℤ := none
  totalAmount : Option Fils := none
  sessions : Option (List Session) := none
  deriving DecidableEq

/-- A parked booking holds no slot: an update that keeps it parked is not checked. -/
def remainsParked (args : UpdateArgs) (b : BookingRow) : Bool :=
  b.status = .parked ∧ (args.status = none ∨ args.status = some .parked)

/-! ## Replacing -/

/-- The columns that mirror new sessions. -/
def mirrorColumns (m : Mirror) (b : BookingRow) : BookingRow :=
  let b := primaryFields m.services { b with services := m.services }
  { b with
    therapistId := m.therapistId.getD b.therapistId
    therapistData := some m.therapistData
    secondaryTherapistId := m.secondaryTherapistId
    secondaryTherapistData :=
      if m.secondaryTherapistId.isSome then m.secondaryTherapistData else none
    addons := m.addons
    appointmentStart := m.appointmentStart
    appointmentEnd := m.appointmentEnd
    appointmentDate := localMidnight m.appointmentStart
    durationMinutes := intOr m.durationMinutes b.durationMinutes
    extraMinutes := m.extraMinutes
    addonsDuration := some m.addonsDuration
    totalDuration := some m.totalDuration
    basePrice := some m.servicesPrice
    arrangementPrice := m.servicesPrice }

/-- Replace all sessions. Without a total the amount is computed anew from their prices. -/
def replaceSessions (args : UpdateArgs) (b : BookingRow) : BookingRow :=
  match args.sessions with
  | some (first :: rest) =>
    let m := legacyMirror first rest
    let mirrored := mirrorColumns m { b with sessions := first :: rest }
    let subtotal := m.servicesPrice + args.addonPrice.getD b.addonPrice +
      args.priceForExtraMinutes.getD b.priceForExtraMinutes
    if args.totalAmount = none then { mirrored with totalAmount := max 0 (subtotal - b.discount) }
    else mirrored
  | _ => b

/-- Replace the booked services. -/
def replaceServices (args : UpdateArgs) (b : BookingRow) : BookingRow :=
  match args.services with
  | some entries =>
    let replaced := primaryFields entries { b with services := entries }
    { replaced with
      durationMinutes := intOr (totalServicesDuration entries) b.durationMinutes
      basePrice := some (totalServicesPrice entries) }
  | none => b

/-! ## Therapists and times -/

def targetTherapistId (args : UpdateArgs) (b : BookingRow) : Uuid :=
  args.therapistId.getD b.therapistId

/-- What an update does to the second therapist: whether it gives one (or none), and which. -/
structure SecondaryUpdate where
  given : Bool
  therapistId : Option Uuid
  therapistData : Option Json
  deriving DecidableEq

/-- The update names the second therapist; or the second becomes the first, and the first takes his
place. -/
def secondaryUpdate (args : UpdateArgs) (b : BookingRow) : SecondaryUpdate :=
  let target := targetTherapistId args b
  if args.secondaryTherapistProvided ∨ args.secondaryTherapistId.isSome then
    { given := true, therapistId := args.secondaryTherapistId
      therapistData := args.secondaryTherapistData }
  else if b.secondaryTherapistId = some target then
    if b.therapistId ≠ target then
      { given := true, therapistId := some b.therapistId, therapistData := b.therapistData }
    else { given := true, therapistId := none, therapistData := none }
  else
    { given := false, therapistId := b.secondaryTherapistId
      therapistData := args.secondaryTherapistData }

def targetExtra (args : UpdateArgs) (b : BookingRow) : ℤ := args.extraMinutes.getD b.extraMinutes

/-- `eff_total_duration` -/
def effTotalDuration (args : UpdateArgs) (b : BookingRow) : ℤ :=
  args.totalDuration.getD (b.durationMinutes + targetExtra args b +
    args.addonsDuration.getD (b.addonsDuration.getD 0))

/-- New sessions bring their own window. -/
def targetStart (args : UpdateArgs) (b : BookingRow) : Instant :=
  if args.sessions.isSome then b.appointmentStart else args.appointmentStart.getD b.appointmentStart

def targetEnd (args : UpdateArgs) (b : BookingRow) : Instant :=
  if args.sessions.isSome then b.appointmentEnd
  else targetStart args b + minutes (effTotalDuration args b)

/-- The update concerns the therapists, the times or the services. -/
def TouchesTiming (args : UpdateArgs) (b : BookingRow) : Prop :=
  args.therapistId.isSome ∨ (secondaryUpdate args b).given ∨ args.appointmentStart.isSome ∨
    args.extraMinutes.isSome ∨ args.services.isSome

instance (args : UpdateArgs) (b : BookingRow) : Decidable (TouchesTiming args b) :=
  inferInstanceAs (Decidable (_ ∨ _ ∨ _ ∨ _ ∨ _))

/-- The therapist and the timing columns. -/
def applyTiming (args : UpdateArgs) (b : BookingRow) : BookingRow :=
  let secondary := secondaryUpdate args b
  if TouchesTiming args b then
    { b with
      therapistId := targetTherapistId args b
      therapistData := args.therapistData.or b.therapistData
      secondaryTherapistId := secondary.therapistId
      secondaryTherapistData :=
        if ¬ secondary.given then b.secondaryTherapistData
        else if secondary.therapistId = none then none
        else secondary.therapistData.or b.secondaryTherapistData
      extraMinutes := targetExtra args b
      appointmentStart := targetStart args b
      appointmentEnd := targetEnd args b
      appointmentDate := localMidnight (targetStart args b) }
  else if args.secondaryTherapistData.isSome ∧ b.secondaryTherapistId.isSome then
    { b with secondaryTherapistData := args.secondaryTherapistData }
  else b

/-! ## The other columns -/

/-- The branch and the arrangement; an arrangement is the one of the first service. -/
def applyArrangement (args : UpdateArgs) (b : BookingRow) : BookingRow :=
  let moved :=
    { b with
      branchId := args.branchId.or b.branchId
      serviceArrangementId := args.serviceArrangementId.or b.serviceArrangementId
      serviceArrangementData := args.serviceArrangementData.or b.serviceArrangementData }
  if args.services = none ∧ (args.serviceArrangementId.isSome ∨ args.serviceArrangementData.isSome) then
    match getBookingServices moved with
    | [] => moved
    | first :: rest =>
      { moved with
        services :=
          { first with
            serviceArrangementId := args.serviceArrangementId.or first.serviceArrangementId
            serviceArrangementData :=
              args.serviceArrangementData.getD first.serviceArrangementData } :: rest }
  else moved

/-- The notes, the payment and the loyalty columns. The payments of the booking, which follow its
payment status, are left out. -/
def applyPayment (args : UpdateArgs) (b : BookingRow) : BookingRow :=
  { mergePaymentData args.paymentData b with
    internalNotes := args.internalNotes.or b.internalNotes
    paymentStatus := args.paymentStatus.getD b.paymentStatus
    paymentId := args.paymentId.or b.paymentId
    paymentProvider := args.paymentProvider.or b.paymentProvider
    paymentGateway := args.paymentGateway.or b.paymentGateway
    paymentThrough := args.paymentThrough.or b.paymentThrough
    paymentMethod := args.paymentMethod.or b.paymentMethod
    paymentUrl := args.paymentUrl.or b.paymentUrl
    paymentType := args.paymentType.getD b.paymentType
    invoiceNumber := args.invoiceNumber.or b.invoiceNumber
    loyaltyData := args.loyaltyData.or b.loyaltyData
    rewardId := args.rewardId.or b.rewardId }

/-- The add-ons, the durations and the amounts. The payment link that is replaced when the amount of a
confirmed unpaid booking changes is left out. -/
def applyPricing (args : UpdateArgs) (b : BookingRow) : BookingRow :=
  { b with
    addons := args.addons.getD b.addons
    addonPrice := args.addonPrice.getD b.addonPrice
    addonsDuration := args.addonsDuration.or b.addonsDuration
    priceForExtraMinutes := args.priceForExtraMinutes.getD b.priceForExtraMinutes
    totalDuration := args.totalDuration.or b.totalDuration
    totalAmount := args.totalAmount.getD b.totalAmount }

/-! ## Synchronizing the stored sessions -/

/-- The therapists of the booking in one of its sessions. -/
def assignTherapists (given : Bool) (b : BookingRow) (s : Session) : Session :=
  let assigned :=
    { s with
      therapistId := some b.therapistId
      therapistData := b.therapistData.getD s.therapistData }
  if given then
    { assigned with
      secondaryTherapistId := b.secondaryTherapistId
      secondaryTherapistData :=
        if b.secondaryTherapistId.isSome ∧ b.secondaryTherapistData.any Json.truthy then
          b.secondaryTherapistData
        else none }
  else assigned

/-- A single session takes the columns of its booking. -/
def syncSingle (given : Bool) (total : ℤ) (b : BookingRow) (s : Session) : Session :=
  { assignTherapists given b s with
    appointmentStart := b.appointmentStart
    appointmentEnd := b.appointmentEnd
    serviceArrangementId := b.serviceArrangementId.or s.serviceArrangementId
    serviceArrangementData := b.serviceArrangementData.getD s.serviceArrangementData
    extraMinutes := b.extraMinutes
    priceForExtraMinutes := b.priceForExtraMinutes
    totalSessionDuration := intOr (b.totalDuration.getD 0) total
    addons := normaliseAddons b.addons
    addonsPrice := b.addonPrice
    addonsDuration := b.addonsDuration.getD s.addonsDuration
    sessionPrice := b.totalAmount }

/-- A session at another time. -/
def moveSession (delta : Instant) (s : Session) : Session :=
  { s with
    appointmentStart := s.appointmentStart + delta
    appointmentEnd := s.appointmentEnd + delta }

/-- The last session takes the change of the extra minutes. -/
def extendSession (extraDiff : ℤ) (price : Fils) (s : Session) : Session :=
  if extraDiff = 0 then s
  else
    { s with
      extraMinutes := max 0 (s.extraMinutes + extraDiff)
      totalSessionDuration := s.totalSessionDuration + extraDiff
      appointmentEnd := s.appointmentEnd + minutes extraDiff
      priceForExtraMinutes := price }

/-- Several sessions are moved together, and the last one is extended. -/
def shiftSessions (delta : Instant) (extraDiff : ℤ) (price : Fils) : List Session → List Session
  | [] => []
  | [s] => [extendSession extraDiff price (moveSession delta s)]
  | s :: rest => moveSession delta s :: shiftSessions delta extraDiff price rest

/-- The stored sessions after an update without sessions of its own; `before` is the booking before
the update. -/
def syncSessions (before : BookingRow) (given : Bool) (total : ℤ) (b : BookingRow) : List Session :=
  match b.sessions with
  | [] => []
  | [s] => [syncSingle given total b s]
  | first :: rest =>
    shiftSessions (b.appointmentStart - before.appointmentStart) (b.extraMinutes - before.extraMinutes)
      b.priceForExtraMinutes (assignTherapists given b first :: rest)

/-! ## The update -/

/-- The booking with its sessions and services replaced. -/
def replacedRow (args : UpdateArgs) (row : BookingRow) : BookingRow :=
  replaceServices args (replaceSessions args row)

/-- The booking after an update, its status aside. -/
def updatedColumns (args : UpdateArgs) (row : BookingRow) : BookingRow :=
  let replaced := replacedRow args row
  let updated := applyPricing args (applyPayment args (applyArrangement args (applyTiming args replaced)))
  if args.sessions.isSome then updated
  else { updated with
    sessions := syncSessions row (secondaryUpdate args replaced).given (effTotalDuration args replaced)
      updated }

/-- The columns of a new status. -/
def applyStatus (args : UpdateArgs) (status : BookingStatus) (now : Instant) (b : BookingRow) :
    BookingRow :=
  { b with
    status := status
    internalNotes := match args.reason with
      | some reason =>
        if reason = "" then b.internalNotes
        else some (Text.strip (Text.orEmpty b.internalNotes ++ "\n[" ++ isoformat now ++
          "] Status changed to " ++ status.value ++ " by " ++ args.source ++ ": " ++ reason))
      | none => b.internalNotes
    paymentStatus := if status = .refunded then .refunded else b.paymentStatus }

/-- The columns of `updated`, in the row of the booking. -/
def assignUpdated (updated b : BookingRow) : BookingRow := { updated with id := b.id }

/-! ## Checks -/

/-- `DoubleBookingError` where a therapist is taken in the window. -/
def checkFree (bookingId : Uuid) (start finish : Instant) (message : String) (therapistId : Uuid) :
    Tx Unit := do
  let busy ← checkTherapistOverlap therapistId start finish (some bookingId)
  raiseIf busy (.doubleBooking message)

/-- The name of the therapist of a session in a message. -/
def therapistName (s : Session) (therapistId : Uuid) : String :=
  match Voucher.fieldOr (s.therapistData.field? "name") (s.therapistData.field? "therapist_name") with
  | some name => if name.truthy then name.text else "Therapist " ++ uuidStr therapistId
  | none => "Therapist " ++ uuidStr therapistId

/-- A therapist of a session is free in its window. -/
def checkSessionTherapist (bookingId : Uuid) (s : Session) (therapistId : Uuid) : Tx Unit := do
  let busy ← checkTherapistOverlap therapistId s.appointmentStart s.appointmentEnd (some bookingId)
  if busy then do
    let clash ← query
      (findTherapistOverlap therapistId s.appointmentStart s.appointmentEnd (some bookingId))
    throw (.doubleBooking (therapistName s therapistId ++ " is already booked between " ++
      localClock s.appointmentStart ++ " and " ++ localClock s.appointmentEnd ++ " (booking " ++
      ((clash.bind (·.bookingNumber)).bind Text.orNone).getD "another booking" ++
      "). Choose a different time or therapist for this session."))
  else pure ()

/-- Each therapist of each session is free in its window. -/
def checkSessionsFree (bookingId : Uuid) : List Session → Tx Unit
  | [] => pure ()
  | s :: rest => do
    forSome s.therapistId (checkSessionTherapist bookingId s)
    forSome s.secondaryTherapistId (checkSessionTherapist bookingId s)
    checkSessionsFree bookingId rest

/-- The sessions of an update can replace those of the booking. -/
def checkReplacement (args : UpdateArgs) (row : BookingRow) : Tx Unit :=
  forSome args.sessions fun sessions => do
    raiseIf (sessions = [] ∨ MAX_PACKAGE_SESSIONS_PER_BOOKING < sessions.length)
      (.validation "A booking must contain between 1 and 5 sessions.")
    if remainsParked args row then pure () else checkSessionsFree row.id sessions
    raiseIf ((sessions.map (·.therapistId)).head? = some none)
      (.valueError "badly formed hexadecimal UUID string")

/-- The services of an update can replace those of the booking. -/
def checkServices (args : UpdateArgs) : Tx Unit :=
  forSome args.services fun entries =>
    raiseIf (entries = [] ∨ MAX_SERVICES_PER_BOOKING < entries.length)
      (.validation "A booking must contain between 1 and 10 services.")

/-- The therapists of the booking differ and are free in its window; the sessions of an update have
been checked on their own. -/
def checkTherapists (args : UpdateArgs) (parked : Bool) (b : BookingRow) : Tx Unit := do
  let target := targetTherapistId args b
  let secondary := secondaryUpdate args b
  raiseIf ((args.secondaryTherapistProvided ∨ args.secondaryTherapistId.isSome) ∧
      args.secondaryTherapistId = some target)
    (.validation "The secondary therapist must differ from the primary therapist.")
  if TouchesTiming args b ∧ ¬ parked ∧ args.sessions = none then do
    let message := fun t : Uuid =>
      "Therapist " ++ uuidStr t ++ " is already booked for " ++ isoformat (targetStart args b) ++ "."
    checkFree b.id (targetStart args b) (targetEnd args b) (message target) target
    forSome secondary.therapistId fun t =>
      checkFree b.id (targetStart args b) (targetEnd args b) (message t) t
  else pure ()

/-- Only paid, confirmed bookings can be parked. -/
def checkParking (status old : BookingStatus) (b : BookingRow) : Tx Unit := do
  raiseIf (status = .parked ∧ b.paymentStatus ∉ [.success, .rewarded])
    (.validation "Only paid bookings can be parked.")
  raiseIf (status = .parked ∧ old ∉ [.confirmed, .rescheduleApproved])
    (.validation "Only confirmed bookings can be parked.")

/-- The statuses that end the hold of a booking. -/
def releasesHold (status : BookingStatus) : Bool :=
  status ∈ [.confirmed, .checkedIn, .inProgress, .cancelled, .refunded, .completed, .parked]

/-- `_dispatch_status_event`, of the events that are modelled. -/
def dispatchStatusEvent (b : BookingRow) (status : BookingStatus) : Tx Unit :=
  if status = .confirmed then emit (.bookingConfirmed b.id)
  else if status = .cancelled then
    emit (.bookingCancelled b.id (b.paymentStatus = .refundRequested) none)
  else pure ()

/-- An event is not sent back to the service it came from. -/
def internalSource (source : String) : Bool :=
  Text.lower source ∈ ["ushnotice", "notice", "system_sync"]

/-- `update_booking`. A status that the state machine does not allow is set all the same. -/
def updateBooking (bookingId : Uuid) (args : UpdateArgs) : Tx BookingRow := do
  let row ← getById bookingId
  checkReplacement args row
  checkServices args
  checkTherapists args (remainsParked args row) (replacedRow args row)
  let updated := updatedColumns args row
  let status := args.status.getD row.status
  if status ≠ row.status then do
    checkParking status row.status updated
    let now ← ask Env.now
    if releasesHold status then deleteHold bookingId else pure ()
    let written ← flushBooking ((Orm.ofRow row).set
      (assignUpdated (applyStatus args status now updated)))
    addBookingHistory { bookingId := bookingId, oldStatus := some row.status, newStatus := status,
                        source := args.source, reason := Text.orEmpty args.reason }
    if internalSource args.source then pure () else dispatchStatusEvent written.row status
    pure written.row
  else do
    let written ← flushBooking ((Orm.ofRow row).set (assignUpdated updated))
    if ¬ internalSource args.source ∧ written.row.paymentStatus ≠ row.paymentStatus ∧
        written.row.status = .confirmed then
      emit (.bookingConfirmed bookingId)
    else pure ()
    pure written.row

end Booking
