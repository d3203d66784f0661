import UshBookNPay.Booking.SessionPlanner
import UshBookNPay.Booking.UpdateBooking

/-!
# Creating a booking and changing the therapist of a session

`create_booking` with the request it serves, and `change_session_therapist`.
-/

open Transactions.Prog (query update raiseIf ask emit forSome)
open Voucher (intOr)

namespace Booking

/-! ## Creating -/

/-- The fields of a new booking. -/
structure CreateArgs where
  customerId : Uuid
  branchId : Option Uuid := none
  services : List ServiceEntry := []
  therapistId : Uuid
  therapistData : Option Json := none
  secondaryTherapistId : Option Uuid := none
  secondaryTherapistData : Option Json := none
  appointmentStart : Instant := 0
  appointmentEnd : Instant := 0
  durationMinutes : ℤ := 60
  extraMinutes : ℤ := 0
  totalDuration : Option ℤ := none
  addonsDuration : Option ℤ := none
  basePrice : Option Fils := none
  arrangementPrice : Fils := 0
  priceForExtraMinutes : Fils := 0
  addonPrice : Fils := 0
  discount : Fils := 0
  total : Fils := 0
  currency : String := "KWD"
  addons : List Json := []
  paymentId : Option PaymentRef := none
  paymentProvider : Option String := none
  paymentGateway : Option String := none
  paymentThrough : Option String := none
  paymentMethod : Option String := none
  paymentUrl : Option String := none
  paymentData : Option Json := none
  idempotencyKey : Option String := none
  bookingType : String := "branch_service"
  paymentType : String := "service"
  status : BookingStatus := .requested
  paymentStatus : PaymentStatus := .notInitiated
  loyaltyData : Option Json := none
  rewardId : Option Uuid := none
  invoiceNumber : Option String := none
  source : String := "ushspa"
  sessions : List Session := []
  deriving DecidableEq

/-- The row of a new booking. -/
def newBooking (args : CreateArgs) (id : Uuid) (bookingNumber : String) : BookingRow :=
  primaryFields args.services
    { id := id
      bookingNumber := some bookingNumber
      bookingType := args.bookingType
      invoiceNumber := args.invoiceNumber
      idempotencyKey := args.idempotencyKey
      customerId := args.customerId
      branchId := args.branchId
      services := args.services
      sessions := args.sessions
      therapistId := args.therapistId
      therapistData := some (args.therapistData.getD (.obj []))
      secondaryTherapistId := args.secondaryTherapistId
      secondaryTherapistData :=
        if args.secondaryTherapistId.isSome then some (args.secondaryTherapistData.getD (.obj []))
        else none
      addons := args.addons
      appointmentDate := localMidnight args.appointmentStart
      appointmentStart := args.appointmentStart
      appointmentEnd := args.appointmentEnd
      durationMinutes := args.durationMinutes
      extraMinutes := args.extraMinutes
      totalDuration := args.totalDuration
      basePrice := args.basePrice
      addonsDuration := args.addonsDuration
      arrangementPrice := args.arrangementPrice
      priceForExtraMinutes := args.priceForExtraMinutes
      addonPrice := args.addonPrice
      discount := args.discount
      totalAmount := args.total
      currency := args.currency
      status := args.status
      paymentStatus := args.paymentStatus
      paymentId := args.paymentId
      paymentProvider := args.paymentProvider
      paymentGateway := args.paymentGateway
      paymentThrough := args.paymentThrough
      paymentMethod := args.paymentMethod
      paymentUrl := args.paymentUrl
      paymentType := args.paymentType
      loyaltyData := args.loyaltyData
      rewardId := args.rewardId
      paymentData := some (args.paymentData.getD (.obj [])) }

/-- `DoubleBookingError` where a therapist is taken in the slot of a new booking. -/
def checkSlot (start finish : Instant) (therapistId : Uuid) : Tx Unit := do
  let busy ← checkTherapistOverlap therapistId start finish none
  raiseIf busy (.doubleBooking
    ("Therapist " ++ uuidStr therapistId ++ " is already booked for the requested slot."))

/-- Every session of a new booking is checked in its own window. -/
def checkSessionSlots : List Session → Tx Unit
  | [] => pure ()
  | s :: rest => do
    forSome s.therapistId (checkSlot s.appointmentStart s.appointmentEnd)
    forSome s.secondaryTherapistId (checkSlot s.appointmentStart s.appointmentEnd)
    checkSessionSlots rest

def TEMPORARY_HOLD_MINUTES : ℤ := 15

/-- The hold of a therapist for a booking. -/
def holdSlot (bookingId therapistId arrangementId : Uuid) (start finish : Instant) : Tx Unit := do
  let now ← ask Env.now
  let id ← ask Env.uuid
  createHold
    { id := id, bookingId := bookingId, therapistId := therapistId
      serviceArrangementId := arrangementId, appointmentStart := start, appointmentEnd := finish
      expiresAt := now + minutes TEMPORARY_HOLD_MINUTES }

/-- One hold for each session that has an arrangement. -/
def holdSessions (bookingId : Uuid) : List Session → Tx Unit
  | [] => pure ()
  | s :: rest => do
    forSome s.serviceArrangementId fun arrangementId =>
      holdSlot bookingId (s.therapistId.getD 0) arrangementId s.appointmentStart s.appointmentEnd
    holdSessions bookingId rest

/-- The holds of a new booking, which a confirmed booking or a draft does not need. -/
def holdBooking (b : BookingRow) : Tx Unit :=
  if b.status = .confirmed ∨ b.status = .draft then pure ()
  else if b.sessions ≠ [] then holdSessions b.id b.sessions
  else forSome b.serviceArrangementId fun arrangementId =>
    holdSlot b.id b.therapistId arrangementId b.appointmentStart b.appointmentEnd

/-- `create_booking` of a new booking, its key and its slots being free. -/
def createNew (args : CreateArgs) : Tx BookingRow := do
  raiseIf (args.secondaryTherapistId = some args.therapistId)
    (.validation "The secondary therapist must differ from the primary therapist.")
  if args.sessions ≠ [] then checkSessionSlots args.sessions
  else do
    checkSlot args.appointmentStart args.appointmentEnd args.therapistId
    forSome args.secondaryTherapistId (checkSlot args.appointmentStart args.appointmentEnd)
  let bookingNumber ← generateBookingNumber args.appointmentStart
  let id ← ask Env.uuid
  let booking ← insertBooking (newBooking args id bookingNumber)
  holdBooking booking
  addBookingHistory { bookingId := booking.id, oldStatus := none, newStatus := booking.status,
                      source := args.source, reason := "" }
  if booking.status = .confirmed then emit (.bookingConfirmed booking.id) else pure ()
  pure booking

/-- `create_booking`. A key that is known returns the booking it was used for. -/
def createBooking (args : CreateArgs) : Tx BookingRow := do
  raiseIf (args.services = []) (.validation "create_booking requires 'services' or 'service_id'.")
  raiseIf (MAX_SERVICES_PER_BOOKING < args.services.length)
    (.validation "A booking can contain at most 10 services.")
  let existing ← query fun d =>
    if Text.truthy args.idempotencyKey then
      d.bookings.find? (·.idempotencyKey = args.idempotencyKey)
    else none
  match existing with
  | some booking => pure booking
  | none => createNew args

/-- What the request for a booking passes on with planned sessions: their window, services, therapists
and prices. The extra minutes, the add-ons and the durations are those of the client. -/
def plannedArgs (sessions : List Session) (args : CreateArgs) : CreateArgs :=
  match sessions with
  | [] => args
  | first :: rest =>
    let m := legacyMirror first rest
    let totals := bookingTotals (first :: rest)
    { args with
      services := m.services
      therapistId := first.therapistId.getD args.therapistId
      secondaryTherapistId := first.secondaryTherapistId
      appointmentStart := m.appointmentStart
      appointmentEnd := m.appointmentEnd
      durationMinutes := intOr (totalServicesDuration m.services) 60
      basePrice := some totals.servicesPrice
      arrangementPrice := totals.servicesPrice
      addonPrice := totals.addonsPrice
      priceForExtraMinutes := totals.extraPrice
      total := totals.servicesPrice + totals.addonsPrice + totals.extraPrice
      sessions := first :: rest }

/-! ## Changing the therapist of a session -/

/-- The fields of a change of therapist. -/
structure ChangeArgs where
  therapistId : Option Uuid := none
  therapistData : Option Json := none
  secondaryTherapistId : Option Uuid := none
  secondaryTherapistData : Option Json := none
  secondaryProvided : Bool := false
  deriving DecidableEq

def newPrimary (args : ChangeArgs) (target : Session) : Option Uuid :=
  args.therapistId.or target.therapistId

def newSecondary (args : ChangeArgs) (target : Session) : Option Uuid :=
  if args.secondaryProvided then args.secondaryTherapistId else target.secondaryTherapistId

/-- The session with its new therapists. -/
def changeTherapists (args : ChangeArgs) (s : Session) : Session :=
  let changed := match args.therapistId with
    | some t => { s with therapistId := some t, therapistData := args.therapistData.getD (.obj []) }
    | none => s
  if args.secondaryProvided then
    { changed with
      secondaryTherapistId := args.secondaryTherapistId
      secondaryTherapistData :=
        args.secondaryTherapistId.map fun _ => args.secondaryTherapistData.getD (.obj []) }
  else changed

/-- The sessions with the first one of the given id changed. -/
def changeSession (sessionId : Uuid) (f : Session → Session) : List Session → List Session
  | [] => []
  | s :: rest => if s.sessionId = sessionId then f s :: rest else s :: changeSession sessionId f rest

/-- The booking with the therapist of one of its sessions changed. -/
def changedColumns (sessionId : Uuid) (args : ChangeArgs) (b : BookingRow) : BookingRow :=
  match changeSession sessionId (changeTherapists args) (getBookingSessions b) with
  | [] => b
  | first :: rest =>
    let m := legacyMirror first rest
    { b with
      sessions := first :: rest
      therapistId := m.therapistId.getD b.therapistId
      therapistData := some m.therapistData
      secondaryTherapistId := m.secondaryTherapistId
      secondaryTherapistData :=
        if m.secondaryTherapistId.isSome then m.secondaryTherapistData else none }

/-- A new therapist of the session is free in its window. -/
def checkNewTherapist (bookingId : Uuid) (target : Session) (therapistId : Uuid) : Tx Unit :=
  if Serves target therapistId then pure ()
  else checkFree bookingId target.appointmentStart target.appointmentEnd
    ("Therapist " ++ uuidStr therapistId ++ " is already booked for the requested slot.") therapistId

/-- The hold of the session follows its first therapist. -/
def moveHold (bookingId : Uuid) (target : Session) (therapistId : Uuid) : Tx Unit :=
  update [] fun d => { d with
    temporaryHolds := d.temporaryHolds.map fun h =>
      if h.bookingId = bookingId ∧ some h.therapistId = target.therapistId ∧
          h.appointmentStart = target.appointmentStart then { h with therapistId := therapistId }
      else h }

/-- `change_session_therapist` -/
def changeSessionTherapist (bookingId sessionId : Uuid) (args : ChangeArgs) : Tx BookingRow := do
  let row ← getById bookingId
  match (getBookingSessions row).find? (·.sessionId = sessionId) with
  | none => throw (.validation ("Session " ++ uuidStr sessionId ++ " not found in booking."))
  | some target => do
    raiseIf ((newSecondary args target).isSome ∧ newSecondary args target = newPrimary args target)
      (.validation "The secondary therapist must differ from the primary therapist.")
    forSome (newPrimary args target) (checkNewTherapist bookingId target)
    forSome (newSecondary args target) (checkNewTherapist bookingId target)
    let changed := changedColumns sessionId args row
    raiseIf ((changed.sessions.map (·.therapistId)).head? = some none)
      (.valueError "badly formed hexadecimal UUID string")
    if args.therapistId.isSome ∧ target.therapistId.isSome ∧ args.therapistId ≠ target.therapistId then
      forSome args.therapistId (moveHold bookingId target)
    else pure ()
    let written ← flushBooking ((Orm.ofRow row).set (assignUpdated changed))
    pure written.row

end Booking
