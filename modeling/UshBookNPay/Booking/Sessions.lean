import Mathlib.Data.List.Sort
import UshBookNPay.Booking.ServicesSnapshot
import UshBookNPay.Core.Database

/-!
# Sessions of a booking

Building, validating and reading the sessions, and the legacy columns that mirror them.
-/

namespace Booking

def MAX_SESSIONS_PER_BOOKING : ℕ := 3

/-- Bookings that include a package booked by its parts may use more sessions. -/
def MAX_PACKAGE_SESSIONS_PER_BOOKING : ℕ := 5

/-! ## Building -/

/-- The significant digits of the results of decimal arithmetic. -/
def DECIMAL_PRECISION : ℕ := 28

/-- `compute_extra_price`: the extra minutes at the rate of the service itself. -/
def computeExtraPrice (extraMinutes unitMinutes : ℤ) (unitPrice : ℚ) : ℚ :=
  let mins := max extraMinutes 0
  if mins = 0 ∨ unitPrice ≤ 0 then 0
  else
    let units := FixedPoint.roundDigits DECIMAL_PRECISION
      (mins / (if unitMinutes = 0 then 30 else unitMinutes))
    FixedPoint.roundDigits DECIMAL_PRECISION (units * unitPrice)

/-- What a session is built from. -/
structure SessionParts where
  sessionId : Uuid
  start : Instant
  therapistId : Uuid
  therapistData : Json := .obj []
  secondaryTherapistId : Option Uuid := none
  secondaryTherapistData : Json := .obj []
  arrangementId : Option Uuid := none
  arrangementData : Json := .obj []
  services : List ServiceEntry
  addons : List Json := []
  extraMinutes : ℤ := 0
  extraUnitMinutes : ℤ := 0
  extraUnitPrice : ℚ := 0
  deriving DecidableEq

/-- The services of a session, in its arrangement and numbered. -/
def sessionEntries (arrangementId : Option Uuid) (services : List ServiceEntry) :
    List ServiceEntry :=
  services.zipIdx.map fun (e, i) =>
    { e with position := i, serviceArrangementId := arrangementId.or e.serviceArrangementId }

/-- `build_session`: durations, prices and the end are computed here. -/
def buildSession (position : ℕ) (p : SessionParts) : Except Error Session :=
  if p.services = [] then .error (.valueError "A session needs at least one service.")
  else
    let entries := sessionEntries p.arrangementId p.services
    let servicesDuration := totalServicesDuration entries
    let servicesPrice := totalServicesPrice entries
    let addonsDuration := (p.addons.map addonDuration).sum
    let addonsPrice := (p.addons.map addonPrice).sum
    let extra := max p.extraMinutes 0
    let extraPrice := computeExtraPrice extra p.extraUnitMinutes p.extraUnitPrice
    let totalDuration := servicesDuration + addonsDuration + extra
    .ok
      { sessionId := p.sessionId
        position := position
        therapistId := some p.therapistId
        therapistData := p.therapistData
        secondaryTherapistId := p.secondaryTherapistId
        secondaryTherapistData := p.secondaryTherapistId.map fun _ => p.secondaryTherapistData
        serviceArrangementId := p.arrangementId
        serviceArrangementData := p.arrangementData
        services := entries
        addons := normaliseAddons p.addons
        extraMinutes := extra
        priceForExtraMinutes := money extraPrice
        servicesDuration := servicesDuration
        addonsDuration := addonsDuration
        totalSessionDuration := totalDuration
        servicesPrice := servicesPrice
        addonsPrice := addonsPrice
        sessionPrice := money (FixedPoint.roundDigits DECIMAL_PRECISION
          (toDecimal servicesPrice + toDecimal addonsPrice + extraPrice))
        appointmentStart := p.start
        appointmentEnd := p.start + minutes totalDuration }

/-! ## Validating -/

/-- `sort_sessions`: by start, and numbered. -/
def sortSessions (sessions : List Session) : List Session :=
  (sessions.insertionSort fun s s' => s.appointmentStart ≤ s'.appointmentStart).zipIdx.map
    fun (s, i) => { s with position := i }

/-- What is wrong with a session on its own. -/
def sessionError (s : Session) (i : ℕ) : Option Error :=
  let refused := fun text : String => some (.valueError ("sessions[" ++ toString i ++ "]: " ++ text))
  if s.therapistId = none then refused "therapist_id is required."
  else if s.services = [] then refused "at least one service is required."
  else if s.appointmentEnd ≤ s.appointmentStart then refused "invalid start/end time."
  else none

/-- What is wrong with the sorted sessions: another date than `day`, or an overlap with the session
before, which ends at `prevEnd`. -/
def orderError (day : ℤ) : Option Instant → ℕ → List Session → Option Error
  | _, _, [] => none
  | prevEnd, i, s :: rest =>
    if localDay s.appointmentStart ≠ day ∨ localDay s.appointmentEnd ≠ day then
      some (.valueError ("sessions[" ++ toString i ++
        "]: all sessions of a booking must be on the same date (" ++ dateStr day ++ ")."))
    else if prevEnd.any (s.appointmentStart < ·) then
      some (.valueError ("sessions[" ++ toString i ++ "]: overlaps the previous session."))
    else orderError day (some s.appointmentEnd) (i + 1) rest

/-- `validate_sessions`: the sessions sorted by start. -/
def validateSessions (sessions : List Session) (maxSessions : ℕ) : Except Error (List Session) :=
  if sessions = [] then .error (.valueError "At least one session is required.")
  else if maxSessions < sessions.length then
    .error (.valueError ("A booking can contain at most " ++ toString maxSessions ++ " sessions."))
  else match sessions.zipIdx.findSome? fun (s, i) => sessionError s i with
    | some e => .error e
    | none =>
      let ordered := sortSessions sessions
      match orderError (localDay ((ordered.map (·.appointmentStart)).headD 0)) none 0 ordered with
      | some e => .error e
      | none => .ok ordered

/-! ## The legacy columns -/

/-- `flatten_services`: the services of all sessions, each with its session. -/
def flattenServices (sessions : List Session) : List ServiceEntry :=
  (sessions.flatMap fun s => s.services.map fun e => { e with sessionId := some s.sessionId }).zipIdx.map
    fun (e, i) => { e with position := i }

/-- `flatten_addons` -/
def flattenAddons (sessions : List Session) : List Json :=
  sessions.flatMap fun s => s.addons.map fun a =>
    Json.withField (some a) "session_id" (.str (uuidStr s.sessionId))

/-- The sums `booking_totals` computes. -/
structure BookingTotals where
  servicesPrice : Fils
  addonsPrice : Fils
  extraPrice : Fils
  sessionPriceTotal : Fils
  servicesDuration : ℤ
  addonsDuration : ℤ
  extraMinutes : ℤ
  totalDuration : ℤ
  deriving DecidableEq

def bookingTotals (sessions : List Session) : BookingTotals :=
  { servicesPrice := (sessions.map (·.servicesPrice)).sum
    addonsPrice := (sessions.map (·.addonsPrice)).sum
    extraPrice := (sessions.map (·.priceForExtraMinutes)).sum
    sessionPriceTotal := (sessions.map (·.sessionPrice)).sum
    servicesDuration := (sessions.map (·.servicesDuration)).sum
    addonsDuration := (sessions.map (·.addonsDuration)).sum
    extraMinutes := (sessions.map (·.extraMinutes)).sum
    totalDuration := (sessions.map (·.totalSessionDuration)).sum }

/-- The legacy column values of a list of sessions. -/
structure Mirror where
  therapistId : Option Uuid
  therapistData : Json
  secondaryTherapistId : Option Uuid
  secondaryTherapistData : Option Json
  services : List ServiceEntry
  addons : List Json
  appointmentStart : Instant
  appointmentEnd : Instant
  durationMinutes : ℤ
  extraMinutes : ℤ
  addonsDuration : ℤ
  totalDuration : ℤ
  servicesPrice : Fils
  deriving DecidableEq

/-- `legacy_mirror` of `first :: rest`: the therapists of the first session, the window from the first
start to the last end, and the sums. -/
def legacyMirror (first : Session) (rest : List Session) : Mirror :=
  let sessions := first :: rest
  let totals := bookingTotals sessions
  { therapistId := first.therapistId
    therapistData := first.therapistData
    secondaryTherapistId := first.secondaryTherapistId
    secondaryTherapistData := first.secondaryTherapistData
    services := flattenServices sessions
    addons := flattenAddons sessions
    appointmentStart := first.appointmentStart
    appointmentEnd := ((first :: rest).getLast (List.cons_ne_nil _ _)).appointmentEnd
    durationMinutes := totals.servicesDuration
    extraMinutes := totals.extraMinutes
    addonsDuration := totals.addonsDuration
    totalDuration := totals.totalDuration
    servicesPrice := totals.servicesPrice }

/-! ## Reading -/

/-- The single session of a booking without stored ones. -/
def sessionFromBooking (b : BookingRow) : Session :=
  let entries := getBookingServices b
  { sessionId := b.id
    position := 0
    therapistId := some b.therapistId
    therapistData := b.therapistData.getD (.obj [])
    secondaryTherapistId := b.secondaryTherapistId
    secondaryTherapistData := if b.secondaryTherapistId.isSome then b.secondaryTherapistData else none
    serviceArrangementId := b.serviceArrangementId
    serviceArrangementData := b.serviceArrangementData.getD (.obj [])
    services := entries
    addons := normaliseAddons b.addons
    extraMinutes := b.extraMinutes
    priceForExtraMinutes := b.priceForExtraMinutes
    servicesDuration := totalServicesDuration entries
    addonsDuration := b.addonsDuration.getD 0
    totalSessionDuration := b.totalDuration.getD (b.durationMinutes + b.extraMinutes)
    servicesPrice := totalServicesPrice entries
    addonsPrice := b.addonPrice
    sessionPrice := totalServicesPrice entries + b.addonPrice + b.priceForExtraMinutes
    appointmentStart := b.appointmentStart
    appointmentEnd := b.appointmentEnd }

/-- `get_booking_sessions` -/
def getBookingSessions (b : BookingRow) : List Session :=
  if b.sessions ≠ [] then b.sessions else [sessionFromBooking b]

/-- The therapist serves the session, as its first or its second therapist. -/
def Serves (s : Session) (therapistId : Uuid) : Prop :=
  s.therapistId = some therapistId ∨ s.secondaryTherapistId = some therapistId

instance (s : Session) (therapistId : Uuid) : Decidable (Serves s therapistId) :=
  inferInstanceAs (Decidable (_ ∨ _))

/-- `therapist_busy_windows`: a therapist is only blocked for the sessions he serves. -/
def therapistBusyWindows (b : BookingRow) (therapistId : Uuid) : List (Instant × Instant) :=
  if b.sessions ≠ [] then
    (b.sessions.filter (Serves · therapistId)).map fun s => (s.appointmentStart, s.appointmentEnd)
  else if b.therapistId = therapistId ∨ b.secondaryTherapistId = some therapistId then
    [(b.appointmentStart, b.appointmentEnd)]
  else []

end Booking
