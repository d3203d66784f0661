import UshBookNPay.Booking.SessionRuns

/-!
# Completed sessions

The daily report to the workforce service: every session of a completed booking that took place on a
local date, once for each serving therapist.
-/

namespace Workforce

open Booking

inductive Role where
  | primary | secondary
  deriving DecidableEq, Repr

/-- A service of a reported session. -/
structure ServiceItem where
  serviceId : Option Uuid
  durationMinutes : ℤ
  deriving DecidableEq

/-- An entry of the report. -/
structure SessionReport where
  sessionId : Uuid
  bookingId : Uuid
  bookingNumber : Option String
  branchId : Option Uuid
  customerId : Uuid
  bookingType : String
  start : Instant
  finish : Instant
  services : List ServiceItem
  addonsMinutes : ℤ
  extraMinutes : ℤ
  therapistId : Uuid
  role : Role
  deriving DecidableEq

/-- `_service_items` -/
def serviceItems (s : Session) : List ServiceItem :=
  s.services.map fun e => { serviceId := e.serviceId, durationMinutes := e.durationMinutes }

/-- The entry of a session and one of its therapists. -/
def report (b : BookingRow) (s : Session) (therapistId : Uuid) (role : Role) : SessionReport :=
  { sessionId := s.sessionId
    bookingId := b.id
    bookingNumber := b.bookingNumber
    branchId := b.branchId
    customerId := b.customerId
    bookingType := b.bookingType
    start := s.appointmentStart
    finish := s.appointmentEnd
    services := serviceItems s
    addonsMinutes := s.addonsDuration
    extraMinutes := s.extraMinutes
    therapistId := therapistId
    role := role }

def primaryOf (b : BookingRow) (s : Session) : Uuid := s.therapistId.getD b.therapistId

/-- The entries of a session: its first therapist and a second one that differs. -/
def sessionRows (b : BookingRow) (s : Session) : List SessionReport :=
  report b s (primaryOf b s) .primary :: (match s.secondaryTherapistId with
    | some t => if t = primaryOf b s then [] else [report b s t .secondary]
    | none => [])

/-- `extract_therapist_sessions`: of the sessions that start on the day. -/
def extractTherapistSessions (b : BookingRow) (day : ℤ) : List SessionReport :=
  (getBookingSessions b).flatMap fun s =>
    if localDay s.appointmentStart ≠ day then [] else sessionRows b s

/-- `completed_sessions`: of the completed bookings of the date. -/
def completedSessions (d : Db) (day : ℤ) : List SessionReport :=
  let lo : Instant := day * 86400000000 - 10800000000
  let hi : Instant := lo + 86400000000
  let bookings := d.bookings.filter fun b =>
    b.status = .completed ∧ lo ≤ b.appointmentDate ∧ b.appointmentDate < hi
  bookings.flatMap (extractTherapistSessions · day)

/-! ## What the report is for -/

/-- The work of a day: the sessions that started on it, of all completed bookings. -/
def workOn (d : Db) (day : ℤ) : List SessionReport :=
  (d.bookings.filter (·.status = .completed)).flatMap fun b =>
    ((getBookingSessions b).filter (localDay ·.appointmentStart = day)).flatMap (sessionRows b)

/-- The report of each day is the work of that day, and names every therapist of a session once. -/
structure ReportsOnce (d : Db) : Prop where
  reported : ∀ day, completedSessions d day = workOn d day
  once : ∀ b ∈ d.bookings, ∀ s ∈ getBookingSessions b,
    ((sessionRows b s).map (·.therapistId)).Nodup ∧
      ∀ t, t ∈ (sessionRows b s).map (·.therapistId) ↔
        t = primaryOf b s ∨ s.secondaryTherapistId = some t

/-- The sessions of the booking start on the local day of its date. -/
structure OnItsDay (b : BookingRow) : Prop where
  date : b.appointmentDate = localMidnight b.appointmentStart
  sessions : ∀ s ∈ b.sessions, localDay s.appointmentStart = localDay b.appointmentStart

/-- An update that moves a booking of several stored sessions moves each of them to its new day. -/
def KeepsDay (args : UpdateArgs) (row : BookingRow) : Prop :=
  args.sessions = none → 2 ≤ row.sessions.length → ∀ s ∈ row.sessions,
    ∀ start ∈ args.appointmentStart,
      localDay (s.appointmentStart + (start - row.appointmentStart)) = localDay start

instance (args : UpdateArgs) : DecidablePred (KeepsDay args) := fun _ =>
  inferInstanceAs (Decidable (_ → _ → ∀ s ∈ _, ∀ start ∈ _, _))

end Workforce
