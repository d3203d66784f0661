import UshBookNPay.Availability.Engine
import UshBookNPay.Booking.Repository
import UshBookNPay.Common.DateTimes

/-!
# The availability API

`get_availability`: the free slots of the therapists of a service, from what ushauth knows of them and
from the stored bookings and holds.
-/

namespace Availability

open Booking (SessionsInside getActiveBookingsForTherapistsInRange getActiveHoldsForTherapistInRange
  therapistBusyWindows)

/-! ## What ushauth answers -/

/-- A branch: the offset of its zone from UTC and its hours, as times of the day. -/
structure Branch where
  utcOffset : ℤ := DateTime.kuwaitOffset
  openingTime : Option Instant
  closingTime : Option Instant

structure Therapist where
  id : String
  canDoHomeService : Bool := false
  schedule : List Json := []

/-- The answers a request depends on. -/
structure Catalog where
  branch : Branch
  /-- `duration_minutes` of the service -/
  durationMinutes : ℕ
  /-- `get_therapist` -/
  therapist : Uuid → Therapist
  /-- `list_therapists_for_service` -/
  therapistsForService : List Therapist

/-- The query of a request. -/
structure AvailabilityRequest where
  therapistId : Option Uuid := none
  daysAhead : ℕ := 10
  serviceType : String := "branch"

/-! ## The input of the engine -/

/-- `uuid.UUID(t["id"])` -/
def Therapist.uuid (t : Therapist) : Except Error Uuid :=
  match parseUuid t.id with
  | some id => .ok id
  | none => .error (.valueError "badly formed hexadecimal UUID string")

/-- The instant the local day begins. -/
def Branch.midnight (branch : Branch) (date : ℤ) : Instant :=
  date * 86400000000 - branch.utcOffset

/-- `dt.fromisoformat(entry.get(key, ""))`, a naive time being one of the branch. -/
def scheduleTime (branch : Branch) (entry : Json) (key : String) : Option Instant :=
  match entry.field? key with
  | none | some (.str "") => none
  | some (.str text) =>
    (DateTime.fromisoformat text).map fun dt => dt.clock - dt.offset.getD branch.utcOffset
  | some _ => none

/-- The working time of an entry of a schedule; an entry that cannot be read is passed over. -/
def workingInterval (branch : Branch) (entry : Json) : Option (Interval Instant) := do
  let start ← scheduleTime branch entry "start_datetime"
  let stop ← scheduleTime branch entry "end_datetime"
  pure ⟨start, stop⟩

/-- The windows in which the bookings block the therapist of the key. -/
def busyWindows (therapistIds : List Uuid) (bookings : List BookingRow) (key : String) :
    List (Interval Instant) :=
  bookings.flatMap fun b => therapistIds.flatMap fun t =>
    if uuidStr t = key then (therapistBusyWindows b t).map fun w => ⟨w.1, w.2⟩ else []

/-- The windows in which holds block the therapist of the key. -/
def holdWindows (therapistIds : List Uuid) (holds : Uuid → List Booking.TemporaryHoldRow)
    (key : String) : List (Interval Instant) :=
  therapistIds.flatMap fun t =>
    if uuidStr t = key then (holds t).map fun h => ⟨h.appointmentStart, h.appointmentEnd⟩ else []

/-- The therapists of the request, of those who do home service where it is one. -/
def rawTherapists (catalog : Catalog) (req : AvailabilityRequest) : List Therapist :=
  let therapists := match req.therapistId with
    | some id => [catalog.therapist id]
    | none => catalog.therapistsForService
  if req.serviceType = "home" then therapists.filter (·.canDoHomeService) else therapists

/-! ## The endpoint -/

/-- What is read for all the therapists at once. -/
structure Batch where
  therapistIds : List Uuid
  bookings : List BookingRow
  holds : Uuid → List Booking.TemporaryHoldRow

def readBatch (therapistIds : List Uuid) (start finish now : Instant) (d : Db) : Batch where
  therapistIds := therapistIds
  bookings := getActiveBookingsForTherapistsInRange therapistIds start finish d
  holds := fun t => getActiveHoldsForTherapistInRange t start finish now d

def scheduleInput (branch : Branch) (batch : Batch) (therapist : Therapist) :
    TherapistScheduleInput where
  workingHours := mergeIntervals (therapist.schedule.filterMap (workingInterval branch))
  leaves := []
  extraHours := []
  existingBookings := mergeIntervals (busyWindows batch.therapistIds batch.bookings therapist.id)
  homeBookings := []
  temporaryHolds := mergeIntervals (holdWindows batch.therapistIds batch.holds therapist.id)

/-- `get_availability`, on the local day `today` and at the instant `now`: the days of each therapist. -/
def getAvailability (catalog : Catalog) (req : AvailabilityRequest) (slotMinutes : ℕ) (today : ℤ)
    (now : Instant) (d : Db) : Except Error (List (Therapist × List (ℤ × DayAvailability))) :=
  match catalog.branch.openingTime, catalog.branch.closingTime with
  | some opening, some closing => do
    let therapists := rawTherapists catalog req
    let dates := (List.range req.daysAhead).map fun n : ℕ => today + n
    if therapists = [] then pure []
    else do
      let therapistIds ← therapists.mapM (·.uuid)
      let midnight := catalog.branch.midnight
      let batch := readBatch therapistIds (midnight (dates.headD today) + opening)
        (midnight (dates.getLastD today) + closing) now d
      let engine : Engine := ⟨catalog.durationMinutes, slotMinutes⟩
      pure (therapists.map fun t => (t,
        engine.computeTherapistAvailability (scheduleInput catalog.branch batch t) dates midnight
          opening closing))
  | _, _ => .error (.http 422 "Branch does not have configured opening/closing times.")

/-! ## The checks of a booking -/

/-- Neither check finds anything of the therapist in `[start, finish)`. -/
def ReportedFree (therapistId : Uuid) (start finish now : Instant) (d : Db) : Prop :=
  Booking.findTherapistOverlap therapistId start finish none d = none ∧
    ∀ therapistIds,
      therapistId ∉ Booking.getBusyTherapistIdsInRange therapistIds start finish now d

/-- The days listed for a therapist agree with the checks: what is offered is reported free for the
whole of the service, and a start of the grid that is reported free in the working time and the hours of
the branch is offered. -/
structure AgreesWithChecks (catalog : Catalog) (slotMinutes : ℕ) (now : Instant) (d : Db)
    (opening closing : Instant) (therapist : Therapist) (therapistId : Uuid)
    (days : List (ℤ × DayAvailability)) : Prop where
  offered : ∀ day ∈ days, ∀ block ∈ day.2.blocks, block.available →
    ReportedFree therapistId block.start (block.start + minutes catalog.durationMinutes) now d
  listed : ∀ day ∈ days, ∀ k : ℕ, ∀ s,
    s = catalog.branch.midnight day.1 + opening + k * minutes slotMinutes →
    s + minutes catalog.durationMinutes ≤ catalog.branch.midnight day.1 + closing →
    Set.Ico s (s + minutes catalog.durationMinutes) ⊆
      Intervals.covered (therapist.schedule.filterMap (workingInterval catalog.branch)) →
    therapistId ∉ Booking.getBusyTherapistIdsInRange [therapistId] s
      (s + minutes catalog.durationMinutes) now d →
    ∃ block ∈ day.2.blocks, block.available ∧ block.start = s

/-- The listing succeeds and agrees with the checks for every therapist of the request. -/
def ListingAgrees (catalog : Catalog) (req : AvailabilityRequest) (slotMinutes : ℕ) (today : ℤ)
    (now : Instant) (d : Db) (opening closing : Instant) : Prop :=
  ∃ listing, getAvailability catalog req slotMinutes today now d = .ok listing ∧
    listing.map (·.1) = rawTherapists catalog req ∧
    ∀ entry ∈ listing, ∀ id, parseUuid entry.1.id = some id →
      AgreesWithChecks catalog slotMinutes now d opening closing entry.1 id entry.2

/-- Whatever blocks a therapist takes some time: the blocking bookings and the unexpired holds. -/
structure TakesTime (now : Instant) (d : Db) : Prop where
  bookings : ∀ b ∈ d.bookings, b.status ∉ Booking.nonBlockingBookingStatuses →
    ∀ t, ∀ w ∈ therapistBusyWindows b t, w.1 < w.2
  holds : ∀ h ∈ d.temporaryHolds, now < h.expiresAt → h.appointmentStart < h.appointmentEnd

/-- The therapists go by their ids as `str` spells them. -/
def SpelledOut (catalog : Catalog) (req : AvailabilityRequest) : Prop :=
  ∀ t ∈ rawTherapists catalog req, ∃ id, parseUuid t.id = some id ∧ t.id = uuidStr id

end Availability
