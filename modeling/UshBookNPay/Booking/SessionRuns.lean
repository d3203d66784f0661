import UshBookNPay.Booking.CreateBooking
import UshBookNPay.Lib.Fallible
import UshBookNPay.Lib.Runs

/-!
# Runs of the session writers

Runs of `create_booking`, `update_booking` and `change_session_therapist` over all bookings, and what
is to hold of the sessions of each.
-/

namespace Booking

open scoped Fallible

/-! ## Calls -/

/-- A call, with the request its sessions are planned from. Sessions reach a booking in no other
way. -/
inductive BookingOp where
  | createBooking (plan : Option PlanRequest) (args : CreateArgs)
  | updateBooking (bookingId : Uuid) (plan : Option PlanRequest) (args : UpdateArgs)
  | changeSessionTherapist (bookingId sessionId : Uuid) (args : ChangeArgs)

/-- The arguments of a new booking once its sessions are planned. -/
def createArgs (plan : Option PlanRequest) (args : CreateArgs) : Except Error CreateArgs :=
  match plan with
  | some req => (fun sessions => plannedArgs sessions args) <$> planSessions req false
  | none => .ok { args with sessions := [] }

/-- The arguments of an update once its sessions are planned. -/
def updateArgs (plan : Option PlanRequest) (args : UpdateArgs) : Except Error UpdateArgs :=
  match plan with
  | some req => (fun sessions => { args with sessions := some sessions }) <$> planSessions req true
  | none => .ok { args with sessions := none }

/-- Run `p` on a value, or raise. -/
def withArgs {α : Type} (args : Except Error α) (p : α → Tx BookingRow) : Tx Unit :=
  match args with
  | .ok args => discard (p args)
  | .error e => throw e

def bookingCode : BookingOp → Tx Unit
  | .createBooking plan args => withArgs (createArgs plan args) createBooking
  | .updateBooking bookingId plan args => withArgs (updateArgs plan args) (updateBooking bookingId)
  | .changeSessionTherapist bookingId sessionId args =>
    discard (changeSessionTherapist bookingId sessionId args)

/-- One step of a run: a call, with what the environment answers to its statements. -/
def bookingStep (d : Db) (x : BookingOp × (ℕ → Env)) : Db :=
  Transactions.atomically x.2 (bookingCode x.1) d

/-- `P` of every booking. -/
def EveryBooking (P : BookingRow → Prop) (d : Db) : Prop := ∀ b ∈ d.bookings, P b

/-- A condition on the calls: `C` of the arguments of a new booking, `U` of those of an update and
the booking they find, `T` of the booking whose therapist is changed. -/
structure Conditions where
  C : CreateArgs → Prop := fun _ => True
  U : UpdateArgs → BookingRow → Prop := fun _ _ => True
  T : BookingRow → Prop := fun _ => True

/-- The call meets the conditions. -/
def Conditions.Meets (k : Conditions) (d : Db) (x : BookingOp × (ℕ → Env)) : Prop :=
  match x.1 with
  | .createBooking plan args => ∀ full, createArgs plan args = .ok full → k.C full
  | .updateBooking bookingId plan args => ∀ full, updateArgs plan args = .ok full →
      ∀ row, Table.get d.bookings bookingId = some row → k.U full row
  | .changeSessionTherapist bookingId _ _ =>
      ∀ row, Table.get d.bookings bookingId = some row → k.T row

instance (k : Conditions) [DecidablePred k.C] [∀ args, DecidablePred (k.U args)] [DecidablePred k.T]
    (d : Db) : (x : BookingOp × (ℕ → Env)) → Decidable (k.Meets d x)
  | (.createBooking plan args, _) =>
    inferInstanceAs (Decidable (∀ full, createArgs plan args = .ok full → k.C full))
  | (.updateBooking bookingId plan args, _) =>
    inferInstanceAs (Decidable (∀ full, updateArgs plan args = .ok full →
      ∀ row, Table.get d.bookings bookingId = some row → k.U full row))
  | (.changeSessionTherapist bookingId _ _, _) =>
    inferInstanceAs (Decidable (∀ row, Table.get d.bookings bookingId = some row → k.T row))

/-! ## The window of a booking -/

/-- The window of the booking is the one from the first start to the last end of its sessions, and
the filter of the overlap queries drops no booking with a session that overlaps the range. -/
structure SpanFits (b : BookingRow) : Prop where
  inside : ∀ s ∈ b.sessions,
    b.appointmentStart ≤ s.appointmentStart ∧ s.appointmentEnd ≤ b.appointmentEnd
  first : b.sessions ≠ [] → ∃ s ∈ b.sessions, s.appointmentStart = b.appointmentStart
  last : b.sessions ≠ [] → ∃ s ∈ b.sessions, s.appointmentEnd = b.appointmentEnd
  found : b.status ∉ nonBlockingBookingStatuses → ∀ t start finish,
    OverlapsPerSession t start finish b → PreFilter t start finish b

/-- The change of the extra minutes by an update without sessions. -/
def extraDiff (args : UpdateArgs) (row : BookingRow) : ℤ := targetExtra args row - row.extraMinutes

/-- An update that moves or re-assigns a booking of several stored sessions without sending any has,
as its total duration, the time from the start of the booking to the end of the last session with the
change of the extra minutes added, and leaves that session its start. -/
def KeepsSpan (args : UpdateArgs) (row : BookingRow) : Prop :=
  args.sessions = none → 2 ≤ row.sessions.length → TouchesTiming args (replacedRow args row) →
    ∀ last ∈ row.sessions.getLast?,
      last.appointmentStart ≤ last.appointmentEnd + minutes (extraDiff args row) ∧
      row.appointmentStart + minutes (effTotalDuration args (replacedRow args row)) =
        last.appointmentEnd + minutes (extraDiff args row)

instance (args : UpdateArgs) : DecidablePred (KeepsSpan args) := fun _ =>
  inferInstanceAs (Decidable (_ → _ → _ → ∀ last ∈ _, _))

/-! ## The legacy columns -/

/-- The columns are those of the mirror. -/
structure MirrorMatches (b : BookingRow) (m : Mirror) : Prop where
  therapistId : some b.therapistId = m.therapistId
  secondaryTherapistId : b.secondaryTherapistId = m.secondaryTherapistId
  services : b.services.map (·.serviceId) = m.services.map (·.serviceId)
  addons : b.addons = m.addons
  durationMinutes : b.durationMinutes = m.durationMinutes
  extraMinutes : b.extraMinutes = m.extraMinutes
  addonsDuration : b.addonsDuration = some m.addonsDuration
  totalDuration : b.totalDuration = some m.totalDuration

/-- The legacy columns mirror the stored sessions. -/
def Mirrored (b : BookingRow) : Prop :=
  ∀ first rest, b.sessions = first :: rest → MirrorMatches b (legacyMirror first rest)

/-- An update sends no other therapists than those of the first session, and they are two. -/
structure NamesTherapists (args : UpdateArgs) (m : Mirror) : Prop where
  therapistId : ∀ t ∈ args.therapistId, some t = m.therapistId
  secondary : args.secondaryTherapistProvided ∨ args.secondaryTherapistId.isSome →
    args.secondaryTherapistId = m.secondaryTherapistId
  distinct : m.secondaryTherapistId.isSome → m.secondaryTherapistId ≠ m.therapistId

/-- What an update with the sessions `first :: rest` sends besides agrees with them. -/
structure AgreesWithPlan (args : UpdateArgs) (row : BookingRow) (m : Mirror) : Prop where
  therapistId : ∀ t ∈ args.therapistId, some t = m.therapistId
  secondary : args.secondaryTherapistProvided ∨ args.secondaryTherapistId.isSome →
    args.secondaryTherapistId = m.secondaryTherapistId
  distinct : m.secondaryTherapistId.isSome → m.secondaryTherapistId ≠ m.therapistId
  services : ∀ entries ∈ args.services,
    entries.map (·.serviceId) = m.services.map (·.serviceId) ∧
      totalServicesDuration entries = m.durationMinutes
  durationMinutes : m.durationMinutes = 0 → row.durationMinutes = 0
  extraMinutes : ∀ n ∈ args.extraMinutes, n = m.extraMinutes
  addons : ∀ addons ∈ args.addons, addons = m.addons
  addonsDuration : ∀ n ∈ args.addonsDuration, n = m.addonsDuration
  totalDuration : ∀ n ∈ args.totalDuration, n = m.totalDuration

/-- The update leaves the services of the booking, in an arrangement at most. -/
structure KeepsServices (args : UpdateArgs) (row : BookingRow) : Prop where
  same : ∀ entries ∈ args.services, entries.map (·.serviceId) = row.services.map (·.serviceId) ∧
    (totalServicesDuration entries = 0 ∨ totalServicesDuration entries = row.durationMinutes)
  stored : row.services ≠ []

/-- What a booking of one session takes over: add-ons in the form they are stored in, and a total
duration that is not 0 instead of one computed from the parts. -/
structure KeepsSingle (args : UpdateArgs) (row : BookingRow) (s : Session) : Prop where
  addons : flattenAddons [{ s with addons := normaliseAddons (args.addons.getD row.addons) }] =
    args.addons.getD row.addons
  totalDuration : (args.totalDuration.or row.totalDuration) = some 0 →
    effTotalDuration args (replacedRow args row) = 0

/-- What a booking of several sessions takes over: the extra minutes the last session can take, with
the total duration they make, and nothing else. -/
structure KeepsSeveral (args : UpdateArgs) (row : BookingRow) (last : Session) : Prop where
  addons : ∀ addons ∈ args.addons, addons = row.addons
  addonsDuration : ∀ n ∈ args.addonsDuration, some n = row.addonsDuration
  extraMinutes : extraDiff args row ≠ 0 → 0 ≤ last.extraMinutes + extraDiff args row
  totalDuration : args.totalDuration.or row.totalDuration =
    row.totalDuration.map (· + extraDiff args row)

/-- A new booking is sent the add-ons, the extra minutes and the durations of its sessions. -/
structure CreatesWith (args : CreateArgs) (m : Mirror) : Prop where
  addons : args.addons = m.addons
  durationMinutes : args.durationMinutes = m.durationMinutes
  extraMinutes : args.extraMinutes = m.extraMinutes
  addonsDuration : args.addonsDuration = some m.addonsDuration
  totalDuration : args.totalDuration = some m.totalDuration

def CreatesMirrored (args : CreateArgs) : Prop :=
  ∀ first rest, args.sessions = first :: rest → CreatesWith args (legacyMirror first rest)

/-- The condition under which an update keeps the legacy columns in step. -/
structure KeepsMirror (args : UpdateArgs) (row : BookingRow) : Prop where
  planned : ∀ sessions, args.sessions = some sessions → ∀ first rest, sessions = first :: rest →
    AgreesWithPlan args row (legacyMirror first rest)
  services : args.sessions = none → KeepsServices args row
  single : args.sessions = none → ∀ s, row.sessions = [s] → KeepsSingle args row s
  several : args.sessions = none → 2 ≤ row.sessions.length →
    ∀ last ∈ row.sessions.getLast?, KeepsSeveral args row last

/-! ## The law of the durations -/

/-- The window of a session is as long as its services, its add-ons and its extra minutes. -/
structure SessionLaw (s : Session) : Prop where
  window : s.appointmentEnd - s.appointmentStart = minutes s.totalSessionDuration
  total : s.totalSessionDuration = s.servicesDuration + s.addonsDuration + s.extraMinutes

/-- The stored sessions are valid as they stand, and each obeys the law. -/
def WindowsLawful (b : BookingRow) : Prop :=
  b.sessions ≠ [] →
    validateSessions b.sessions MAX_PACKAGE_SESSIONS_PER_BOOKING = .ok b.sessions ∧
      ∀ s ∈ b.sessions, SessionLaw s

/-- The columns of a booking of one session are those of the session. -/
structure SingleAgrees (b : BookingRow) (s : Session) : Prop where
  appointmentStart : b.appointmentStart = s.appointmentStart
  appointmentEnd : b.appointmentEnd = s.appointmentEnd
  durationMinutes : b.durationMinutes = s.servicesDuration
  extraMinutes : b.extraMinutes = s.extraMinutes
  addonsDuration : b.addonsDuration = some s.addonsDuration
  totalDuration : b.totalDuration = some s.totalSessionDuration

/-- The windows are lawful and, of a single session, known to the columns. -/
structure LawKept (b : BookingRow) : Prop where
  lawful : WindowsLawful b
  single : ∀ s, b.sessions = [s] → SingleAgrees b s

/-- A booking of one session is created with the durations of the session. -/
def CreatesLawfully (args : CreateArgs) : Prop :=
  ∀ s, args.sessions = [s] → args.durationMinutes = s.servicesDuration ∧
    args.extraMinutes = s.extraMinutes ∧ args.addonsDuration = some s.addonsDuration ∧
    args.totalDuration = some s.totalSessionDuration

/-- An update that brings one session sends no other durations besides. -/
structure AgreesWithSession (args : UpdateArgs) (row : BookingRow) (s : Session) : Prop where
  services : ∀ entries ∈ args.services, totalServicesDuration entries = s.servicesDuration
  durationMinutes : s.servicesDuration = 0 → row.durationMinutes = 0
  extraMinutes : ∀ n ∈ args.extraMinutes, n = s.extraMinutes
  addonsDuration : ∀ n ∈ args.addonsDuration, n = s.addonsDuration
  totalDuration : ∀ n ∈ args.totalDuration, n = s.totalSessionDuration

/-- An update of a booking of one session leaves the services their duration, sends with every other
duration the total they make and moves the window, on one day, where the total changes. -/
structure MovesSingle (args : UpdateArgs) (row : BookingRow) (s : Session) : Prop where
  services : ∀ entries ∈ args.services,
    totalServicesDuration entries = 0 ∨ totalServicesDuration entries = row.durationMinutes
  total : args.totalDuration.getD s.totalSessionDuration = s.servicesDuration +
    args.addonsDuration.getD s.addonsDuration + args.extraMinutes.getD s.extraMinutes
  positive : 0 < args.totalDuration.getD s.totalSessionDuration
  window : args.totalDuration.getD s.totalSessionDuration = s.totalSessionDuration ∨
    TouchesTiming args (replacedRow args row)
  day : localDay (args.appointmentStart.getD s.appointmentStart) =
    localDay (args.appointmentStart.getD s.appointmentStart +
      minutes (args.totalDuration.getD s.totalSessionDuration))

/-- An update of a booking of several sessions keeps them on one day, and the last session keeps
extra minutes and a duration. -/
structure MovesSeveral (args : UpdateArgs) (row : BookingRow) (last : Session) : Prop where
  extraMinutes : 0 ≤ last.extraMinutes + extraDiff args row
  positive : 0 < last.totalSessionDuration + extraDiff args row
  day : ∀ s ∈ row.sessions,
    let delta := args.appointmentStart.getD row.appointmentStart - row.appointmentStart
    let day := localDay ((row.sessions.map (·.appointmentStart)).headD 0 + delta)
    localDay (s.appointmentStart + delta) = day ∧ localDay (s.appointmentEnd + delta) = day
  last : localDay (last.appointmentEnd + (args.appointmentStart.getD row.appointmentStart -
      row.appointmentStart) + minutes (extraDiff args row)) =
    localDay ((row.sessions.map (·.appointmentStart)).headD 0 +
      (args.appointmentStart.getD row.appointmentStart - row.appointmentStart))

/-- The condition under which an update keeps the sessions valid and lawful. -/
structure KeepsLaw (args : UpdateArgs) (row : BookingRow) : Prop where
  planned : ∀ sessions, args.sessions = some sessions →
    ∀ s, sessions = [s] → AgreesWithSession args row s
  single : args.sessions = none → ∀ s, row.sessions = [s] → MovesSingle args row s
  several : args.sessions = none → 2 ≤ row.sessions.length →
    ∀ last ∈ row.sessions.getLast?, MovesSeveral args row last

instance (args : CreateArgs) (m : Mirror) : Decidable (CreatesWith args m) :=
  decidable_of_iff (_ ∧ _ ∧ _ ∧ _ ∧ _)
    ⟨fun ⟨h1, h2, h3, h4, h5⟩ => ⟨h1, h2, h3, h4, h5⟩, fun ⟨h1, h2, h3, h4, h5⟩ => ⟨h1, h2, h3, h4, h5⟩⟩

instance : DecidablePred CreatesMirrored := fun _ =>
  inferInstanceAs (Decidable (∀ first rest, _ = first :: rest → _))

instance (args : UpdateArgs) (row : BookingRow) (m : Mirror) : Decidable (AgreesWithPlan args row m) :=
  decidable_of_iff (_ ∧ _ ∧ _ ∧ _ ∧ _ ∧ _ ∧ _ ∧ _ ∧ _)
    ⟨fun ⟨h1, h2, h3, h4, h5, h6, h7, h8, h9⟩ => ⟨h1, h2, h3, h4, h5, h6, h7, h8, h9⟩,
      fun ⟨h1, h2, h3, h4, h5, h6, h7, h8, h9⟩ => ⟨h1, h2, h3, h4, h5, h6, h7, h8, h9⟩⟩

instance (args : UpdateArgs) (row : BookingRow) : Decidable (KeepsServices args row) :=
  decidable_of_iff (_ ∧ _) ⟨fun ⟨h1, h2⟩ => ⟨h1, h2⟩, fun ⟨h1, h2⟩ => ⟨h1, h2⟩⟩

instance (args : UpdateArgs) (row : BookingRow) (s : Session) : Decidable (KeepsSingle args row s) :=
  decidable_of_iff (_ ∧ _) ⟨fun ⟨h1, h2⟩ => ⟨h1, h2⟩, fun ⟨h1, h2⟩ => ⟨h1, h2⟩⟩

instance (args : UpdateArgs) (row : BookingRow) (last : Session) :
    Decidable (KeepsSeveral args row last) :=
  decidable_of_iff (_ ∧ _ ∧ _ ∧ _)
    ⟨fun ⟨h1, h2, h3, h4⟩ => ⟨h1, h2, h3, h4⟩, fun ⟨h1, h2, h3, h4⟩ => ⟨h1, h2, h3, h4⟩⟩

instance (args : UpdateArgs) : DecidablePred (KeepsMirror args) := fun _ =>
  decidable_of_iff (_ ∧ _ ∧ _ ∧ _)
    ⟨fun ⟨h1, h2, h3, h4⟩ => ⟨h1, h2, h3, h4⟩, fun ⟨h1, h2, h3, h4⟩ => ⟨h1, h2, h3, h4⟩⟩

instance : DecidablePred CreatesLawfully := fun _ =>
  inferInstanceAs (Decidable (∀ s, _ = [s] → _))

instance (args : UpdateArgs) (row : BookingRow) (s : Session) :
    Decidable (AgreesWithSession args row s) :=
  decidable_of_iff (_ ∧ _ ∧ _ ∧ _ ∧ _)
    ⟨fun ⟨h1, h2, h3, h4, h5⟩ => ⟨h1, h2, h3, h4, h5⟩, fun ⟨h1, h2, h3, h4, h5⟩ => ⟨h1, h2, h3, h4, h5⟩⟩

instance (args : UpdateArgs) (row : BookingRow) (s : Session) : Decidable (MovesSingle args row s) :=
  decidable_of_iff (_ ∧ _ ∧ _ ∧ _ ∧ _)
    ⟨fun ⟨h1, h2, h3, h4, h5⟩ => ⟨h1, h2, h3, h4, h5⟩, fun ⟨h1, h2, h3, h4, h5⟩ => ⟨h1, h2, h3, h4, h5⟩⟩

instance (args : UpdateArgs) (row : BookingRow) (last : Session) :
    Decidable (MovesSeveral args row last) :=
  decidable_of_iff (_ ∧ _ ∧ _ ∧ _)
    ⟨fun ⟨h1, h2, h3, h4⟩ => ⟨h1, h2, h3, h4⟩, fun ⟨h1, h2, h3, h4⟩ => ⟨h1, h2, h3, h4⟩⟩

instance (args : UpdateArgs) : DecidablePred (KeepsLaw args) := fun _ =>
  decidable_of_iff (_ ∧ _ ∧ _)
    ⟨fun ⟨h1, h2, h3⟩ => ⟨h1, h2, h3⟩, fun ⟨h1, h2, h3⟩ => ⟨h1, h2, h3⟩⟩

/-! ## Calls of a small salon -/

/-- A request for sessions of one hour by one therapist, starting at the given hours. -/
def hourSessions (hours : List ℕ) : PlanRequest :=
  { items := hours.map fun h =>
      { sessionId := h
        start := minutes (60 * h)
        therapistId := 2
        services := [{ serviceId := some 3, basePrice := 10000, durationMinutes := 60 }] }
    day := 0
    checkAvailability := false }

def createsHours (hours : List ℕ) : BookingOp × (ℕ → Env) :=
  (.createBooking (some (hourSessions hours))
    { customerId := 4, therapistId := 2, addonsDuration := some 0
      totalDuration := some (60 * hours.length) },
    fun _ => { uuid := 1 })

def updates (args : UpdateArgs) : BookingOp × (ℕ → Env) :=
  (.updateBooking 1 none args, fun _ => {})

end Booking
