import UshBookNPay.Booking.SessionRequests

/-!
# Session plans

`plan_sessions` up to the plan it returns, with the snapshots of the therapists and any answers of the
availability service.
-/

namespace Booking

/-! ## _therapist_snapshot -/

/-- `{**d, **fields}` -/
def mergeDict (d fields : Dict) : Dict :=
  fields.foldl (fun acc kv => Json.setField acc kv.1 kv.2) d

/-- `d.setdefault(key, value)` -/
def setDefault (d : Dict) (key : String) (value : Json) : Dict :=
  if (d.lookup key).isSome then d else d ++ [(key, value)]

/-- The first value that is truthy. -/
def firstTruthy (values : List (Option Json)) : Option Json := (values.filterMap id).find? Json.truthy

/-- `therapist_display_name` -/
def therapistDisplayName (raw : Dict) : String :=
  if raw = [] then ""
  else match firstTruthy [raw.lookup "therapist_name", raw.lookup "name", raw.lookup "full_name"] with
    | some name => name.text
    | none => Text.strip (((raw.lookup "first_name").getD (.str "")).text ++ " " ++
        ((raw.lookup "last_name").getD (.str "")).text)

/-- `_therapist_snapshot`. The profile of ushauth is asked for where the client has sent no name or no
picture; what the client has sent goes before everything. -/
def therapistSnapshot (profiles : Uuid → Option Dict) (therapistId : Uuid) (provided : Dict)
    (name : Option String) : Dict :=
  let own := if name.getD "" ≠ "" then name.getD "" else therapistDisplayName provided
  let avatar := firstTruthy [provided.lookup "avatar", provided.lookup "photo_url"]
  let profile := if own = "" ∨ avatar = none then (profiles therapistId).getD [] else []
  let nm := if own ≠ "" then own else therapistDisplayName profile
  let picture := avatar.or (firstTruthy [profile.lookup "avatar", profile.lookup "photo_url"])
  let snap := mergeDict [("id", .str (uuidStr therapistId)), ("name", .str nm),
    ("therapist_name", .str nm), ("full_name", .str nm)] provided
  match picture with
  | some value => setDefault (setDefault snap "avatar" value) "photo_url" value
  | none => snap

/-! ## What is sent -/

/-- What the client says of a therapist. -/
structure TherapistSent where
  name : Option String := none
  data : Dict := []
  deriving DecidableEq

/-- A session as it is sent. -/
structure SentSession where
  item : BookingSessionItem
  therapist : TherapistSent := {}
  secondary : TherapistSent := {}
  deriving DecidableEq

/-- The session with the snapshots of its therapists. -/
def SentSession.resolved (profiles : Uuid → Option Dict) (s : SentSession) : BookingSessionItem :=
  { s.item with
    therapistData := .obj (therapistSnapshot profiles s.item.therapistId s.therapist.data
      s.therapist.name)
    secondaryTherapistData := match s.item.secondaryTherapistId with
      | some id => .obj (therapistSnapshot profiles id s.secondary.data s.secondary.name)
      | none => .null }

/-- A call of `plan_sessions`; the sessions are asked about in their order, and the service answers
each. -/
structure PlanCall where
  sent : List SentSession
  day : ℤ
  isLoyaltyBooking : Bool := false
  checkAvailability : Bool := true
  branchId : Option Uuid := none
  excludeBookingId : Option Uuid := none
  answers : List AvailabilityAnswer := []

def PlanCall.request (profiles : Uuid → Option Dict) (call : PlanCall) : SessionsRequest :=
  { items := call.sent.map (·.resolved profiles)
    day := call.day
    isLoyaltyBooking := call.isLoyaltyBooking
    checkAvailability := call.checkAvailability
    branchId := call.branchId
    excludeBookingId := call.excludeBookingId }

/-! ## The plan -/

/-- `SessionPlan` -/
structure SessionPlan where
  sessions : List Session
  mirror : Mirror
  totals : BookingTotals
  serviceEntries : List ServiceEntry
  deriving DecidableEq

/-- `legacy_mirror`; there is none of no sessions. -/
def mirrorOf : List Session → Option Mirror
  | [] => none
  | first :: rest => some (legacyMirror first rest)

/-- `plan_sessions` up to the checks, which the availability service answers in any way. -/
def planAnswered (up : Records) (req : SessionsRequest) (answers : List AvailabilityAnswer) :
    Except Error (List Session) := do
  let ctx ← resolvePackageContext up (req.items.map (·.services))
  let built ← buildSessions up ctx req
  validatePackageExclusivity built
  let sessions ← validateSessions built
    (if ctx ≠ [] then MAX_PACKAGE_SESSIONS_PER_BOOKING else MAX_SESSIONS_PER_BOOKING)
  if localDay ((sessions.map (·.appointmentStart)).headD 0) ≠ req.day then
    throw (.valueError ("Session times must be on the booking date (" ++ dateStr req.day ++ ")."))
  else if req.checkAvailability then checkAll req.excludeBookingId.isSome answers sessions
  else pure sessions

/-- `plan_sessions` -/
def planCall (profiles : Uuid → Option Dict) (up : Records) (call : PlanCall) :
    Except Error SessionPlan := do
  let sessions ← planAnswered up (call.request profiles) call.answers
  match mirrorOf sessions with
  | some mirror =>
    pure
      { sessions := sessions
        mirror := mirror
        totals := bookingTotals sessions
        serviceEntries := flattenServices sessions }
  | none => throw .typeError

/-! ## Sound plans -/

/-- The data is that of the therapist. -/
def Describes (data : Json) (therapistId : Uuid) : Prop :=
  data.field? "id" = some (.str (uuidStr therapistId))

structure PlanSound (plan : SessionPlan) : Prop where
  distinct : ∀ s ∈ plan.sessions, ∀ t, s.therapistId = some t → s.secondaryTherapistId ≠ some t
  described : ∀ s ∈ plan.sessions, ∃ t, s.therapistId = some t ∧ Describes s.therapistData t
  apart : plan.sessions.Pairwise fun s s' => ∀ t, Serves s t → Serves s' t →
    s.appointmentEnd ≤ s'.appointmentStart
  mirror : some plan.mirror = mirrorOf plan.sessions

/-- The sessions in the order in which they begin. -/
def inTurn (sent : List SentSession) : List SentSession :=
  sent.insertionSort fun s s' => s.item.start ≤ s'.item.start

/-- The therapist that is reserved for a session: the one in the answer, where there is one. -/
def reserved (checked : Bool) (answer : AvailabilityAnswer) (s : SentSession) : Uuid :=
  if checked ∧ s.item.serviceArrangementId ≠ none then answer.therapistId.getD s.item.therapistId
  else s.item.therapistId

/-- The therapist whose id the data shows; of two ids in what is sent the last counts. -/
def shownId (s : SentSession) : Json :=
  (s.therapist.data.reverse.lookup "id").getD (.str (uuidStr s.item.therapistId))

/-- The therapist that is reserved for a session is the one it shows, and not its second one. -/
structure ReservesShown (t : Uuid) (s : SentSession) : Prop where
  shown : shownId s = .str (uuidStr t)
  distinct : s.item.secondaryTherapistId ≠ some t

/-- So it is for every session. -/
def EachReservesShown (call : PlanCall) : Prop :=
  ∀ (i : ℕ) (s : SentSession), (inTurn call.sent)[i]? = some s →
    ReservesShown (reserved call.checkAvailability ((call.answers[i]?).getD {}) s) s

end Booking
