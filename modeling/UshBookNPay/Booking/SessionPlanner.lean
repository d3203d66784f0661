import UshBookNPay.Booking.Sessions

/-!
# Session planner

`plan_sessions`: builds the sessions of a request, validates them and takes over the therapists the
availability service has reserved. What the services, the arrangements and the therapists of the
request resolve to is part of the request here, and so are the answers of the availability service.
-/

namespace Booking

/-! ## Therapists of an arrangement -/

/-- `required_therapist_count`: couple and double rooms take two therapists. -/
def requiredTherapistCount (arrangementType : Option Json) : ℕ :=
  let kind := match arrangementType with
    | some j => if j.truthy then Text.lower (Text.strip j.text) else ""
    | none => ""
  if kind = "couple_room" ∨ kind = "double_room" then 2 else 1

def requiredTherapists (arrangementData : Json) : ℕ :=
  requiredTherapistCount
    (Voucher.fieldOr (arrangementData.field? "arrangement_type") (arrangementData.field? "type"))

/-- `unique_ids` -/
def uniqueIds (ids : List (Option Uuid)) : List Uuid :=
  (ids.filterMap id).foldl (fun seen x => if x ∈ seen then seen else seen ++ [x]) []

/-! ## Availability -/

/-- What the availability service answers for a session. -/
structure AvailabilityAnswer where
  available : Bool := true
  therapistId : Option Uuid := none
  therapistIds : List Uuid := []
  secondaryTherapistId : Option Uuid := none
  deriving DecidableEq

/-- The service is authoritative about the therapist it has reserved. -/
def takeTherapist (res : AvailabilityAnswer) (s : Session) : Session :=
  match res.therapistId with
  | some chosen => if s.therapistId = some chosen then s else { s with therapistId := some chosen }
  | none => s

/-- The second therapist of a couple or double room that came without one. -/
def takeSecondary (res : AvailabilityAnswer) (s : Session) : Session :=
  if 1 < requiredTherapists s.serviceArrangementData ∧ s.secondaryTherapistId = none then
    let ids := uniqueIds
      (res.therapistId :: res.therapistIds.map some ++ [res.secondaryTherapistId])
    match ids[1]? with
    | some sec =>
      if s.therapistId = some sec then s
      else { s with
        secondaryTherapistId := some sec
        secondaryTherapistData := some (.obj [("id", .str (uuidStr sec))]) }
    | none => s
  else s

/-- `_check_session_availability`; a session without an arrangement is not checked when it is
edited. -/
def checkSessionAvailability (edited : Bool) (res : AvailabilityAnswer) (s : Session) :
    Except Error Session :=
  let refused := fun who : String => Except.error (.conflict ("Session " ++
    toString (s.position + 1) ++ ": the selected " ++ who ++ " is not available at " ++
    localClock s.appointmentStart ++ "."))
  if s.serviceArrangementId = none then
    if edited ∨ res.available then .ok s else refused "therapist"
  else if ¬ res.available then refused "room or therapist"
  else .ok (takeSecondary res (takeTherapist res s))

/-! ## Planning -/

/-- A request for sessions: its items as they resolve, the day it names and the answers of the
availability service in the order of the sessions. -/
structure PlanRequest where
  items : List SessionParts
  day : ℤ
  packaged : Bool := false
  checkAvailability : Bool := true
  answers : List AvailabilityAnswer := []
  deriving DecidableEq

def checkAll (edited : Bool) : List AvailabilityAnswer → List Session → Except Error (List Session)
  | _, [] => .ok []
  | answers, s :: rest => do
    let checked ← checkSessionAvailability edited (answers.headD {}) s
    let others ← checkAll edited answers.tail rest
    pure (checked :: others)

/-- `plan_sessions`, less the rules about packages. -/
def planSessions (req : PlanRequest) (edited : Bool) : Except Error (List Session) := do
  let built ← req.items.zipIdx.mapM fun (p, i) => buildSession i p
  let sessions ← validateSessions built
    (if req.packaged then MAX_PACKAGE_SESSIONS_PER_BOOKING else MAX_SESSIONS_PER_BOOKING)
  if localDay ((sessions.map (·.appointmentStart)).headD 0) ≠ req.day then
    throw (.valueError ("Session times must be on the booking date (" ++ dateStr req.day ++ ")."))
  else if req.checkAvailability then checkAll edited req.answers sessions
  else pure sessions

end Booking
