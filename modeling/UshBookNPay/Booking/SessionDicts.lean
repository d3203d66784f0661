import Mathlib.Data.List.Sort
import UshBookNPay.Common.DateTimes
import UshBookNPay.Lib.Intervals

/-!
# Sessions as the dicts they are given as

`validate_sessions` on dicts: the values of a session are JSON values or dates, its times are dates or
texts with any offset or none, and each of them is read again wherever it is needed.
-/

namespace Booking.SessionDicts

/-- What stands under a key of a session. -/
inductive Value where
  | json (j : Json)
  | datetime (dt : DateTime)
  deriving DecidableEq

abbrev SessionDict := List (String × Value)

/-- `bool(s.get(key))` -/
def isSet (s : SessionDict) (key : String) : Bool :=
  match s.lookup key with
  | none => false
  | some (.json j) => j.truthy
  | some (.datetime _) => true

/-- `s["position"] = i` -/
def setPosition (s : SessionDict) (i : ℕ) : SessionDict :=
  let value := Value.json (.num (toString i))
  if s.any (·.1 = "position") then s.map fun kv => if kv.1 = "position" then (kv.1, value) else kv
  else s ++ [("position", value)]

inductive Failure where
  /-- `SessionValidationError` -/
  | invalid (message : String)
  /-- `OverflowError` -/
  | overflow
  /-- `AssertionError` -/
  | assertion
  deriving DecidableEq

/-- `text.replace("Z", "+00:00")` -/
def replaceZulu (text : String) : String :=
  String.ofList (text.toList.flatMap fun c => if c = 'Z' then "+00:00".toList else [c])

section Validating

-- `iso` is `datetime.fromisoformat`; `none` is a `ValueError`
variable (iso : String → Option DateTime)

/-- `_parse_dt` -/
def parseDt : Option Value → Except Failure (Option Instant)
  | some (.datetime dt) => match dt.toLocalTz with
    | some t => .ok (some t)
    | none => .error .overflow
  | some (.json (.str text)) =>
    if Text.strip text = "" then .ok none
    else match iso (replaceZulu (Text.strip text)) with
      | none => .ok none
      | some dt => match dt.toLocalTz with
        | some t => .ok (some t)
        | none => .error .overflow
  | _ => .ok none

/-- `session_window` -/
def sessionWindow (s : SessionDict) : Except Failure (Option Instant × Option Instant) := do
  let start ← parseDt iso (s.lookup "appointment_start")
  let stop ← parseDt iso (s.lookup "appointment_end")
  pure (start, stop)

/-- The key `sort_sessions` sorts by; a session without a start comes last. -/
def sortKey (s : SessionDict) : Except Failure Instant :=
  (fun window => window.1.getD DateTime.maxClock) <$> sessionWindow iso s

/-- `sort_sessions` -/
def sortSessions (sessions : List SessionDict) : Except Failure (List SessionDict) := do
  let keyed ← sessions.mapM fun s => (fun key => (key, s)) <$> sortKey iso s
  let ordered := keyed.insertionSort fun a b => a.1 ≤ b.1
  pure ((ordered.map Prod.snd).zipIdx.map fun (s, i) => setPosition s i)

/-- The checks of each session on its own. -/
def checkSessions : ℕ → List SessionDict → Except Failure Unit
  | _, [] => .ok ()
  | i, s :: rest =>
    let refused := fun text : String => Failure.invalid ("sessions[" ++ toString i ++ "]: " ++ text)
    if !isSet s "therapist_id" then .error (refused "therapist_id is required.")
    else if !isSet s "services" then .error (refused "at least one service is required.")
    else match sessionWindow iso s with
      | .error e => .error e
      | .ok (some start, some stop) =>
        if stop ≤ start then .error (refused "invalid start/end time.")
        else checkSessions (i + 1) rest
      | .ok _ => .error (refused "invalid start/end time.")

/-- The pass over the sorted sessions: each on `day`, and none begins before the one before has ended, at
`prevEnd`. -/
def checkOrder (day : ℤ) : Option Instant → ℕ → List SessionDict → Except Failure Unit
  | _, _, [] => .ok ()
  | prevEnd, i, s :: rest => match sessionWindow iso s with
    | .error e => .error e
    | .ok (some start, some stop) =>
      if localDay start ≠ day ∨ localDay stop ≠ day then
        .error (.invalid ("sessions[" ++ toString i ++
          "]: all sessions of a booking must be on the same date (" ++ dateStr day ++ ")."))
      else if prevEnd.any (start < ·) then
        .error (.invalid ("sessions[" ++ toString i ++ "]: overlaps the previous session."))
      else checkOrder day (some stop) (i + 1) rest
    | .ok _ => .error .assertion

/-- The date of the first of the sorted sessions. -/
def firstDay (ordered : List SessionDict) : Except Failure ℤ :=
  match ordered with
  | [] => .error .assertion
  | first :: _ => match sessionWindow iso first with
    | .error e => .error e
    | .ok (some start, _) => .ok (localDay start)
    | .ok (none, _) => .error .assertion

def validateSessions (sessions : List SessionDict) (maxSessions : ℤ) :
    Except Failure (List SessionDict) :=
  if sessions = [] then .error (.invalid "At least one session is required.")
  else if maxSessions < sessions.length then .error
    (.invalid ("A booking can contain at most " ++ toString maxSessions ++ " sessions."))
  else do
    checkSessions iso 0 sessions
    let ordered ← sortSessions iso sessions
    let day ← firstDay iso ordered
    checkOrder iso day none 0 ordered
    pure ordered

/-! ## What it is to accept -/

/-- The window of a session as `session_window` reads it. -/
def HasWindow (s : SessionDict) (w : HalfOpen Instant) : Prop :=
  sessionWindow iso s = .ok (some w.start, some w.stop)

/-- At least one session and at most so many, each with a therapist, services and a window that is not
empty, all of them on one date and no two at one time. -/
structure Acceptable (sessions : List SessionDict) (maxSessions : ℤ) : Prop where
  nonempty : sessions ≠ []
  length : sessions.length ≤ maxSessions
  therapist : ∀ s ∈ sessions, isSet s "therapist_id"
  services : ∀ s ∈ sessions, isSet s "services"
  window : ∀ s ∈ sessions, ∃ w, HasWindow iso s w ∧ w.start < w.stop
  day : ∃ day, ∀ s ∈ sessions, ∀ w, HasWindow iso s w →
    localDay w.start = day ∧ localDay w.stop = day
  disjoint : sessions.Pairwise fun s s' => ∀ w w', HasWindow iso s w → HasWindow iso s' w' →
    ∀ t ∈ Intervals.points w, t ∉ Intervals.points w'

end Validating

example : validateSessions DateTime.fromisoformat
    [[("therapist_id", .json (.str "b")), ("services", .json (.arr [.null])),
      ("appointment_start", .json (.str "2026-03-01T11:00:00")),
      ("appointment_end", .json (.str "2026-03-01T12:00:00"))],
     [("therapist_id", .json (.str "a")), ("services", .json (.arr [.null])),
      ("appointment_start", .json (.str "2026-03-01T07:30:00Z")),
      ("appointment_end", .json (.str "2026-03-01T03:00:00-05:00"))]] 3 = .ok
    [[("therapist_id", .json (.str "a")), ("services", .json (.arr [.null])),
      ("appointment_start", .json (.str "2026-03-01T07:30:00Z")),
      ("appointment_end", .json (.str "2026-03-01T03:00:00-05:00")), ("position", .json (.num "0"))],
     [("therapist_id", .json (.str "b")), ("services", .json (.arr [.null])),
      ("appointment_start", .json (.str "2026-03-01T11:00:00")),
      ("appointment_end", .json (.str "2026-03-01T12:00:00")), ("position", .json (.num "1"))]] := by
  decide +kernel

end Booking.SessionDicts
