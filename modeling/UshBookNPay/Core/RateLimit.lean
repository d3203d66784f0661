import UshBookNPay.Common.Json
import UshBookNPay.Lib.Runs
import UshBookNPay.Lib.SlidingWindow
import Mathlib.Algebra.Order.Ring.Rat
import Mathlib.Logic.Function.Basic

/-!
# RateLimitMiddleware

The counter each client has in Redis. Every request of the client counts one up, a refused one too, and
puts off the time Redis drops the counter at.
-/

namespace RateLimit

/-! ## Clients -/

inductive Address where
  | v4 (n : ℕ)
  | v6 (n : ℕ)
  deriving DecidableEq

/-- `ipaddress.ip_address` of a text, and `json.loads` of what base64 gives for a segment of a token.
Both raise on what they cannot read. -/
structure Codec where
  ipAddress : String → Option Address
  claims : String → Option Json

/-- The first octets of the private networks of IPv4, with their number of bits. -/
def PRIVATE_NETWORKS : List (ℕ × ℕ) :=
  [(10, 8), (172 * 16 + 1, 12), (192 * 256 + 168, 16), (127, 8)]

def isPrivateAddress : Address → Bool
  | .v4 n => PRIVATE_NETWORKS.any fun net => n / 2 ^ (32 - net.2) = net.1
  | .v6 n => n = 1

structure Request where
  path : String := "/"
  /-- the headers `X-Forwarded-For`, `X-Real-IP` and `Authorization` -/
  forwardedFor : String := ""
  realIp : String := ""
  authorization : String := ""
  /-- the address of the connection -/
  host : Option String := none
  deriving DecidableEq

variable (c : Codec)

def isPrivateIp (ip : String) : Bool := (c.ipAddress ip).any isPrivateAddress

/-- The parts of a header between commas. -/
def hops (header : String) : List String :=
  (header.toList.splitOn ',').map fun part => Text.strip (String.ofList part)

def getRealClientIp (req : Request) : String :=
  let forwarded := if req.forwardedFor = "" then none
    else ((hops req.forwardedFor).find? fun ip => ip ≠ "" ∧ ¬ isPrivateIp c ip).or
      ((hops req.forwardedFor).head?.filter (· ≠ ""))
  (forwarded.or ((Text.orNone (Text.strip req.realIp)).or req.host)).getD "unknown"

/-- The middle segment of the token. -/
def payloadSegment (authorization : String) : Option String :=
  ((authorization.toList.drop "Bearer ".length).splitOn '.')[1]?.map String.ofList

def extractUserIdFromToken (req : Request) : Option String :=
  if Text.startsWith "Bearer " req.authorization then
    match (payloadSegment req.authorization).bind c.claims with
    | some (.obj fields) =>
      ([(Json.obj fields).field? "user_id", (Json.obj fields).field? "sub"].find?
        fun v => v.any Json.truthy).join.map Json.text
    | _ => none
  else none

def SKIP_PATHS : List String := ["/api/v1/health/", "/api/v1/ready/"]

/-- The key a request is counted under. Health checks and requests from a private network have none. -/
def clientKey (req : Request) : Option String :=
  if req.path ∈ SKIP_PATHS then none
  else if isPrivateIp c (getRealClientIp c req) then none
  else match extractUserIdFromToken c req with
    | some userId => some ("rate:user:" ++ userId)
    | none => some ("rate:ip:" ++ getRealClientIp c req)

/-! ## Counters -/

structure Counter where
  count : ℕ
  dropsAt : ℚ
  deriving DecidableEq

abbrev Store := String → Option Counter

/-- What becomes of the pipeline in Redis; one that fails may have been executed. -/
inductive Pipeline where
  | answered
  | failed (executed : Bool)
  deriving DecidableEq

structure Arrival where
  time : ℚ
  request : Request
  pipeline : Pipeline := .answered
  deriving DecidableEq

/-- `INCR` of a key; Redis has dropped the counters whose time is over. -/
def incr (store : Store) (key : String) (now : ℚ) : ℕ :=
  (((store key).filter fun entry => now < entry.dropsAt).map Counter.count).getD 0 + 1

/-- `INCR` and `EXPIRE` of a key. -/
def execute (window : ℤ) (store : Store) (key : String) (now : ℚ) : Store :=
  Function.update store key (some { count := incr store key now, dropsAt := now + window })

inductive Answer where
  /-- the answer of the application, with these headers -/
  | passedOn (headers : List (String × String))
  | error (status : ℕ) (code message : String) (headers : List (String × String))
  deriving DecidableEq

def rateLimitExceeded (limit window : ℤ) : Answer :=
  .error 429 "RATE_LIMIT_EXCEEDED" "Too many requests. Please try again later."
    [("Retry-After", toString window), ("X-RateLimit-Limit", toString limit),
      ("X-RateLimit-Remaining", "0")]

def dispatch (limit window : ℤ) (store : Store) (a : Arrival) : Answer × Store :=
  match clientKey c a.request with
  | none => (.passedOn [], store)
  | some key =>
    match a.pipeline with
    | .failed executed =>
      (.passedOn [], if executed then execute window store key a.time else store)
    | .answered =>
      let count : ℤ := incr store key a.time
      if limit < count then
        (rateLimitExceeded limit window, execute window store key a.time)
      else
        (.passedOn [("X-RateLimit-Limit", toString limit),
          ("X-RateLimit-Remaining", toString (max 0 (limit - count)))],
          execute window store key a.time)

/-- The counters after the arrivals. -/
def countersAfter (limit window : ℤ) (arrivals : List Arrival) : Store :=
  Runs.run (fun store a => (dispatch c limit window store a).2) (fun _ => none) arrivals

/-! ## The documented limiter -/

/-- The times of the arrivals of a key, the newest first. -/
def timesOf (key : String) (arrivals : List Arrival) : List ℚ :=
  ((arrivals.filter fun a => clientKey c a.request = some key).map Arrival.time).reverse

/-- A request with a key is refused if and only if more arrivals of its key than the limit lie in the window
that ends at it. -/
def AnsweredAsDocumented (limit window : ℤ) (earlier : List Arrival) (a : Arrival) : Prop :=
  ∀ key ∈ clientKey c a.request,
    ((dispatch c limit window (countersAfter c limit window earlier) a).1 =
        rateLimitExceeded limit window ↔
      limit < SlidingWindow.inWindow (window : ℚ) (timesOf c key (earlier ++ [a])))

/-- The arrivals of the key of a request are not spread. -/
def InOneWindow (limit window : ℤ) (earlier : List Arrival) (a : Arrival) : Prop :=
  ∀ key ∈ clientKey c a.request,
    ¬ SlidingWindow.Spread limit (window : ℚ) (timesOf c key (earlier ++ [a]))

end RateLimit
