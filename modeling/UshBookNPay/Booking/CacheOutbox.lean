import UshBookNPay.Common.Values
import UshBookNPay.Lib.Table

/-!
# The appointment-cache outbox

The retry queue of the requests to the appointment cache of ushauth: a request that fails for a moment is
kept as a row, and a relay posts the row again until ushauth takes it.
-/

namespace CacheOutbox

/-! ## Upstream errors -/

/-- What `_post` raises. -/
inductive UpstreamError where
  /-- `GatewayTimeoutError` -/
  | timeout
  /-- `httpx.TransportError` -/
  | transport
  | notFound
  | authorization
  | gateway (upstreamStatus : Option ℕ)
  /-- another `httpx.HTTPError`, or an `OSError` -/
  | http
  | other
  deriving DecidableEq

/-- What comes back for a POST. -/
inductive Reply where
  /-- a success with a JSON body -/
  | json
  /-- a success with another body -/
  | unreadable
  /-- a status that is no success -/
  | status (code : ℕ)
  | failed (e : UpstreamError)
  deriving DecidableEq

/-- `_post`: what the caller gets for a reply. -/
def post : Reply → Except UpstreamError Unit
  | .json => .ok ()
  | .unreadable => .error .other
  | .status code =>
    if code = 404 then .error .notFound
    else if code = 401 ∨ code = 403 then .error .authorization
    else .error (.gateway (some code))
  | .failed e => .error e

def isRetryableUpstreamError : UpstreamError → Bool
  | .timeout | .transport => true
  | .notFound | .authorization => false
  | .gateway none => true
  | .gateway (some status) => decide (500 ≤ status ∨ status = 429)
  | .http | .other => false

/-! ## Rows -/

structure Settings where
  cacheOutboxEnabled : Bool := true
  cacheOutboxBatchSize : ℕ := 50
  cacheOutboxMaxAttempts : ℕ := 12

/-- A POST to ushauth: the booking it is about, its path and its body. -/
structure CacheRequest (J : Type) where
  bookingId : Uuid
  path : String
  payload : J
  deriving DecidableEq

inductive OutboxStatus where
  | pending
  | delivered
  | dead
  deriving DecidableEq

structure AppointmentCacheOutbox (J : Type) where
  id : Uuid
  /-- `booking_id`, `path` and `payload` -/
  request : CacheRequest J
  status : OutboxStatus := .pending
  attempts : ℕ
  maxAttempts : ℕ
  createdAt : Instant
  nextAttemptAt : Instant
  deliveredAt : Option Instant := none
  deriving DecidableEq

instance {J : Type} : Table.Keyed (AppointmentCacheOutbox J) := ⟨AppointmentCacheOutbox.id⟩

def seconds (n : ℕ) : Instant := n * 1000000

def LEASE_SECONDS : ℕ := 90

def MAX_BACKOFF_SECONDS : ℕ := 15 * 60

def backoffSeconds (attempts : ℕ) : ℕ := min (10 * 2 ^ (attempts - 1)) MAX_BACKOFF_SECONDS

example : [1, 2, 3, 4, 50].map backoffSeconds = [10, 20, 40, 80, 900] := by decide

variable {J : Type}

/-- The row of `enqueue_cache_request`. -/
def enqueued (settings : Settings) (id : Uuid) (request : CacheRequest J) (now : Instant) :
    AppointmentCacheOutbox J where
  id := id
  request := request
  attempts := 1
  maxAttempts := settings.cacheOutboxMaxAttempts
  createdAt := now
  nextAttemptAt := now + seconds (backoffSeconds 1)

def hasPendingForBooking (outbox : List (AppointmentCacheOutbox J)) (bookingId : Uuid) : Bool :=
  outbox.any fun row => row.request.bookingId = bookingId ∧ row.status = .pending

/-! ## The relay -/

/-- A due row that no older pending row of its booking keeps back. -/
def Claimable (outbox : List (AppointmentCacheOutbox J)) (now : Instant)
    (row : AppointmentCacheOutbox J) : Prop :=
  row.status = .pending ∧ row.nextAttemptAt ≤ now ∧
    ∀ older ∈ outbox, older.request.bookingId = row.request.bookingId → older.status = .pending →
      ¬ older.createdAt < row.createdAt

instance (outbox : List (AppointmentCacheOutbox J)) (now : Instant) :
    DecidablePred (Claimable outbox now) := fun row =>
  inferInstanceAs (Decidable (row.status = .pending ∧ row.nextAttemptAt ≤ now ∧
    ∀ older ∈ outbox, _ → _ → ¬ older.createdAt < row.createdAt))

/-- The rows `_claim_due_batch` may select: in the order of their creation, without those another
transaction has locked. -/
structure DueBatch (settings : Settings) (outbox : List (AppointmentCacheOutbox J)) (now : Instant)
    (rows : List (AppointmentCacheOutbox J)) : Prop where
  size : rows.length ≤ settings.cacheOutboxBatchSize
  claimable : ∀ row ∈ rows, Claimable outbox now row
  sorted : rows.Pairwise fun row row' => row.createdAt ≤ row'.createdAt

instance (settings : Settings) (outbox : List (AppointmentCacheOutbox J)) (now : Instant)
    (rows : List (AppointmentCacheOutbox J)) : Decidable (DueBatch settings outbox now rows) :=
  decidable_of_iff (rows.length ≤ settings.cacheOutboxBatchSize ∧
      (∀ row ∈ rows, Claimable outbox now row) ∧
      rows.Pairwise fun row row' => row.createdAt ≤ row'.createdAt)
    ⟨fun ⟨h1, h2, h3⟩ => ⟨h1, h2, h3⟩, fun h => ⟨h.1, h.2, h.3⟩⟩

/-- The lease of the rows of a batch. -/
def leased (ids : List Uuid) (now : Instant) (row : AppointmentCacheOutbox J) :
    AppointmentCacheOutbox J :=
  if row.id ∈ ids then { row with nextAttemptAt := now + seconds LEASE_SECONDS } else row

/-- The error of a replay is the last one of its row; `row` is the row as it has been claimed. -/
def GivesUp (settings : Settings) (row : AppointmentCacheOutbox J) (e : UpstreamError) : Prop :=
  ¬ (isRetryableUpstreamError e ∨ e = .http) ∨
    (if row.maxAttempts = 0 then settings.cacheOutboxMaxAttempts else row.maxAttempts) ≤
      row.attempts + 1

instance (settings : Settings) (row : AppointmentCacheOutbox J) (e : UpstreamError) :
    Decidable (GivesUp settings row e) :=
  inferInstanceAs (Decidable (_ ∨ _))

/-- What `_finish` writes for a row that waits behind a failed one of its batch. -/
def postponed (now : Instant) (row : AppointmentCacheOutbox J) : AppointmentCacheOutbox J :=
  { row with nextAttemptAt := now + seconds (backoffSeconds 1) }

/-- What `_finish` writes after the replay of the row `claimed`. -/
def finished (settings : Settings) (claimed : AppointmentCacheOutbox J) (now : Instant)
    (result : Except UpstreamError Unit) (row : AppointmentCacheOutbox J) :
    AppointmentCacheOutbox J :=
  match result with
  | .ok _ => { row with status := .delivered, deliveredAt := some now }
  | .error e =>
    if GivesUp settings claimed e then
      { row with status := .dead, attempts := claimed.attempts + 1 }
    else
      { row with
        attempts := claimed.attempts + 1
        nextAttemptAt := now + seconds (backoffSeconds (claimed.attempts + 1)) }

end CacheOutbox
