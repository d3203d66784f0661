import UshBookNPay.Booking.CacheOutbox
import UshBookNPay.Lib.Runs

/-!
# Requests to the appointment cache

The calls of `_post_reliable` and the runs of `process_outbox_once`, any number of both, in any order of
their steps. A POST may reach ushauth before its sender hears of it, after the sender has given it up, or
never.
-/

namespace CacheOutbox

variable {J σ : Type}

/-- Where a call of `_post_reliable` stands. -/
inductive Phase where
  /-- it has not asked for pending rows yet -/
  | issued
  /-- it is about to queue its request behind a pending one -/
  | behind
  /-- its POST is out, and has reached ushauth or not -/
  | posting (reached : Bool)
  | delivered
  | queued
  /-- it has raised, and its request is not queued -/
  | refused
  /-- its request could not be queued -/
  | lost
  deriving DecidableEq

/-- A call; the calls are numbered as the application issues them. -/
structure Call (J : Type) where
  number : ℕ
  request : CacheRequest J
  phase : Phase := .issued

instance : Table.Keyed (Call J) := ⟨Call.number⟩

/-- A run of `process_outbox_once`: the rows it has still to replay, the bookings it keeps back, and
whether the POST of the first row is out and has reached ushauth. -/
structure Relay (J : Type) where
  number : ℕ
  batch : List (AppointmentCacheOutbox J)
  blockedBookings : List Uuid := []
  posting : Option Bool := none

instance : Table.Keyed (Relay J) := ⟨Relay.number⟩

/-- A row carries the number of the call it is from as its id. -/
structure System (J : Type) where
  calls : List (Call J) := []
  outbox : List (AppointmentCacheOutbox J) := []
  relays : List (Relay J) := []
  /-- the requests on their way whose senders have given up -/
  late : List ℕ := []
  /-- the requests ushauth has applied, in order -/
  applied : List ℕ := []

inductive Event (J : Type) where
  /-- the application calls `_post_reliable` -/
  | issue (request : CacheRequest J)
  /-- the call asks for pending rows; the query may fail -/
  | check (n : ℕ) (failed : Bool)
  /-- the call queues its request behind a pending one; the insert may fail -/
  | enqueue (n : ℕ) (now : Instant) (failed : Bool)
  /-- the POST of the call reaches ushauth -/
  | reach (n : ℕ)
  /-- the call gets its reply, and queues its request if it is to be replayed -/
  | receive (n : ℕ) (reply : Reply) (now : Instant) (failed : Bool)
  /-- a relay claims the rows `ids` -/
  | claim (k : ℕ) (ids : List Uuid) (now : Instant)
  /-- the relay puts off a row behind a failed one -/
  | skip (k : ℕ) (now : Instant)
  /-- the relay posts its first row -/
  | post (k : ℕ)
  /-- the POST of the relay reaches ushauth -/
  | reachFrom (k : ℕ)
  /-- the relay gets its reply and writes it to the row -/
  | finish (k : ℕ) (reply : Reply) (now : Instant)
  /-- the relay ends where it stands -/
  | stop (k : ℕ)
  /-- a request reaches ushauth whose sender has given up -/
  | reachLate (n : ℕ)

/-! ## Steps -/

variable (settings : Settings)

def System.setPhase (s : System J) (n : ℕ) (phase : Phase) : System J :=
  { s with calls := Table.modify s.calls n fun c => { c with phase := phase } }

/-- What `f` makes of the call `n`, where there is one. -/
def System.withCall (s : System J) (n : ℕ) (f : Call J → System J) : System J :=
  match Table.get s.calls n with
  | some c => f c
  | none => s

/-- What `f` makes of the relay `k` and its first row, where there is one. -/
def System.withRelay (s : System J) (k : ℕ)
    (f : Relay J → AppointmentCacheOutbox J → List (AppointmentCacheOutbox J) → System J) :
    System J :=
  match Table.get s.relays k with
  | some r => match r.batch with
    | row :: rest => f r row rest
    | [] => s
  | none => s

def System.setRelay (s : System J) (k : ℕ) (f : Relay J → Relay J) : System J :=
  { s with relays := Table.modify s.relays k f }

/-- `enqueue_cache_request` -/
def System.enqueue (s : System J) (c : Call J) (now : Instant) (failed : Bool) : System J :=
  if failed then s.setPhase c.number .lost
  else
    { s.setPhase c.number .queued with
      outbox := s.outbox ++ [enqueued settings c.number c.request now] }

/-- A sender gives the request `n` up, which may still be on its way. -/
def System.abandon (s : System J) (n : ℕ) (reached : Bool) : System J :=
  if reached then s else { s with late := s.late ++ [n] }

/-- The reply to the POST of a call. -/
def System.receive (s : System J) (c : Call J) (reached : Bool) (reply : Reply) (now : Instant)
    (failed : Bool) : System J :=
  match CacheOutbox.post reply with
  | .ok _ => if reached then s.setPhase c.number .delivered else s
  | .error e =>
    if settings.cacheOutboxEnabled ∧ isRetryableUpstreamError e then
      (s.abandon c.number reached).enqueue settings c now failed
    else (s.abandon c.number reached).setPhase c.number .refused

/-- The rows `ids`. -/
def System.rows (s : System J) (ids : List Uuid) : List (AppointmentCacheOutbox J) :=
  ids.filterMap (Table.get s.outbox)

/-- `_claim_due_batch` -/
def System.claim (s : System J) (k : ℕ) (ids : List Uuid) (now : Instant) : System J :=
  { s with
    outbox := s.outbox.map (leased ids now)
    relays := s.relays ++ [{ number := k, batch := s.rows ids }] }

/-- The reply to the POST of the first row of a relay. -/
def System.finish (s : System J) (r : Relay J) (row : AppointmentCacheOutbox J)
    (rest : List (AppointmentCacheOutbox J)) (reached : Bool) (result : Except UpstreamError Unit)
    (now : Instant) : System J :=
  let blocked := match result with
    | .ok _ => r.blockedBookings
    | .error e => if GivesUp settings row e then r.blockedBookings
        else r.blockedBookings ++ [row.request.bookingId]
  { (s.abandon row.id reached).setRelay r.number fun r =>
      { r with batch := rest, blockedBookings := blocked, posting := none } with
    outbox := Table.modify s.outbox row.id (finished settings row now result) }

/-- One event. -/
def step (s : System J) : Event J → System J
  | .issue request =>
    { s with calls := s.calls ++ [{ number := s.calls.length, request := request }] }
  | .check n failed => s.withCall n fun c =>
    if c.phase ≠ .issued then s
    else if settings.cacheOutboxEnabled ∧ ¬ failed ∧
        hasPendingForBooking s.outbox c.request.bookingId then s.setPhase n .behind
    else s.setPhase n (.posting false)
  | .enqueue n now failed => s.withCall n fun c =>
    if c.phase = .behind then s.enqueue settings c now failed else s
  | .reach n => s.withCall n fun c =>
    if c.phase = .posting false then
      { s.setPhase n (.posting true) with applied := s.applied ++ [n] }
    else s
  | .receive n reply now failed => s.withCall n fun c =>
    match c.phase with
    | .posting reached => s.receive settings c reached reply now failed
    | _ => s
  | .claim k ids now =>
    if Table.get s.relays k = none ∧ ids.Nodup ∧
        DueBatch settings s.outbox now (s.rows ids) then s.claim k ids now
    else s
  | .skip k now => s.withRelay k fun r row rest =>
    if r.posting = none ∧ row.request.bookingId ∈ r.blockedBookings then
      { s.setRelay k fun r => { r with batch := rest } with
        outbox := Table.modify s.outbox row.id (postponed now) }
    else s
  | .post k => s.withRelay k fun r row _ =>
    if r.posting = none ∧ row.request.bookingId ∉ r.blockedBookings then
      s.setRelay k fun r => { r with posting := some false }
    else s
  | .reachFrom k => s.withRelay k fun r row _ =>
    if r.posting = some false then
      { s.setRelay k fun r => { r with posting := some true } with
        applied := s.applied ++ [row.id] }
    else s
  | .finish k reply now => s.withRelay k fun r row rest =>
    match r.posting with
    | some reached =>
      if CacheOutbox.post reply = .ok () ∧ ¬ reached then s
      else s.finish settings r row rest reached (CacheOutbox.post reply) now
    | none => s
  | .stop k => s.withRelay k fun r row _ =>
    (if r.posting = some false then s.abandon row.id false else s).setRelay k fun r =>
      { r with batch := [], posting := none }
  | .reachLate n =>
    if n ∈ s.late then { s with late := s.late.erase n, applied := s.applied ++ [n] } else s

/-! ## In the order of issue -/

variable (b : Uuid)

/-- The request is of the booking. -/
def System.isOf (s : System J) (n : ℕ) : Prop :=
  ∃ c ∈ Table.get s.calls n, c.request.bookingId = b

instance (s : System J) : DecidablePred (s.isOf b) := fun n =>
  inferInstanceAs (Decidable (∃ c ∈ Table.get s.calls n, _))

/-- What ushauth has applied of the booking. -/
def System.appliedTo (s : System J) : List ℕ := s.applied.filter (s.isOf b)

/-- The calls of the booking, in the order of their issue. -/
def System.callsOf (s : System J) : List (Call J) :=
  s.calls.filter fun c => c.request.bookingId = b

def Phase.underWay : Phase → Bool
  | .issued | .behind | .posting _ => true
  | .delivered | .queued | .refused | .lost => false

/-- A row of the call is of this status. -/
def System.hasRow (s : System J) (n : ℕ) (status : OutboxStatus) : Prop :=
  ∃ row ∈ s.outbox, row.id = n ∧ row.status = status

instance (s : System J) (n : ℕ) (status : OutboxStatus) : Decidable (s.hasRow n status) :=
  inferInstanceAs (Decidable (∃ row ∈ s.outbox, _))

/-- Neither the call nor the outbox is still at work on the request. -/
def System.Settled (s : System J) (c : Call J) : Prop :=
  ¬ c.phase.underWay ∧ ¬ s.hasRow c.number .pending

instance (s : System J) : DecidablePred s.Settled := fun c =>
  inferInstanceAs (Decidable (¬ c.phase.underWay ∧ ¬ s.hasRow c.number .pending))

/-- The request is given up: refused for good, or a dead row. -/
def System.Dead (s : System J) (c : Call J) : Prop :=
  c.phase = .refused ∨ s.hasRow c.number .dead

instance (s : System J) : DecidablePred s.Dead := fun c =>
  inferInstanceAs (Decidable (c.phase = .refused ∨ s.hasRow c.number .dead))

/-- The requests of a booking applied one after the other; `apply` is what ushauth does with one. -/
def applyAll (apply : CacheRequest J → σ → σ) (requests : List (CacheRequest J)) (x : σ) : σ :=
  requests.foldl (fun x r => apply r x) x

/-- The cache of the booking, `x` at first. -/
def System.cache (apply : CacheRequest J → σ → σ) (x : σ) (s : System J) : σ :=
  applyAll apply ((s.appliedTo b).filterMap fun n => (Table.get s.calls n).map Call.request) x

/-- The cache as it is to be: every request applied once that is not dead, in the order of issue. -/
def System.intended (apply : CacheRequest J → σ → σ) (x : σ) (s : System J) : σ :=
  applyAll apply (((s.callsOf b).filter fun c => ¬ s.Dead c).map Call.request) x

/-- No request of the booking is applied after a newer one; once all are settled, the cache is as it is
to be. -/
structure InIssueOrder (apply : CacheRequest J → σ → σ) (x : σ) (s : System J) : Prop where
  order : (s.appliedTo b).Pairwise (· ≤ ·)
  cache : (∀ c ∈ s.callsOf b, s.Settled c) → s.cache b apply x = s.intended b apply x

/-! ## Undisturbed steps -/

/-- A row is written, with a later `created_at` than the pending rows of the booking. -/
def Recorded (s : System J) (now : Instant) (failed : Bool) : Prop :=
  failed = false ∧ ∀ row ∈ s.outbox, row.request.bookingId = b → row.status = .pending →
    row.createdAt < now

instance (s : System J) (now : Instant) (failed : Bool) : Decidable (Recorded b s now failed) :=
  inferInstanceAs (Decidable (_ ∧ _))

/-- The request is still open: its call is under way, or its row is pending. -/
def System.Open (s : System J) (n : ℕ) : Prop := ∀ c ∈ Table.get s.calls n, ¬ s.Settled c

instance (s : System J) : DecidablePred s.Open := fun n =>
  inferInstanceAs (Decidable (∀ c ∈ Table.get s.calls n, ¬ s.Settled c))

/-- What is required of a reply to a call: its request is queued if it is to be replayed, and has not been
applied if it is given up. -/
def Received (s : System J) (n : ℕ) (now : Instant) (failed : Bool) :
    Except UpstreamError Unit → Prop
  | .ok _ => True
  | .error e =>
    if settings.cacheOutboxEnabled ∧ isRetryableUpstreamError e then Recorded b s now failed
    else n ∉ s.applied

instance (s : System J) (n : ℕ) (now : Instant) (failed : Bool) :
    ∀ result, Decidable (Received settings b s n now failed result)
  | .ok _ => .isTrue trivial
  | .error e => inferInstanceAs (Decidable (if settings.cacheOutboxEnabled ∧
      isRetryableUpstreamError e then Recorded b s now failed else n ∉ s.applied))

/-- What is required of a reply to a relay: the row has not been applied if it is given up. -/
def Replayed (s : System J) (row : AppointmentCacheOutbox J) : Except UpstreamError Unit → Prop
  | .ok _ => True
  | .error e => GivesUp settings row e → row.id ∉ s.applied

instance (s : System J) (row : AppointmentCacheOutbox J) :
    ∀ result, Decidable (Replayed settings s row result)
  | .ok _ => .isTrue trivial
  | .error e => inferInstanceAs (Decidable (GivesUp settings row e → row.id ∉ s.applied))

/-- An event that does not disturb the order of the booking: a call asks for pending rows when no older
call of the booking is under way, and gets an answer; a request that is to wait is written with a later
`created_at`; no request is applied that is settled already, nor given up once it has been applied. -/
def Undisturbed (s : System J) : Event J → Prop
  | .check n failed => s.isOf b n →
      (∀ c ∈ s.callsOf b, c.number < n → ¬ c.phase.underWay) ∧
        (settings.cacheOutboxEnabled ∧ failed = false ∨ ¬ hasPendingForBooking s.outbox b)
  | .enqueue n now failed => s.isOf b n → Recorded b s now failed
  | .receive n reply now failed => s.isOf b n →
      Received settings b s n now failed (CacheOutbox.post reply)
  | .reachFrom k => ∀ r ∈ Table.get s.relays k, ∀ row ∈ r.batch.head?,
      row.request.bookingId = b → s.Open row.id
  | .finish k reply _ => ∀ r ∈ Table.get s.relays k, ∀ row ∈ r.batch.head?,
      row.request.bookingId = b → Replayed settings s row (CacheOutbox.post reply)
  | .reachLate n => s.isOf b n → s.Open n
  | .issue _ | .reach _ | .claim _ _ _ | .skip _ _ | .post _ | .stop _ => True

instance (s : System J) : ∀ ev, Decidable (Undisturbed settings b s ev)
  | .check n failed => inferInstanceAs (Decidable (s.isOf b n →
      (∀ c ∈ s.callsOf b, c.number < n → ¬ c.phase.underWay) ∧
        (settings.cacheOutboxEnabled ∧ failed = false ∨ ¬ hasPendingForBooking s.outbox b)))
  | .enqueue n now failed => inferInstanceAs (Decidable (s.isOf b n → Recorded b s now failed))
  | .receive n reply now failed => inferInstanceAs (Decidable (s.isOf b n →
      Received settings b s n now failed (CacheOutbox.post reply)))
  | .reachFrom k => inferInstanceAs (Decidable (∀ r ∈ Table.get s.relays k,
      ∀ row ∈ r.batch.head?, row.request.bookingId = b → s.Open row.id))
  | .finish k reply _ => inferInstanceAs (Decidable (∀ r ∈ Table.get s.relays k,
      ∀ row ∈ r.batch.head?, row.request.bookingId = b →
        Replayed settings s row (CacheOutbox.post reply)))
  | .reachLate n => inferInstanceAs (Decidable (s.isOf b n → s.Open n))
  | .issue _ | .reach _ | .claim _ _ _ | .skip _ _ | .post _ | .stop _ => .isTrue trivial

end CacheOutbox
