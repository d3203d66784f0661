import UshBookNPay.Core.Middleware
import UshBookNPay.Lib.Runs

/-!
# Overlapping requests of one key

The passes of POST requests through `IdempotencyMiddleware` in any order of their steps: the lookup, the
answer of the handler, and the store of a success. Redis answers, and its entry does not expire.
-/

namespace Middleware

variable {J : Type} (c : Codec J)

/-- Where a pass stands. -/
inductive Phase where
  /-- the handler works on a request that is not looked up -/
  | passing
  /-- the handler works on a request the lookup has found no entry for -/
  | running
  /-- the handler has succeeded, and the store is still to come -/
  | storing (r : Response)
  | done
  deriving DecidableEq

structure Pass where
  request : Request
  phase : Phase
  deriving DecidableEq

/-- What happens to the requests, by their bodies: the handler begins, the handler succeeds, the client
gets its answer. -/
inductive Observation where
  | ran (body : String)
  | succeeded (body : String) (r : Response)
  | answered (body : String) (answer : Option Response)
  deriving DecidableEq

/-- The entry of the key, the passes and what has happened. -/
structure System (J : Type) where
  redis : Option (Stored J) := none
  passes : ℕ → Option Pass := fun _ => none
  log : List Observation := []

inductive Event where
  /-- a request comes in and is looked up -/
  | lookup (sid : ℕ) (req : Request)
  /-- the handler answers -/
  | handler (sid : ℕ) (r : Response)
  /-- the handler raises -/
  | raised (sid : ℕ)
  /-- the success is stored, and answered -/
  | setex (sid : ℕ)

/-- The pass is in `phase` now. -/
def System.enter (s : System J) (sid : ℕ) (req : Request) (phase : Phase)
    (seen : List Observation) : System J :=
  { s with
    passes := Function.update s.passes sid (some { request := req, phase := phase })
    log := s.log ++ seen }

/-- A request comes in. -/
def lookup (s : System J) (sid : ℕ) (req : Request) : System J :=
  if ¬ Applies req then s.enter sid req .passing [.ran req.body]
  else match s.redis with
    | some stored => s.enter sid req .done [.answered req.body (answerStored c stored req)]
    | none => s.enter sid req .running [.ran req.body]

/-- The handler answers. -/
def handlerAnswers (s : System J) (sid : ℕ) (req : Request) (phase : Phase) (r : Response) :
    System J :=
  if ¬ Successful r then s.enter sid req .done [.answered req.body (some r)]
  else if phase = .running then s.enter sid req (.storing r) [.succeeded req.body r]
  else s.enter sid req .done [.succeeded req.body r, .answered req.body (some r)]

/-- A success is stored. -/
def store (s : System J) (sid : ℕ) (req : Request) (r : Response) : System J :=
  { s with redis := (entryOf c req r).or s.redis }.enter sid req .done
    [.answered req.body (some (replyTo c r))]

/-- One event of a run of POST requests with the key. -/
def step (key : String) (s : System J) : Event → System J
  | .lookup sid req =>
    if s.passes sid = none ∧ req.method = "POST" ∧ req.idempotencyKey = some key then
      lookup c s sid req
    else s
  | .handler sid r =>
    match s.passes sid with
    | some p => if p.phase = .running ∨ p.phase = .passing then
        handlerAnswers s sid p.request p.phase r else s
    | none => s
  | .raised sid =>
    match s.passes sid with
    | some p => if p.phase = .running ∨ p.phase = .passing then
        s.enter sid p.request .done [] else s
    | none => s
  | .setex sid =>
    match s.passes sid with
    | some p => match p.phase with
      | .storing r => store c s sid p.request r
      | _ => s
    | none => s

/-! ## Deduplication -/

/-- What may come after a success: no success of the same body, its answer for the same body, and no
handler for another one. -/
def MayFollow : Observation → Observation → Prop
  | .succeeded body _, .succeeded body' _ => body' ≠ body
  | .succeeded body r, .answered body' answer => body' = body → answer = some (replyTo c r)
  | .succeeded body _, .ran body' => body' = body
  | _, _ => True

def Deduplicated (s : System J) : Prop := s.log.Pairwise (MayFollow c)

def Observation.success : Observation → Option (String × Response)
  | .succeeded body r => some (body, r)
  | _ => none

/-- The successes so far. -/
def successes (log : List Observation) : List (String × Response) :=
  log.filterMap Observation.success

/-- Redis holds an entry that can be rendered. -/
def Held (s : System J) : Prop := ∃ stored ∈ s.redis, (c.render stored.responseBody).isSome

instance (s : System J) : Decidable (Held c s) :=
  inferInstanceAs (Decidable (∃ stored ∈ s.redis, _))

/-- A request is looked up once the success of its key is in Redis; no handler answers after the success
of a request with the same body, and none succeeds after any. -/
def InTurn (key : String) (s : System J) : Event → Prop
  | .lookup _ req => req.method = "POST" → req.idempotencyKey = some key →
      Applies req ∧ (successes s.log ≠ [] → Held c s)
  | .handler sid r => ∀ p ∈ s.passes sid, ∀ x ∈ successes s.log,
      x.1 ≠ p.request.body ∧ ¬ Successful r
  | .raised _ | .setex _ => True

instance (key : String) (s : System J) : ∀ ev, Decidable (InTurn c key s ev)
  | .lookup _ req => inferInstanceAs (Decidable (req.method = "POST" →
      req.idempotencyKey = some key → Applies req ∧ (successes s.log ≠ [] → Held c s)))
  | .handler sid r => inferInstanceAs (Decidable (∀ p ∈ s.passes sid, ∀ x ∈ successes s.log,
      x.1 ≠ p.request.body ∧ ¬ Successful r))
  | .raised _ | .setex _ => .isTrue trivial

end Middleware
