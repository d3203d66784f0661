import UshBookNPay.Common.Text
import Mathlib.Logic.Function.Basic

/-!
# IdempotencyMiddleware

The deduplication of POST requests by their `Idempotency-Key`. The first success of a key is kept in
Redis with the hash of its body, and answers the later requests of that key. The middleware is the
innermost one: behind it the application authenticates the request and runs its handler.
-/

namespace Middleware

structure Request where
  method : String := "POST"
  path : String := "/"
  query : String := ""
  body : String := ""
  /-- the header `Idempotency-Key` -/
  idempotencyKey : Option String := none
  /-- the header `Authorization`, with the token of the user -/
  authorization : Option String := none
  /-- the header with the token of the calling application -/
  ushspaToken : Option String := none
  deriving DecidableEq

structure Response where
  status : ℕ
  body : String
  deriving DecidableEq

/-- `hashlib.sha256` of a body, `json.loads` of one, and the body `JSONResponse` gives a value. The last
two raise on what they cannot read or render. -/
structure Codec (J : Type) where
  sha256 : String → String
  loads : String → Option J
  render : J → Option String

/-- An entry of Redis. -/
structure Stored (J : Type) where
  bodyHash : String
  statusCode : ℕ
  responseBody : J
  deriving DecidableEq

variable {J σ : Type} (c : Codec J)

def APPLY_METHODS : List String := ["POST"]

def SKIP_PATHS : List String :=
  ["/api/v1/health/", "/api/v1/ready/", "/api/v1/payments/webhook/",
    "/api/v1/payment-links/webhook/"]

/-- The middleware looks the request up. The others it passes on. -/
def Applies (req : Request) : Prop :=
  req.method ∈ APPLY_METHODS ∧ ¬ SKIP_PATHS.any (Text.startsWith · req.path) ∧
    Text.truthy req.idempotencyKey

instance : DecidablePred Applies := fun req =>
  inferInstanceAs (Decidable (req.method ∈ APPLY_METHODS ∧
    ¬ SKIP_PATHS.any (Text.startsWith · req.path) ∧ Text.truthy req.idempotencyKey))

def redisKey (req : Request) : String := "idempotency:" ++ Text.orEmpty req.idempotencyKey

/-- The answer to another body under a key that is used. -/
def conflict : Response where
  status := 409
  body := "\x7b\"success\":false,\"error\":\x7b\"code\":\"IDEMPOTENCY_CONFLICT\",\"message\":" ++
    "\"Idempotency-Key already used with a different request body.\"\x7d\x7d"

/-- The answer from an entry; `none` is an exception. -/
def answerStored (stored : Stored J) (req : Request) : Option Response :=
  if stored.bodyHash ≠ c.sha256 req.body then some conflict
  else (c.render stored.responseBody).map fun body => { status := stored.statusCode, body := body }

/-- An answer that is kept. -/
def Successful (r : Response) : Prop := 200 ≤ r.status ∧ r.status < 300

instance : DecidablePred Successful := fun r =>
  inferInstanceAs (Decidable (200 ≤ r.status ∧ r.status < 300))

/-- The entry of a success, where its body is JSON. -/
def entryOf (req : Request) (r : Response) : Option (Stored J) :=
  (c.loads r.body).map fun value =>
    { bodyHash := c.sha256 req.body, statusCode := r.status, responseBody := value }

/-- What the client gets of a success: the value of its body rendered again, or the body as it is. -/
def replyTo (r : Response) : Response :=
  match (c.loads r.body).bind c.render with
  | some body => { status := r.status, body := body }
  | none => r

/-! ## One request after the other -/

/-- The application behind the middleware: its answer, `none` for an exception, and its next state. -/
abbrev App (σ : Type) := Request → σ → Option Response × σ

/-- Redis and the state of the application. -/
structure World (J σ : Type) where
  redis : String → Option (Stored J)
  state : σ

/-- Whether Redis fails to answer a lookup or to store an entry. -/
structure Faults where
  get : Bool := false
  setex : Bool := false
  deriving DecidableEq

/-- What a request comes to: its answer, and whether it has reached the application. -/
structure Outcome where
  answer : Option Response
  called : Bool
  deriving DecidableEq

/-- `call_next` -/
def callNext (app : App σ) (req : Request) (w : World J σ) : Outcome × World J σ :=
  ({ answer := (app req w.state).1, called := true }, { w with state := (app req w.state).2 })

/-- Keep a success, and answer it. -/
def keep (faults : Faults) (req : Request) (r : Response) (w : World J σ) : Outcome × World J σ :=
  match entryOf c req r with
  | none => ({ answer := some r, called := true }, w)
  | some entry =>
    if faults.setex then ({ answer := some r, called := true }, w)
    else ({ answer := some (replyTo c r), called := true },
      { w with redis := Function.update w.redis (redisKey req) (some entry) })

/-- What becomes of the answer of the application. -/
def receive (faults : Faults) (req : Request) (next : Outcome × World J σ) : Outcome × World J σ :=
  match next.1.answer with
  | none => next
  | some r => if Successful r then keep c faults req r next.2 else next

def dispatch (app : App σ) (faults : Faults) (req : Request) (w : World J σ) :
    Outcome × World J σ :=
  if ¬ Applies req ∨ faults.get then callNext app req w
  else match w.redis (redisKey req) with
    | some stored => ({ answer := answerStored c stored req, called := false }, w)
    | none => receive c faults req (callNext app req w)

/-! ## Two requests of one key -/

/-- Two POST requests with the same key and the same body. -/
structure SameKey (req req' : Request) : Prop where
  method : req.method = "POST" ∧ req'.method = "POST"
  key : req'.idempotencyKey = req.idempotencyKey
  body : req'.body = req.body

instance (req req' : Request) : Decidable (SameKey req req') :=
  decidable_of_iff ((req.method = "POST" ∧ req'.method = "POST") ∧
      req'.idempotencyKey = req.idempotencyKey ∧ req'.body = req.body)
    ⟨fun ⟨h1, h2, h3⟩ => ⟨h1, h2, h3⟩, fun h => ⟨h.1, h.2, h.3⟩⟩

/-- They go to another resource or come from another caller. -/
def Differ (req req' : Request) : Prop :=
  req'.path ≠ req.path ∨ req'.query ≠ req.query ∨ req'.authorization ≠ req.authorization ∨
    req'.ushspaToken ≠ req.ushspaToken

instance (req req' : Request) : Decidable (Differ req req') :=
  inferInstanceAs (Decidable (_ ∨ _))

/-- What the middleware makes of the second request does not depend on the first one: it comes to what it
comes to with Redis as it was before the first. -/
def Unaffected (app : App σ) (faults faults' : Faults) (req req' : Request) (w : World J σ) : Prop :=
  let after := (dispatch c app faults req w).2
  (dispatch c app faults' req' after).1 =
    (dispatch c app faults' req' { after with redis := w.redis }).1

/-- The first request has no entry to be answered from, succeeds and leaves one: its answer is JSON. -/
def LeavesEntry (app : App σ) (faults : Faults) (req : Request) (w : World J σ) : Prop :=
  Applies req ∧ faults.get = false ∧ faults.setex = false ∧ w.redis (redisKey req) = none ∧
    ∃ r ∈ (app req w.state).1, Successful r ∧ (c.loads r.body).isSome

end Middleware
