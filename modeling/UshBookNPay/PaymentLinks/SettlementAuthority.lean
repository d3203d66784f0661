import UshBookNPay.Lib.LockedParts
import UshBookNPay.PaymentLinks.Callbacks

/-!
# What may settle a payment link

The endpoints of payment links, interleaved a statement at a time, and the authority on which a link
becomes paid: what the gateway has reported, or a webhook that is signed.
-/

open Transactions (System Event Parts)

namespace PaymentLinks

/-- A request, with what its endpoint reads of it. -/
inductive Endpoint where
  | webhookGet (settings : LinkSettings) (gateway : String) (qp : List (String × String))
  | webhookPost (settings : LinkSettings) (webhook : WebhookSettings) (gateway : String)
      (qp headers : List (String × String)) (rawBody : String)
  | success (settings : LinkSettings) (qp : List (String × String)) (bd : List (String × Json))
  | failed (settings : LinkSettings) (qp : List (String × String)) (bd : List (String × Json))
  | sync (s : PaymentLinkService) (linkId : Uuid)
  | create (s : PaymentLinkService) (targetType : String) (targetId : Uuid) (req : LinkRequest)
  | renew (s : PaymentLinkService) (linkId : Uuid) (actorId : String) (expiryMinutes : Option ℤ)
  | cancel (s : PaymentLinkService) (linkId : Uuid)
  | delete (s : PaymentLinkService) (linkId : Uuid)
  | cancelAndDelete (s : PaymentLinkService) (targetType : PaymentLinkTarget) (targetId : Uuid)

def endpointCode : Endpoint → Tx Unit
  | .webhookGet settings gateway qp => discard (gatewayWebhookGet settings gateway qp)
  | .webhookPost settings webhook gateway qp headers rawBody =>
    discard (gatewayWebhookPost settings webhook gateway qp headers rawBody)
  | .success settings qp bd => discard (paymentLinkSuccess settings qp bd)
  | .failed settings qp bd => discard (paymentLinkFailed settings qp bd)
  | .sync s linkId => discard (syncStatus s linkId)
  | .create s targetType targetId req => discard (createLink s targetType targetId req)
  | .renew s linkId actorId expiryMinutes => discard (renewLink s linkId actorId expiryMinutes)
  | .cancel s linkId => discard (cancelLink s linkId)
  | .delete s linkId => deleteLink s linkId
  | .cancelAndDelete s targetType targetId =>
    discard (cancelAndDeleteLinksForTarget s targetType targetId)

abbrev EndpointSystem := System Db LockKey Emission Env Error Unit Endpoint

/-! ## Identification -/

/-- One of the texts names the link: its invoice or payment at the gateway, its id or its number. -/
def Designates (gateway : String) (texts : List String) (l : PaymentLinkRow) : Prop :=
  ∃ t ∈ texts,
    l.gateway = gateway ∧ (l.gatewayInvoiceId = some t ∨ l.gatewayPaymentId = some t) ∨
    parseUuid (Text.strip t) = some l.id ∨ l.linkNumber = some (Text.strip t)

/-- What a reported state is looked up by, where `key` was asked for. -/
def stateTexts (key : String) (state : GatewayPaymentState) : List String :=
  present [Text.or state.invoiceId (some key), Text.or state.referenceId (some key),
    Text.or state.paymentId (some key)]

/-- What an event is looked up by. -/
def eventTexts (event : GatewayWebhookEvent) : List String :=
  present [lookupId event, eventReference event]

/-- The event of a webhook that passes as one of its gateway. -/
structure Accepted (gw : PaymentLinkGateway) (webhook : WebhookSettings)
    (headers : List (String × String)) (rawBody : String) (event : GatewayWebhookEvent) : Prop where
  signed : ∃ payload, Json.loads (if rawBody = "" then "{}" else rawBody) = some payload ∧
    (gw.verifySignature headers payload ∨ webhook.isDev) ∧ gw.parseEvent payload = event
  kind : event.kind = .paymentStatus

/-- The gateway a name stands for. -/
def gatewayNamed (settings : LinkSettings) (name : String) : PaymentLinkGateway :=
  settings.adapter (Text.lower (Text.strip name))

/-- The request is an accepted webhook of the gateway, with this event. -/
def Endpoint.Posts (gw : PaymentLinkGateway) (event : GatewayWebhookEvent) : Endpoint → Prop
  | .webhookPost settings webhook gateway _ headers rawBody =>
    gw = gatewayNamed settings gateway ∧ Accepted gw webhook headers rawBody event
  | _ => False

/-- The request itself says which link it is about. -/
def Endpoint.About (op : Endpoint) (l : PaymentLinkRow) : Prop :=
  (∃ s, op = .sync s l.id) ∨
    ∃ gw event, op.Posts gw event ∧ Designates gw.name (eventTexts event) l

/-- An empty payload is read as no event. -/
def Endpoint.IgnoresEmpty : Endpoint → Prop
  | .webhookPost settings _ gateway _ _ _ =>
    ((gatewayNamed settings gateway).parseEvent (.obj [])).kind = .ignored
  | _ => True

/-! ## Authority -/

/-- The state says that the amount of the link has been paid. -/
def Settles (state : GatewayPaymentState) (l : PaymentLinkRow) : Prop :=
  state.status = .paid ∧ ¬ amountMismatch l state

/-- The gateway has been asked about the event, and has reported the state. -/
def Verified (gw : PaymentLinkGateway) (event : GatewayWebhookEvent) (es : List Emission)
    (state : GatewayPaymentState) (key : String) : Prop :=
  lookupId event = some key ∧ .paymentState gw.name key state ∈ es

/-- A request that has emitted `es` may settle the link: the gateway has reported to it that the link is
paid, or the request is an accepted webhook that says so itself. -/
inductive Authority (op : Endpoint) (es : List Emission) (l : PaymentLinkRow) : Prop where
  | reported (gateway key : String) (state : GatewayPaymentState) :
      .paymentState gateway key state ∈ es → Settles state l →
      Designates gateway (stateTexts key state) l ∨ op.About l → Authority op es l
  | posted (gw : PaymentLinkGateway) (event : GatewayWebhookEvent)
      (verified : Option GatewayPaymentState) (state : GatewayPaymentState) :
      op.Posts gw event → (∀ v ∈ verified, v.status = .paid ∧ ∃ key, Verified gw event es v key) →
      event.state = some state → Settles state l →
      op.About l ∨ (∃ v ∈ verified, ∃ key, lookupId event = some key ∧
        Designates gw.name (stateTexts key v) l) → Authority op es l

/-! ## The links -/

/-- The row of each link, under its lock. -/
def linkParts : Parts Db LockKey Uuid (List PaymentLinkRow) where
  lock linkId := .row "payment_links" linkId
  part linkId d := d.paymentLinks.filter (·.id = linkId)

/-- A row that is paid afterwards was paid before. -/
def NonePaid (_ : Uuid) (rows rows' : List PaymentLinkRow) : Prop :=
  ∀ l' ∈ rows', l'.status = .paid → ∃ l ∈ rows, l.status = .paid

/-- A row that is paid afterwards was paid before, or may be paid on the authority of the request. -/
def PaidOnAuthority (op : Endpoint) (es : List Emission) (_ : Uuid)
    (rows rows' : List PaymentLinkRow) : Prop :=
  ∀ l' ∈ rows', l'.status = .paid → ∃ l ∈ rows, l.status = .paid ∨ Authority op es l

/-- Where a step makes a link paid, a session commits that has the authority to, judged by the link
before the step. -/
def SettledOnAuthority (s : EndpointSystem) (ev : Event Endpoint Env) : Prop :=
  ∀ l' ∈ (s.step endpointCode ev).db.paymentLinks, l'.status = .paid →
    ∃ l ∈ s.db.paymentLinks, l.id = l'.id ∧ (l.status = .paid ∨
      ∃ t, ev = .finish t.sid ∧ Table.get s.sessions t.sid = some t ∧ Authority t.op t.emitted l)

end PaymentLinks
