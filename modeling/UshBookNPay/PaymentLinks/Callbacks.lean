import UshBookNPay.Core.Security
import UshBookNPay.PaymentLinks.LinkService
import UshBookNPay.PaymentLinks.WebhookService

/-!
# Callbacks

The public endpoints of the router: the webhook of a gateway with its GET and empty POST callbacks, and
the success and failed pages. What they answer to a browser is left out. The automatic refund of a
payment for a cancelled booking is never reached: `select` is not imported, and the `NameError` is logged.
-/

namespace PaymentLinks

/-! ## Requests -/

/-- The query parameters and the body fields `_extract_lookup_key` reads, in order. -/
def QUERY_KEYS : List String :=
  ["paymentId", "PaymentId", "tap_id", "charge_id", "Id", "id", "InvoiceId", "invoiceId", "invoice_id"]

def BODY_KEYS : List String :=
  ["paymentId", "PaymentId", "tap_id", "charge_id", "Id", "id", "InvoiceId"]

/-- A query parameter as a JSON value. -/
def queryField (qp : List (String × String)) (key : String) : Option Json :=
  (qp.lookup key).map Json.str

/-- `_extract_lookup_key`, as a text -/
def extractLookupKey (qp : List (String × String)) (bd : List (String × Json)) : Option String :=
  (Security.firstTruthy (QUERY_KEYS.map (queryField qp) ++ BODY_KEYS.map (List.lookup · bd) ++
    [queryField qp "link_id", bd.lookup "link_id"])).map Json.text

/-- The gateway a callback is of: the one it names, `deema` for a charge of Tap, else the default. -/
def callbackGateway (settings : LinkSettings) (qp : List (String × String))
    (bd : List (String × Json)) (lookupKey : String) : Tx PaymentLinkGateway :=
  match Security.firstTruthy [queryField qp "gateway", bd.lookup "gateway"] with
  | some (.str name) => getGateway settings name
  | some _ => throw (.attributeError "strip")
  | none =>
    if (Security.firstTruthy [queryField qp "tap_id", bd.lookup "tap_id"]).isSome ∨
        Text.startsWith "chg_" lookupKey then getGateway settings "deema"
    else getGateway settings settings.defaultGateway

/-- The bytes `bytes.strip` removes. -/
def isByteSpace (c : Char) : Bool := c ∈ [' ', '\t', '\n', '\r', '\x0b', '\x0c']

def stripBytes (cs : List Char) : List Char :=
  ((cs.dropWhile isByteSpace).reverse.dropWhile isByteSpace).reverse

/-- The body of a POST carries nothing. -/
def emptyBody (rawBody : String) : Bool :=
  stripBytes rawBody.toList = [] ∨ stripBytes rawBody.toList = ['{', '}']

/-! ## Settling what the gateway reports -/

/-- The link a reported state is of, locked. -/
def linkOfState (gw : PaymentLinkGateway) (lookupKey : String) (state : GatewayPaymentState) :
    Tx (Option PaymentLinkRow) :=
  getLockedLinkByAnyIdentifier gw.name (Text.or state.invoiceId (some lookupKey))
    (Text.or state.referenceId (some lookupKey)) (Text.or state.paymentId (some lookupKey))

/-- What the callbacks do: ask the gateway for the state of the payment and apply it to its link. The
outcome is that of the link, where there is one. -/
def settleCallback (gw : PaymentLinkGateway) (lookupKey source : String) :
    Tx (Option SettlementOutcome) := do
  let answer ← getPaymentState gw.name lookupKey
  match answer with
  | .error exc => throw (.paymentProvider exc)
  | .ok state => do
    let link ← linkOfState gw lookupKey state
    match link with
    | none => pure none
    | some row => do
      let outcome ← applyLocked row state source
      pure (some outcome)

/-! ## Endpoints -/

/-- `gateway_webhook` for a GET. What is raised is logged. -/
def gatewayWebhookGet (settings : LinkSettings) (gateway : String) (qp : List (String × String)) :
    Tx (Option SettlementOutcome) := do
  let gw ← getGateway settings gateway
  match extractLookupKey qp [] with
  | none => pure none
  | some key => do
    let r ← attempt survivable (settleCallback gw key ("webhook_get_" ++ gw.name))
    pure (r.toOption.join)

/-- `gateway_webhook` for a POST: an empty one is a callback, and where that does not find a link it is
processed like any other. -/
def gatewayWebhookPost (settings : LinkSettings) (webhook : WebhookSettings) (gateway : String)
    (qp headers : List (String × String)) (rawBody : String) : Tx String := do
  let gw ← getGateway settings gateway
  match (if emptyBody rawBody then extractLookupKey qp [] else none) with
  | none => process gw webhook headers rawBody
  | some key => do
    let r ← attempt survivable (settleCallback gw key ("webhook_post_" ++ gw.name))
    match r.toOption.join with
    | some outcome => pure outcome.value
    | none => process gw webhook headers rawBody

/-- The callback pages: of a request without an identifier nothing is done, what is raised is logged. -/
def callbackPage (settings : LinkSettings) (qp : List (String × String)) (bd : List (String × Json)) :
    Tx (Option SettlementOutcome) :=
  match extractLookupKey qp bd with
  | none => pure none
  | some key => do
    let r ← attempt survivable do
      let gw ← callbackGateway settings qp bd key
      settleCallback gw key "callback"
    pure (r.toOption.join)

/-- `payment_link_success` -/
def paymentLinkSuccess (settings : LinkSettings) (qp : List (String × String))
    (bd : List (String × Json)) : Tx (Option SettlementOutcome) := callbackPage settings qp bd

/-- `payment_link_failed`: the state is applied as on the success page. -/
def paymentLinkFailed (settings : LinkSettings) (qp : List (String × String))
    (bd : List (String × Json)) : Tx (Option SettlementOutcome) := callbackPage settings qp bd

end PaymentLinks
