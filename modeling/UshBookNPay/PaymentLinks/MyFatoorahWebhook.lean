import UshBookNPay.PaymentLinks.WebhookService

/-!
# MyFatoorah webhooks

How the MyFatoorah adapter signs and reads a webhook: the string of an event that is signed, over the
fields of its class, and the event that is read from the payload. A field is found where the nested
layout has it, or under one of its flat names.
-/

namespace PaymentLinks

/-! ## Values -/

/-- `j.get(key)` -/
def getKey (j : Json) (key : String) : Json := (j.field? key).getD .null

/-- `isinstance(j, Mapping)` -/
def isMapping (j : Json) : Bool := match j with
  | .obj _ => true
  | _ => false

/-- `key in j` of a mapping -/
def hasKey (j : Json) (key : String) : Bool := (j.field? key).isSome

/-- `j is None or j == ""` -/
def isMissing (j : Json) : Bool := j = .null ∨ j = .str ""

/-- `a or b or …`: the first value that is true, else the last -/
def orLast : List Json → Json
  | [] => .null
  | [j] => j
  | j :: rest => if j.truthy then j else orLast rest

/-- `{**j, key: value}` -/
def putKey (j : Json) (key : String) (value : Json) : Json := Json.withField (some j) key value

namespace MyFatoorah

/-- `_to_str` -/
def toStr (value : Json) : String := if value = .null then "" else value.text

/-- `_to_decimal` -/
def toDecimal (value : Json) : Option Decimal :=
  if isMissing value then none else parseDecimal value.text

/-! ## Fields -/

/-- The fields that are looked up by their dotted path. -/
inductive Field where
  | eventCode | eventReference
  | invoiceId | invoiceStatus | invoiceExternalIdentifier
  | transactionStatus | transactionPaymentId | transactionId | transactionTrackId
  | transactionReferenceId | transactionPaymentMethod | transactionErrorMessage
  | amountValue | amountCurrency
  | refundId | refundStatus | refundInvoiceId | referencedInvoiceId
  deriving DecidableEq

def Field.path : Field → List String
  | .eventCode => ["Event", "Code"]
  | .eventReference => ["Event", "Reference"]
  | .invoiceId => ["Invoice", "Id"]
  | .invoiceStatus => ["Invoice", "Status"]
  | .invoiceExternalIdentifier => ["Invoice", "ExternalIdentifier"]
  | .transactionStatus => ["Transaction", "Status"]
  | .transactionPaymentId => ["Transaction", "PaymentId"]
  | .transactionId => ["Transaction", "Id"]
  | .transactionTrackId => ["Transaction", "TrackId"]
  | .transactionReferenceId => ["Transaction", "ReferenceId"]
  | .transactionPaymentMethod => ["Transaction", "PaymentMethod"]
  | .transactionErrorMessage => ["Transaction", "Error", "Message"]
  | .amountValue => ["Amount", "ValueInBaseCurrency"]
  | .amountCurrency => ["Amount", "BaseCurrency"]
  | .refundId => ["Refund", "Id"]
  | .refundStatus => ["Refund", "Status"]
  | .refundInvoiceId => ["Refund", "InvoiceId"]
  | .referencedInvoiceId => ["ReferencedInvoice", "Id"]

/-- `_FLAT_FALLBACKS` -/
def Field.flatFallbacks : Field → List String
  | .invoiceId => ["InvoiceId", "invoice_id"]
  | .invoiceStatus => ["InvoiceStatus", "invoice_status"]
  | .invoiceExternalIdentifier => ["ExternalIdentifier", "CustomerReference", "customer_reference"]
  | .transactionStatus => ["TransactionStatus", "transaction_status"]
  | .transactionPaymentId => ["PaymentId", "payment_id"]
  | .transactionId => ["TransactionId", "transaction_id"]
  | .transactionTrackId => ["TrackId", "track_id"]
  | .transactionReferenceId => ["ReferenceId", "reference_id"]
  | .transactionPaymentMethod => ["PaymentMethod", "PaymentGateway", "payment_method"]
  | .amountValue => ["InvoiceValueInBaseCurrency", "InvoiceValue", "Amount"]
  | .amountCurrency => ["BaseCurrency", "Currency"]
  | .refundId => ["RefundId", "RefundReference"]
  | .refundStatus => ["RefundStatus"]
  | .refundInvoiceId => ["RefundInvoiceId", "InvoiceId"]
  | .referencedInvoiceId => ["ReferencedInvoiceId", "InvoiceId"]
  | .eventCode | .eventReference | .transactionErrorMessage => []

/-- The value at the end of a path; there is none below what is no mapping. -/
def walk : Json → List String → Json
  | cur, [] => cur
  | cur, part :: parts => if isMapping cur then walk (getKey cur part) parts else .null

/-- `_dig` -/
def dig (data : Json) (f : Field) : Json :=
  if ¬ isMissing (walk data f.path) then walk data f.path
  else if isMapping data then
    ((f.flatFallbacks.map (getKey data)).find? (¬ isMissing ·)).getD (walk data f.path)
  else walk data f.path

/-! ## The signed string -/

/-- The classes of events that are signed. -/
inductive EventClass where
  | payment | refund
  deriving DecidableEq

/-- `_PAYMENT_SIGNATURE_FIELDS` and `_REFUND_SIGNATURE_FIELDS` -/
def EventClass.fields : EventClass → List Field
  | .payment =>
    [.invoiceId, .invoiceStatus, .transactionStatus, .transactionPaymentId,
      .invoiceExternalIdentifier]
  | .refund => [.refundId, .refundStatus, .amountValue, .referencedInvoiceId]

/-- The class of a code, under which an event is signed. -/
def classOf (code : String) : Option EventClass :=
  if code ∈ ["1", "TransactionsStatusChanged", "PAYMENT_STATUS_CHANGED"] then some .payment
  else if code ∈ ["2", "RefundStatusChanged", "REFUND_STATUS_CHANGED"] then some .refund
  else none

/-- The code of the event as the signature takes it. -/
def signedCode (payload : Json) : String :=
  (if isMapping (getKey payload "Event") then dig payload .eventCode
    else orLast [getKey payload "EventCode", getKey payload "Event"]).text

def signedClass (payload : Json) : Option EventClass := classOf (signedCode payload)

/-- `payload.get("Data") or {}` -/
def dataOf (payload : Json) : Json := orLast [getKey payload "Data", .obj []]

/-- `[t for t in (data.get("InvoiceTransactions") or []) if isinstance(t, Mapping)]` -/
def invoiceTransactions (data : Json) : Except Error (List Json) :=
  if isMapping data then
    if (getKey data "InvoiceTransactions").truthy then
      match getKey data "InvoiceTransactions" with
      | .arr items => .ok (items.filter isMapping)
      | .str _ | .obj _ => .ok []
      | _ => .error .typeError
    else .ok []
  else .error (.attributeError "get")

/-- The data an event is signed over: the first of its transactions stands for the one it lacks. -/
def signedData (payload : Json) : Except Error Json :=
  if isMapping (dataOf payload) ∧ ¬ hasKey (dataOf payload) "Transaction" then do
    let txList ← invoiceTransactions (dataOf payload)
    match txList with
    | tx :: _ => pure (putKey (dataOf payload) "Transaction" tx)
    | [] => pure (dataOf payload)
  else pure (dataOf payload)

/-- `f"{f}={_to_str(_dig(data, f))}"` -/
def signedPart (data : Json) (f : Field) : String :=
  Text.join "." f.path ++ "=" ++ toStr (dig data f)

/-- `build_signature_string` -/
def buildSignatureString (payload : Json) : Except Error (Option String) := do
  let data ← signedData payload
  match signedClass payload with
  | some c => pure (some (Text.join "," (c.fields.map (signedPart data))))
  | none => pure none

def SIGNATURE_HEADER : String := "myfatoorah-signature"

/-- `verify_signature`; `mac` is the signature of a text under the secret. -/
def verifySignature (mac : String → String → String) (secret : String)
    (headers : List (String × String)) (payload : Json) : Except Error Bool :=
  if secret = "" then pure false
  else do
    let provided := (headers.find? fun kv => Text.lower kv.1 = SIGNATURE_HEADER).map Prod.snd
    let signatureString ← buildSignatureString payload
    match signatureString with
    | none => pure false
    | some s => pure (Text.truthy provided ∧ mac secret s = Text.strip (provided.getD ""))

/-! ## Reading an event -/

/-- The code of the event as it is read. -/
def readCode (payload : Json) : String :=
  (if isMapping (getKey payload "Event") then dig payload .eventCode
    else orLast [getKey payload "EventCode", getKey payload "Event", .str ""]).text

/-- The first transaction that went well, else the first. -/
def successTransaction (txList : List Json) : Json :=
  (txList.find? fun t =>
    Text.lower (Text.strip (toStr (getKey t "TransactionStatus"))) ∈
      ["succss", "success", "succeeded"]).getD (txList.headD (.obj []))

/-- The data an event is read from: the transaction that went well stands for the one it lacks. -/
def readData (payload : Json) (txList : List Json) : Json :=
  if ¬ hasKey (dataOf payload) "Transaction" ∧ txList ≠ [] then
    putKey (dataOf payload) "Transaction" (successTransaction txList)
  else dataOf payload

/-- The values of a payload an event is made of. -/
structure Source where
  payload : Json
  data : Json
  transaction : Json

/-- `_to_str(…) or None` of the first value that is true -/
def label (values : List Json) : Option String := Text.orNone (toStr (orLast values))

namespace Source

variable (s : Source)

def invoiceId : Option String :=
  label [dig s.data .invoiceId, getKey s.payload "InvoiceId", getKey s.payload "invoice_id"]

def paymentId : Option String :=
  label [dig s.data .transactionPaymentId, getKey s.transaction "PaymentId",
    getKey s.payload "PaymentId", getKey s.payload "payment_id"]

def txStatus : String :=
  Text.upper (toStr (orLast [dig s.data .transactionStatus, getKey s.payload "TransactionStatus"]))

def invStatus : String :=
  Text.upper (toStr (orLast [dig s.data .invoiceStatus, getKey s.payload "InvoiceStatus"]))

def status : GatewayPaymentStatus :=
  if s.invStatus = "PAID" ∨ s.txStatus = "SUCCESS" ∨ (s.invStatus = "" ∧ s.txStatus = "") then .paid
  else if s.txStatus = "FAILED" ∨ s.invStatus = "FAILED" then .failed
  else if s.txStatus ∈ ["CANCELED", "CANCELLED"] ∨ s.invStatus ∈ ["CANCELED", "CANCELLED"] then
    .canceled
  else .pending

def state : GatewayPaymentState :=
  { status := s.status
    invoiceId := s.invoiceId
    paymentId := s.paymentId
    transactionId := label [dig s.data .transactionId, getKey s.transaction "TransactionId",
      getKey s.transaction "Id", getKey s.payload "TransactionId"]
    trackId := label [dig s.data .transactionTrackId, getKey s.transaction "TrackId",
      getKey s.payload "TrackId"]
    referenceId := label [dig s.data .transactionReferenceId, getKey s.transaction "ReferenceId",
      getKey s.payload "ReferenceId"]
    paymentMethod := label [dig s.data .transactionPaymentMethod,
      getKey s.transaction "PaymentMethod", getKey s.transaction "PaymentGateway",
      getKey s.payload "PaymentMethod"]
    amount := toDecimal (orLast [dig s.data .amountValue, getKey s.payload "InvoiceValue"])
    currency := label [dig s.data .amountCurrency, getKey s.transaction "Currency",
      getKey s.payload "Currency"]
    failureReason := label [dig s.data .transactionErrorMessage, getKey s.transaction "Error"] }

def reference : Option String :=
  label [dig s.payload .eventReference, getKey s.payload "WebhookReference"]

def paymentEvent : GatewayWebhookEvent :=
  { kind := .paymentStatus
    eventReference := s.reference
    invoiceId := s.invoiceId
    status := some s.status
    state := some s.state }

def refundEvent : GatewayWebhookEvent :=
  { kind := .refundStatus
    eventReference := s.reference
    invoiceId := Text.or (some (toStr (dig s.data .referencedInvoiceId)))
      (Text.orNone (toStr (dig s.data .refundInvoiceId)))
    refundId := Text.orNone (toStr (dig s.data .refundId))
    refundStatus := Text.orNone (Text.upper (toStr (dig s.data .refundStatus))) }

/-- The event of a payload; one that names an invoice or a payment is a payment event, whatever its
code. -/
def event : GatewayWebhookEvent :=
  if classOf (readCode s.payload) = some .payment ∨ s.invoiceId.isSome ∨ s.paymentId.isSome then
    s.paymentEvent
  else if readCode s.payload = "2" then s.refundEvent
  else { kind := .ignored, eventReference := s.reference }

end Source

/-- What an event is made of. -/
def sourceOf (payload : Json) : Except Error Source := do
  let txList ← invoiceTransactions (dataOf payload)
  pure
    { payload := payload
      data := readData payload txList
      transaction := successTransaction txList }

/-- `parse_event` -/
def parseEvent (payload : Json) : Except Error GatewayWebhookEvent := do
  let source ← sourceOf payload
  pure source.event

/-! ## Classes -/

def EventClass.kind : EventClass → WebhookEventKind
  | .payment => .paymentStatus
  | .refund => .refundStatus

/-- The payload is signed as an event of the class. -/
def SignedAs (c : EventClass) (payload : Json) : Prop :=
  signedClass payload = some c ∧ ∃ s, buildSignatureString payload = .ok (some s)

/-- The event says that its payment is paid. -/
def SaysPaid (event : GatewayWebhookEvent) : Prop :=
  event.status = some .paid ∨ ∃ state, event.state = some state ∧ state.status = .paid

/-- A payload is read as an event of the class it is signed as, and no refund is read as paid. -/
structure ReadAsSigned (payload : Json) : Prop where
  same : ∀ c, SignedAs c payload → ∃ event, parseEvent payload = .ok event ∧ event.kind = c.kind
  unpaid : SignedAs .refund payload → ∀ event, parseEvent payload = .ok event → ¬ SaysPaid event

/-- The transactions of the data can be gone through. -/
def Readable (payload : Json) : Prop := (invoiceTransactions (dataOf payload)).isOk = true

/-- No value is true and the last is missing. A number without digits names nothing either. -/
def NoneNamed (values : List Json) : Prop :=
  (∀ j ∈ values.find? Json.truthy, j.text = "") ∧
    (values.find? Json.truthy = none → isMissing (values.getLastD .null) = true)

/-- Neither an invoice nor a payment is named, nested or flat. -/
structure NamesNoPayment (s : Source) : Prop where
  invoice : NoneNamed
    [dig s.data .invoiceId, getKey s.payload "InvoiceId", getKey s.payload "invoice_id"]
  payment : NoneNamed
    [dig s.data .transactionPaymentId, getKey s.transaction "PaymentId",
      getKey s.payload "PaymentId", getKey s.payload "payment_id"]

end MyFatoorah

end PaymentLinks
