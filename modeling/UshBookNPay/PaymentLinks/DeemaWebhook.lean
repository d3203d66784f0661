import UshBookNPay.Lib.FixedPoint
import UshBookNPay.PaymentLinks.MyFatoorahWebhook

/-!
# Deema webhooks

How the Deema adapter signs and reads a webhook of Tap Payments.
-/

namespace PaymentLinks.Deema

/-! ## Values -/

/-- `_to_str` -/
def toStr (value : Json) : String := if value = .null then "" else Text.strip value.text

/-- `_to_decimal` -/
def toDecimal (value : Json) : Option Decimal :=
  if isMissing value then none else parseDecimal value.text

def THREE_DECIMAL_CURRENCIES : List String := ["KWD", "BHD", "OMR", "JOD", "TND"]

/-- `f"{dec:.{decimals}f}"` of a number as it is spelled: the sign of a zero stays. -/
def fixedStr (spelled : String) (x : Decimal) (decimals : ℕ) : String :=
  let rounded := FixedPoint.roundHalfEven (|x.value| * 10 ^ decimals)
  (if (Text.strip spelled).toList.head? = some '-' then "-" else "") ++ decimalStr rounded decimals

/-- `_format_tap_amount` -/
def formatTapAmount (amount : Json) (currency : String) : String :=
  match toDecimal amount with
  | none => toStr amount
  | some x =>
    let known := Text.upper (if currency = "" then "KWD" else currency)
    fixedStr amount.text x (if known ∈ THREE_DECIMAL_CURRENCIES then 3 else 2)

/-- The value under the key where it is a mapping, else the empty one. -/
def mappingAt (j : Json) (key : String) : Json :=
  if isMapping (getKey j key) then getKey j key else .obj []

/-! ## The signed string -/

/-- `build_signature_string` -/
def buildSignatureString (payload : Json) (formattedAmount : Bool) : Option String :=
  let chargeId := toStr (getKey payload "id")
  if chargeId = "" then none
  else
    let currency := Text.upper (toStr (orLast [getKey payload "currency", .str "KWD"]))
    let rawAmount := getKey payload "amount"
    let amount := if formattedAmount then formatTapAmount rawAmount currency else toStr rawAmount
    let ref := mappingAt payload "reference"
    let created := orLast [getKey (mappingAt payload "transaction") "created", getKey payload "created"]
    some ("x_id" ++ chargeId ++ "x_amount" ++ amount ++ "x_currency" ++ currency ++
      "x_gateway_reference" ++ toStr (getKey ref "gateway") ++
      "x_payment_reference" ++ toStr (getKey ref "payment") ++
      "x_status" ++ toStr (getKey payload "status") ++ "x_created" ++ toStr created)

def SIGNATURE_HEADERS : List String := ["hashstring", "x-tap-signature", "tap-signature", "hash"]

/-- `verify_signature`; `mac` is the signature of a text under the secret. -/
def verifySignature (mac : String → String → String) (secret : String)
    (headers : List (String × String)) (payload : Json) : Bool :=
  if secret = "" then false
  else
    match headers.find? fun kv => Text.lower kv.1 ∈ SIGNATURE_HEADERS ∧ kv.2 ≠ "" with
    | none => false
    | some kv =>
      [true, false].any fun formatted =>
        (buildSignatureString payload formatted).any fun s =>
          Text.lower (mac secret s) = Text.lower (Text.strip kv.2)

/-! ## Reading an event -/

def PAID_STATUSES : List String := ["CAPTURED", "AUTHORIZED", "PAID", "SUCCESS", "SUCCEEDED"]

def FAILED_STATUSES : List String :=
  ["FAILED", "DECLINED", "RESTRICTED", "INVALID", "CAPTURED_FAILED"]

def CANCELED_STATUSES : List String := ["CANCELLED", "CANCELED", "VOID", "ABANDONED"]

def EXPIRED_STATUSES : List String := ["TIMEDOUT", "EXPIRED"]

def REFUND_OK_STATUSES : List String :=
  ["INITIATED", "PENDING", "ACCEPTED", "APPROVED", "REFUNDED", "SUCCEEDED"]

def REFUND_FAIL_STATUSES : List String :=
  ["FAILED", "DECLINED", "CANCELLED", "CANCELED", "RESTRICTED"]

/-- `_map_charge_status` -/
def mapChargeStatus (tapStatus : String) : GatewayPaymentStatus :=
  let upper := Text.upper (Text.strip tapStatus)
  if upper ∈ PAID_STATUSES then .paid
  else if upper ∈ EXPIRED_STATUSES then .expired
  else if upper ∈ CANCELED_STATUSES then .canceled
  else if upper ∈ FAILED_STATUSES then .failed
  else .pending

/-- `a or b or … or None` -/
def firstLabel (texts : List String) : Option String := texts.find? (· ≠ "")

/-- `_state_from_charge` -/
def stateFromCharge (body : Json) : GatewayPaymentState :=
  let chargeId := toStr (getKey body "id")
  let status := mapChargeStatus (toStr (getKey body "status"))
  let ref := mappingAt body "reference"
  let source := mappingAt body "source"
  let rawMethod := Text.lower (toStr (orLast [getKey source "payment_method", getKey source "id"]))
  { status := status
    invoiceId := Text.orNone chargeId
    paymentId := firstLabel
      [toStr (getKey ref "payment"), toStr (getKey (mappingAt body "receipt") "id"), chargeId]
    transactionId := firstLabel
      [toStr (getKey ref "transaction"),
        toStr (getKey (mappingAt body "transaction") "authorization_id"), chargeId]
    trackId := firstLabel [toStr (getKey ref "track"), toStr (getKey ref "acquirer")]
    referenceId := firstLabel
      [toStr (getKey (mappingAt body "metadata") "payment_link_id"), toStr (getKey ref "order"),
        toStr (getKey ref "gateway")]
    paymentMethod :=
      some (if Text.isIn "deema" rawMethod ∨ rawMethod = "" then "deema" else rawMethod)
    amount := toDecimal (getKey body "amount")
    currency := firstLabel [toStr (getKey body "currency"), "KWD"]
    failureReason :=
      if status = .failed then Text.orNone (toStr (getKey (mappingAt body "response") "message"))
      else none }

/-- `parse_event` -/
def parseEvent (payload : Json) : GatewayWebhookEvent :=
  let objType := Text.lower (toStr (getKey payload "object"))
  let entityId := toStr (getKey payload "id")
  let statusUpper := Text.upper (toStr (getKey payload "status"))
  let eventRef := if entityId ≠ "" ∧ statusUpper ≠ "" then some (entityId ++ ":" ++ statusUpper)
    else Text.orNone entityId
  if objType = "refund" ∨ Text.startsWith "ref_" entityId then
    { kind := .refundStatus
      eventReference := eventRef
      invoiceId := Text.orNone (toStr (orLast [getKey payload "charge_id",
        getKey (mappingAt payload "charge") "id"]))
      refundId := Text.orNone entityId
      refundStatus :=
        if statusUpper ∈ REFUND_OK_STATUSES then some "REFUNDED"
        else if statusUpper ∈ REFUND_FAIL_STATUSES then some "CANCELED"
        else Text.orNone statusUpper }
  else if objType ∈ ["charge", "authorize", ""] ∧ (entityId ≠ "" ∨ statusUpper ≠ "") then
    { kind := .paymentStatus
      eventReference := eventRef
      invoiceId := (stateFromCharge payload).invoiceId
      status := some (stateFromCharge payload).status
      state := some (stateFromCharge payload) }
  else { kind := .ignored, eventReference := Text.orNone entityId }

end PaymentLinks.Deema
