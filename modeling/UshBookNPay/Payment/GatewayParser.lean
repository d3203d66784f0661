import UshBookNPay.Payment.Models

/-!
# The parser of gateway responses

`parse_gateway_response` brings what MyFatoorah, Tap or another gateway sends to the columns of a
payment. Everything else is kept in `payment_data`.
-/

namespace Payment

/-- `_safe_decimal` -/
def safeDecimal (value : Option Json) (default : Decimal) : Decimal :=
  match value with
  | none | some .null | some (.str "") => default
  | some j =>
    let noKd := Text.removeAll "KD".toList j.text.toList
    let clean := Text.removeAll ",".toList (Text.removeAll "KWD".toList noKd)
    (parseDecimal (String.ofList clean)).getD default

/-- `_safe_datetime` -/
def safeDatetime (value : Option String) : Option Instant :=
  value.bind fun s => if s = "" then none
    else parseDatetime (Text.replaceChar ' ' 'T' (Text.strip s))

/-- `a or b or …`: the first value that counts as true -/
def firstTrue (values : List (Option Json)) : Option Json :=
  (values.filterMap id).find? Json.truthy

/-- `str(a or b or … or "")` -/
def textOf (values : List (Option Json)) : String := ((firstTrue values).map Json.text).getD ""

/-- `str(a or b or … or "").strip() or None` -/
def labelOf (values : List (Option Json)) : Option String :=
  Text.orNone (Text.strip (textOf values))

/-- The value where it is a dict, else the empty dict. -/
def asDict (value : Option Json) : Json :=
  match value with
  | some (.obj fields) => .obj fields
  | _ => .obj []

/-- What `parse_gateway_response` returns, less the columns `customer_data` and `country`. -/
structure GatewayResponse where
  status : PaymentStatus
  totalAmount : Decimal
  currency : String
  invoiceValue : Decimal
  invoiceId : Option String
  transactionId : Option String
  paymentId : Option String
  referenceId : Option String
  trackId : Option String
  transactionStatus : Option String
  transactionDate : Option String
  paymentMethod : String
  paymentGateway : Option String
  paymentUrl : Option String
  paidAt : Option Instant
  paymentData : List (String × Json)

/-! ## Status -/

/-- The status, from the paid flags and the two lower-cased texts. -/
def responseStatus (isPaidFlag : Bool) (invoiceStatus txnStatus : String) : PaymentStatus :=
  if isPaidFlag ∨ invoiceStatus = "paid" ∨ Text.isIn "succ" txnStatus ∨
      invoiceStatus ∈ ["success", "captured"] then .success
  else if invoiceStatus ∈ ["failed", "error"] ∨ Text.isIn "fail" txnStatus then .failed
  else if invoiceStatus ∈ ["cancelled", "canceled"] then .cancelled
  else if invoiceStatus ∈ ["pending", "initiated"] then .pending
  else if isPaidFlag then .success else .pending

/-! ## Amounts -/

def rawAmount (payload data firstTxn : Json) : Option Json :=
  firstTrue [data.field? "InvoiceValue", firstTxn.field? "TransationValue",
    firstTxn.field? "DueValue", payload.field? "amount", data.field? "InvoiceDisplayValue"]

def responseCurrency (payload data firstTxn : Json) : String :=
  let currency := Text.upper (((firstTrue [firstTxn.field? "Currency", firstTxn.field? "PaidCurrency",
    data.field? "CurrencyIso", payload.field? "currency"]).map Json.text).getD "KWD")
  if currency ∈ ["KD", "KWD"] then "KWD" else currency

/-! ## Method and gateway -/

def responseGatewayName (sourceId : String) (payload firstTxn : Json) : Option String :=
  (labelOf [firstTxn.field? "PaymentGateway", payload.field? "gateway"]).or
    (if Text.isIn "deema" sourceId then some "Deema" else none)

def responseMethod (sourceId : String) (gatewayName : Option String) : String :=
  let name := Text.lower (gatewayName.getD "")
  if Text.isIn "deema" sourceId ∨ Text.isIn "deema" name then "deema"
  else if Text.isIn "apple" name then "apple_pay"
  else if Text.isIn "google" name then "google_pay"
  else if Text.isIn "knet" name then "knet"
  else "card"

/-- The gateway as one of KNET, Deema, TAP and Other. -/
def responseGateway (gatewayName : Option String) : Option String :=
  gatewayName.map fun name =>
    let up := Text.upper name
    if Text.isIn "KNET" up ∨ Text.isIn "K-NET" up then "KNET"
    else if Text.isIn "DEEMA" up then "Deema"
    else if Text.isIn "TAP" up then "TAP"
    else "Other"

/-! ## The audit data -/

/-- `card_info` -/
def cardInfo (firstTxn : Json) : Option Json :=
  match firstTxn.field? "Card" with
  | some (.obj []) => none
  | some (.obj card) =>
    let get := fun key => ((Json.obj card).field? key).getD (.str "")
    some (.obj [("name_on_card", get "NameOnCard"), ("brand", get "Brand"),
      ("issuer", get "Issuer"), ("issuer_country", get "IssuerCountry"),
      ("funding_method", get "FundingMethod"), ("pan_hash", get "PanHash"),
      ("expiry_month", get "ExpiryMonth"), ("expiry_year", get "ExpiryYear")])
  | _ => none

/-- The fields of a dict whose value is not `None`. -/
def dropNone (fields : List (String × Option Json)) : List (String × Json) :=
  fields.filterMap fun kv => kv.2.map fun v => (kv.1, v)

/-- `parse_gateway_response`; `none` is the empty dict it returns for what is not a dict. -/
def parseGatewayResponse (payload : Json) : Option GatewayResponse :=
  match payload with
  | .obj _ =>
    let data := asDict (firstTrue [payload.field? "data", payload.field? "Data"])
    let firstTxn := match firstTrue [data.field? "InvoiceTransactions",
        data.field? "invoice_transactions"] with
      | some (.arr (txn :: _)) => asDict (some txn)
      | _ => .obj []
    let isPaidFlag := ["isPaid", "IsSuccess", "is_paid"].any fun key =>
      payload.field? key = some (.bool true)
    let invoiceStatus := Text.lower (textOf [data.field? "InvoiceStatus", payload.field? "status"])
    let txnStatus := Text.lower (textOf [firstTxn.field? "TransactionStatus"])
    let amount := safeDecimal (rawAmount payload data firstTxn) { unscaled := 0, decimals := 3 }
    let invoiceValue := safeDecimal (firstTrue [data.field? "InvoiceValue",
      firstTxn.field? "DueValue", rawAmount payload data firstTxn]) amount
    let ref := asDict (payload.field? "reference")
    let source := asDict (payload.field? "source")
    let chargeId := if Text.startsWith "chg_" (textOf [payload.field? "id"]) then
      payload.field? "id" else none
    let invoiceId := labelOf [data.field? "InvoiceId", payload.field? "invoiceId",
      payload.field? "InvoiceId", chargeId]
    let transactionId := labelOf [firstTxn.field? "TransactionId", payload.field? "transaction_id",
      ref.field? "transaction"]
    let paymentId := labelOf [firstTxn.field? "PaymentId", data.field? "PaymentId",
      payload.field? "payment_id", payload.field? "PaymentId", ref.field? "payment",
      payload.field? "id"]
    let sourceId := Text.lower (Text.strip (textOf [source.field? "id",
      source.field? "payment_method"]))
    let gatewayName := responseGatewayName sourceId payload firstTxn
    let transactionDate := labelOf [firstTxn.field? "TransactionDate",
      payload.field? "transaction_date"]
    let invoiceReference := labelOf [data.field? "InvoiceReference"]
    let text := fun s : Option String => s.map Json.str
    some
      { status := responseStatus isPaidFlag invoiceStatus txnStatus
        totalAmount := amount
        currency := responseCurrency payload data firstTxn
        invoiceValue := invoiceValue
        invoiceId := invoiceId
        transactionId := transactionId
        paymentId := paymentId
        referenceId := labelOf [firstTxn.field? "ReferenceId", ref.field? "gateway",
          ref.field? "order"]
        trackId := labelOf [firstTxn.field? "TrackId", ref.field? "track", ref.field? "acquirer"]
        transactionStatus := labelOf [firstTxn.field? "TransactionStatus", payload.field? "status"]
        transactionDate := transactionDate
        paymentMethod := responseMethod sourceId gatewayName
        paymentGateway := responseGateway gatewayName
        paymentUrl := labelOf [payload.field? "paymentUrl", data.field? "PaymentURL"]
        paidAt := safeDatetime (transactionDate.or (labelOf [data.field? "CreatedDate"]))
        paymentData := dropNone [
          ("provider_payment_id", text invoiceId),
          ("provider_reference", text (invoiceReference.or invoiceId)),
          ("provider_transaction_id", text transactionId),
          ("invoice_reference", text invoiceReference),
          ("customer_reference", text (labelOf [data.field? "CustomerReference"])),
          ("authorization_id", text (labelOf [firstTxn.field? "AuthorizationId"])),
          ("payment_id_gateway", text paymentId),
          ("gateway_name", text gatewayName),
          ("ip_address", text (labelOf [firstTxn.field? "IpAddress", payload.field? "ip_address"])),
          ("country", text (labelOf [firstTxn.field? "Country"])),
          ("card_info", cardInfo firstTxn),
          ("raw_response", some payload)] }
  | _ => none

/-! ## What the parser can say -/

/-- The statuses of a gateway response. -/
def responseStatuses : List PaymentStatus := [.success, .failed, .cancelled, .pending]

theorem responseStatus_mem (isPaidFlag : Bool) (invoiceStatus txnStatus : String) :
    responseStatus isPaidFlag invoiceStatus txnStatus ∈ responseStatuses := by
  unfold responseStatus
  split_ifs <;> simp [responseStatuses]

theorem parseGatewayResponse_status {payload : Json} {parsed : GatewayResponse}
    (h : parseGatewayResponse payload = some parsed) : parsed.status ∈ responseStatuses := by
  cases payload with
  | obj fields =>
    simp only [parseGatewayResponse, Option.some.injEq] at h
    rw [← h]
    exact responseStatus_mem _ _ _
  | null | bool | num | str | arr => cases h

end Payment
