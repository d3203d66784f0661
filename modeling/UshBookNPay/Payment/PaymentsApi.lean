import UshBookNPay.Payment.GatewayWebhooks

/-!
# Payments API

`create_payment` and `update_payment`: a payment is recorded or changed by hand, or from the response
of a gateway. A payment that is recorded as successful, or becomes so, confirms its booking.
-/

open Transactions.Prog (query raiseIf forSome ask)

namespace Payment

/-! ## Labels -/

/-- `PaymentProvider.normalise` -/
def normaliseProvider (value : String) : String :=
  match PaymentAttribution.normaliseProvider (some value) with
  | some canonical => canonical
  | none => if Text.lower (Text.strip value) ∈ ["knet", "card"] then "knet_pos" else "other"

/-- `PaymentThrough.normalise` -/
def normaliseThrough (value : String) : String :=
  (PaymentAttribution.normaliseThrough (some value)).getD "other"

/-- `PaymentGateway.normalise` -/
def normaliseGateway (value : String) : String :=
  let v := (Text.upper (Text.strip value)).toList.filter fun c => c ≠ '-' ∧ c ≠ '_' ∧ c ≠ ' '
  let mapping := [("KNET", "KNET"), ("TAP", "TAP"), ("DEEMA", "Deema"),
    ("DEEMAPAYMENTLINK", "Deema"), ("OTHER", "Other")]
  (mapping.lookup (String.ofList v)).getD "Other"

/-- `PaymentFor.normalise` -/
def normaliseFor (value : String) : String :=
  let v := Text.replaceChar ' ' '_' (Text.replaceChar '-' '_' (Text.lower (Text.strip value)))
  let mapping := [("branch_service", "branch_service"), ("service", "branch_service"),
    ("home_service", "home_service"), ("home", "home_service"), ("gift_voucher", "gift_voucher"),
    ("voucher", "gift_voucher"), ("product_items", "product_items"), ("products", "product_items"),
    ("product", "product_items")]
  (mapping.lookup v).getD "branch_service"

/-- `_USHANR_INVOICE_NAME_RE` -/
def isInvoiceName (s : String) : Bool :=
  match s.toList.splitOn '/' with
  | [letters, year, month, number] =>
    (2 ≤ letters.length ∧ letters.length ≤ 6 ∧ letters.all Char.isUpper) ∧
      (year.length = 4 ∧ year.all Char.isDigit) ∧ (month.length = 2 ∧ month.all Char.isDigit) ∧
      (5 ≤ number.length ∧ number.all Char.isDigit)
  | _ => false

/-- `_trusted_invoice_number` -/
def trustedInvoiceNumber (supplied : Option String) (booking : Option BookingRow) :
    Option String :=
  let ofBooking := Text.strip (Text.orEmpty (booking.bind (·.invoiceNumber)))
  let cleaned := Text.strip (Text.orEmpty supplied)
  if isInvoiceName ofBooking then some ofBooking
  else if isInvoiceName cleaned then some cleaned else none

/-- `if new and not old: old = new` -/
def fillIn (old new : Option String) : Option String :=
  if Text.truthy new ∧ ¬ Text.truthy old then new else old

/-- `a or b` on decimals: zero is false. -/
def orDecimal (a : Option Decimal) (b : Decimal) : Decimal :=
  match a with
  | some x => if x.unscaled ≠ 0 then x else b
  | none => b

/-! ## The request of `create_payment` -/

/-- `CreatePaymentRequestSchema`, less the snapshots and the fields of the service. -/
structure CreatePaymentRequest where
  customerId : Uuid
  totalAmount : Decimal
  currency : String := "KWD"
  status : Option PaymentStatus := some .initiated
  paidAt : Option Instant := none
  bookingId : Option Uuid := none
  voucherId : Option Uuid := none
  voucherNumber : Option String := none
  invoiceId : Option String := none
  invoiceValue : Option Decimal := none
  paymentUrl : Option String := none
  transactionId : Option String := none
  trackId : Option String := none
  referenceId : Option String := none
  transactionStatus : Option String := none
  transactionDate : Option String := none
  paymentMethod : Option String := none
  paymentThrough : Option String := none
  paymentProvider : Option String := none
  paymentGateway : Option String := none
  paymentFor : Option String := some "branch_service"
  paymentNumber : Option String := none
  invoiceNumber : Option String := none
  paymentId : Option String := none
  paymentData : List (String × Json) := []
  gatewayResponse : List (String × Json) := []
  createdByUser : Option String := none
  createdBy : Option String := none

/-- What a gateway response says; an empty one says nothing. -/
def parsedResponse (response : List (String × Json)) : Option GatewayResponse :=
  if response = [] then none else parseGatewayResponse (.obj response)

/-- The gift voucher a request names, by its id or by its number. A number that several vouchers have
names none. -/
def resolveVoucher (voucherId : Option Uuid) (voucherNumber : Option String) :
    Tx (Option Uuid × Option String) :=
  query fun d =>
    match voucherId with
    | some id =>
      if Text.truthy voucherNumber then (some id, voucherNumber)
      else (some id, (Table.get d.giftVouchers id).bind (·.voucherNumber))
    | none =>
      if Text.truthy voucherNumber then
        match d.giftVouchers.filter (·.voucherNumber = voucherNumber) with
        | [v] => (some v.id, voucherNumber)
        | _ => (none, voucherNumber)
      else (none, voucherNumber)

def resolvedFor (body : CreatePaymentRequest) (voucher : Option Uuid × Option String)
    (booking : Option BookingRow) : String :=
  match body.paymentFor.filter (· ≠ "") with
  | some raw => normaliseFor raw
  | none =>
    if voucher.1.isSome ∨ Text.truthy voucher.2 then "gift_voucher"
    else match booking with
      | some b => if b.bookingType ∈ ["home_service", "home"] then "home_service"
        else "branch_service"
      | none => "branch_service"

def resolvedTotal (body : CreatePaymentRequest) (parsed : Option GatewayResponse)
    (booking : Option BookingRow) : Decimal :=
  orDecimal (some body.totalAmount) (orDecimal (parsed.map (·.totalAmount))
    (.ofFils ((booking.map (·.totalAmount)).getD 0)))

def resolvedInvoiceValue (body : CreatePaymentRequest) (parsed : Option GatewayResponse)
    (booking : Option BookingRow) : Decimal :=
  orDecimal body.invoiceValue (orDecimal (parsed.map (·.invoiceValue))
    (resolvedTotal body parsed booking))

def resolvedCurrency (body : CreatePaymentRequest) (parsed : Option GatewayResponse)
    (booking : Option BookingRow) : String :=
  let currency := (Text.or (Text.or (some body.currency) (parsed.map (·.currency)))
    (some ((booking.map (·.currency)).getD "KWD"))).getD "KWD"
  if currency ∈ ["KD", "KWD"] then "KWD" else currency

/-- The payment a request describes, less its id and its number. -/
def describedPayment (body : CreatePaymentRequest) (booking : Option BookingRow)
    (voucher : Option Uuid × Option String) (now : Instant) : PaymentRow :=
  let parsed := parsedResponse body.gatewayResponse
  let status := (body.status.or (parsed.map (·.status))).getD .initiated
  let label := fun (f : String → String) (value : Option String) =>
    (value.filter (· ≠ "")).map f
  { id := 0
    invoiceNumber := trustedInvoiceNumber body.invoiceNumber booking
    customerId := some body.customerId
    bookingId := body.bookingId
    voucherId := voucher.1
    voucherNumber := voucher.2
    totalAmount := (resolvedTotal body parsed booking).quantize
    currency := resolvedCurrency body parsed booking
    status := some status
    paidAt := (body.paidAt.or (parsed.bind (·.paidAt))).or
      (if status = .success then some now else none)
    invoiceId := Text.or body.invoiceId (parsed.bind (·.invoiceId))
    invoiceValue := some (resolvedInvoiceValue body parsed booking).quantize
    paymentUrl := Text.or body.paymentUrl (parsed.bind (·.paymentUrl))
    transactionId := Text.or body.transactionId (parsed.bind (·.transactionId))
    trackId := Text.or body.trackId (parsed.bind (·.trackId))
    referenceId := Text.or body.referenceId (parsed.bind (·.referenceId))
    transactionStatus := Text.or body.transactionStatus (parsed.bind (·.transactionStatus))
    transactionDate := Text.or (Text.or body.transactionDate (parsed.bind (·.transactionDate)))
      (some (isoformat now))
    paymentMethod := Text.or body.paymentMethod (parsed.map (·.paymentMethod))
    paymentThrough := label normaliseThrough body.paymentThrough
    paymentProvider := label normaliseProvider body.paymentProvider
    paymentGateway := label normaliseGateway
      (Text.or body.paymentGateway (parsed.bind (·.paymentGateway)))
    paymentFor := some (resolvedFor body voucher booking)
    paymentId := Text.or body.paymentId (parsed.bind (·.paymentId)) }

/-! ## A payment there is already -/

/-- What a request fills in of the payment its booking has already. -/
def filledColumns (body : CreatePaymentRequest) (described p : PaymentRow) : PaymentRow :=
  { p with
    paymentProvider := fillIn p.paymentProvider described.paymentProvider
    paymentThrough := fillIn p.paymentThrough described.paymentThrough
    paymentGateway := fillIn p.paymentGateway described.paymentGateway
    paymentMethod := fillIn p.paymentMethod body.paymentMethod
    status := if p.status = some .success then p.status else described.status
    invoiceNumber := fillIn p.invoiceNumber body.invoiceNumber
    invoiceId := fillIn p.invoiceId described.invoiceId
    invoiceValue := if p.invoiceValue.getD 0 = 0 then described.invoiceValue else p.invoiceValue }

/-- What a request sets of the payment its gift voucher has already. -/
def filledVoucherColumns (body : CreatePaymentRequest) (described : PaymentRow)
    (invoiceValue : Decimal) (p : PaymentRow) : PaymentRow :=
  let parsed := parsedResponse body.gatewayResponse
  let data := (parsed.map (·.paymentData)).getD [] ++ body.paymentData
  { filledColumns body described p with
    invoiceNumber := (trustedInvoiceNumber body.invoiceNumber none).or p.invoiceNumber
    invoiceValue := if invoiceValue.unscaled ≠ 0 then described.invoiceValue else p.invoiceValue
    voucherNumber := fillIn p.voucherNumber described.voucherNumber
    paymentData := if data = [] then p.paymentData else some (Json.withFields p.paymentData data)
    transactionId := fillIn p.transactionId described.transactionId
    trackId := fillIn p.trackId described.trackId
    referenceId := fillIn p.referenceId described.referenceId }

/-- The `payment_data` of a gift voucher with what its payment says. -/
def voucherFields (p : PaymentRow) : List (String × Json) :=
  ([("invoice_number", p.invoiceNumber), ("payment_number", some p.paymentNumber),
      ("payment_provider", p.paymentProvider), ("payment_method", p.paymentMethod),
      ("transaction_id", p.transactionId), ("track_id", p.trackId),
      ("reference_id", p.referenceId)] : List (String × Option String)).filterMap fun kv =>
    if Text.truthy kv.2 then some (kv.1, .ofText kv.2) else none

def setVoucherPayment (fields : List (String × Json)) (voucherNumber : Option String)
    (v : GiftVoucherRow) : GiftVoucherRow :=
  { v with
    paymentData := some (Json.withFields v.paymentData fields)
    voucherNumber := fillIn v.voucherNumber voucherNumber }

/-- Write what its payment says to the gift voucher, if it is there. -/
def recordOnVoucher (voucherId : Option Uuid) (fields : List (String × Json))
    (voucherNumber : Option String) : Tx Unit :=
  forSome voucherId fun id => do
    let row ← query fun d => Table.get d.giftVouchers id
    forSome row fun v =>
      discard (flushVoucher ((Orm.ofRow v).set (setVoucherPayment fields voucherNumber)))

/-! ## A new payment -/

/-- The snapshot of a payment that is merged into its booking. -/
def paymentMetaSnapshot (p : PaymentRow) : List (String × Json) :=
  let value := match p.invoiceValue with
    | some v => if v ≠ 0 then v else p.totalAmount
    | none => p.totalAmount
  [("payment_id", .str (paymentLabel p)),
    ("transaction_id", .ofText p.transactionId),
    ("invoice_id", .ofText p.invoiceId),
    ("invoice_value", .str (str value)),
    ("status", .ofText (p.status.map PaymentStatus.value)),
    ("reference_id", .ofText p.referenceId),
    ("transaction_date", .ofText p.transactionDate),
    ("payment_gateway", .ofText p.paymentGateway),
    ("payment_provider", .ofText p.paymentProvider),
    ("paid_at", .ofText (p.paidAt.map isoformat))]

/-- The history entry of a payment that is recorded or changed through the API. -/
def apiHistory (source reason changeByUser : String) (oldStatus : Option PaymentStatus)
    (p : PaymentRow) : PaymentStatusHistoryRow :=
  { webhookHistory source reason (paymentLabel p) (textField p.paymentData "provider_reference")
      oldStatus p with
    changeByUser := changeByUser }

/-- The booking of a new payment takes its snapshot. A successful payment confirms the booking; what
this raises is logged and ignored. -/
def recordOnBooking (p : PaymentRow) (booking : BookingRow) : Tx Unit := do
  let snapshot := paymentMetaSnapshot p
  let merge : Tx Unit := discard
    (flushBooking ((Orm.ofRow booking).set (Booking.mergePaymentData (some snapshot))))
  if p.status = some .success then do
    let confirmed ← attempt (fun _ => true)
      (Booking.confirmBooking booking.id (some snapshot) "payment_webhook")
    match confirmed with
    | .ok b => takeInvoice p b
    | .error _ => merge
  else merge

/-- Insert the payment under the number of the request, or under the next one. -/
def insertDescribed (body : CreatePaymentRequest) (described : PaymentRow) : Tx PaymentRow := do
  raiseIf (¬ amountsFit described) .numericOverflow
  match body.paymentNumber.filter (· ≠ "") with
  | some number => do
    let id ← ask Env.uuid
    insertPayment { described with id := id, paymentNumber := number }
  | none => do
    let number ← generatePaymentNumber
    let id ← ask Env.uuid
    insertNumbered { described with id := id, paymentNumber := number } 4

/-- The payment is new: it is inserted, and its booking and its gift voucher are told. -/
def recordPayment (body : CreatePaymentRequest) (booking : Option BookingRow)
    (described : PaymentRow) : Tx Unit := do
  let p ← insertDescribed body described
  addPaymentHistory (apiHistory (if body.gatewayResponse = [] then "manual" else "gateway_webhook")
    "Payment record created" (Text.orEmpty (Text.or body.createdByUser body.createdBy)) none p)
  forSome booking (recordOnBooking p)
  let current ← query fun d => Table.get d.payments p.id
  forSome current fun p => recordOnVoucher p.voucherId
    (voucherFields p ++ [("status", .ofText (p.status.map PaymentStatus.value))]) p.voucherNumber

/-- `create_payment`. A booking that has a payment keeps it, and so does a gift voucher: the request
is merged into the payment there is. -/
def Api.createPayment (body : CreatePaymentRequest) : Tx Unit := do
  let booking ← query fun d => body.bookingId.bind (Table.get d.bookings)
  let voucher ← resolveVoucher body.voucherId body.voucherNumber
  let now ← ask Env.now
  let described := describedPayment body booking voucher now
  match body.bookingId, voucher.1 with
  | some bookingId, _ => do
    let existing ← query fun d => d.payments.find? (·.bookingId = some bookingId)
    match existing with
    | some p => do
      raiseIf (¬ amountsFit (filledColumns body described p)) .numericOverflow
      discard (flushPayment ((Orm.ofRow p).set (filledColumns body described)))
    | none => recordPayment body booking described
  | none, some voucherId => do
    let existing ← query fun d => (d.payments.filter (·.voucherId = some voucherId)).getLast?
    match existing with
    | some p => do
      let value := resolvedInvoiceValue body (parsedResponse body.gatewayResponse) booking
      let columns := filledVoucherColumns body described value
      raiseIf (¬ amountsFit (columns p)) .numericOverflow
      discard (flushPayment ((Orm.ofRow p).set columns))
      recordOnVoucher (some voucherId) (voucherFields (columns p)) none
    | none => recordPayment body booking described
  | none, none => recordPayment body booking described

/-! ## The request of `update_payment` -/

/-- `UpdatePaymentRequestSchema`, less the snapshots and the fields of the service. -/
structure UpdatePaymentRequest where
  totalAmount : Option Decimal := none
  currency : Option String := none
  status : Option PaymentStatus := none
  paidAt : Option Instant := none
  bookingId : Option Uuid := none
  voucherId : Option Uuid := none
  voucherNumber : Option String := none
  invoiceId : Option String := none
  paymentNumber : Option String := none
  invoiceNumber : Option String := none
  invoiceValue : Option Decimal := none
  paymentUrl : Option String := none
  transactionId : Option String := none
  trackId : Option String := none
  referenceId : Option String := none
  transactionStatus : Option String := none
  transactionDate : Option String := none
  paymentMethod : Option String := none
  paymentThrough : Option String := none
  paymentProvider : Option String := none
  paymentGateway : Option String := none
  paymentFor : Option String := none
  paymentId : Option String := none
  paymentData : Option (List (String × Json)) := none
  gatewayResponse : List (String × Json) := []
  createdByUser : Option String := none
  createdBy : Option String := none
  reason : Option String := none
  source : String := "admin"

/-- The columns a gateway response sets, where the request has one. -/
def responseColumns (response : List (String × Json)) (p : PaymentRow) : PaymentRow :=
  match parsedResponse response with
  | some r => myfatoorahColumns r p
  | none => p

/-- The columns the fields of a request set. -/
def requestColumns (body : UpdatePaymentRequest) (now : Instant) (p : PaymentRow) : PaymentRow :=
  let status := body.status.or p.status
  { p with
    totalAmount := (body.totalAmount.map Decimal.quantize).getD p.totalAmount
    currency := body.currency.getD p.currency
    status := status
    paidAt := match body.paidAt with
      | some t => some t
      | none => if status = some .success ∧ p.paidAt = none then some now else p.paidAt
    bookingId := body.bookingId.or p.bookingId
    voucherId := body.voucherId.or p.voucherId
    voucherNumber := body.voucherNumber.or p.voucherNumber
    invoiceId := body.invoiceId.or p.invoiceId
    paymentNumber := body.paymentNumber.getD p.paymentNumber
    invoiceNumber := (trustedInvoiceNumber body.invoiceNumber none).or p.invoiceNumber
    invoiceValue := (body.invoiceValue.map Decimal.quantize).or p.invoiceValue
    paymentUrl := body.paymentUrl.or p.paymentUrl
    transactionId := body.transactionId.or p.transactionId
    trackId := body.trackId.or p.trackId
    referenceId := body.referenceId.or p.referenceId
    transactionStatus := body.transactionStatus.or p.transactionStatus
    transactionDate := body.transactionDate.or p.transactionDate
    paymentMethod := body.paymentMethod.or p.paymentMethod
    paymentThrough := (body.paymentThrough.map normaliseThrough).or p.paymentThrough
    paymentProvider := (body.paymentProvider.map normaliseProvider).or p.paymentProvider
    paymentGateway := (body.paymentGateway.map normaliseGateway).or p.paymentGateway
    paymentFor := (body.paymentFor.map normaliseFor).or p.paymentFor
    paymentId := body.paymentId.or p.paymentId
    paymentData := match body.paymentData with
      | some fields => some (Json.withFields p.paymentData fields)
      | none => p.paymentData }

def setVoucher (voucher : Option Uuid × Option String) (p : PaymentRow) : PaymentRow :=
  { p with voucherId := voucher.1, voucherNumber := voucher.2 }

/-- The gift voucher of a changed payment: its number where it has an id only, its id where it has a
number only. -/
def voucherOf (p : PaymentRow) : Tx (Option Uuid × Option String) :=
  match p.voucherId with
  | some id =>
    if Text.truthy p.voucherNumber then pure (some id, p.voucherNumber)
    else query fun d =>
      (some id, Text.or ((Table.get d.giftVouchers id).bind (·.voucherNumber)) p.voucherNumber)
  | none =>
    if Text.truthy p.voucherNumber then do
      let rows ← query fun d => d.giftVouchers.filter (·.voucherNumber = p.voucherNumber)
      let found ← scalarOneOrNone rows
      pure (found.map (·.id), p.voucherNumber)
    else pure (none, p.voucherNumber)

/-- No two payments have one number. -/
def checkNumber (paymentId : Uuid) (paymentNumber : Option String) : Tx Unit :=
  forSome paymentNumber fun number => do
    let taken ← query fun d => d.payments.any fun p => p.id ≠ paymentId ∧ p.paymentNumber = number
    raiseIf (taken = true) (.integrity "ix_payments_payment_number")

/-- `update_payment`, by the user `actorId`. A payment whose status becomes successful confirms its
booking. -/
def Api.updatePayment (paymentId : Uuid) (body : UpdatePaymentRequest) (actorId : String) :
    Tx Unit := do
  let p ← load ("Payment " ++ uuidStr paymentId ++ " not found.")
    fun d => Table.get d.payments paymentId
  let now ← ask Env.now
  let changed := fun q => requestColumns body now (responseColumns body.gatewayResponse q)
  let voucher ← voucherOf (changed p)
  checkNumber paymentId body.paymentNumber
  let payment ← Payment.updatePayment (fun q => setVoucher voucher (changed q)) (apiHistory body.source
    ((Text.or body.reason (some "Payment updated")).getD "")
    (Text.orEmpty (Text.or (Text.or (Text.or body.createdByUser body.createdBy) (some actorId))
      (some body.source)))) p
  if payment.status = p.status then pure ()
  else do
    autoConfirm paymentMetaSnapshot payment
    notifyInvoicePaid payment.id

end Payment
