import UshBookNPay.Booking.BookingService
import UshBookNPay.Payment.GatewayParser

/-!
# The gateway webhooks

`myfatoorah_webhook` and `tap_webhook`: what a gateway reports is copied over the payment it names. A
successful payment confirms its booking.
-/

open Transactions.Prog (query raiseIf forSome ask emit)

namespace Payment

/-- `await request.json()`; what is no JSON counts as an empty dict. -/
def requestJson (body : String) : Json := (Json.loads body).getD (.obj [])

/-- Whether the amounts of a payment fit their columns. -/
def amountsFit (p : PaymentRow) : Bool :=
  fitsNumeric p.totalAmount ∧ fitsNumeric (p.invoiceValue.getD 0)

/-! ## The columns -/

/-- The columns the MyFatoorah webhook copies. -/
def myfatoorahColumns (r : GatewayResponse) (p : PaymentRow) : PaymentRow :=
  { p with
    paymentData := some (Json.withFields p.paymentData r.paymentData)
    status := some r.status
    totalAmount := r.totalAmount.quantize
    currency := r.currency
    invoiceId := r.invoiceId.or p.invoiceId
    invoiceValue := some r.invoiceValue.quantize
    transactionId := r.transactionId.or p.transactionId
    paymentId := r.paymentId.or p.paymentId
    trackId := r.trackId.or p.trackId
    referenceId := r.referenceId.or p.referenceId
    transactionStatus := r.transactionStatus.or p.transactionStatus
    transactionDate := r.transactionDate.or p.transactionDate
    paymentMethod := some r.paymentMethod
    paymentGateway := r.paymentGateway.or p.paymentGateway
    paymentUrl := r.paymentUrl.or p.paymentUrl
    paidAt := r.paidAt.or p.paidAt }

/-- The columns the Tap webhook copies. -/
def tapColumns (r : GatewayResponse) (p : PaymentRow) : PaymentRow :=
  { p with
    paymentData := some (Json.withFields p.paymentData r.paymentData)
    status := some r.status
    transactionId := r.transactionId.or p.transactionId
    trackId := r.trackId.or p.trackId
    referenceId := r.referenceId.or p.referenceId
    paidAt := r.paidAt.or p.paidAt }

/-- `payment.payment_id or str(payment.id)` -/
def paymentLabel (p : PaymentRow) : String :=
  (Text.or p.paymentId (some (uuidStr p.id))).getD (uuidStr p.id)

/-- The text a dict has under a key. -/
def textField (data : Option Json) (key : String) : Option String :=
  match data.bind (·.field? key) with
  | some (.str s) => some s
  | _ => none

/-- The history entry of a webhook that changes the status. -/
def webhookHistory (source reason correlationId : String) (providerReference : Option String)
    (oldStatus : Option PaymentStatus) (p : PaymentRow) : PaymentStatusHistoryRow :=
  { paymentId := p.id
    oldStatus := oldStatus
    newStatus := p.status.getD .pending
    source := source
    reason := reason
    providerReference := providerReference
    correlationId := correlationId
    refundId := none
    refundStatus := none
    refundedAmount := none
    amountRefundedTotal := none
    changeByUser := source }

/-- Copy the columns over the payment. -/
def updatePayment (columns : PaymentRow → PaymentRow)
    (history : Option PaymentStatus → PaymentRow → PaymentStatusHistoryRow) (p : PaymentRow) :
    Tx PaymentRow := do
  raiseIf (¬ amountsFit (columns p)) .numericOverflow
  let written ← flushPayment ((Orm.ofRow p).set columns)
  forSome (if (columns p).status = p.status then none else some p.status) fun old =>
    addPaymentHistory (history old (columns p))
  pure written.row

/-! ## A payment the webhook creates -/

/-- The booking a response refers to: its id, and its row where there is one. -/
def referredBooking (r : GatewayResponse) : Tx (Option Uuid × Option BookingRow) :=
  match (textField (some (.obj r.paymentData)) "customer_reference").bind parseUuid with
  | none => pure (none, none)
  | some id => do
    let row ← query fun d => Table.get d.bookings id
    pure (some id, row)

def webhookPayment (r : GatewayResponse) (bookingId : Option Uuid) (booking : Option BookingRow)
    (id customerId : Uuid) (now : Instant) (paymentNumber : String) : PaymentRow :=
  { id := id
    paymentNumber := paymentNumber
    customerId := some ((booking.map (·.customerId)).getD customerId)
    bookingId := bookingId
    totalAmount := r.totalAmount.quantize
    currency := r.currency
    status := some r.status
    paidAt := r.paidAt
    invoiceId := r.invoiceId
    invoiceValue := some r.invoiceValue.quantize
    paymentId := r.paymentId
    transactionId := r.transactionId
    trackId := r.trackId
    referenceId := r.referenceId
    transactionStatus := r.transactionStatus
    transactionDate := r.transactionDate.or (some (isoformat now))
    paymentMethod := some r.paymentMethod
    paymentGateway := r.paymentGateway
    paymentUrl := r.paymentUrl
    paymentProvider := some "myfatoorah"
    paymentFor := some "branch_service"
    paymentData := some (.obj r.paymentData) }

/-- Another payment has the number. -/
def isNumberCollision : Error → Bool
  | .integrity constraint => Text.isIn "payment_number" (Text.lower constraint)
  | _ => false

/-- Insert the payment; while its number is taken, up to `attempts` times, with a new one. -/
def insertNumbered (p : PaymentRow) : ℕ → Tx PaymentRow
  | 0 => insertPayment p
  | attempts + 1 => do
    let r ← attempt isNumberCollision (insertPayment p)
    match r with
    | .ok p => pure p
    | .error _ => do
      let number ← generatePaymentNumber
      insertNumbered { p with paymentNumber := number } attempts

/-- The payment of a response that names none. -/
def createFromResponse (r : GatewayResponse) : Tx PaymentRow := do
  let (bookingId, booking) ← referredBooking r
  let number ← generatePaymentNumber
  let customerId ← ask Env.uuid
  let id ← ask Env.uuid
  let now ← ask Env.now
  let p := webhookPayment r bookingId booking id customerId now number
  raiseIf (¬ amountsFit p) .numericOverflow
  insertNumbered p 4

/-! ## The booking -/

/-- The snapshot of a paid payment that is merged into its booking. -/
def metaSnapshot (p : PaymentRow) : List (String × Json) :=
  [("payment_id", .str (paymentLabel p)),
    ("invoice_id", .ofText p.invoiceId),
    ("status", .ofText (p.status.map PaymentStatus.value)),
    ("payment_gateway", .ofText p.paymentGateway),
    ("payment_provider", .ofText p.paymentProvider),
    ("paid_at", .ofText (p.paidAt.map isoformat))]

def setInvoice (invoiceNumber : Option String) (p : PaymentRow) : PaymentRow :=
  { p with invoiceNumber := invoiceNumber }

/-- The payment takes the invoice number of its booking where it has none. -/
def takeInvoice (p : PaymentRow) (booking : BookingRow) : Tx Unit := do
  let current ← query fun d => Table.get d.payments p.id
  forSome (current.filter fun q =>
      Text.truthy booking.invoiceNumber ∧ ¬ Text.truthy q.invoiceNumber) fun q =>
    discard (flushPayment ((Orm.ofRow q).set (setInvoice booking.invoiceNumber)))

/-- The booking of a successful payment is confirmed; what this raises is logged and ignored. -/
def autoConfirm (snapshot : PaymentRow → List (String × Json)) (p : PaymentRow) : Tx Unit :=
  forSome (if p.status = some .success then p.bookingId else none) fun bookingId => do
    let confirmed ← attempt (fun _ => true)
      (Booking.confirmBooking bookingId (some (snapshot p)) "payment_webhook")
    forSome confirmed.toOption (takeInvoice p)

/-- The confirmation of `tap_webhook`, which has no `settings` to make the booking service with: the
`NameError` is logged and ignored, and the booking stays as it is. -/
def autoConfirmTap (p : PaymentRow) : Tx Unit :=
  forSome (if p.status = some .success then p.bookingId else none) fun _ =>
    discard (attempt (fun _ => true) (throw (.nameError "settings") : Tx Unit))

/-- Accounting is told that the invoice of a successful payment is paid. -/
def notifyInvoicePaid (paymentId : Uuid) : Tx Unit := do
  let current ← query fun d => Table.get d.payments paymentId
  forSome (current.filter fun p => p.status = some .success ∧ Text.truthy p.invoiceNumber) fun p =>
    emit (.invoicePaid (Text.orEmpty p.invoiceNumber) p.totalAmount p.id)

/-! ## The endpoints -/

/-- The payments MyFatoorah can mean by an identifier. -/
def namedByInvoice (identifier : String) (p : PaymentRow) : Bool :=
  p.invoiceId = some identifier ∨ p.paymentId = some identifier

/-- What the MyFatoorah webhook does with a response that has an invoice. -/
def processInvoice (r : GatewayResponse) (invoiceId : String) : Tx Unit := do
  let rows ← query fun d => d.payments.filter (namedByInvoice invoiceId)
  let found ← scalarOneOrNone rows
  let payment ← match found with
    | none => createFromResponse r
    | some p => updatePayment (myfatoorahColumns r) (fun old q =>
        webhookHistory "webhook_myfatoorah" "MyFatoorah webhook update" (paymentLabel q)
          (textField q.paymentData "provider_reference") old q) p
  autoConfirm metaSnapshot payment
  notifyInvoicePaid payment.id

/-- `myfatoorah_webhook` -/
def myfatoorahWebhook (body : String) : Tx Unit :=
  forSome (parseGatewayResponse (requestJson body)) fun r =>
    forSome r.invoiceId (processInvoice r)

def namedByCharge (chargeId : String) (p : PaymentRow) : Bool := p.paymentId = some chargeId

/-- What the Tap webhook does with the response of a charge. -/
def processCharge (r : GatewayResponse) (chargeId : String) : Tx Unit := do
  let rows ← query fun d => d.payments.filter (namedByCharge chargeId)
  let found ← scalarOneOrNone rows
  forSome found fun p => do
    let payment ← updatePayment (tapColumns r) (fun old q =>
      webhookHistory "webhook_tap" "Tap webhook update" chargeId none old q) p
    autoConfirmTap payment
    notifyInvoicePaid payment.id

/-- `parsed.get("payment_id") or payload.get("id")` -/
def chargeOf (payload : Json) (r : GatewayResponse) : Option String :=
  r.paymentId.or ((firstTrue [payload.field? "id"]).map Json.text)

/-- `tap_webhook`; a body that is no dict has no `get`. -/
def tapWebhook (body : String) : Tx Unit :=
  match parseGatewayResponse (requestJson body) with
  | none => throw (.attributeError "get")
  | some r => forSome (chargeOf (requestJson body) r) (processCharge r)

end Payment
