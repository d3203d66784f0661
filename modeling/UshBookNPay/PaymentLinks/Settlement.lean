import UshBookNPay.Voucher.VoucherService

/-!
# Settlement

`PaymentSettlementService`: what a payment state does to a link and to the booking or the gift voucher
the link is for. The events it queues are recorded when they are queued.
-/

open Transactions.Prog (query queryForUpdate raiseIf ask call emit)

namespace PaymentLinks

/-- `_SETTLED` -/
def SETTLED : List PaymentLinkStatus := [.paid, .refunded, .partiallyRefunded]

/-- `_AMOUNT_TOLERANCE` -/
def AMOUNT_TOLERANCE : ℚ := 1 / 1000

/-- `_NOT_PAYABLE_BOOKING` -/
def NOT_PAYABLE_BOOKING : List Booking.BookingStatus := [.cancelled, .noShow]

inductive SettlementOutcome where
  | settled | alreadySettled | failureRecorded | pending | amountMismatch
  deriving DecidableEq, Repr

def SettlementOutcome.value : SettlementOutcome → String
  | .settled => "settled"
  | .alreadySettled => "already_settled"
  | .failureRecorded => "failure_recorded"
  | .pending => "pending"
  | .amountMismatch => "amount_mismatch"

/-- `_state_dict`: the audit copy of a gateway state -/
def stateDict (state : GatewayPaymentState) : List (String × Json) :=
  [("status", .str state.status.value),
    ("invoice_id", .ofText state.invoiceId),
    ("payment_id", .ofText state.paymentId),
    ("transaction_id", .ofText state.transactionId),
    ("track_id", .ofText state.trackId),
    ("reference_id", .ofText state.referenceId),
    ("payment_method", .ofText state.paymentMethod),
    ("amount", .ofText (state.amount.map fun a => decimalStr a.unscaled a.decimals)),
    ("currency", .ofText state.currency),
    ("failure_reason", .ofText state.failureReason)]

/-- The `webhook_data` of a state applied to a link. -/
def webhookData (state : GatewayPaymentState) (source : String) (now : Instant) : Json :=
  .obj (stateDict state ++ [("settled_via", .str source), ("settled_at", .str (isoformat now))])

/-! ## Bookings -/

/-- The columns of the booking a settled link sets. -/
def paidBooking (link : PaymentLinkRow) (paidAt : Instant) (b : BookingRow) : BookingRow :=
  { b with
    paymentStatus := .success
    paymentId := if Text.truthy link.gatewayPaymentId then link.gatewayPaymentId.map PaymentRef.ofText
      else b.paymentId
    paymentProvider := some link.providerLabel
    paymentProviderGroup := providerGroupFor link.gateway
    paymentSource := some link.gateway
    paymentLinkId := some link.id
    paymentMethod := Text.or link.paymentMethod b.paymentMethod
    paymentUrl := link.paymentUrl
    paymentData := some (Json.withFields b.paymentData
      [("payment_link_id", .str (uuidStr link.id)),
        ("gateway_invoice_id", .ofText link.gatewayInvoiceId),
        ("gateway_payment_id", .ofText link.gatewayPaymentId),
        ("transaction_id", .ofText link.transactionId),
        ("paid_at", .str (isoformat paidAt))])
    invoiceNumber := if Text.truthy link.invoiceNumber ∧ ¬ Text.truthy b.invoiceNumber then
      link.invoiceNumber else b.invoiceNumber }

/-- The status of a booking whose link is paid. -/
def confirmedStatus (b : BookingRow) : BookingRow :=
  if b.status ∈ [.requested, .paymentPending, .draft] then { b with status := .confirmed } else b

/-- Write the booking, with a history entry where its status changes. -/
def confirmBooking (link : PaymentLinkRow) (booking : BookingRow) (paidAt : Instant) :
    Tx BookingRow := do
  let changed := fun b => paidBooking link paidAt (confirmedStatus b)
  let written ← flushBooking ((Orm.ofRow booking).set changed)
  Transactions.Prog.forSome
    (if (confirmedStatus booking).status = booking.status then none else some booking.status)
    fun old => addBookingHistory
      { bookingId := booking.id
        oldStatus := some old
        newStatus := .confirmed
        source := "payment_link_" ++ link.gateway
        reason := "Payment link settled via webhook/callback" }
  pure written.row

/-- The `payment_data` of a payment a settled link creates. -/
def createdPaymentData (link : PaymentLinkRow) : Json :=
  .obj [("payment_link_id", .str (uuidStr link.id)), ("gateway", .str link.gateway)]

/-- The payment a settled link creates for its booking. -/
def bookingPayment (link : PaymentLinkRow) (booking : BookingRow) (paidAt : Instant) (id : Uuid)
    (paymentNumber : String) : PaymentRow :=
  { id := id
    paymentNumber := paymentNumber
    bookingId := some booking.id
    customerId := some booking.customerId
    totalAmount := link.amount
    currency := link.currency
    status := some .success
    paymentFor := if booking.bookingType ≠ "" then some booking.bookingType else some "branch_service"
    paymentProvider := some link.providerLabel
    paymentThrough := some "ushdesk"
    paymentGateway := some link.gateway
    paymentProviderGroup := providerGroupFor link.gateway
    paymentSource := some link.gateway
    paymentLinkId := some link.id
    paymentMethod := Text.or link.paymentMethod (some "card")
    paymentUrl := link.paymentUrl
    invoiceId := link.gatewayInvoiceId
    invoiceNumber := Text.or link.invoiceNumber booking.invoiceNumber
    invoiceValue := some link.amount
    paymentId := link.gatewayPaymentId
    transactionId := link.transactionId
    trackId := link.trackId
    referenceId := link.referenceId
    transactionStatus := some "SUCCESS"
    transactionDate := some (isoformat paidAt)
    paidAt := some paidAt
    paymentData := some (createdPaymentData link) }

/-- The history entry of a payment a settled link creates. -/
def createdHistory (link : PaymentLinkRow) (payment : PaymentRow) : PaymentStatusHistoryRow :=
  { paymentId := payment.id
    oldStatus := none
    newStatus := payment.status.getD .success
    source := "payment_link"
    reason := link.providerLabel ++ " payment confirmed"
    providerReference := Text.or link.gatewayPaymentId link.gatewayInvoiceId
    correlationId := uuidStr link.id
    refundId := none
    refundStatus := none
    refundedAmount := none
    amountRefundedTotal := none
    changeByUser := (Text.or link.createdBy (some "payment_link")).getD "payment_link" }

/-- The columns a settled link sets on the payment its booking already has. -/
def settledBookingPayment (link : PaymentLinkRow) (paidAt : Instant) (p : PaymentRow) : PaymentRow :=
  { p with
    status := some .success
    paymentId := Text.or link.gatewayPaymentId p.paymentId
    transactionId := Text.or link.transactionId p.transactionId
    invoiceId := Text.or link.gatewayInvoiceId p.invoiceId
    transactionStatus := some "SUCCESS"
    paidAt := some paidAt
    paymentProvider := some link.providerLabel
    paymentProviderGroup := providerGroupFor link.gateway
    paymentSource := some link.gateway
    paymentLinkId := some link.id
    paymentMethod := Text.or link.paymentMethod p.paymentMethod }

/-- The newest payment `ofTarget` holds of, locked. -/
def newestPayment (ofTarget : PaymentRow → Bool) : Tx (Option PaymentRow) :=
  let newest := fun d : Db => (d.payments.filter ofTarget).getLast?
  queryForUpdate (fun d => ((newest d).map fun p => LockKey.row "payments" p.id).toList) newest

/-- Insert the payment of a settled link, with its history entry. -/
def createPayment (link : PaymentLinkRow) (row : Uuid → String → PaymentRow) : Tx PaymentRow := do
  let number ← generatePaymentNumber
  let id ← ask Env.uuid
  let payment ← insertPayment (row id number)
  addPaymentHistory (createdHistory link payment)
  pure payment

/-- The payment of the target after the settlement: a new one, or the newest there is, changed. -/
def settlePayment (link : PaymentLinkRow) (ofTarget : PaymentRow → Bool)
    (row : Uuid → String → PaymentRow) (columns : PaymentRow → PaymentRow) : Tx PaymentRow := do
  let payment ← newestPayment ofTarget
  match payment with
  | none => createPayment link row
  | some p => do
    let written ← flushPayment ((Orm.ofRow p).set columns)
    pure written.row

def paidEvent (link : PaymentLinkRow) (booking : BookingRow) (paidAt : Instant) :
    PaymentLinkPaidEvent :=
  { paymentLinkId := link.id, targetType := link.targetType, targetId := link.targetId,
    bookingId := booking.id, invoiceId := link.invoiceId,
    invoiceNumber := Text.or link.invoiceNumber booking.invoiceNumber, gateway := link.gateway,
    provider := link.providerLabel, gatewayInvoiceId := Text.orEmpty link.gatewayInvoiceId,
    gatewayPaymentId := Text.orEmpty link.gatewayPaymentId,
    transactionId := Text.orEmpty link.transactionId, trackId := Text.orEmpty link.trackId,
    referenceId := Text.orEmpty link.referenceId, paymentMethod := Text.orEmpty link.paymentMethod,
    amount := link.amount, currency := link.currency, paidAt := paidAt }

def setPaymentRow (paymentId : Uuid) (link : PaymentLinkRow) : PaymentLinkRow :=
  { link with paymentRowId := some paymentId }

/-- `_settle_booking` -/
def settleBooking (link : Orm PaymentLinkRow) (paidAt : Instant) : Tx (Orm PaymentLinkRow) := do
  let row ← queryForUpdate (fun _ => [.row "bookings" link.row.targetId])
    fun d => Table.get d.bookings link.row.targetId
  match row with
  | none => throw (.validation "Booking no longer exists.")
  | some row => do
    raiseIf (row.status ∈ NOT_PAYABLE_BOOKING)
      (.bookingState ("Booking is " ++ row.status.value ++ "."))
    let booking ← confirmBooking link.row row paidAt
    let payment ← settlePayment link.row (fun p => p.bookingId = some booking.id)
      (bookingPayment link.row booking paidAt) (settledBookingPayment link.row paidAt)
    emit (.paymentLinkPaid (paidEvent link.row booking paidAt))
    pure (link.set (setPaymentRow payment.id))

/-! ## Gift vouchers -/

/-- The payment a settled link creates for its gift voucher. -/
def voucherPayment (link : PaymentLinkRow) (voucher : GiftVoucherRow) (paidAt : Instant) (id : Uuid)
    (paymentNumber : String) : PaymentRow :=
  { id := id
    paymentNumber := paymentNumber
    customerId := some voucher.senderId
    totalAmount := link.amount
    currency := link.currency
    status := some .success
    voucherId := some voucher.id
    voucherNumber := voucher.voucherNumber
    paymentMethod := Text.or link.paymentMethod (some "payment_link")
    paymentThrough := some "ushdesk"
    paymentProvider := some link.providerLabel
    paymentProviderGroup := providerGroupFor link.gateway
    paymentSource := some link.gateway
    paymentLinkId := some link.id
    paymentFor := some "gift_voucher"
    paymentUrl := link.paymentUrl
    invoiceId := link.gatewayInvoiceId
    invoiceNumber := link.invoiceNumber
    invoiceValue := some link.amount
    paymentId := link.gatewayPaymentId
    transactionId := link.transactionId
    trackId := link.trackId
    referenceId := link.referenceId
    transactionStatus := some "SUCCESS"
    transactionDate := some (isoformat paidAt)
    paidAt := some paidAt
    paymentData := some (createdPaymentData link) }

/-- The columns a settled link sets on the payment its gift voucher already has. -/
def settledVoucherPayment (link : PaymentLinkRow) (voucher : GiftVoucherRow) (paidAt : Instant)
    (p : PaymentRow) : PaymentRow :=
  { p with
    status := some .success
    paidAt := some paidAt
    paymentId := Text.or link.gatewayPaymentId p.paymentId
    transactionId := Text.or link.transactionId p.transactionId
    trackId := Text.or link.trackId p.trackId
    referenceId := Text.or link.referenceId p.referenceId
    paymentProvider := Text.or (some link.providerLabel) p.paymentProvider
    paymentProviderGroup := Text.or (providerGroupFor link.gateway) p.paymentProviderGroup
    paymentSource := Text.or (some link.gateway) p.paymentSource
    paymentLinkId := some link.id
    paymentMethod := Text.or link.paymentMethod p.paymentMethod
    paymentUrl := Text.or link.paymentUrl p.paymentUrl
    invoiceNumber := if Text.truthy link.invoiceNumber ∧ ¬ Text.truthy p.invoiceNumber then
      link.invoiceNumber else p.invoiceNumber
    voucherNumber := if Text.truthy voucher.voucherNumber ∧ ¬ Text.truthy p.voucherNumber then
      voucher.voucherNumber else p.voucherNumber }

/-- The snapshot of the payment the voucher records. -/
def paymentSnapshot (link : PaymentLinkRow) (payment : PaymentRow) (paidAt : Instant) :
    List (String × Json) :=
  [("payment_id", .ofText (Text.or link.gatewayPaymentId (some (uuidStr payment.id)))),
    ("payment_number", .str payment.paymentNumber),
    ("invoice_id", .ofText (Text.or link.gatewayInvoiceId payment.invoiceId)),
    ("invoice_number", .ofText (Text.or link.invoiceNumber payment.invoiceNumber)),
    ("payment_link_id", .str (uuidStr link.id)),
    ("status", .ofText (payment.status.map Payment.PaymentStatus.value)),
    ("payment_provider", .str link.providerLabel),
    ("payment_method", .ofText link.paymentMethod),
    ("payment_url", .ofText link.paymentUrl),
    ("transaction_id", .ofText link.transactionId),
    ("track_id", .ofText link.trackId),
    ("reference_id", .ofText link.referenceId),
    ("paid_at", .str (isoformat paidAt))]

/-- The first part of `_settle_voucher`: the voucher and its payment. -/
def payVoucher (link : PaymentLinkRow) (paidAt : Instant) : Tx (GiftVoucherRow × PaymentRow) := do
  let row ← queryForUpdate (fun _ => [.row "gift_vouchers" link.targetId])
    fun d => Table.get d.giftVouchers link.targetId
  match row with
  | none => throw (.validation "Gift voucher no longer exists.")
  | some voucher => do
    let payment ← settlePayment link (fun p => p.voucherId = some voucher.id)
      (voucherPayment link voucher paidAt) (settledVoucherPayment link voucher paidAt)
    pure (voucher, payment)

/-- The second part of `_settle_voucher`: the voucher is activated. -/
def activateVoucher (link : PaymentLinkRow) (voucher : GiftVoucherRow) (payment : PaymentRow)
    (paidAt : Instant) : Tx Unit :=
  discard (Voucher.updateStatus (some (.ofRow voucher)) voucher.id .active
    { paymentId := Text.or (Text.or link.gatewayPaymentId link.gatewayInvoiceId)
        (some (uuidStr payment.id))
      paymentData := some (paymentSnapshot link payment paidAt)
      paymentUrl := link.paymentUrl
      paymentProvider := some link.providerLabel
      paymentThrough := some "ushdesk"
      actorId := link.createdBy })

/-! ## Outcomes -/

/-- `except (BookingStateError, ValidationError)` -/
def notActivatable : Error → Bool
  | .bookingState _ => true
  | .validation _ => true
  | _ => false

/-- Settle the target of a link. What `_apply_paid` catches is returned beside the link: the payment of
a voucher that cannot be activated stays assigned to its link. -/
def settleTarget (link : Orm PaymentLinkRow) (paidAt : Instant) :
    Tx (Orm PaymentLinkRow × Option Error) :=
  match link.row.targetType with
  | .booking => do
    let r ← attempt notActivatable (settleBooking link paidAt)
    match r with
    | .ok link => pure (link, none)
    | .error exc => pure (link, some exc)
  | .giftVoucher => do
    let r ← attempt notActivatable (payVoucher link.row paidAt)
    match r with
    | .error exc => pure (link, some exc)
    | .ok (voucher, payment) => do
      let link := link.set (setPaymentRow payment.id)
      let r ← attempt notActivatable (activateVoucher link.row voucher payment paidAt)
      match r with
      | .ok _ => pure (link, none)
      | .error exc => pure (link, some exc)
  | .product => pure (link, none)

/-- The key the automatic refund gives the gateway. -/
def refundKey (link : PaymentLinkRow) (state : GatewayPaymentState) : String :=
  Text.orEmpty (Text.or (Text.or link.gatewayInvoiceId link.gatewayPaymentId)
    (Text.or state.invoiceId state.paymentId))

/-- The amount of the automatic refund; a reported amount of zero counts as not reported. -/
def refundAmount (link : PaymentLinkRow) (state : GatewayPaymentState) : Decimal :=
  match state.amount with
  | some a => if a.unscaled ≠ 0 then a else .ofFils link.amount
  | none => .ofFils link.amount

def refundCurrency (link : PaymentLinkRow) (state : GatewayPaymentState) : String :=
  (Text.or (Text.or state.currency (some link.currency)) (some "KWD")).getD "KWD"

/-- The automatic refund of a payment whose target cannot be activated. Returns the error of the
refund, which does not stop the settlement. -/
def autoRefund (link : PaymentLinkRow) (state : GatewayPaymentState) : Tx (Option String) :=
  if ¬ isGateway link.gateway then
    pure (some ("Unsupported payment gateway '" ++ link.gateway ++ "'."))
  else if refundKey link state = "" then pure none
  else do
    let res ← call (fun env => emitted (.linkRefund link.gateway (refundKey link state)
      (refundAmount link state) (refundCurrency link state)) env.refund) Env.refund
    match res with
    | .ok _ => pure none
    | .error exc => pure (some exc)

def needsAttention (exc : Error) (refundErr : Option String) : String :=
  "Payment received but target not activatable: " ++ exc.message ++
    (match refundErr with
      | some err => if err ≠ "" then " (auto-refund error: " ++ err ++ ")" else " (auto-refunded)"
      | none => " (auto-refunded)")

def setLinkStatus (status : PaymentLinkStatus) (link : PaymentLinkRow) : PaymentLinkRow :=
  { link with status := status }

def attentionColumns (exc : Error) (refundErr : Option String) (link : PaymentLinkRow) :
    PaymentLinkRow :=
  { link with metaData := some (Json.withFields link.metaData
      [("needs_attention", .str (needsAttention exc refundErr))]) }

/-- The reported amount is not that of the link. -/
def amountMismatch (link : PaymentLinkRow) (state : GatewayPaymentState) : Prop :=
  ∃ a ∈ state.amount, AMOUNT_TOLERANCE < |a.value - toDecimal link.amount|

instance (link : PaymentLinkRow) (state : GatewayPaymentState) :
    Decidable (amountMismatch link state) :=
  inferInstanceAs (Decidable (∃ a ∈ state.amount, _))

def mismatchColumns (state : GatewayPaymentState) (link : PaymentLinkRow) : PaymentLinkRow :=
  { link with metaData := some (Json.withFields link.metaData
      [("amount_mismatch", .obj [("expected", .str (str link.amount)),
        ("received", .ofText (state.amount.map fun a => decimalStr a.unscaled a.decimals))])]) }

/-- The columns of a paid link. -/
def paidColumns (state : GatewayPaymentState) (source : String) (now : Instant)
    (link : PaymentLinkRow) : PaymentLinkRow :=
  { link with
    status := .paid
    paidAt := some now
    gatewayPaymentId := Text.or state.paymentId link.gatewayPaymentId
    transactionId := Text.or state.transactionId link.transactionId
    trackId := Text.or state.trackId link.trackId
    referenceId := Text.or state.referenceId link.referenceId
    paymentMethod := Text.or state.paymentMethod link.paymentMethod
    webhookData := some (webhookData state source now)
    failureData := none }

/-- The customer has paid, but the target can no longer be activated. -/
def refundNotActivatable (link : Orm PaymentLinkRow) (state : GatewayPaymentState) (exc : Error) :
    Tx (SettlementOutcome × Orm PaymentLinkRow) := do
  let link := link.set (setLinkStatus .refunded)
  let refundErr ← autoRefund link.row state
  let link ← flushLink (link.set (attentionColumns exc refundErr))
  pure (.failureRecorded, link)

/-- `_apply_paid` -/
def applyPaid (link : Orm PaymentLinkRow) (state : GatewayPaymentState) (source : String) :
    Tx (SettlementOutcome × Orm PaymentLinkRow) :=
  if link.row.status ∈ SETTLED then pure (.alreadySettled, link)
  else if amountMismatch link.row state then
    pure (.amountMismatch, link.set (mismatchColumns state))
  else do
    let now ← ask Env.now
    let link ← flushLink (link.set (paidColumns state source now))
    let (link, failure) ← settleTarget link now
    match failure with
    | some exc => refundNotActivatable link state exc
    | none => do
      let link ← flushLink link
      pure (.settled, link)

/-- The columns of a link whose payment attempt has failed. -/
def failureColumns (state : GatewayPaymentState) (source : String) (now : Instant)
    (link : PaymentLinkRow) : PaymentLinkRow :=
  { link with
    status := .failed
    paymentMethod := Text.or state.paymentMethod link.paymentMethod
    failureData := some (.obj [("reason", .ofText state.failureReason),
      ("payment_method", .ofText state.paymentMethod), ("source", .str source),
      ("at", .str (isoformat now))])
    webhookData := some (webhookData state source now) }

def failedEvent (link : PaymentLinkRow) (state : GatewayPaymentState) : PaymentLinkFailedEvent :=
  { paymentLinkId := link.id, targetType := link.targetType, targetId := link.targetId,
    bookingId := link.targetId, invoiceId := link.invoiceId, invoiceNumber := link.invoiceNumber,
    gateway := link.gateway, provider := link.providerLabel,
    gatewayInvoiceId := Text.orEmpty link.gatewayInvoiceId,
    paymentMethod := Text.orEmpty state.paymentMethod, amount := link.amount,
    currency := link.currency, failureReason := Text.orEmpty state.failureReason }

/-- `_record_failure`: booking and voucher are untouched, the link stays payable. -/
def recordFailure (link : Orm PaymentLinkRow) (state : GatewayPaymentState) (source : String) :
    Tx (SettlementOutcome × Orm PaymentLinkRow) :=
  if link.row.status ∈ SETTLED then pure (.alreadySettled, link)
  else do
    let now ← ask Env.now
    let link := link.set (failureColumns state source now)
    call (fun _ => if link.row.targetType = .booking then
      [.paymentLinkFailed (failedEvent link.row state)] else []) fun _ => ()
    pure (.failureRecorded, link)

/-- The link is no longer payable at the gateway. -/
def recordClosed (link : Orm PaymentLinkRow) (status : PaymentLinkStatus) :
    SettlementOutcome × Orm PaymentLinkRow :=
  (.pending, if link.row.status ∈ SETTLED then link else link.set (setLinkStatus status))

/-- `apply`; the link keeps the assignments that are not flushed yet. -/
def apply (link : Orm PaymentLinkRow) (state : GatewayPaymentState) (source : String) :
    Tx (SettlementOutcome × Orm PaymentLinkRow) :=
  match state.status with
  | .paid => applyPaid link state source
  | .failed => recordFailure link state source
  | .expired => pure (recordClosed link .expired)
  | .canceled => pure (recordClosed link .cancelled)
  | .pending => pure (.pending, link)

/-! ## Lookups -/

/-- `get_locked_link` -/
def getLockedLink (linkId : Uuid) : Tx (Option PaymentLinkRow) :=
  queryForUpdate (fun d => ((Table.get d.paymentLinks linkId).map fun l =>
    LockKey.row "payment_links" l.id).toList) fun d => Table.get d.paymentLinks linkId

/-- The newest link `p` holds of, locked. -/
def lockedNewestLink (p : PaymentLinkRow → Bool) : Tx (Option PaymentLinkRow) :=
  let newest := fun d : Db => (d.paymentLinks.filter p).getLast?
  queryForUpdate (fun d => ((newest d).map fun l => LockKey.row "payment_links" l.id).toList) newest

/-- `get_locked_link_by_gateway_invoice` -/
def getLockedLinkByGatewayInvoice (gateway gatewayInvoiceId : String) :
    Tx (Option PaymentLinkRow) :=
  lockedNewestLink fun l => l.gateway = gateway ∧ l.gatewayInvoiceId = some gatewayInvoiceId

def getLockedLinkByGatewayPayment (gateway paymentId : String) : Tx (Option PaymentLinkRow) :=
  lockedNewestLink fun l => l.gateway = gateway ∧ l.gatewayPaymentId = some paymentId

/-- The first lookup that finds a row. -/
def firstFound {α : Type} : List (Tx (Option α)) → Tx (Option α)
  | [] => pure none
  | lookup :: rest => do
    let row ← lookup
    match row with
    | some r => pure (some r)
    | none => firstFound rest

/-- The lookups of a candidate: by the UUID of a link, then by its number. -/
def lookupsById (candidate : String) : List (Tx (Option PaymentLinkRow)) :=
  let text := Text.strip candidate
  ((parseUuid text).map getLockedLink).toList ++ [lockedNewestLink (·.linkNumber = some text)]

/-- The texts that are there and not empty. -/
def present (texts : List (Option String)) : List String :=
  texts.filterMap fun t => if Text.truthy t then t else none

/-- `get_locked_link_by_any_identifier` -/
def getLockedLinkByAnyIdentifier (gateway : String) (identifier referenceId paymentId : Option String) :
    Tx (Option PaymentLinkRow) :=
  firstFound ((present [identifier, paymentId]).flatMap (fun key =>
      [getLockedLinkByGatewayInvoice gateway key, getLockedLinkByGatewayPayment gateway key]) ++
    (present [referenceId, identifier, paymentId]).flatMap lookupsById)

/-! ## Calls -/

/-- One transaction of `apply` on a link: the row is locked, the state applied and the object written
when the transaction commits. -/
def applyTo (linkId : Uuid) (state : GatewayPaymentState) (source : String) :
    Tx (Option SettlementOutcome) := do
  let row ← getLockedLink linkId
  match row with
  | none => pure none
  | some row => do
    let (outcome, link) ← apply (.ofRow row) state source
    discard (flushLink link)
    pure (some outcome)

end PaymentLinks
