import UshBookNPay.Lib.LockedParts
import UshBookNPay.Payment.RefundService
import UshBookNPay.PaymentLinks.LinkService

/-!
# PaymentLinkRefundService

Refunds of payments that were collected through a payment link. Those of bookings go on to
`RefundService`, those of gift vouchers are made here. The endpoint loads the link before it is locked,
and the session keeps the values of that first load.
-/

open Transactions (System Event Parts)
open Transactions.Prog (queryForUpdate raiseIf ask call forSome)

namespace PaymentLinks

/-- `_REFUNDABLE` -/
def REFUNDABLE : List Payment.PaymentStatus := [.success, .partiallyRefunded]

/-- `_REFUNDABLE_LINK` -/
def REFUNDABLE_LINK : List PaymentLinkStatus := [.paid, .partiallyRefunded]

/-- `payment.status in _REFUNDABLE` -/
def isRefundable (p : PaymentRow) : Bool := p.status.any (· ∈ REFUNDABLE)

/-! ## The payment of a link -/

/-- The first sort key of `_find_payment`, highest first; `NULL` sorts before `true`. -/
def refundRank (p : PaymentRow) : ℕ :=
  match p.status with
  | none => 2
  | some status => if status ∈ REFUNDABLE then 1 else 0

/-- The payment of the highest rank, the newest of them. -/
def firstToRefund : List PaymentRow → Option PaymentRow
  | [] => none
  | p :: newer =>
    match firstToRefund newer with
    | none => some p
    | some q => if refundRank p ≤ refundRank q then some q else some p

def isPaymentOf (link : PaymentLinkRow) (p : PaymentRow) : Bool :=
  match link.paymentRowId with
  | some id => p.id = id
  | none =>
    if link.targetType = .booking then p.bookingId = some link.targetId
    else p.voucherId = some link.targetId

/-- `_find_payment` -/
def findPayment (link : PaymentLinkRow) : Tx (Option PaymentRow) :=
  let found := fun d : Db => firstToRefund (d.payments.filter (isPaymentOf link))
  queryForUpdate (fun d => ((found d).map fun p => LockKey.row "payments" p.id).toList) found

/-! ## Gift vouchers -/

/-- The statuses of a voucher that is not refunded any more. -/
def REDEEMED : List Voucher.GiftVoucherStatus := [.redeemed, .partiallyRedeemed, .fulfilled]

def voucherToRefund (payment : PaymentRow) : Tx (Option GiftVoucherRow) :=
  queryForUpdate (fun _ => (payment.voucherId.map (LockKey.row "gift_vouchers")).toList)
    fun d => payment.voucherId.bind (Table.get d.giftVouchers)

/-- The refund of the payment, less what the gateway has answered. -/
def refundOf (payment : PaymentRow) (amount : Decimal) (reason : Option String)
    (actorId refundNumber : String) (id : Uuid) (now : Instant) : RefundRow :=
  { id := id
    refundNumber := refundNumber
    paymentId := some payment.id
    invoiceNumber := payment.invoiceNumber
    customerId := payment.customerId
    refundType := Payment.RefundType.automated.value
    refundMethod := Payment.RefundMethod.paymentLink.value
    requestedAmount := amount.toFils
    refundedAmount := amount.toFils
    currency := payment.currency
    reason := Text.or reason (some "Gift voucher refund")
    paymentGateway := payment.paymentProvider
    gatewayTransactionId := payment.transactionId
    processedBy := some actorId
    processedAt := some now }

/-- The columns a refund sets on the payment; what is compared is not rounded yet. -/
def refundedColumns (payment : PaymentRow) (amount : Decimal) (p : PaymentRow) : PaymentRow :=
  { p with
    amountRefunded := payment.amountRefunded + amount.toFils
    status := some (if toDecimal payment.totalAmount ≤ toDecimal payment.amountRefunded + amount.value
      then .refunded else .partiallyRefunded) }

def refundHistory (payment refunded : PaymentRow) (refundNumber actorId : String)
    (providerReference : Option String) : PaymentStatusHistoryRow :=
  { paymentId := payment.id
    oldStatus := payment.status
    newStatus := refunded.status.getD .success
    source := "ushdesk"
    reason := "Gateway refund " ++ refundNumber
    providerReference := providerReference
    correlationId := refundNumber
    refundId := none
    refundStatus := none
    refundedAmount := none
    amountRefundedTotal := none
    changeByUser := actorId }

/-- What a call emits that the gateway answers: the adapters raise where it refuses. -/
def answeredRefund (e : Emission) : Except String Payment.RefundResponse → List Emission
  | .ok _ => [e]
  | .error _ => []

/-- `refund_payment` of the adapter. No currency is passed on, so that the default of the request stands. -/
def callRefund (gw : PaymentLinkGateway) (gatewayRef : String) (amount : Decimal) :
    Tx (Except String Payment.RefundResponse) :=
  call (fun env => answeredRefund (.linkRefund gw.name gatewayRef amount "KWD") env.refund) Env.refund

/-- An active voucher whose payment is refunded in full is cancelled. -/
def cancelRefunded (refunded : PaymentRow) (actorId : String) (v : GiftVoucherRow) : Tx Unit :=
  if refunded.status = some .refunded ∧ v.status = .active then
    discard (Voucher.updateStatus (some (.ofRow v)) v.id .cancelled { actorId := some actorId })
  else pure ()

/-- What is written once the gateway has answered. Returns the refund. -/
def recordRefund (payment : PaymentRow) (voucher : Option GiftVoucherRow) (amount : Decimal)
    (reason : Option String) (actorId refundNumber : String) (now : Instant)
    (res : Payment.RefundResponse) : Tx RefundRow := do
  let refunded ← flushPayment ((Orm.ofRow payment).set (refundedColumns payment amount))
  let id ← ask Env.uuid
  let refund ← Payment.insertRefund
    { refundOf payment amount reason actorId refundNumber id now with
      gatewayRefundId := res.providerRefundId
      gatewayResponse := some res.rawResponse }
  addPaymentHistory (refundHistory payment refunded.row refundNumber actorId res.providerRefundId)
  forSome voucher (cancelRefunded refunded.row actorId)
  pure refund.row

/-- `_refund_voucher_payment`. Returns the refund and its `refunded_amount`, as the session has it. -/
def refundVoucherPayment (gw : PaymentLinkGateway) (payment : PaymentRow) (amount : Option Decimal)
    (reason : Option String) (actorId : String) : Tx (RefundRow × Decimal) := do
  let voucher ← voucherToRefund payment
  raiseIf (voucher.any (·.status ∈ REDEEMED))
    (.validation "A redeemed gift voucher cannot be refunded.")
  let remaining := payment.totalAmount - payment.amountRefunded
  let amount := amount.getD (.ofFils remaining)
  raiseIf (amount.value ≤ 0 ∨ toDecimal remaining < amount.value)
    (.validation ("Refund amount must be between 0 and " ++ str remaining ++ "."))
  let gatewayRef := Text.or payment.invoiceId payment.paymentId
  raiseIf (¬ Text.truthy gatewayRef)
    (.validation "Payment lacks a gateway reference required for refund.")
  let refundNumber ← Payment.generateRefundNumber
  let now ← ask Env.now
  let res ← callRefund gw (Text.orEmpty gatewayRef) amount
  match res with
  | .error exc => do
    -- the failed refund goes with the transaction
    let id ← ask Env.uuid
    discard (Payment.insertRefund { refundOf payment amount reason actorId refundNumber id now with
      status := .failed, notes := some ("Gateway error: " ++ exc) })
    throw (.paymentProvider exc)
  | .ok res => do
    let refund ← recordRefund payment voucher amount reason actorId refundNumber now res
    pure (refund, amount)

/-! ## Refunds of links -/

/-- The refund of what the link is for. -/
def refundTarget (gw : PaymentLinkGateway) (link : PaymentLinkRow) (payment : PaymentRow)
    (amount : Option Decimal) (reason : Option String) (actorId : String) : Tx (RefundRow × Decimal) :=
  match link.targetType with
  | .booking => do
    let refund ← Payment.processGatewayRefund link.targetId
      { refundAmount := amount.map Decimal.value, reason := reason } actorId
    pure (refund.row, .ofFils refund.row.refundedAmount)
  | .giftVoucher => refundVoucherPayment gw payment amount reason actorId
  | .product => throw (.validation "Refunds are not supported for this payment link target.")

/-- `_sync_link_refund` -/
def syncLinkRefund (link : PaymentLinkRow) (refunded : Decimal) (l : PaymentLinkRow) : PaymentLinkRow :=
  { l with
    amountRefunded := link.amountRefunded + refunded.toFils
    status := if toDecimal link.amount ≤ toDecimal link.amountRefunded + refunded.value then .refunded
      else .partiallyRefunded }

/-- `refund`; `link` is the link as the session has loaded it. -/
def refundLink (gw : PaymentLinkGateway) (link : PaymentLinkRow) (amount : Option Decimal)
    (reason : Option String) (actorId : String) : Tx RefundRow := do
  let locked ← getLockedLink link.id
  raiseIf (locked.isNone) (.notFound "Payment link not found.")
  raiseIf (link.status ∉ REFUNDABLE_LINK)
    (.validation ("Only paid payment links can be refunded (current status: " ++ link.status.value ++ ")."))
  let payment ← findPayment link
  match payment with
  | none => throw (.validation
      "The payment record for this link has not been created yet; please retry shortly.")
  | some payment => do
    raiseIf (¬ isRefundable payment)
      (.validation ("Only paid payments can be refunded (current status: " ++
        (payment.status.map Payment.PaymentStatus.value).getD "None" ++ ")."))
    let (refund, refunded) ← refundTarget gw link payment amount reason actorId
    discard (flushLink ((Orm.ofRow link).set (syncLinkRefund link refunded)))
    pure refund

/-- `refund_payment_link` -/
def refundPaymentLink (settings : LinkSettings) (linkId : Uuid) (amount : Option Decimal)
    (reason : Option String) (actorId : String) : Tx RefundRow := do
  let probe ← getLink linkId
  let gw ← getGateway settings (if probe.gateway = "" then settings.defaultGateway else probe.gateway)
  refundLink gw probe amount reason actorId

/-! ## Requests that overlap -/

structure LinkRefundCall where
  settings : LinkSettings
  linkId : Uuid
  amount : Option Decimal := none
  reason : Option String := none
  actorId : String := ""

def linkRefundCode (call : LinkRefundCall) : Tx Unit :=
  discard (refundPaymentLink call.settings call.linkId call.amount call.reason call.actorId)

abbrev LinkRefundSystem := System Db LockKey Emission Env Error Unit LinkRefundCall

/-- The row of each payment, under its lock. -/
def paymentParts : Parts Db LockKey Uuid (List PaymentRow) where
  lock paymentId := .row "payments" paymentId
  part paymentId d := d.payments.filter (·.id = paymentId)

def isLinkRefund : Emission → Bool
  | .linkRefund _ _ _ _ => true
  | _ => false

/-- The payment is refunded by an amount that was left of it, which is what the gateway has answered:
one refund and no other. -/
structure RefundedBy (es : List Emission) (p p' : PaymentRow) : Prop where
  refundable : isRefundable p
  answered : ∃ gateway gatewayRef amount,
    es.filter isLinkRefund = [Emission.linkRefund gateway gatewayRef amount "KWD"] ∧
    0 < amount.value ∧ amount.value ≤ toDecimal (p.totalAmount - p.amountRefunded) ∧
    p'.amountRefunded = p.amountRefunded + amount.toFils ∧
    (p'.status = some .refunded ↔ amount.value = toDecimal (p.totalAmount - p.amountRefunded))
  total : p'.totalAmount = p.totalAmount

/-- What the lock of a payment is taken for. -/
def RefundsIn (_ : LinkRefundCall) (es : List Emission) (_ : Uuid) (rows rows' : List PaymentRow) : Prop :=
  rows'.length = rows.length ∧
    ∀ p, rows = [p] → rows' = [p] ∨ ∃ p', rows' = [p'] ∧ RefundedBy es p p'

/-- Where a step changes a payment, a session commits that has refunded it. -/
def RefundedAsAnswered (s : LinkRefundSystem) (ev : Event LinkRefundCall Env) : Prop :=
  ∀ p' ∈ (s.step linkRefundCode ev).db.payments, ∃ p ∈ s.db.payments, p.id = p'.id ∧ (p' = p ∨
    ∃ t, ev = .finish t.sid ∧ Table.get s.sessions t.sid = some t ∧ RefundedBy t.emitted p p')

/-- No payment is refunded beyond its total. -/
def RefundedWithinTotal (d : Db) : Prop := ∀ p ∈ d.payments, p.amountRefunded ≤ p.totalAmount

end PaymentLinks
