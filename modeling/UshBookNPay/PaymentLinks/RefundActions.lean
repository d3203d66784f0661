import UshBookNPay.Payment.RefundRuns
import UshBookNPay.PaymentLinks.WebhookService

/-!
# Everything that happens to a refund

The transitions of `RefundLifecycle`, the workflows of `RefundService` and the refund webhooks, each a
transaction of its own, in any order.
-/

open Transactions (Ledger transact)

namespace PaymentLinks

open Payment (LifecycleOp RefundOp lifecycleCode refundCode isLoyalty RefundMethod openRefund)

inductive RefundAction where
  | lifecycle (op : LifecycleOp)
  | service (bookingId : Uuid) (op : RefundOp)
  | webhook (gw : PaymentLinkGateway) (event : GatewayWebhookEvent)

def actionCode : RefundAction → Tx Unit
  | .lifecycle op => lifecycleCode op
  | .service bookingId op => refundCode bookingId op
  | .webhook gw event => discard (handleRefundEvent gw event)

/-- One action, with what the environment answers to its statements. -/
def actionStep (s : Ledger Db Emission) (x : RefundAction × (ℕ → Env)) : Ledger Db Emission :=
  transact x.2 (actionCode x.1) s

/-! ## What may become of a refund -/

/-- The refund was approved as loyalty points, and may have been closed since. -/
def ForPoints (r : RefundRow) : Prop :=
  isLoyalty r.refundMethod ∧ r.status ≠ .requested ∧ r.status ≠ .processing

instance (r : RefundRow) : Decidable (ForPoints r) := inferInstanceAs (Decidable (_ ∧ _ ∧ _))

/-- A rejected, failed or cancelled refund stays what it is, a completed one can only fail, and one in
`processing` is not requested or approved again. A refund approved as points stays one. -/
structure Lawful (r r' : RefundRow) : Prop where
  closed : r.status ∈ [.rejected, .failed, .cancelled] → r'.status = r.status
  completed : r.status = .completed → r'.status = .completed ∨ r'.status = .failed
  processing : r.status = .processing → r'.status ≠ .requested ∧ r'.status ≠ .approved
  points : ForPoints r → ForPoints r'

/-- An action has moved every refund lawfully, and no provider has accepted a refund for points. -/
def LawfulStep (s s' : Ledger Db Emission) : Prop :=
  ∀ k r, Table.get s.db.refunds k = some r →
    (∃ r', Table.get s'.db.refunds k = some r' ∧ Lawful r r') ∧
    (ForPoints r → Payment.callsFor k s'.log = Payment.callsFor k s.log)

/-! ## The steps without a guard -/

/-- A workflow that is asked for `net`, less `fee`, reuses a refund approved as points: nothing is
adjusted where no amount is asked for, or the one the refund has. -/
def ReusesPoints (bookingId : Uuid) (net : Option ℚ) (fee : ℚ) (d : Db) : Prop :=
  ∃ r, openRefund bookingId d = some r ∧ r.status = .approved ∧ isLoyalty r.refundMethod ∧
    ∀ x, net = some x → ¬ Payment.differs r x fee

instance (bookingId : Uuid) (net : Option ℚ) (fee : ℚ) (d : Db) :
    Decidable (ReusesPoints bookingId net fee d) :=
  decidable_of_iff (∃ r ∈ openRefund bookingId d, r.status = .approved ∧ isLoyalty r.refundMethod ∧
    ∀ x ∈ net, ¬ Payment.differs r x fee) (by simp [ReusesPoints])

/-- The payment a refund event is about. -/
def eventPayment (gw : PaymentLinkGateway) (event : GatewayWebhookEvent) (d : Db) :
    Option PaymentRow :=
  if ¬ Text.truthy event.invoiceId then none
  else (d.payments.filter fun p =>
    p.invoiceId = event.invoiceId ∧ p.paymentProvider = some gw.providerLabel).getLast?

/-- The refund a refund event is about. -/
def eventRefund (gw : PaymentLinkGateway) (event : GatewayWebhookEvent) (d : Db) :
    Option RefundRow :=
  (eventPayment gw event d).bind fun p =>
    if ¬ Text.truthy event.refundId then none
    else match d.refunds.filter fun r =>
        r.paymentId = some p.id ∧ r.gatewayRefundId = event.refundId with
      | [r] => some r
      | _ => none

/-- The event reports a cancelled refund. -/
def GatewayWebhookEvent.cancels (event : GatewayWebhookEvent) : Prop :=
  event.refundStatus ∈ [some "CANCELED", some "CANCELLED"]

instance (event : GatewayWebhookEvent) : Decidable event.cancels :=
  inferInstanceAs (Decidable (_ ∈ _))

/-- When an action moves the refunds lawfully. `fail` does not look for a rejected refund,
`mark_processing` and the workflows that reuse an open refund do not look at its method, and the
webhook looks for one closed status only. -/
def KeepsLawful (d : Db) : RefundAction → Prop
  | .lifecycle (.fail refundId ..) => ∀ r ∈ Table.get d.refunds refundId, r.status ≠ .rejected
  | .lifecycle (.markProcessing refundId ..) =>
    ∀ r ∈ Table.get d.refunds refundId, ¬ (r.status = .approved ∧ ForPoints r)
  | .service bookingId (.processGatewayRefund req _) => 0 ≤ req.cancellationFee →
      ¬ ReusesPoints bookingId (req.refundAmount.map (· - req.cancellationFee)) req.cancellationFee d
  | .service bookingId (.recordManualRefund req _) =>
    RefundMethod.normalise req.refundMethod ≠ .loyaltyPoints → 0 < req.refundAmount →
      ¬ ReusesPoints bookingId (some (req.refundAmount - req.cancellationFee)) req.cancellationFee d
  | .webhook gw event => ∀ r ∈ eventRefund gw event d,
    (event.refundStatus = some "REFUNDED" → r.status ∉ [.rejected, .failed, .cancelled]) ∧
    (event.cancels → r.status ∉ [.rejected, .cancelled])
  | _ => True

instance (d : Db) : ∀ action, Decidable (KeepsLawful d action)
  | .lifecycle (.request ..) => .isTrue trivial
  | .lifecycle (.updateRequestedAmounts ..) => .isTrue trivial
  | .lifecycle (.reject ..) => .isTrue trivial
  | .lifecycle (.approve ..) => .isTrue trivial
  | .lifecycle (.markProcessing refundId ..) => inferInstanceAs
    (Decidable (∀ r ∈ Table.get d.refunds refundId, ¬ (r.status = .approved ∧ ForPoints r)))
  | .lifecycle (.complete ..) => .isTrue trivial
  | .lifecycle (.fail refundId ..) => inferInstanceAs
    (Decidable (∀ r ∈ Table.get d.refunds refundId, r.status ≠ .rejected))
  | .service _ (.createRefundRequest ..) => .isTrue trivial
  | .service _ (.approveRefund ..) => .isTrue trivial
  | .service bookingId (.processGatewayRefund req _) => inferInstanceAs
    (Decidable (0 ≤ req.cancellationFee → ¬ ReusesPoints bookingId
      (req.refundAmount.map (· - req.cancellationFee)) req.cancellationFee d))
  | .service _ (.processRefund ..) => .isTrue trivial
  | .service bookingId (.recordManualRefund req _) => inferInstanceAs
    (Decidable (RefundMethod.normalise req.refundMethod ≠ .loyaltyPoints → 0 < req.refundAmount →
      ¬ ReusesPoints bookingId (some (req.refundAmount - req.cancellationFee))
        req.cancellationFee d))
  | .service _ (.confirmRefund ..) => .isTrue trivial
  | .webhook gw event => inferInstanceAs (Decidable (∀ r ∈ eventRefund gw event d,
    (event.refundStatus = some "REFUNDED" → r.status ∉ [.rejected, .failed, .cancelled]) ∧
    (event.cancels → r.status ∉ [.rejected, .cancelled])))

end PaymentLinks
