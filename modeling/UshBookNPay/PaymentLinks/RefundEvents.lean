import UshBookNPay.Payment.RefundSummaries
import UshBookNPay.PaymentLinks.RefundActions

/-!
# Refund webhooks beside the state machine

A refund event says what `RefundLifecycle.complete` or `RefundLifecycle.fail` does. The two paths are
compared on the refund, its payment, its booking and the events they publish, along runs of
transitions and webhooks.
-/

open Transactions (Ledger)

namespace PaymentLinks

open Payment (LifecycleOp isLoyalty sumOf exceeds fits KeepsSummary FailsRefund NoPointsPaid
  SummaryExact)

/-! ## Runs -/

/-- A transition, or a refund event of a gateway. -/
inductive RefundStep where
  | lifecycle (op : LifecycleOp)
  | webhook (gw : PaymentLinkGateway) (event : GatewayWebhookEvent)

def RefundStep.action : RefundStep → RefundAction
  | .lifecycle op => .lifecycle op
  | .webhook gw event => .webhook gw event

def refundStep (s : Ledger Db Emission) (x : RefundStep × (ℕ → Env)) : Ledger Db Emission :=
  actionStep s (x.1.action, x.2)

/-! ## Agreement -/

/-- The refund completions that were announced. -/
def announced (es : List Emission) : List RefundCompletedEvent :=
  es.filterMap fun
    | .refundCompleted event => some event
    | _ => none

/-- The two ledgers agree on the refund, on its payment and booking, and on what was announced. -/
structure SameEffect (p : PaymentRow) (r : RefundRow) (s s' : Ledger Db Emission) : Prop where
  refund : (Table.get s.db.refunds r.id).map (·.status) =
    (Table.get s'.db.refunds r.id).map (·.status)
  amountRefunded : (Table.get s.db.payments p.id).map (·.amountRefunded) =
    (Table.get s'.db.payments p.id).map (·.amountRefunded)
  payment : (Table.get s.db.payments p.id).map (·.status) =
    (Table.get s'.db.payments p.id).map (·.status)
  booking : (r.bookingId.bind (Table.get s.db.bookings)).map (·.paymentStatus) =
    (r.bookingId.bind (Table.get s'.db.bookings)).map (·.paymentStatus)
  announced : announced s.log = PaymentLinks.announced s'.log

/-- The event names the refund `r` of the payment `p`, by the invoice and the refund id of the
gateway. -/
def Names (event : GatewayWebhookEvent) (d : Db) (p : PaymentRow) (r : RefundRow) : Prop :=
  Table.get d.payments p.id = some p ∧ Table.get d.refunds r.id = some r ∧ r.paymentId = some p.id ∧
    Text.truthy event.invoiceId ∧ p.invoiceId = event.invoiceId ∧
    Text.truthy event.refundId ∧ r.gatewayRefundId = event.refundId

instance (event : GatewayWebhookEvent) (d : Db) (p : PaymentRow) (r : RefundRow) :
    Decidable (Names event d p r) := inferInstanceAs (Decidable (_ ∧ _))

/-- A webhook does to the refund it names what the state machine does, whatever the other arguments and
answers of the transition are. -/
def HandledAs (s : Ledger Db Emission) (x : RefundStep × (ℕ → Env)) : Prop :=
  match x.1 with
  | .webhook _ event => ∀ p r, Names event s.db p r →
    (event.refundStatus = some "REFUNDED" → ∀ source ref res actor env,
      SameEffect p r (refundStep s x)
        (refundStep s (.lifecycle (.complete r.id source ref res actor true), env))) ∧
    (event.cancels → ∀ reason source ref res actor env,
      SameEffect p r (refundStep s x)
        (refundStep s (.lifecycle (.fail r.id reason source ref res actor), env)))
  | .lifecycle _ => True

/-! ## When they agree -/

/-- What is left of the payment without the refund fits its column, and so does the refund. -/
def FitsLeft (p : PaymentRow) (r : RefundRow) : Prop :=
  fits r ∧ fitsNumeric (revertedPayment r p).amountRefunded

instance (p : PaymentRow) (r : RefundRow) : Decidable (FitsLeft p r) :=
  inferInstanceAs (Decidable (_ ∧ _))

/-- Completing the refund would exceed the paid amount, so `complete` raises. -/
def ExceedsPaid (d : Db) (p : PaymentRow) (r : RefundRow) : Prop :=
  ¬ isLoyalty r.refundMethod ∧
    exceeds (sumOf d p.id [.completed] (some r.id) + r.refundedAmount) p.totalAmount

instance (d : Db) (p : PaymentRow) (r : RefundRow) : Decidable (ExceedsPaid d p r) :=
  inferInstanceAs (Decidable (_ ∧ _))

/-- What the completed refunds of the payment but `r` amount to. -/
def othersTotal (d : Db) (p : PaymentRow) (r : RefundRow) : Fils :=
  sumOf d p.id [.completed] (some r.id)

/-- The payment holds the amount of the refund beside its other completed refunds, under the status
that is left without the refund, and the booking of a completed one has that status already. -/
structure HoldsBeside (d : Db) (p : PaymentRow) (r : RefundRow) : Prop where
  amount : (0 < othersTotal d p r ∧ p.amountRefunded = othersTotal d p r + r.refundedAmount) ∨
    (othersTotal d p r = 0 ∧ p.amountRefunded ≤ r.refundedAmount)
  status : p.status = some (if othersTotal d p r = 0 then .success else .partiallyRefunded)
  booking : r.status = .completed → ∀ b ∈ r.bookingId.bind (Table.get d.bookings),
    b.paymentStatus = if 0 < othersTotal d p r then .partiallyRefunded else .success

instance (d : Db) (p : PaymentRow) (r : RefundRow) : Decidable (HoldsBeside d p r) :=
  decidable_of_iff (((0 < othersTotal d p r ∧ p.amountRefunded = othersTotal d p r + r.refundedAmount) ∨
    (othersTotal d p r = 0 ∧ p.amountRefunded ≤ r.refundedAmount)) ∧
    p.status = some (if othersTotal d p r = 0 then .success else .partiallyRefunded) ∧
    (r.status = .completed → ∀ b ∈ r.bookingId.bind (Table.get d.bookings),
      b.paymentStatus = if 0 < othersTotal d p r then .partiallyRefunded else .success))
    ⟨fun ⟨ha, hs, hb⟩ => ⟨ha, hs, hb⟩, fun h => ⟨h.amount, h.status, h.booking⟩⟩

/-- When a webhook does what the state machine does. One that finds the refund does not touch the
booking and announces nothing, and one that does not find it changes nothing. -/
def Refining (gw : PaymentLinkGateway) (event : GatewayWebhookEvent) (d : Db) (p : PaymentRow)
    (r : RefundRow) : Prop :=
  (event.refundStatus = some "REFUNDED" →
    r.status = .completed ∨
      (eventRefund gw event d ≠ some r ∧ (r.status ∉ Payment.OPEN_STATUSES ∨ ExceedsPaid d p r))) ∧
  (event.cancels →
    r.status = .failed ∨
      (eventRefund gw event d ≠ some r ∧ r.status = .cancelled) ∨
      (eventRefund gw event d = some r ∧ r.status ≠ .cancelled ∧ HoldsBeside d p r))

instance (gw : PaymentLinkGateway) (event : GatewayWebhookEvent) (d : Db) (p : PaymentRow)
    (r : RefundRow) : Decidable (Refining gw event d p r) := inferInstanceAs (Decidable (_ ∧ _))

/-- A step that keeps to the state machine. -/
def KeepsRefining (d : Db) : RefundStep → Prop
  | .webhook gw event => ∀ p r, Names event d p r → Refining gw event d p r
  | .lifecycle _ => True

instance (d : Db) : ∀ step, Decidable (KeepsRefining d step)
  | .webhook gw event =>
    decidable_of_iff (∀ p ∈ d.payments, ∀ r ∈ d.refunds, Names event d p r → Refining gw event d p r)
      ⟨fun h p r hn => h p (Table.get_some hn.1).1 r (Table.get_some hn.2.1).1 hn,
        fun h p _ r _ hn => h p r hn⟩
  | .lifecycle _ => .isTrue trivial

/-- A step that may keep the payment `pid` exact: the totals `complete` and `fail` recompute count
points as money. -/
def KeepsExact (pid : Uuid) (d : Db) (x : RefundStep × (ℕ → Env)) : Prop :=
  match x.1 with
  | .lifecycle op => KeepsSummary pid d (op, x.2)
  | .webhook gw event => event.cancels → ∀ r ∈ eventRefund gw event d,
    FailsRefund d pid r.id → NoPointsPaid d pid r.id

end PaymentLinks
