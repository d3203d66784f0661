import UshBookNPay.Lib.Runs
import UshBookNPay.Payment.RefundLifecycle

/-!
# Runs of refund transitions

A transition run alone as one transaction, on objects loaded by their ids, and finite sequences of
them.
-/


namespace Payment

/-- A call of a transition with its arguments. -/
inductive LifecycleOp where
  | request (bookingId : Uuid) (paymentId : Option Uuid) (refundAmount cancellationFee : ℚ)
      (refundType refundMethod : String) (reason notes idempotencyKey actorId : Option String)
  | updateRequestedAmounts (refundId : Uuid) (paymentId : Option Uuid)
      (refundAmount cancellationFee : ℚ)
  | reject (refundId : Uuid) (reason actorId : Option String)
  | approve (refundId : Uuid) (refundMethod : String) (approvedAmount : ℚ)
      (notes actorId : Option String)
  | markProcessing (refundId : Uuid) (providerRefundId : Option String)
      (gatewayResponse : Option Json) (actorId : Option String)
  | complete (refundId : Uuid) (source : String) (providerReference : Option String)
      (gatewayResponse : Option Json) (actorId : Option String) (publishEvent : Bool)
  | fail (refundId : Uuid) (reason source : String) (providerReference : Option String)
      (gatewayResponse : Option Json) (actorId : Option String)

def loadRefund (id : Uuid) : Tx (Orm RefundRow) :=
  Orm.ofRow <$> load "Resource not found." fun d => Table.get d.refunds id

/-- The payment argument of a transition. -/
def loadPayment (id : Option Uuid) : Tx (Option PaymentRow) :=
  match id with
  | none => pure none
  | some id => some <$> load "Resource not found." fun d => Table.get d.payments id

/-- The transition in a session of its own, whose commit writes what is not flushed yet. -/
def lifecycleCode : LifecycleOp → Tx Unit
  | .request bookingId paymentId refundAmount cancellationFee refundType refundMethod reason notes
      idempotencyKey actorId => do
    let booking ← load "Resource not found." fun d => Table.get d.bookings bookingId
    let payment ← loadPayment paymentId
    discard (request booking payment refundAmount cancellationFee refundType refundMethod reason
      notes idempotencyKey actorId)
  | .updateRequestedAmounts refundId paymentId refundAmount cancellationFee => do
    let refund ← loadRefund refundId
    let payment ← loadPayment paymentId
    let refund ← updateRequestedAmounts refund payment refundAmount cancellationFee
    discard (flushRefund refund)
  | .reject refundId reason actorId => do
    let refund ← loadRefund refundId
    discard (reject refund reason actorId)
  | .approve refundId refundMethod approvedAmount notes actorId => do
    let refund ← loadRefund refundId
    discard (approve {} refund refundMethod approvedAmount notes actorId)
  | .markProcessing refundId providerRefundId gatewayResponse actorId => do
    let refund ← loadRefund refundId
    discard (markProcessing {} refund providerRefundId gatewayResponse actorId)
  | .complete refundId source providerReference gatewayResponse actorId publishEvent => do
    let refund ← loadRefund refundId
    discard (complete {} refund source providerReference gatewayResponse actorId publishEvent)
  | .fail refundId reason source providerReference gatewayResponse actorId => do
    let refund ← loadRefund refundId
    discard (fail {} refund reason source providerReference gatewayResponse actorId)

/-- One step of a run: a transition, with what the environment answers to its statements. -/
def lifecycleStep (d : Db) (x : LifecycleOp × (ℕ → Env)) : Db :=
  Transactions.atomically x.2 (lifecycleCode x.1) d

/-- The transition does not raise. -/
def Succeeds (d : Db) (x : LifecycleOp × (ℕ → Env)) : Prop :=
  (Transactions.exec x.2 (lifecycleCode x.1) d).1.isOk

instance (d : Db) (x : LifecycleOp × (ℕ → Env)) : Decidable (Succeeds d x) :=
  inferInstanceAs (Decidable (_ = true))

/-! ## The cap -/

/-- The refunded amounts of a payment in a committed status stay within its total. -/
def CapHolds (pid : Uuid) (d : Db) : Prop :=
  ∀ p, Table.get d.payments pid = some p →
    toDecimal (sumOf d pid committedStatuses none) ≤ toDecimal p.totalAmount + TOLERANCE

instance (pid : Uuid) (d : Db) : Decidable (CapHolds pid d) :=
  decidable_of_iff (∀ p ∈ Table.get d.payments pid,
    toDecimal (sumOf d pid committedStatuses none) ≤ toDecimal p.totalAmount + TOLERANCE)
    (by simp [CapHolds])

/-- With `net` for the refund `excludeId`, the payment `pid` stays within its total. -/
def WithinCap (d : Db) (pid : Uuid) (excludeId : Option Uuid) (net : Fils) : Prop :=
  ∀ p, Table.get d.payments pid = some p →
    ¬ exceeds (sumOf d pid committedStatuses excludeId + net) p.totalAmount

instance (d : Db) (pid : Uuid) (excludeId : Option Uuid) (net : Fils) :
    Decidable (WithinCap d pid excludeId net) :=
  decidable_of_iff (∀ p ∈ Table.get d.payments pid,
    ¬ exceeds (sumOf d pid committedStatuses excludeId + net) p.totalAmount) (by simp [WithinCap])

/-- The refund `refundId` is a requested refund of the payment `pid` and the amounts fit their
columns, so that a transition which does not check the cap goes through. -/
def Adjustable (d : Db) (pid refundId : Uuid) (net : Fils) (fee : RefundRow → Fils) : Prop :=
  ∃ r, Table.get d.refunds refundId = some r ∧ r.paymentId = some pid ∧ r.status = .requested ∧
    0 < net ∧ fits (requestedColumns net (fee r) r)

instance (d : Db) (pid refundId : Uuid) (net : Fils) (fee : RefundRow → Fils) :
    Decidable (Adjustable d pid refundId net fee) :=
  decidable_of_iff (∃ r ∈ Table.get d.refunds refundId, r.paymentId = some pid ∧
    r.status = .requested ∧ 0 < net ∧ fits (requestedColumns net (fee r) r)) (by simp [Adjustable])

/-- The two steps that can leave the cap: a refund approved as loyalty points, and amounts updated
without the refund's own payment. Both have to stay within the cap. -/
def KeepsCap (pid : Uuid) (d : Db) (x : LifecycleOp × (ℕ → Env)) : Prop :=
  match x.1 with
  | .approve refundId refundMethod approvedAmount _ _ =>
    RefundMethod.normalise refundMethod = .loyaltyPoints →
    Adjustable d pid refundId (dec approvedAmount) (·.cancellationFee) →
      WithinCap d pid (some refundId) (dec approvedAmount)
  | .updateRequestedAmounts refundId paymentId refundAmount cancellationFee =>
    paymentId ≠ some pid →
    (∀ q, paymentId = some q → Table.get d.payments q ≠ none ∧
      WithinCap d q (some refundId) (dec refundAmount)) →
    Adjustable d pid refundId (dec refundAmount) (fun _ => dec cancellationFee) →
      WithinCap d pid (some refundId) (dec refundAmount)
  | _ => True

end Payment
