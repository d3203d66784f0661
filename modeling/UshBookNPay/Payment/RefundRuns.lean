import UshBookNPay.Lib.Sessions
import UshBookNPay.Payment.LifecycleRuns
import UshBookNPay.Payment.RefundService

/-!
# Interleaved refund workflows

The workflows of `RefundService` as the operations of interleaved sessions, and what a run of them
sends back: the accepted provider calls, the refunds completed at the desk and the loyalty credits.
-/

open Transactions (Prog Session System Event)

namespace Payment

/-! ## What leaves the account -/

def acceptedCalls (es : List Emission) : List (Uuid × Fils) := es.filterMap Emission.accepted

/-- The accepted provider calls for one refund. -/
def callsFor (refundId : Uuid) (es : List Emission) : ℕ :=
  (acceptedCalls es).countP fun c => c.1 = refundId

/-- The loyalty credits of one refund. -/
def loyaltyCredits (refundNumber : String) (d : Db) : ℕ :=
  d.loyaltyTransactions.countP fun t => t.description = creditDescription refundNumber

/-- What has been executed of a refund, in calls and in credits. -/
def executions (refundId : Uuid) (refundNumber : String) (d : Db) (es : List Emission) : ℕ :=
  callsFor refundId es + loyaltyCredits refundNumber d

/-! ## Calls of process_refund on one refund -/

/-- A call of `process_refund`, by its `actor_id`. -/
abbrev ProcessCall := Option String

/-- The endpoint's transaction. -/
def processCode (refundId : Uuid) (actorId : ProcessCall) : Tx Unit :=
  discard (processRefund refundId actorId)

abbrev ProcessSystem := System Db LockKey Emission Env Error Unit ProcessCall

def processStep (refundId : Uuid) : ProcessSystem → Event ProcessCall Env → ProcessSystem :=
  System.step (processCode refundId)

/-- At most one provider call for the refund is accepted, or one loyalty credit for it is committed.
`before` counts the transactions of that description before the run. -/
def ExecutedAtMostOnce (refundId : Uuid) (refundNumber : String) (before : ℕ)
    (s : ProcessSystem) : Prop :=
  executions refundId refundNumber s.db s.log ≤ before + 1

instance (refundId : Uuid) (refundNumber : String) (before : ℕ) (s : ProcessSystem) :
    Decidable (ExecutedAtMostOnce refundId refundNumber before s) :=
  inferInstanceAs (Decidable (_ ≤ _))

/-- The calls follow one another, and none is rolled back after the provider has accepted it: neither
by an exception nor by the end of its session. -/
abbrev OneAtATime : ProcessSystem → Event ProcessCall Env → Prop :=
  Transactions.Serial (fun _ _ => True) Emission.void

/-! ## Workflows on the refunds of one booking -/

inductive RefundOp where
  | createRefundRequest (paymentId : Option PaymentRef) (invoiceId invoiceNumber : Option String)
      (refundAmount : Option ℚ) (cancellationFee : ℚ) (reason notes actorId : Option String)
  | approveRefund (refundId : Uuid) (refundMethod : String) (approvedAmount : ℚ)
      (notes actorId : Option String)
  | processGatewayRefund (req : ProcessGatewayRefundRequest) (currentUserId : String)
  | processRefund (refundId : Uuid) (actorId : Option String)
  | recordManualRefund (req : CreateManualRefundRequest) (currentUserId : String)
  | confirmRefund (refundId : Uuid) (providerReference notes : Option String) (actorId : String)

/-- The workflow in the transaction of its endpoint. -/
def refundCode (bookingId : Uuid) : RefundOp → Tx Unit
  | .createRefundRequest paymentId invoiceId invoiceNumber refundAmount cancellationFee reason notes
      actorId => discard (createRefundRequest bookingId paymentId invoiceId invoiceNumber
        refundAmount cancellationFee reason notes actorId)
  | .approveRefund refundId refundMethod approvedAmount notes actorId =>
    discard (approveRefund refundId refundMethod approvedAmount notes actorId)
  | .processGatewayRefund req currentUserId =>
    discard (processGatewayRefund bookingId req currentUserId)
  | .processRefund refundId actorId => discard (processRefund refundId actorId)
  | .recordManualRefund req currentUserId =>
    discard (recordManualRefund bookingId req currentUserId)
  | .confirmRefund refundId providerReference notes actorId =>
    discard (confirmRefund refundId providerReference notes actorId)

abbrev RefundSystem := System Db LockKey Emission Env Error Unit RefundOp

def refundStep (bookingId : Uuid) : RefundSystem → Event RefundOp Env → RefundSystem :=
  System.step (refundCode bookingId)

/-- What a refund completed at the desk hands back: one in loyalty points and one the provider has
accepted hand back nothing there. -/
def deskAmount (calls : List (Uuid × Fils)) (r : RefundRow) : Fils :=
  if r.status = .completed ∧ ¬ isLoyalty r.refundMethod ∧ r.id ∉ calls.map Prod.fst then
    r.refundedAmount else 0

/-- The money sent back: the amounts of the accepted calls and of the refunds completed without one. -/
def moneySentBack (refunds : List RefundRow) (calls : List (Uuid × Fils)) : Fils :=
  (calls.map Prod.snd).sum + Table.total (deskAmount calls) refunds

/-- The money sent back is at most the total of the payment, up to the tolerance. -/
def SentBackWithin (total : Fils) (s : RefundSystem) : Prop :=
  toDecimal (moneySentBack s.db.refunds (acceptedCalls s.log)) ≤ toDecimal total + TOLERANCE

instance (total : Fils) (s : RefundSystem) : Decidable (SentBackWithin total s) :=
  inferInstanceAs (Decidable (_ ≤ _))

/-- The refund of the booking a workflow reuses: the oldest open one. -/
def openRefund (bookingId : Uuid) (d : Db) : Option RefundRow :=
  d.refunds.find? fun r => r.bookingId = some bookingId ∧ r.status ∈ OPEN_STATUSES

/-- A workflow that keeps to the payment `pid`: a request names no other payment, and an approval as
loyalty points stays within the cap. -/
def KeepsToPayment (pid : Uuid) (d : Db) : RefundOp → Prop
  | .createRefundRequest paymentId .. => ∀ ref ∈ paymentId, ∀ q ∈ paymentsOf ref d, q.id = pid
  | .approveRefund refundId refundMethod approvedAmount .. =>
    RefundMethod.normalise refundMethod = .loyaltyPoints →
    Adjustable d pid refundId (dec approvedAmount) (·.cancellationFee) →
      WithinCap d pid (some refundId) (dec approvedAmount)
  | _ => True

instance (pid : Uuid) (d : Db) : ∀ op, Decidable (KeepsToPayment pid d op)
  | .createRefundRequest paymentId .. =>
    inferInstanceAs (Decidable (∀ ref ∈ paymentId, ∀ q ∈ paymentsOf ref d, q.id = pid))
  | .approveRefund refundId refundMethod approvedAmount .. =>
    inferInstanceAs (Decidable (RefundMethod.normalise refundMethod = .loyaltyPoints →
      Adjustable d pid refundId (dec approvedAmount) (·.cancellationFee) →
        WithinCap d pid (some refundId) (dec approvedAmount)))
  | .processGatewayRefund .. => .isTrue trivial
  | .processRefund .. => .isTrue trivial
  | .recordManualRefund .. => .isTrue trivial
  | .confirmRefund .. => .isTrue trivial

/-- The workflows follow one another and keep to the payment, and none is rolled back after a provider
has accepted its refund. -/
abbrev SerialWorkflows (pid : Uuid) : RefundSystem → Event RefundOp Env → Prop :=
  Transactions.Serial (KeepsToPayment pid) Emission.void

end Payment
