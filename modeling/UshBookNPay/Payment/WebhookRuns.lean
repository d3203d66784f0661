import UshBookNPay.Payment.GatewayWebhooks
import UshBookNPay.Payment.RefundSummaries

/-!
# Runs of gateway deliveries

Deliveries to the two webhooks, interleaved with the transitions of refunds. The properties below say
what a late, repeated or reordered delivery must not do to a payment.
-/

namespace Payment

/-- A delivery with its body, or a transition of a refund. -/
inductive GatewayOp where
  | myfatoorah (body : String)
  | tap (body : String)
  | refund (op : LifecycleOp)

def gatewayCode : GatewayOp → Tx Unit
  | .myfatoorah body => myfatoorahWebhook body
  | .tap body => tapWebhook body
  | .refund op => lifecycleCode op

/-- One step of a run, with what the environment answers to its statements. -/
def gatewayStep (d : Db) (x : GatewayOp × (ℕ → Env)) : Db :=
  Transactions.atomically x.2 (gatewayCode x.1) d

def GatewayOp.isDelivery : GatewayOp → Bool
  | .myfatoorah _ | .tap _ => true
  | .refund _ => false

/-- The deliveries of a run, in their order. -/
def deliveries (ops : List (GatewayOp × (ℕ → Env))) : List GatewayOp :=
  (ops.map Prod.fst).filter GatewayOp.isDelivery

/-! ## The payment a delivery reaches -/

/-- What a delivery reports. -/
def reported : GatewayOp → Option GatewayResponse
  | .myfatoorah body | .tap body => parseGatewayResponse (requestJson body)
  | .refund _ => none

/-- The payments the identifier of a delivery names. -/
def namedPayments (d : Db) : GatewayOp → List PaymentRow
  | .myfatoorah body =>
    match (parseGatewayResponse (requestJson body)).bind (·.invoiceId) with
    | some invoiceId => d.payments.filter (namedByInvoice invoiceId)
    | none => []
  | .tap body =>
    match (parseGatewayResponse (requestJson body)).bind (chargeOf (requestJson body)) with
    | some chargeId => d.payments.filter (namedByCharge chargeId)
    | none => []
  | .refund _ => []

/-- The columns a delivery copies. -/
def copiedColumns : GatewayOp → GatewayResponse → PaymentRow → PaymentRow
  | .myfatoorah _, r => myfatoorahColumns r
  | .tap _, r => tapColumns r
  | .refund _, _ => id

/-- The payment a delivery is copied over, with what it reports: the only one it names, where its
amounts fit their columns. -/
def copied (d : Db) (op : GatewayOp) : Option (PaymentRow × GatewayResponse) :=
  match reported op, namedPayments d op with
  | some r, [p] =>
    if amountsFit (copiedColumns op r p) ∧ fitsNumeric p.amountRefunded then some (p, r) else none
  | _, _ => none

/-- The delivery reaches the payment `pid`. -/
def Reaches (pid : Uuid) (d : Db) (op : GatewayOp) : Prop := ∃ c ∈ copied d op, c.1.id = pid

instance (pid : Uuid) (d : Db) (op : GatewayOp) : Decidable (Reaches pid d op) :=
  inferInstanceAs (Decidable (∃ c ∈ copied d op, _))

/-! ## What has to hold -/

/-- The statuses of a payment that was paid. -/
def paidStatuses : List (Option PaymentStatus) :=
  [some .success, some .partiallyRefunded, some .refunded]

def unpaidStatuses : List (Option PaymentStatus) :=
  [some .initiated, some .pending, some .failed, some .cancelled]

/-- The payment `pid` was paid. -/
def IsPaid (pid : Uuid) (d : Db) : Prop :=
  ∃ p ∈ Table.get d.payments pid, p.status ∈ paidStatuses

instance (pid : Uuid) (d : Db) : Decidable (IsPaid pid d) :=
  inferInstanceAs (Decidable (∃ p ∈ Table.get d.payments pid, _))

/-- From `d` on to `d'` a payment that was paid has not become unpaid, and one that was refunded has
not become successful. -/
def PaidKept (pid : Uuid) (d d' : Db) : Prop :=
  ∀ p ∈ Table.get d.payments pid, ∃ p' ∈ Table.get d'.payments pid,
    (p.status ∈ paidStatuses → p'.status ∉ unpaidStatuses) ∧
    (p.status = some .refunded → p'.status ≠ some .success)

instance (pid : Uuid) (d d' : Db) : Decidable (PaidKept pid d d') :=
  inferInstanceAs (Decidable (∀ p ∈ Table.get d.payments pid, ∃ p' ∈ Table.get d'.payments pid, _))

/-- The amount refunded of the payment is within its total. -/
def RefundedWithin (pid : Uuid) (d : Db) : Prop :=
  ∀ p ∈ Table.get d.payments pid, p.amountRefunded ≤ p.totalAmount

instance (pid : Uuid) (d : Db) : Decidable (RefundedWithin pid d) :=
  inferInstanceAs (Decidable (∀ p ∈ Table.get d.payments pid, _))

/-! ## When it holds -/

/-- What a delivery may report of a payment: nothing of one that is refunded, and of one that was paid
only its success; its amount is not below what was refunded. -/
def Reportable (op : GatewayOp) (p : PaymentRow) (r : GatewayResponse) : Prop :=
  p.status ≠ some .refunded ∧ (p.status ∈ paidStatuses → r.status = .success) ∧
    p.amountRefunded ≤ (copiedColumns op r p).totalAmount

instance (op : GatewayOp) (p : PaymentRow) (r : GatewayResponse) : Decidable (Reportable op p r) :=
  inferInstanceAs (Decidable (_ ∧ _ ∧ _))

/-- The refund leaves the payment within its total: it is not refunded yet, and the refund is not for
more than is left of it. -/
def WithinLeft (d : Db) (pid refundId : Uuid) : Prop :=
  ∀ p ∈ Table.get d.payments pid, ∀ r ∈ Table.get d.refunds refundId,
    p.status ≠ some .refunded ∧ p.amountRefunded + r.refundedAmount ≤ p.totalAmount

instance (d : Db) (pid refundId : Uuid) : Decidable (WithinLeft d pid refundId) :=
  inferInstanceAs (Decidable (∀ p ∈ Table.get d.payments pid,
    ∀ r ∈ Table.get d.refunds refundId, _))

/-- The steps that keep a payment paid: a delivery that reaches it reports what may be reported of it,
a refund is completed for what is left of it, and none is failed. -/
def KeepsPaid (pid : Uuid) (d : Db) (x : GatewayOp × (ℕ → Env)) : Prop :=
  match x.1 with
  | .refund (.complete refundId _ _ _ _ _) => CompletesMoney d pid refundId → WithinLeft d pid refundId
  | .refund (.fail refundId _ _ _ _ _) => ¬ FailsRefund d pid refundId
  | .refund _ => True
  | op => ∀ c ∈ copied d op, c.1.id = pid → Reportable op c.1 c.2

instance (pid : Uuid) (d : Db) : ∀ x, Decidable (KeepsPaid pid d x)
  | (.refund (.complete refundId _ _ _ _ _), _) =>
    inferInstanceAs (Decidable (CompletesMoney d pid refundId → WithinLeft d pid refundId))
  | (.refund (.fail refundId _ _ _ _ _), _) =>
    inferInstanceAs (Decidable (¬ FailsRefund d pid refundId))
  | (.refund (.request ..), _) | (.refund (.updateRequestedAmounts ..), _) | (.refund (.reject ..), _)
  | (.refund (.approve ..), _) | (.refund (.markProcessing ..), _) => .isTrue trivial
  | (.myfatoorah body, _) =>
    inferInstanceAs (Decidable (∀ c ∈ copied d (.myfatoorah body), _ → _))
  | (.tap body, _) => inferInstanceAs (Decidable (∀ c ∈ copied d (.tap body), _ → _))

/-- The steps whose place in the run does not matter: a delivery reaches the payment here if and only
if it does in the database `start`, and a refund is completed of a payment that was paid. -/
def OrderFree (pid : Uuid) (start d : Db) (x : GatewayOp × (ℕ → Env)) : Prop :=
  match x.1 with
  | .refund (.complete refundId _ _ _ _ _) => CompletesMoney d pid refundId → IsPaid pid d
  | .refund _ => True
  | op => Reaches pid d op ↔ Reaches pid start op

instance (pid : Uuid) (start d : Db) : ∀ x, Decidable (OrderFree pid start d x)
  | (.refund (.complete refundId _ _ _ _ _), _) =>
    inferInstanceAs (Decidable (CompletesMoney d pid refundId → IsPaid pid d))
  | (.refund (.fail ..), _) | (.refund (.request ..), _) | (.refund (.updateRequestedAmounts ..), _)
  | (.refund (.reject ..), _) | (.refund (.approve ..), _) | (.refund (.markProcessing ..), _) =>
    .isTrue trivial
  | (.myfatoorah body, _) =>
    inferInstanceAs (Decidable (Reaches pid d (.myfatoorah body) ↔ Reaches pid start _))
  | (.tap body, _) => inferInstanceAs (Decidable (Reaches pid d (.tap body) ↔ Reaches pid start _))

end Payment
