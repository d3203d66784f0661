import UshBookNPay.PaymentLinks.DeemaWebhook
import UshBookNPay.PaymentLinks.RefundEvents

/-!
# Refund webhooks of Deema

What the provider says about a refund, in whatever order its webhooks are delivered, beside what
becomes of the refund.
-/

open Transactions (Ledger transact)
open Payment (fits)

namespace PaymentLinks.Deema

/-! ## Webhooks -/

/-- A request whose body is read as a refund event. -/
structure RefundWebhook where
  headers : List (String × String)
  rawBody : String
  fields : List (String × Json)
  loads : Json.loads (if rawBody = "" then "{}" else rawBody) = some (.obj fields)
  isRefund : (parseEvent (.obj fields)).kind = .refundStatus

namespace RefundWebhook

def event (w : RefundWebhook) : GatewayWebhookEvent := parseEvent (.obj w.fields)

/-- The status of the refund at the provider. -/
def status (w : RefundWebhook) : String := Text.upper (toStr (getKey (.obj w.fields) "status"))

/-- The webhook is about the refund of this id at the provider. -/
def IsAbout (w : RefundWebhook) (gatewayRefundId : Option String) : Prop :=
  Text.truthy w.event.refundId ∧ gatewayRefundId = w.event.refundId

instance (w : RefundWebhook) (gatewayRefundId : Option String) :
    Decidable (w.IsAbout gatewayRefundId) := inferInstanceAs (Decidable (_ ∧ _))

/-- The inbox holds the webhook. -/
def Received (w : RefundWebhook) (d : Db) : Prop :=
  ∃ e ∈ d.paymentWebhookEvents, e.gateway = "deema" ∧
    e.eventReference =
      String.ofList ((w.event.eventReference.getD "").toList.take REFERENCE_LENGTH)

instance (w : RefundWebhook) (d : Db) : Decidable (w.Received d) :=
  inferInstanceAs (Decidable (∃ e ∈ _, _))

end RefundWebhook

/-- `_PROVIDER_FINAL_REFUND_STATUSES`: the statuses by which the provider confirms a refund. -/
def PROVIDER_FINAL_REFUND_STATUSES : List String :=
  ["REFUNDED", "SUCCEEDED", "COMPLETED", "SUCCESS"]

/-- A final success was delivered for the refund, and no failure after it. -/
def Due (gatewayRefundId : Option String) (delivered : List RefundWebhook) : Prop :=
  ∃ earlier w later, delivered = earlier ++ w :: later ∧ w.IsAbout gatewayRefundId ∧
    w.status ∈ PROVIDER_FINAL_REFUND_STATUSES ∧
    ∀ w' ∈ later, w'.IsAbout gatewayRefundId → w'.status ∉ REFUND_FAIL_STATUSES

/-! ## The endpoint -/

/-- The endpoint the webhooks are sent to: the signature of a text, the secret key of the gateway,
and the settings. -/
structure Endpoint where
  mac : String → String → String
  secret : String
  settings : WebhookSettings

/-- A request, with what the environment answers to the statements that process it. -/
abbrev Delivery := RefundWebhook × (ℕ → Env)

namespace Endpoint

/-- `DeemaGateway` -/
def gateway (e : Endpoint) : PaymentLinkGateway where
  name := "deema"
  providerLabel := "Deema"
  verifySignature := verifySignature e.mac e.secret
  parseEvent := parseEvent

def deliver (e : Endpoint) (s : Ledger Db Emission) (x : Delivery) : Ledger Db Emission :=
  transact x.2 (process e.gateway e.settings x.1.headers x.1.rawBody) s

/-- The request passes the checks of its signature, its age and its shape. -/
def Accepts (e : Endpoint) (x : Delivery) : Prop :=
  (verifySignature e.mac e.secret x.1.headers (.obj x.1.fields) ∨ e.settings.isDev) ∧
    (e.settings.maxAgeSeconds = 0 ∨
      (sectionOk (.obj x.1.fields) "Event" ∧ ¬ (x.2 0).stale)) ∧
    sectionOk (.obj x.1.fields) "Data"

instance (e : Endpoint) (x : Delivery) : Decidable (e.Accepts x) :=
  inferInstanceAs (Decidable (_ ∧ _))

/-- The webhooks that were delivered: a request that is turned away is not. -/
def delivered (e : Endpoint) (xs : List Delivery) : List RefundWebhook :=
  (xs.filter (e.Accepts ·)).map (·.1)

/-- The refund a webhook finds is this one, and the webhook is not in the inbox. -/
def Finds (e : Endpoint) (d : Db) (w : RefundWebhook) (r : RefundRow) : Prop :=
  ¬ w.Received d ∧ eventRefund e.gateway w.event d = some r

instance (e : Endpoint) (d : Db) (w : RefundWebhook) (r : RefundRow) : Decidable (e.Finds d w r) :=
  inferInstanceAs (Decidable (_ ∧ _))

/-- What is left of the payment the webhook names fits its column, and so does the refund. -/
def FitsReverted (e : Endpoint) (d : Db) (w : RefundWebhook) (r : RefundRow) : Prop :=
  ∀ p ∈ eventPayment e.gateway w.event d, FitsLeft p r

instance (e : Endpoint) (d : Db) (w : RefundWebhook) (r : RefundRow) :
    Decidable (e.FitsReverted d w r) := inferInstanceAs (Decidable (∀ p ∈ _, _))

/-! ## What becomes of a refund -/

/-- The refund is completed if and only if a final success was delivered and no failure after it. -/
def AsDelivered (e : Endpoint) (r : RefundRow) (x : Ledger Db Emission × List Delivery) : Prop :=
  (∃ r', Table.get x.1.db.refunds r.id = some r' ∧ r'.status = .completed) ↔
    Due r.gatewayRefundId (e.delivered x.2)

/-- A delivery marks the refund as completed only if it is of a final success for the refund. -/
def MarksFinal (e : Endpoint) (k : Uuid) (s : Ledger Db Emission) (x : Delivery) : Prop :=
  ∀ r r', Table.get s.db.refunds k = some r → r.status ≠ .completed →
    Table.get (e.deliver s x).db.refunds k = some r' → r'.status = .completed →
    e.Accepts x ∧ x.1.IsAbout r.gatewayRefundId ∧ x.1.status ∈ PROVIDER_FINAL_REFUND_STATUSES

/-- When a delivery about the refund does to it what the provider says. A final success is one the
adapter knows, or finds the refund completed; a failure that finds the refund completed takes it
back; and what is accepted but not final finds the refund completed, or does not find it. -/
def KeepsAsTold (e : Endpoint) (k : Uuid) (s : Ledger Db Emission) (x : Delivery) : Prop :=
  ∀ r ∈ Table.get s.db.refunds k, e.Accepts x → x.1.IsAbout r.gatewayRefundId →
    (x.1.status ∈ PROVIDER_FINAL_REFUND_STATUSES →
      r.status = .completed ∨
        (x.1.status ∈ REFUND_OK_STATUSES ∧ e.Finds s.db x.1 r ∧ fits r)) ∧
    (x.1.status ∈ REFUND_FAIL_STATUSES → r.status = .completed →
      e.Finds s.db x.1 r ∧ e.FitsReverted s.db x.1 r) ∧
    (x.1.status ∈ REFUND_OK_STATUSES → x.1.status ∉ PROVIDER_FINAL_REFUND_STATUSES →
      r.status = .completed ∨ ¬ (e.Finds s.db x.1 r ∧ fits r))

instance (e : Endpoint) (k : Uuid) (s : Ledger Db Emission) (x : Delivery) :
    Decidable (e.KeepsAsTold k s x) := inferInstanceAs (Decidable (∀ r ∈ _, _))

end Endpoint

end PaymentLinks.Deema
