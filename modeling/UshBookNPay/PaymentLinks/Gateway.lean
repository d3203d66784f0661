import UshBookNPay.Payment.Models

/-!
# Payment gateways

The provider-agnostic data a payment-link gateway exchanges with the services, and the registry of the
gateways. A gateway itself is a value of `PaymentLinkGateway`: its name, its label and how it reads a
webhook. What its API answers comes from the environment.
-/

namespace PaymentLinks

/-- The outcome of a payment, independent of the provider's vocabulary. -/
inductive GatewayPaymentStatus where
  | pending | paid | failed | canceled | expired
  deriving DecidableEq, Repr

def GatewayPaymentStatus.value : GatewayPaymentStatus → String
  | .pending => "pending"
  | .paid => "paid"
  | .failed => "failed"
  | .canceled => "canceled"
  | .expired => "expired"

inductive WebhookEventKind where
  | paymentStatus | refundStatus | ignored
  deriving DecidableEq, Repr

def WebhookEventKind.value : WebhookEventKind → String
  | .paymentStatus => "payment_status"
  | .refundStatus => "refund_status"
  | .ignored => "ignored"

/-- The state of a payment as the gateway reports it. -/
structure GatewayPaymentState where
  status : GatewayPaymentStatus
  invoiceId : Option String := none
  paymentId : Option String := none
  transactionId : Option String := none
  trackId : Option String := none
  referenceId : Option String := none
  paymentMethod : Option String := none
  amount : Option Decimal := none
  currency : Option String := none
  failureReason : Option String := none
  deriving DecidableEq

/-- A webhook event as the gateway adapter reads it. -/
structure GatewayWebhookEvent where
  kind : WebhookEventKind
  eventReference : Option String := none
  invoiceId : Option String := none
  status : Option GatewayPaymentStatus := none
  state : Option GatewayPaymentState := none
  refundId : Option String := none
  refundStatus : Option String := none
  deriving DecidableEq

/-- What a gateway answers to the creation of a link. -/
structure PaymentLinkResult where
  gatewayInvoiceId : String
  paymentUrl : String
  deriving DecidableEq

structure PaymentLinkGateway where
  name : String
  providerLabel : String
  verifySignature : List (String × String) → Json → Bool := fun _ _ => false
  parseEvent : Json → GatewayWebhookEvent := fun _ => { kind := .ignored }

/-! ## Registry -/

def FACTORIES : List String :=
  ["deema", "deema_paymentlink", "myfatoorah", "knet", "tap_knet", "tap_card", "tap_applepay"]

/-- Whether `get_gateway` knows the name. -/
@[irreducible] def isGateway (name : String) : Bool := Text.lower (Text.strip name) ∈ FACTORIES

/-- The gateways that are processed through Tap Payments. -/
def TAP_FAMILY_GATEWAYS : List String := ["deema", "tap_knet", "tap_card", "tap_applepay"]

/-- The provider family of a gateway. -/
def providerGroupFor (gatewayName : String) : Option String :=
  let name := Text.lower (Text.strip gatewayName)
  if name = "" then none
  else if name ∈ TAP_FAMILY_GATEWAYS then some "Tap"
  else if name = "myfatoorah" then some "MyFatoorah"
  else some name

end PaymentLinks
