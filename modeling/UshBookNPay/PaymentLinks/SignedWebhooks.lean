import UshBookNPay.PaymentLinks.DeemaWebhook

/-!
# What a signature covers

Two payloads that are signed alike are not told apart by `verify_signature`. The signature covers what
an event is acted upon by where they are read alike too.
-/

namespace PaymentLinks

/-- The adapters that read webhooks. -/
inductive Adapter where
  | myFatoorah | deema
  deriving DecidableEq

/-- What an event is acted upon by. -/
structure ActedUpon where
  kind : WebhookEventKind
  invoiceId : Option String
  paymentId : Option String
  refundId : Option String
  status : Option GatewayPaymentStatus
  refundStatus : Option String
  deriving DecidableEq

def actedUpon (event : GatewayWebhookEvent) : ActedUpon :=
  { kind := event.kind
    invoiceId := event.invoiceId
    paymentId := event.state.bind (·.paymentId)
    refundId := event.refundId
    status := event.status
    refundStatus := event.refundStatus }

namespace Adapter

/-- The strings of a payload a signature is compared for. -/
def signedStrings : Adapter → Json → List String
  | .myFatoorah, payload => (MyFatoorah.buildSignatureString payload).toOption.join.toList
  | .deema, payload => [true, false].filterMap (Deema.buildSignatureString payload)

/-- The payload passes `verify_signature`. -/
def Accepts (mac : String → String → String) (secret : String) (headers : List (String × String))
    (payload : Json) : Adapter → Prop
  | .myFatoorah => MyFatoorah.verifySignature mac secret headers payload = .ok true
  | .deema => Deema.verifySignature mac secret headers payload = true

/-- `parse_event`, as far as it is acted upon. -/
def read : Adapter → Json → Except Error ActedUpon
  | .myFatoorah, payload => (MyFatoorah.parseEvent payload).map actedUpon
  | .deema, payload => .ok (actedUpon (Deema.parseEvent payload))

/-- Every payload that passes under the same headers for its signed string is read like this one. -/
def Covered (mac : String → String → String) (secret : String) (g : Adapter) (payload : Json) :
    Prop :=
  ∀ headers fields, g.Accepts mac secret headers payload →
    g.Accepts mac secret headers (.obj fields) →
    (∃ s ∈ g.signedStrings payload, s ∈ g.signedStrings (.obj fields)) →
    g.read (.obj fields) = g.read payload

end Adapter

end PaymentLinks
