import UshBookNPay.PaymentLinks.Gateway

/-!
# Rows of the payment-link domain
-/

namespace PaymentLinks

inductive PaymentLinkStatus where
  | created | pending | paid | failed | expired | cancelled | refunded | partiallyRefunded
  deriving DecidableEq, Repr

def PaymentLinkStatus.value : PaymentLinkStatus → String
  | .created => "created"
  | .pending => "pending"
  | .paid => "paid"
  | .failed => "failed"
  | .expired => "expired"
  | .cancelled => "cancelled"
  | .refunded => "refunded"
  | .partiallyRefunded => "partially_refunded"

inductive PaymentLinkTarget where
  | booking | giftVoucher | product
  deriving DecidableEq, Repr

def PaymentLinkTarget.value : PaymentLinkTarget → String
  | .booking => "booking"
  | .giftVoucher => "gift_voucher"
  | .product => "product"

end PaymentLinks

/-- A row of `payment_links`. -/
structure PaymentLinkRow where
  id : Uuid
  linkNumber : Option String := none
  targetType : PaymentLinks.PaymentLinkTarget
  targetId : Uuid
  targetRef : Option String := none
  invoiceId : Option String := none
  invoiceNumber : Option String := none
  gateway : String
  providerLabel : String
  gatewayInvoiceId : Option String := none
  paymentUrl : Option String := none
  amount : Fils
  amountRefunded : Fils := 0
  currency : String := "KWD"
  status : PaymentLinks.PaymentLinkStatus := .created
  customerId : Option Uuid := none
  webhookData : Option Json := none
  failureData : Option Json := none
  metaData : Option Json := none
  gatewayPaymentId : Option String := none
  transactionId : Option String := none
  trackId : Option String := none
  referenceId : Option String := none
  paymentMethod : Option String := none
  paymentRowId : Option Uuid := none
  createdBy : Option String := none
  expiresAt : Option Instant := none
  paidAt : Option Instant := none
  deriving DecidableEq

instance : Table.Keyed PaymentLinkRow := ⟨PaymentLinkRow.id⟩

/-- A row of `payment_webhook_events`, the inbox of the gateway webhooks. -/
structure PaymentWebhookEventRow where
  id : Uuid
  gateway : String
  eventReference : String
  eventKind : PaymentLinks.WebhookEventKind
  invoiceId : Option String := none
  paymentId : Option Uuid := none
  outcome : String := "received"
  processedAt : Option Instant := none
  deriving DecidableEq

instance : Table.Keyed PaymentWebhookEventRow := ⟨PaymentWebhookEventRow.id⟩
