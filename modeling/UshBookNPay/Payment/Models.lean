import UshBookNPay.Lib.Table
import UshBookNPay.Common.PaymentAttribution
import UshBookNPay.Common.Values
import UshBookNPay.Payment.Values

/-!
# Rows of the payment domain
-/

/-- What `uuid.UUID(raw)` makes of a payment reference: a UUID, or some other text. -/
inductive PaymentRef where
  | uuid (id : Uuid)
  | text (s : String)
  deriving DecidableEq

def PaymentRef.ofText (s : String) : PaymentRef :=
  match parseUuid s with
  | some id => .uuid id
  | none => .text s

/-- A row of `payments`. -/
structure PaymentRow where
  id : Uuid
  paymentNumber : String := ""
  invoiceNumber : Option String := none
  customerId : Option Uuid := none
  bookingId : Option Uuid := none
  voucherId : Option Uuid := none
  voucherNumber : Option String := none
  totalAmount : Fils
  amountRefunded : Fils := 0
  currency : String := "KWD"
  status : Option Payment.PaymentStatus := some .initiated
  paidAt : Option Instant := none
  invoiceId : Option String := none
  invoiceValue : Option Fils := none
  paymentUrl : Option String := none
  transactionId : Option String := none
  trackId : Option String := none
  referenceId : Option String := none
  transactionStatus : Option String := none
  transactionDate : Option String := none
  paymentMethod : Option String := none
  paymentThrough : Option String := none
  paymentProvider : Option String := none
  paymentGateway : Option String := none
  paymentProviderGroup : Option String := none
  paymentSource : Option String := none
  paymentLinkId : Option Uuid := none
  paymentFor : Option String := some "branch_service"
  paymentId : Option String := none
  paymentData : Option Json := none
  deriving DecidableEq

instance : Table.Keyed PaymentRow := ⟨PaymentRow.id⟩

/-- The columns `apply_attribution` writes. -/
def PaymentRow.setAttribution (p : PaymentRow) (a : PaymentAttribution.Attribution) : PaymentRow :=
  { p with
    paymentThrough := a.paymentThrough, paymentProvider := a.paymentProvider,
    paymentMethod := a.paymentMethod, paymentGateway := a.paymentGateway }

section

variable (p : PaymentRow) (a : PaymentAttribution.Attribution)

@[simp] theorem PaymentRow.setAttribution_id : (p.setAttribution a).id = p.id := rfl

@[simp] theorem PaymentRow.setAttribution_paymentNumber :
    (p.setAttribution a).paymentNumber = p.paymentNumber := rfl

@[simp] theorem PaymentRow.setAttribution_totalAmount :
    (p.setAttribution a).totalAmount = p.totalAmount := rfl

@[simp] theorem PaymentRow.setAttribution_amountRefunded :
    (p.setAttribution a).amountRefunded = p.amountRefunded := rfl

@[simp] theorem PaymentRow.setAttribution_status : (p.setAttribution a).status = p.status := rfl

@[simp] theorem PaymentRow.setAttribution_bookingId :
    (p.setAttribution a).bookingId = p.bookingId := rfl

@[simp] theorem PaymentRow.setAttribution_voucherId :
    (p.setAttribution a).voucherId = p.voucherId := rfl

@[simp] theorem PaymentRow.setAttribution_paymentLinkId :
    (p.setAttribution a).paymentLinkId = p.paymentLinkId := rfl

@[simp] theorem PaymentRow.setAttribution_paymentProvider :
    (p.setAttribution a).paymentProvider = a.paymentProvider := rfl

end

/-- The attribution the mapper event of an insert or update of the payment computes. -/
def PaymentRow.attribution (p : PaymentRow) : PaymentAttribution.Attribution :=
  PaymentAttribution.applyAttribution
    { paymentThrough := p.paymentThrough, paymentProvider := p.paymentProvider,
      paymentMethod := p.paymentMethod, paymentGateway := p.paymentGateway }
    p.paymentData
    (PaymentAttribution.isPaid [p.status.map Payment.PaymentStatus.value, p.transactionStatus])

/-- A payment as it is written. -/
def PaymentRow.beforeWrite (p : PaymentRow) : PaymentRow := p.setAttribution p.attribution

/-- A row of `refunds`. -/
structure RefundRow where
  id : Uuid
  refundNumber : String
  bookingId : Option Uuid := none
  paymentId : Option Uuid := none
  invoiceNumber : Option String := none
  creditNoteId : Option String := none
  idempotencyKey : Option String := none
  customerId : Option Uuid := none
  branchId : Option Uuid := none
  refundType : String := "manual"
  refundMethod : String := "cash"
  status : Payment.RefundStatus := .completed
  requestedAmount : Fils
  cancellationFee : Fils := 0
  refundedAmount : Fils
  currency : String := "KWD"
  reason : Option String := none
  notes : Option String := none
  customerConfirmation : Option String := none
  referenceNumber : Option String := none
  paymentGateway : Option String := none
  gatewayTransactionId : Option String := none
  gatewayRefundId : Option String := none
  gatewayResponse : Option Json := none
  processedBy : Option String := none
  processedAt : Option Instant := none
  completedAt : Option Instant := none
  failureReason : Option String := none
  deriving DecidableEq

instance : Table.Keyed RefundRow := ⟨RefundRow.id⟩

/-- A row of `payment_status_history`. -/
structure PaymentStatusHistoryRow where
  paymentId : Uuid
  oldStatus : Option Payment.PaymentStatus
  newStatus : Payment.PaymentStatus
  source : String
  reason : String
  providerReference : Option String
  correlationId : String
  refundId : Option Uuid
  refundStatus : Option Payment.RefundStatus
  refundedAmount : Option Fils
  amountRefundedTotal : Option Fils
  changeByUser : String
  deriving DecidableEq

/-- `RefundResponse`: what a provider answers to a refund request. -/
structure Payment.RefundResponse where
  isSuccessful : Bool
  providerRefundId : Option String := none
  failureReason : Option String := none
  rawResponse : Json := .null
