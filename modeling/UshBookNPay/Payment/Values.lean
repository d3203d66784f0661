import UshBookNPay.Common.Text

/-!
# Payment value objects

Enumerations of the payment domain. A `value` is the string the column holds.
-/

namespace Payment

/-- The states of a payment record. The last two are not states of `PaymentTransactionStatus`, but
the queries of the refund code look for them. -/
inductive PaymentStatus where
  | initiated | pending | success | failed | cancelled | refunded | partiallyRefunded
  | paid | refundedWithPoints
  deriving DecidableEq, Repr

def PaymentStatus.value : PaymentStatus → String
  | .initiated => "initiated"
  | .pending => "pending"
  | .success => "success"
  | .failed => "failed"
  | .cancelled => "cancelled"
  | .refunded => "refunded"
  | .partiallyRefunded => "partially_refunded"
  | .paid => "paid"
  | .refundedWithPoints => "refunded_with_points"

inductive RefundStatus where
  | requested | approved | rejected | processing | completed | failed | cancelled
  deriving DecidableEq, Repr

def RefundStatus.value : RefundStatus → String
  | .requested => "requested"
  | .approved => "approved"
  | .rejected => "rejected"
  | .processing => "processing"
  | .completed => "completed"
  | .failed => "failed"
  | .cancelled => "cancelled"

inductive RefundType where
  | automated | manual
  deriving DecidableEq, Repr

def RefundType.value : RefundType → String
  | .automated => "automated"
  | .manual => "manual"

inductive RefundMethod where
  | paymentGateway | paymentLink | cash | card | bankTransfer | loyaltyPoints | money | other
  deriving DecidableEq, Repr

def RefundMethod.value : RefundMethod → String
  | .paymentGateway => "payment_gateway"
  | .paymentLink => "payment_link"
  | .cash => "cash"
  | .card => "card"
  | .bankTransfer => "bank_transfer"
  | .loyaltyPoints => "loyalty_points"
  | .money => "money"
  | .other => "other"

def RefundMethod.mapping : List (String × RefundMethod) :=
  [("payment_gateway", .paymentGateway), ("gateway", .paymentGateway), ("tap", .paymentGateway),
    ("deema", .paymentGateway), ("myfatoorah", .paymentGateway), ("knet", .paymentGateway),
    ("payment_link", .paymentLink), ("deema_paymentlink", .paymentLink), ("link", .paymentLink),
    ("cash", .cash), ("card", .card), ("pos", .card), ("credit_card", .card),
    ("debit_card", .card), ("bank_transfer", .bankTransfer), ("bank", .bankTransfer),
    ("transfer", .bankTransfer), ("loyalty_points", .loyaltyPoints), ("loyalty", .loyaltyPoints),
    ("points", .loyaltyPoints), ("money", .money), ("other", .other)]

/-- `RefundMethod.normalise` -/
def RefundMethod.normalise (value : String) : RefundMethod :=
  if value = "" then .other
  else
    let v := Text.replaceChar ' ' '_' (Text.replaceChar '-' '_' (Text.lower (Text.strip value)))
    (mapping.lookup v).getD .other

/-- The gateways a refund can be sent through. -/
inductive Provider where
  | myfatoorah | deema | tap
  deriving DecidableEq, Repr

end Payment
