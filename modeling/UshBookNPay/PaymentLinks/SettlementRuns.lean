import UshBookNPay.PaymentLinks.Settlement

/-!
# Runs of settlements

Sequences of `apply` on the links of the database, and what they settle: the events they queue, the
payments of a target and the money held for it.
-/

open Transactions (Ledger transact)

namespace PaymentLinks

/-- The committed database and what has been emitted so far. -/
abbrev Desk := Ledger Db Emission

/-! ## What is settled -/

/-- The link is there and its status is settled. -/
def Settled (linkId : Uuid) (d : Db) : Prop :=
  ∃ link ∈ Table.get d.paymentLinks linkId, link.status ∈ SETTLED

instance (linkId : Uuid) (d : Db) : Decidable (Settled linkId d) :=
  inferInstanceAs (Decidable (∃ link ∈ Table.get d.paymentLinks linkId, _))

/-- The emission is the paid event of the link. -/
def isPaidEvent (linkId : Uuid) : Emission → Bool
  | .paymentLinkPaid ev => ev.paymentLinkId = linkId
  | _ => false

/-- The paid events queued for the link. -/
def paidEvents (linkId : Uuid) (es : List Emission) : ℕ := es.countP (isPaidEvent linkId)

/-- The payment is one of the target. -/
def ofTarget (targetType : PaymentLinkTarget) (targetId : Uuid) (p : PaymentRow) : Bool :=
  match targetType with
  | .booking => p.bookingId = some targetId
  | .giftVoucher => p.voucherId = some targetId
  | .product => false

/-- The payments of a target, the oldest first. -/
def paymentsOf (targetType : PaymentLinkTarget) (targetId : Uuid) (d : Db) : List PaymentRow :=
  d.payments.filter (ofTarget targetType targetId)

/-- Money is held under the payment. -/
def holds (p : PaymentRow) : Prop := p.status = some .success ∨ p.status = some .partiallyRefunded

instance (p : PaymentRow) : Decidable (holds p) := inferInstanceAs (Decidable (_ ∨ _))

/-- What a payment counts among the money held for the target. -/
def heldAmount (targetType : PaymentLinkTarget) (targetId : Uuid) (p : PaymentRow) : Fils :=
  if ofTarget targetType targetId p ∧ holds p then p.totalAmount - p.amountRefunded else 0

/-- The money still held for the target: what its held payments come to, less what was refunded. -/
def held (targetType : PaymentLinkTarget) (targetId : Uuid) (d : Db) : Fils :=
  Table.total (heldAmount targetType targetId) d.payments

/-- The target has no payment yet, or its newest one stands for exactly the amount of the link and is
not held. A newest payment that is held will do for a link without an amount. -/
def FreshFor (link : PaymentLinkRow) (d : Db) : Prop :=
  ∀ p ∈ (paymentsOf link.targetType link.targetId d).getLast?,
    if holds p then link.amount = 0 else p.totalAmount - p.amountRefunded = link.amount

/-! ## Targets -/

/-- The target can be activated: the booking is there and payable, the gift voucher is there and may
become active. -/
def Activatable (link : PaymentLinkRow) (d : Db) : Prop :=
  match link.targetType with
  | .booking => ∃ b ∈ Table.get d.bookings link.targetId, b.status ∉ NOT_PAYABLE_BOOKING
  | .giftVoucher => ∃ v ∈ Table.get d.giftVouchers link.targetId, Voucher.Allowed v .active
  | .product => True

/-- The link is for a gift voucher that is there. -/
def VoucherThere (link : PaymentLinkRow) (d : Db) : Prop :=
  link.targetType = .giftVoucher ∧ Table.get d.giftVouchers link.targetId ≠ none

instance (link : PaymentLinkRow) (d : Db) : Decidable (VoucherThere link d) :=
  inferInstanceAs (Decidable (_ ∧ _))

/-! ## Automatic refunds -/

/-- The gateway has accepted a refund of the received amount for the invoice of the link. -/
def RefundSent (link : PaymentLinkRow) (state : GatewayPaymentState) (es : List Emission) : Prop :=
  ∃ invoice currency, link.gatewayInvoiceId = some invoice ∧ invoice ≠ "" ∧
    Emission.linkRefund link.gateway invoice (refundAmount link state) currency ∈ es

/-- The refund of the link goes through: its gateway is known, the link has an invoice to refund and
the gateway accepts. -/
def RefundAccepted (link : PaymentLinkRow) (answer : Except String Payment.RefundResponse) : Prop :=
  isGateway link.gateway ∧ Text.truthy link.gatewayInvoiceId ∧
    ∃ res, answer = .ok res ∧ res.isSuccessful

/-! ## Sequences of apply -/

/-- A call of `apply`, in a transaction of its own. -/
structure ApplyCall where
  linkId : Uuid
  state : GatewayPaymentState
  source : String
  env : ℕ → Env

def applyStep (s : Desk) (c : ApplyCall) : Desk :=
  transact c.env (applyTo c.linkId c.state c.source) s

end PaymentLinks
