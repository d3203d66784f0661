import UshBookNPay.Payment.RefundRuns

/-!
# The charge a refund goes back to

The transitions of a refund work on the payment its row names. The provider is called with a payment
that is looked up for the booking when the refund is executed.
-/

open Transactions (exec)

namespace Payment

/-- The workflows that send a refund to a provider. -/
inductive ExecuteOp where
  | processGatewayRefund (bookingId : Uuid) (req : ProcessGatewayRefundRequest)
      (currentUserId : String)
  | processRefund (refundId : Uuid) (actorId : Option String)

def executeCode : ExecuteOp → Tx Unit
  | .processGatewayRefund bookingId req currentUserId =>
    discard (processGatewayRefund bookingId req currentUserId)
  | .processRefund refundId actorId => discard (processRefund refundId actorId)

/-! ## The payment of the refund -/

/-- The provider of a payment, and one of the identifiers the payment has there. -/
def Charges (q : PaymentRow) (provider : Provider) (ref : String) : Prop :=
  provider = resolveGatewayProvider q ∧ some ref ∈ [q.invoiceId, q.paymentId, q.transactionId]

instance (q : PaymentRow) (provider : Provider) (ref : String) : Decidable (Charges q provider ref) :=
  inferInstanceAs (Decidable (_ ∧ _))

/-- The identifier is one of the payment the refund names. -/
def ChargesOwn (d : Db) (r : RefundRow) (provider : Provider) (ref : String) : Prop :=
  ∃ q ∈ r.paymentId.bind (Table.get d.payments), Charges q provider ref

instance (d : Db) (r : RefundRow) (provider : Provider) (ref : String) :
    Decidable (ChargesOwn d r provider ref) :=
  inferInstanceAs (Decidable (∃ q ∈ r.paymentId.bind (Table.get d.payments), _))

/-- A refund of the database, or one the transaction has added to it. -/
def refundIn (d d' : Db) (refundId : Uuid) : Option RefundRow :=
  (Table.get d.refunds refundId).or (Table.get d'.refunds refundId)

/-- A call for the refund goes to the payment its row names. -/
def SentToOwn (d d' : Db) (refundId : Uuid) (provider : Provider) (ref : String) : Prop :=
  ∃ r ∈ refundIn d d' refundId, ChargesOwn d r provider ref

instance (d d' : Db) (refundId : Uuid) (provider : Provider) (ref : String) :
    Decidable (SentToOwn d d' refundId provider ref) :=
  inferInstanceAs (Decidable (∃ r ∈ refundIn d d' refundId, _))

/-! ## The payment of the booking -/

/-- The payment a reference stands for. -/
def namedPayment (d : Db) (ref : Option PaymentRef) : Option PaymentRow :=
  ref.bind fun ref => if ref = .text "" then none else (paymentsOf ref d).head?

/-- The payment of a booking: the one ranked first of those that name the booking, the newest of them,
or else the one the booking names. -/
def bookingPayment (d : Db) (b : BookingRow) : Option PaymentRow :=
  (bestPayment (d.payments.filter (·.bookingId = some b.id))).or (namedPayment d b.paymentId)

/-- The label `process_gateway_refund` reads the gateway from. -/
def gatewayLabel (p : PaymentRow) : String :=
  Text.lower (Text.orEmpty (Text.or p.paymentProvider p.paymentGateway))

/-- What the provider would be given for the payment of the booking is an identifier of the payment the
refund names. -/
def SameCharge (d : Db) (r : RefundRow) (b : BookingRow) (label : PaymentRow → String) : Prop :=
  ∀ p ∈ bookingPayment d b, ∀ ref ∈ gatewayPaymentId (label p) p,
    ChargesOwn d r (resolveGatewayProvider p) ref

instance (d : Db) (r : RefundRow) (b : BookingRow) (label : PaymentRow → String) :
    Decidable (SameCharge d r b label) :=
  inferInstanceAs (Decidable (∀ p ∈ bookingPayment d b, ∀ ref ∈ gatewayPaymentId (label p) p, _))

/-- The refund is a new one, or the payment of its booking has the charge of the payment it names. -/
def KeepsToOwn (d : Db) : ExecuteOp → Prop
  | .processGatewayRefund bookingId _ _ =>
    ∀ b ∈ Table.get d.bookings bookingId, ∀ r ∈ openRefund bookingId d,
      SameCharge d r b gatewayLabel
  | .processRefund refundId _ =>
    ∀ r ∈ Table.get d.refunds refundId, ∀ b ∈ r.bookingId.bind (Table.get d.bookings),
      SameCharge d r b fun p => gatewayName (some p) (some b)

instance (d : Db) : ∀ op, Decidable (KeepsToOwn d op)
  | .processGatewayRefund bookingId _ _ =>
    inferInstanceAs (Decidable (∀ b ∈ Table.get d.bookings bookingId,
      ∀ r ∈ openRefund bookingId d, SameCharge d r b gatewayLabel))
  | .processRefund refundId _ =>
    inferInstanceAs (Decidable (∀ r ∈ Table.get d.refunds refundId,
      ∀ b ∈ r.bookingId.bind (Table.get d.bookings),
        SameCharge d r b fun p => gatewayName (some p) (some b)))

end Payment
