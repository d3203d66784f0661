import UshBookNPay.Lib.Runs
import UshBookNPay.PaymentLinks.LinkService
import UshBookNPay.PaymentLinks.SettlementRuns

/-!
# Runs of the link service

Sequences of `create_link`, `renew_link`, `cancel_link`, `delete_link` and `apply`, and what a customer
can pay meanwhile. An invoice is payable from its issue until it expires, is paid, or is cancelled at
the gateway that has issued it.
-/

open Transactions (Ledger transact)

namespace PaymentLinks

/-! ## Payable invoices -/

/-- The invoices that are issued and not cancelled, after one more emission. -/
def trackInvoice (invoices : List IssuedInvoice) : Emission → List IssuedInvoice
  | .createLink i => invoices ++ [i]
  | .cancelLink gateway id =>
    invoices.filter fun i => ¬ (i.gateway = gateway ∧ i.gatewayInvoiceId = id)
  | _ => invoices

/-- The invoices that are issued and not cancelled. -/
def uncancelled (es : List Emission) : List IssuedInvoice := es.foldl trackInvoice []

/-- A booking or a gift voucher. -/
abbrev Target := PaymentLinkTarget × Uuid

/-- The invoice is one of the target, has not expired at `now` and is not among the `paid` ones. -/
def canBePaid (target : Target) (paid : List (String × String)) (now : Instant)
    (i : IssuedInvoice) : Bool :=
  (i.targetType, i.targetId) = target ∧ now < i.expiresAt ∧ (i.gateway, i.gatewayInvoiceId) ∉ paid

/-- The invoices of the target a customer can still pay. -/
def payable (target : Target) (paid : List (String × String)) (now : Instant)
    (es : List Emission) : List IssuedInvoice :=
  (uncancelled es).filter (canBePaid target paid now)

/-! ## Calls -/

inductive LinkCall where
  | create (s : PaymentLinkService) (targetType : String) (targetId : Uuid) (req : LinkRequest)
  | renew (s : PaymentLinkService) (linkId : Uuid) (actorId : String) (expiryMinutes : Option ℤ)
  | cancel (s : PaymentLinkService) (linkId : Uuid)
  | delete (s : PaymentLinkService) (linkId : Uuid)
  | apply (linkId : Uuid) (state : GatewayPaymentState) (source : String)

def linkCode : LinkCall → Tx Unit
  | .create s targetType targetId req => discard (createLink s targetType targetId req)
  | .renew s linkId actorId expiryMinutes => discard (renewLink s linkId actorId expiryMinutes)
  | .cancel s linkId => discard (cancelLink s linkId)
  | .delete s linkId => deleteLink s linkId
  | .apply linkId state source => discard (applyTo linkId state source)

/-- The database and the log, the invoices the gateways have reported as paid, and the time of the
latest call. -/
structure Market where
  desk : Desk
  paid : List (String × String) := []
  clock : Instant := 0

/-- The invoice a call reports as paid: that of the link a paid state is applied to. -/
def reportedPaid (d : Db) : LinkCall → List (String × String)
  | .apply linkId state _ =>
    if state.status = .paid then
      ((Table.get d.paymentLinks linkId).map fun l =>
        (l.gateway, Text.orEmpty l.gatewayInvoiceId)).toList
    else []
  | _ => []

/-- One call, in a transaction of its own. -/
def linkStep (w : Market) (x : LinkCall × (ℕ → Env)) : Market :=
  { desk := transact x.2 (linkCode x.1) w.desk
    paid := w.paid ++ reportedPaid w.desk.db x.1
    clock := max w.clock (x.2 0).now }

/-- The target has at most one open link and at most one payable invoice. -/
structure OnePayable (target : Target) (w : Market) : Prop where
  links : (w.desk.db.paymentLinks.filter (isOpenFor target.1 target.2)).length ≤ 1
  invoices : (payable target w.paid w.clock w.desk.log).length ≤ 1

instance (target : Target) (w : Market) : Decidable (OnePayable target w) :=
  decidable_of_iff ((w.desk.db.paymentLinks.filter (isOpenFor target.1 target.2)).length ≤ 1 ∧
    (payable target w.paid w.clock w.desk.log).length ≤ 1)
    ⟨fun h => ⟨h.1, h.2⟩, fun h => ⟨h.links, h.invoices⟩⟩

/-! ## The condition on a call -/

/-- The booking or the gift voucher is there and accepts a link. -/
def Loadable (targetType : String) (targetId : Uuid) (d : Db) (target : LinkTarget) : Prop :=
  match supportedTarget targetType with
  | some .booking => ∃ b ∈ Table.get d.bookings targetId, b.status ∈ BOOKING_LINKABLE ∧
      ¬ (b.status ≠ .cancelled ∧ b.paymentStatus ∈ PAID_BOOKING_STATUSES) ∧
        target = .booking (.ofRow b)
  | some .giftVoucher => ∃ v ∈ Table.get d.giftVouchers targetId,
      (v.status = .created ∨ v.status = .paymentPending) ∧ target = .voucher (.ofRow v)
  | _ => False

/-- The open link stays as it is: it belongs to another gateway and is active, or it is used again. -/
def StaysOpen (s : PaymentLinkService) (amount : Decimal) (forceNew : Bool) (link : PaymentLinkRow)
    (now : Instant) : Prop :=
  blocks s link now ∨ (reusable s amount link now ∧ ¬ forceNew)

instance (s : PaymentLinkService) (amount : Decimal) (forceNew : Bool) (link : PaymentLinkRow)
    (now : Instant) : Decidable (StaysOpen s amount forceNew link now) :=
  inferInstanceAs (Decidable (_ ∨ _))

/-- The invoice is that of the link, and the gateway of the service has issued it. -/
def OwnInvoice (s : PaymentLinkService) (link : PaymentLinkRow) (i : IssuedInvoice) : Prop :=
  i.gateway = s.gateway.name ∧ i.gatewayInvoiceId ≠ "" ∧
    link.gatewayInvoiceId = some i.gatewayInvoiceId

instance (s : PaymentLinkService) (link : PaymentLinkRow) (i : IssuedInvoice) :
    Decidable (OwnInvoice s link i) :=
  inferInstanceAs (Decidable (_ ∧ _))

/-- A link that is issued for the target replaces what could still be paid: the payable invoice is
that of the newest open link, the gateway of the request has issued it, and it accepts to cancel it. -/
def ReplacesPayable (target : Target) (s : PaymentLinkService) (targetType : String)
    (targetId : Uuid) (req : LinkRequest) (w : Market) (env : ℕ → Env) : Prop :=
  ∀ row, Loadable targetType targetId w.desk.db row → (row.kind, targetId) = target →
    ∀ amount, resolveAmount row req.amount = .ok amount → 0 < amount.unscaled →
    (∃ n, (env n).link.isOk) →
    ∀ i ∈ payable target w.paid (max w.clock (env 0).now) w.desk.log,
      ∃ link, (w.desk.db.paymentLinks.filter (isOpenFor target.1 target.2)).getLast? = some link ∧
        ((∀ n, StaysOpen s amount req.forceNew link (env n).now) ∨
          (OwnInvoice s link i ∧ ∀ n, (env n).cancel.isOk))

/-- The condition on a call. A failed payment does not open an expired or a cancelled link of the
target again while the target has an open one. -/
def KeepsOne (target : Target) (w : Market) (x : LinkCall × (ℕ → Env)) : Prop :=
  match x.1 with
  | .create s targetType targetId req => ReplacesPayable target s targetType targetId req w x.2
  | .renew s linkId actorId expiryMinutes => ∀ old ∈ Table.get w.desk.db.paymentLinks linkId,
      old.status ∉ SETTLED → (∃ n, renewable old (x.2 n).now) →
        ReplacesPayable target s old.targetType.value old.targetId
          (renewalRequest old actorId expiryMinutes) w x.2
  | .apply linkId state _ => state.status = .failed →
      ∀ l ∈ Table.get w.desk.db.paymentLinks linkId, (l.targetType, l.targetId) = target →
        l.status = .expired ∨ l.status = .cancelled →
          ∀ l' ∈ w.desk.db.paymentLinks, ¬ isOpenFor target.1 target.2 l'
  | .cancel _ _ => True
  | .delete _ _ => True

end PaymentLinks
