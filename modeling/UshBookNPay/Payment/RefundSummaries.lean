import UshBookNPay.Payment.LifecycleRuns

/-!
# The summaries of the refunds of a payment

A payment holds what has been refunded of it, and its status and that of its booking follow from this
amount. The properties below say when these summaries are what the rows of `refunds` say.
-/

namespace Payment

/-! ## The refunded amount -/

/-- What the completed refunds of a payment have paid back as money. -/
def moneyRefunded (d : Db) (pid : Uuid) : Fils :=
  Table.total (fun r => r.refundedAmount)
    (d.refunds.filter fun r => r.paymentId = some pid ∧ r.status = .completed ∧
      ¬ isLoyalty r.refundMethod)

/-- The payment holds what its completed refunds have paid back as money. -/
def SummaryExact (pid : Uuid) (d : Db) : Prop :=
  ∀ p, Table.get d.payments pid = some p → p.amountRefunded = moneyRefunded d pid

instance (pid : Uuid) (d : Db) : Decidable (SummaryExact pid d) :=
  decidable_of_iff (∀ p ∈ Table.get d.payments pid, p.amountRefunded = moneyRefunded d pid)
    (by simp [SummaryExact])

/-- No completed refund of the payment but `excludeId` was paid out in loyalty points. -/
def NoPointsPaid (d : Db) (pid excludeId : Uuid) : Prop :=
  ∀ r ∈ d.refunds, r.paymentId = some pid → r.status = .completed → r.id ≠ excludeId →
    ¬ isLoyalty r.refundMethod

instance (d : Db) (pid excludeId : Uuid) : Decidable (NoPointsPaid d pid excludeId) :=
  inferInstanceAs (Decidable (∀ r ∈ d.refunds, _))

/-- An open money refund of the payment is completed within the paid amount. -/
def CompletesMoney (d : Db) (pid refundId : Uuid) : Prop :=
  ∃ r p, Table.get d.refunds refundId = some r ∧ Table.get d.payments pid = some p ∧
    r.paymentId = some pid ∧ r.status ∈ OPEN_STATUSES ∧ ¬ isLoyalty r.refundMethod ∧
    ¬ exceeds (sumOf d pid [.completed] (some refundId) + r.refundedAmount) p.totalAmount

instance (d : Db) (pid refundId : Uuid) : Decidable (CompletesMoney d pid refundId) :=
  decidable_of_iff (∃ r ∈ Table.get d.refunds refundId, ∃ p ∈ Table.get d.payments pid,
    r.paymentId = some pid ∧ r.status ∈ OPEN_STATUSES ∧ ¬ isLoyalty r.refundMethod ∧
    ¬ exceeds (sumOf d pid [.completed] (some refundId) + r.refundedAmount) p.totalAmount) (by
      simp [CompletesMoney])

/-- A refund of the payment is failed that was neither failed nor cancelled. -/
def FailsRefund (d : Db) (pid refundId : Uuid) : Prop :=
  ∃ r, Table.get d.refunds refundId = some r ∧ r.paymentId = some pid ∧ r.status ≠ .failed ∧
    r.status ≠ .cancelled

instance (d : Db) (pid refundId : Uuid) : Decidable (FailsRefund d pid refundId) :=
  decidable_of_iff (∃ r ∈ Table.get d.refunds refundId, r.paymentId = some pid ∧
    r.status ≠ .failed ∧ r.status ≠ .cancelled) (by simp [FailsRefund])

/-- The totals `complete` and `fail` recompute count loyalty points as money, so the two may write a
summary only where no other completed refund of the payment was paid out in points. -/
def KeepsSummary (pid : Uuid) (d : Db) (x : LifecycleOp × (ℕ → Env)) : Prop :=
  match x.1 with
  | .complete refundId _ _ _ _ _ => CompletesMoney d pid refundId → NoPointsPaid d pid refundId
  | .fail refundId _ _ _ _ _ => FailsRefund d pid refundId → NoPointsPaid d pid refundId
  | _ => True

instance (pid : Uuid) (d : Db) : ∀ x, Decidable (KeepsSummary pid d x)
  | (.complete refundId _ _ _ _ _, _) =>
    inferInstanceAs (Decidable (CompletesMoney d pid refundId → NoPointsPaid d pid refundId))
  | (.fail refundId _ _ _ _ _, _) =>
    inferInstanceAs (Decidable (FailsRefund d pid refundId → NoPointsPaid d pid refundId))
  | (.request .., _) | (.updateRequestedAmounts .., _) | (.reject .., _) | (.approve .., _)
  | (.markProcessing .., _) => .isTrue trivial

/-! ## The statuses -/

/-- The largest cancellation fee of the committed refunds of a payment, one refund left out. -/
def largestFee (d : Db) (pid : Uuid) (excludeId : Option Uuid) : Fils :=
  (((d.refunds.filter fun r => r.paymentId = some pid ∧ r.status ∈ committedStatuses ∧
    some r.id ≠ excludeId).map (·.cancellationFee)).max?).getD 0

/-- Of an amount to be refunded, `amount` is refunded in full. -/
def Covers (amount target : Fils) : Prop := toDecimal target ≤ toDecimal amount + TOLERANCE

instance (amount target : Fils) : Decidable (Covers amount target) :=
  inferInstanceAs (Decidable (_ ≤ _))

/-- The status of the payment is the one of its refunded amount. -/
def PaymentStatusFits (p : PaymentRow) : Prop :=
  (p.status = some .refunded ↔ Covers p.amountRefunded p.totalAmount) ∧
  (p.status = some .partiallyRefunded ↔
    0 < p.amountRefunded ∧ ¬ Covers p.amountRefunded p.totalAmount) ∧
  (p.status = some .success ↔ p.amountRefunded = 0)

instance (p : PaymentRow) : Decidable (PaymentStatusFits p) :=
  inferInstanceAs (Decidable ((_ ↔ _) ∧ (_ ↔ _) ∧ (_ ↔ _)))

/-- The payment status of the booking is the one of a refunded amount. -/
def BookingStatusFits (b : BookingRow) (refunded target : Fils) : Prop :=
  (b.paymentStatus = .refunded ↔ Covers refunded target) ∧
  (b.paymentStatus = .partiallyRefunded ↔ 0 < refunded ∧ ¬ Covers refunded target) ∧
  (b.paymentStatus = .success ↔ refunded = 0)

instance (b : BookingRow) (refunded target : Fils) : Decidable (BookingStatusFits b refunded target) :=
  inferInstanceAs (Decidable ((_ ↔ _) ∧ (_ ↔ _) ∧ (_ ↔ _)))

/-- The booking of the payment has the status of its refunded amount and of the fee that is kept. -/
def BookingFits (d : Db) (pid bid : Uuid) (excludeId : Option Uuid) : Prop :=
  ∀ p, Table.get d.payments pid = some p → ∀ b, Table.get d.bookings bid = some b →
    BookingStatusFits b p.amountRefunded (p.totalAmount - largestFee d pid excludeId)

instance (d : Db) (pid bid : Uuid) (excludeId : Option Uuid) :
    Decidable (BookingFits d pid bid excludeId) :=
  decidable_of_iff (∀ p ∈ Table.get d.payments pid, ∀ b ∈ Table.get d.bookings bid,
    BookingStatusFits b p.amountRefunded (p.totalAmount - largestFee d pid excludeId))
    (by simp [BookingFits])

/-- The payment and its booking have the statuses of the refunded amount. -/
def StatusesFit (pid bid : Uuid) (d : Db) : Prop :=
  (∀ p, Table.get d.payments pid = some p → PaymentStatusFits p) ∧ BookingFits d pid bid none

instance (pid bid : Uuid) (d : Db) : Decidable (StatusesFit pid bid d) :=
  decidable_of_iff ((∀ p ∈ Table.get d.payments pid, PaymentStatusFits p) ∧
    BookingFits d pid bid none) (by simp [StatusesFit])

/-- The refund `refundId` belongs to the payment `pid` and satisfies `P`. -/
def RefundOf (d : Db) (pid refundId : Uuid) (P : RefundRow → Prop) : Prop :=
  ∃ r, Table.get d.refunds refundId = some r ∧ r.paymentId = some pid ∧ P r

instance (d : Db) (pid refundId : Uuid) (P : RefundRow → Prop) [DecidablePred P] :
    Decidable (RefundOf d pid refundId P) :=
  decidable_of_iff (∃ r ∈ Table.get d.refunds refundId, r.paymentId = some pid ∧ P r)
    (by simp [RefundOf])

/-- After a refund of the payment was completed or failed, the statuses fit. -/
def AfterSettling (pid bid : Uuid) (d : Db) (x : LifecycleOp × (ℕ → Env)) : Prop :=
  match x.1 with
  | .complete refundId _ _ _ _ _ | .fail refundId _ _ _ _ _ =>
    RefundOf d pid refundId (fun _ => True) → Succeeds d x → StatusesFit pid bid (lifecycleStep d x)
  | _ => True

/-- The refunds of the payment are money refunds. -/
def MoneyStep (pid : Uuid) (d : Db) (x : LifecycleOp × (ℕ → Env)) : Prop :=
  match x.1 with
  | .request _ paymentId _ _ _ refundMethod _ _ _ _ =>
    paymentId = some pid → ¬ isLoyalty refundMethod
  | .approve refundId refundMethod _ _ _ =>
    RefundOf d pid refundId (fun _ => True) → RefundMethod.normalise refundMethod ≠ .loyaltyPoints
  | _ => True

instance (pid : Uuid) (d : Db) : ∀ x, Decidable (MoneyStep pid d x)
  | (.request _ paymentId _ _ _ refundMethod _ _ _ _, _) =>
    inferInstanceAs (Decidable (paymentId = some pid → ¬ isLoyalty refundMethod))
  | (.approve refundId refundMethod _ _ _, _) =>
    inferInstanceAs (Decidable (RefundOf d pid refundId (fun _ => True) →
      RefundMethod.normalise refundMethod ≠ .loyaltyPoints))
  | (.updateRequestedAmounts .., _) | (.reject .., _) | (.markProcessing .., _)
  | (.complete .., _) | (.fail .., _) => .isTrue trivial

/-- The fees leave something of the payment to be refunded. -/
def FeeBelowTotal (d : Db) (pid : Uuid) : Prop :=
  ∀ p, Table.get d.payments pid = some p → largestFee d pid none < p.totalAmount

instance (d : Db) (pid : Uuid) : Decidable (FeeBelowTotal d pid) :=
  decidable_of_iff (∀ p ∈ Table.get d.payments pid, largestFee d pid none < p.totalAmount)
    (by simp [FeeBelowTotal])

/-- The payment is and stays partially refunded when the completed refund `refundId` is taken back. -/
def StaysPartial (d : Db) (pid refundId : Uuid) : Prop :=
  ∀ p, Table.get d.payments pid = some p → ∀ r, Table.get d.refunds refundId = some r →
    r.refundedAmount < p.amountRefunded ∧ p.amountRefunded < p.totalAmount ∧
    p.amountRefunded - r.refundedAmount < p.totalAmount - largestFee d pid (some refundId)

instance (d : Db) (pid refundId : Uuid) : Decidable (StaysPartial d pid refundId) :=
  decidable_of_iff (∀ p ∈ Table.get d.payments pid, ∀ r ∈ Table.get d.refunds refundId,
    r.refundedAmount < p.amountRefunded ∧ p.amountRefunded < p.totalAmount ∧
    p.amountRefunded - r.refundedAmount < p.totalAmount - largestFee d pid (some refundId))
    (by simp [StaysPartial])

/-- When `complete` and `fail` leave statuses that fit. `complete` finds no booking refunded in full
where the fees reach the total. `fail` never writes the status of the payment, and that of the booking
only when a completed refund is taken back, as if no fee were kept. -/
def KeepsStatuses (pid bid : Uuid) (d : Db) (x : LifecycleOp × (ℕ → Env)) : Prop :=
  match x.1 with
  | .request bookingId paymentId _ _ _ _ _ _ _ _ => paymentId = some pid → bookingId = bid
  | .complete refundId _ _ _ _ _ =>
    (CompletesMoney d pid refundId → FeeBelowTotal d pid) ∧
    (RefundOf d pid refundId (·.status = .completed) → BookingFits d pid bid none)
  | .fail refundId _ _ _ _ _ =>
    (RefundOf d pid refundId (·.status = .completed) → StaysPartial d pid refundId) ∧
    (RefundOf d pid refundId (·.status ≠ .completed) → BookingFits d pid bid (some refundId))
  | _ => True

instance (pid bid : Uuid) (d : Db) : ∀ x, Decidable (KeepsStatuses pid bid d x)
  | (.request bookingId paymentId _ _ _ _ _ _ _ _, _) =>
    inferInstanceAs (Decidable (paymentId = some pid → bookingId = bid))
  | (.complete refundId _ _ _ _ _, _) =>
    inferInstanceAs (Decidable ((CompletesMoney d pid refundId → FeeBelowTotal d pid) ∧
      (RefundOf d pid refundId (·.status = .completed) → BookingFits d pid bid none)))
  | (.fail refundId _ _ _ _ _, _) =>
    inferInstanceAs (Decidable (
      (RefundOf d pid refundId (·.status = .completed) → StaysPartial d pid refundId) ∧
      (RefundOf d pid refundId (·.status ≠ .completed) → BookingFits d pid bid (some refundId))))
  | (.updateRequestedAmounts .., _) | (.reject .., _) | (.approve .., _)
  | (.markProcessing .., _) => .isTrue trivial

/-! ## The audit trail -/

/-- The audit rows of the payment, the oldest first. -/
def historyOf (pid : Uuid) (d : Db) : List PaymentStatusHistoryRow :=
  d.paymentStatusHistory.filter (·.paymentId = pid)

def statusOf (pid : Uuid) (d : Db) : Option PaymentStatus :=
  (Table.get d.payments pid).bind (·.status)

/-- The status the rows lead to, each from the status the one before it has left. -/
def replay (start : Option PaymentStatus) (rows : List PaymentStatusHistoryRow) :
    Option PaymentStatus :=
  rows.foldl (fun status row => if row.oldStatus = status then some row.newStatus else none) start

/-- A refund of the payment is new, or has another status than before. -/
def ChangesRefund (pid : Uuid) (d d' : Db) : Prop :=
  ∃ k r, Table.get d'.refunds k = some r ∧ r.paymentId = some pid ∧
    (Table.get d.refunds k).map (·.status) ≠ some r.status

/-- A change of a refund appends one row with the status before and the status after it, and nothing
else appends a row. -/
structure Audited (pid : Uuid) (d d' : Db) : Prop where
  changed : ChangesRefund pid d d' → ∃ row, historyOf pid d' = historyOf pid d ++ [row] ∧
    row.oldStatus = statusOf pid d ∧ some row.newStatus = statusOf pid d'
  unchanged : ¬ ChangesRefund pid d d' → historyOf pid d' = historyOf pid d

/-- The rows the run from `d₀` has appended lead to the status the payment has. -/
def Replays (pid : Uuid) (d₀ d : Db) : Prop :=
  ∃ rows, historyOf pid d = historyOf pid d₀ ++ rows ∧
    replay (statusOf pid d₀) rows = statusOf pid d

/-- The transition is not the rejection or the approval of a requested refund of the payment. -/
def LeavesTrail (pid : Uuid) (d : Db) (x : LifecycleOp × (ℕ → Env)) : Prop :=
  match x.1 with
  | .reject refundId _ _ => ¬ RefundOf d pid refundId (·.status = .requested)
  | .approve refundId _ _ _ _ => ¬ RefundOf d pid refundId (·.status = .requested)
  | _ => True

instance (pid : Uuid) (d : Db) : ∀ x, Decidable (LeavesTrail pid d x)
  | (.reject refundId _ _, _) =>
    inferInstanceAs (Decidable (¬ RefundOf d pid refundId (·.status = .requested)))
  | (.approve refundId _ _ _ _, _) =>
    inferInstanceAs (Decidable (¬ RefundOf d pid refundId (·.status = .requested)))
  | (.request .., _) | (.updateRequestedAmounts .., _) | (.markProcessing .., _)
  | (.complete .., _) | (.fail .., _) => .isTrue trivial

end Payment
