import UshBookNPay.Booking.Models
import UshBookNPay.Common.Proofs.AttributionProofs
import UshBookNPay.Payment.Models
import UshBookNPay.Shop.Models
import UshBookNPay.Voucher.Models

/-!
# The mapper events of the four models

`_before_write` runs `apply_attribution` before each insert and update of a booking, a payment, a gift
voucher or a shop order. A row that is saved again without a change in between is the row that was
saved, unless its labels drift.
-/

namespace PaymentAttribution

/-- The rows of a table with the columns `has`: `set` writes the columns of an attribution into a row and
`attribution` is what `apply_attribution` computes of it. -/
structure Listens {ρ : Type} (has : Columns) (set : ρ → Attribution → ρ)
    (labels attribution : ρ → Attribution) (paymentData : ρ → Option Json)
    (statuses : ρ → List (Option String)) : Prop where
  labels_attribution : ∀ r,
    labels (set r (attribution r)) = applyTo has (labels r) (paymentData r) (statuses r)
  set_ext : ∀ r x y, labels (set r x) = labels (set r y) → set r x = set r y
  set_set : ∀ r x y, set (set r x) y = set r y
  paymentData_set : ∀ r x, paymentData (set r x) = paymentData r
  statuses_set : ∀ r x, statuses (set r x) = statuses r

theorem Listens.again_iff {ρ : Type} {has : Columns} {set : ρ → Attribution → ρ}
    {labels attribution : ρ → Attribution} {paymentData : ρ → Option Json}
    {statuses : ρ → List (Option String)}
    (h : Listens has set labels attribution paymentData statuses) (r : ρ) :
    set (set r (attribution r)) (attribution (set r (attribution r))) = set r (attribution r) ↔
      ¬(has.paymentProvider = true ∧ has.paymentMethod = true ∧
        Drifts (has.visible (labels r)) (paymentData r)) := by
  have hlater : labels (set r (attribution (set r (attribution r)))) =
      applyTo has (applyTo has (labels r) (paymentData r) (statuses r)) (paymentData r)
        (statuses r) := by
    have h' := h.labels_attribution (set r (attribution r))
    rw [h.set_set, h.paymentData_set, h.statuses_set] at h'
    rw [h', h.labels_attribution]
  have hlabels :
      set (set r (attribution r)) (attribution (set r (attribution r))) = set r (attribution r) ↔
        labels (set r (attribution (set r (attribution r)))) = labels (set r (attribution r)) := by
    rw [h.set_set]
    exact ⟨fun heq => by rw [heq], h.set_ext r _ _⟩
  rw [hlabels, hlater, h.labels_attribution]
  exact saved_again_iff has (labels r) (paymentData r) (statuses r)

end PaymentAttribution

open PaymentAttribution

/-! ## Bookings -/

def BookingRow.labels (b : BookingRow) : Attribution :=
  { paymentThrough := b.paymentThrough, paymentProvider := b.paymentProvider,
    paymentMethod := b.paymentMethod, paymentGateway := b.paymentGateway }

theorem BookingRow.labels_setAttribution (b : BookingRow) (a : Attribution) :
    (b.setAttribution a).labels = a := rfl

theorem BookingRow.attribution_eq (b : BookingRow) :
    b.attribution = applyTo bookingColumns b.labels b.paymentData
      [some b.paymentStatus.value, some b.status.value] :=
  (applyTo_all b.labels b.paymentData _).symm

theorem BookingRow.listens :
    Listens bookingColumns BookingRow.setAttribution BookingRow.labels BookingRow.attribution
      BookingRow.paymentData
      fun b => [some b.paymentStatus.value, some b.status.value] where
  labels_attribution b := by
    rw [BookingRow.labels_setAttribution, BookingRow.attribution_eq]
  set_ext b _ _ h := congrArg b.setAttribution h
  set_set _ _ _ := rfl
  paymentData_set _ _ := rfl
  statuses_set _ _ := rfl

theorem BookingRow.beforeWrite_again_iff (b : BookingRow) :
    b.beforeWrite.beforeWrite = b.beforeWrite ↔ ¬Drifts b.labels b.paymentData := by
  have hseen : bookingColumns.visible b.labels = b.labels := rfl
  unfold BookingRow.beforeWrite
  rw [BookingRow.listens.again_iff b, hseen]
  simp only [bookingColumns, true_and]

/-! ## Payments -/

def PaymentRow.labels (p : PaymentRow) : Attribution :=
  { paymentThrough := p.paymentThrough, paymentProvider := p.paymentProvider,
    paymentMethod := p.paymentMethod, paymentGateway := p.paymentGateway }

theorem PaymentRow.labels_setAttribution (p : PaymentRow) (a : Attribution) :
    (p.setAttribution a).labels = a := rfl

theorem PaymentRow.attribution_eq (p : PaymentRow) :
    p.attribution = applyTo paymentColumns p.labels p.paymentData
      [p.status.map Payment.PaymentStatus.value, p.transactionStatus] :=
  (applyTo_all p.labels p.paymentData _).symm

theorem PaymentRow.listens :
    Listens paymentColumns PaymentRow.setAttribution PaymentRow.labels PaymentRow.attribution
      PaymentRow.paymentData
      fun p => [p.status.map Payment.PaymentStatus.value, p.transactionStatus] where
  labels_attribution p := by
    rw [PaymentRow.labels_setAttribution, PaymentRow.attribution_eq]
  set_ext p _ _ h := congrArg p.setAttribution h
  set_set _ _ _ := rfl
  paymentData_set _ _ := rfl
  statuses_set _ _ := rfl

theorem PaymentRow.beforeWrite_again_iff (p : PaymentRow) :
    p.beforeWrite.beforeWrite = p.beforeWrite ↔ ¬Drifts p.labels p.paymentData := by
  have hseen : paymentColumns.visible p.labels = p.labels := rfl
  unfold PaymentRow.beforeWrite
  rw [PaymentRow.listens.again_iff p, hseen]
  simp only [paymentColumns, true_and]

/-! ## Gift vouchers -/

def GiftVoucherRow.labels (v : GiftVoucherRow) : Attribution :=
  { paymentThrough := v.paymentThrough, paymentProvider := v.paymentProvider }

theorem GiftVoucherRow.labels_setAttribution (v : GiftVoucherRow) (a : Attribution) :
    (v.setAttribution a).labels =
      { paymentThrough := a.paymentThrough, paymentProvider := a.paymentProvider } := rfl

theorem GiftVoucherRow.attribution_eq (v : GiftVoucherRow) :
    v.attribution = applyTo giftVoucherColumns v.labels v.paymentData [some v.status.value] := by
  simp only [GiftVoucherRow.attribution, applyTo, giftVoucherColumns, Columns.visible, resolveProvider,
    GiftVoucherRow.labels, if_true, Bool.false_eq_true, if_false, reduceCtorEq, false_and]

theorem GiftVoucherRow.listens :
    Listens giftVoucherColumns GiftVoucherRow.setAttribution GiftVoucherRow.labels
      GiftVoucherRow.attribution GiftVoucherRow.paymentData fun v => [some v.status.value] where
  labels_attribution v := by
    rw [GiftVoucherRow.labels_setAttribution, ← GiftVoucherRow.attribution_eq]
    simp only [GiftVoucherRow.attribution]
  set_ext v x y h := by
    simp only [GiftVoucherRow.labels_setAttribution, Attribution.mk.injEq, and_true] at h
    simp only [GiftVoucherRow.setAttribution, h]
  set_set _ _ _ := rfl
  paymentData_set _ _ := rfl
  statuses_set _ _ := rfl

/-- A voucher has no method, of which a second save could learn the provider. -/
theorem GiftVoucherRow.attribution_again (v : GiftVoucherRow) :
    (v.setAttribution v.attribution).setAttribution (v.setAttribution v.attribution).attribution =
      v.setAttribution v.attribution := by
  rw [GiftVoucherRow.listens.again_iff v]
  simp only [giftVoucherColumns, Bool.false_eq_true, false_and, and_false, not_false_iff]

/-! ## Shop orders -/

namespace Shop

def ShopOrderRow.labels (o : ShopOrderRow) : Attribution :=
  { paymentThrough := o.paymentThrough, paymentProvider := o.paymentProvider,
    paymentMethod := o.paymentMethod }

def ShopOrderRow.setAttribution (o : ShopOrderRow) (a : Attribution) : ShopOrderRow :=
  { o with
    paymentThrough := a.paymentThrough, paymentProvider := a.paymentProvider,
    paymentMethod := a.paymentMethod }

def ShopOrderRow.attribution (o : ShopOrderRow) : Attribution :=
  applyTo shopOrderColumns o.labels o.paymentData [some o.paymentStatus.value]

theorem ShopOrderRow.beforeWrite_eq (o : ShopOrderRow) :
    o.beforeWrite = o.setAttribution o.attribution := by
  simp only [ShopOrderRow.beforeWrite, ShopOrderRow.setAttribution, ShopOrderRow.attribution, applyTo,
    applyAttribution, shopOrderColumns, Columns.visible, ShopOrderRow.labels, if_true,
    Bool.false_eq_true, if_false]

theorem ShopOrderRow.labels_setAttribution (o : ShopOrderRow) (a : Attribution) :
    (o.setAttribution a).labels =
      { paymentThrough := a.paymentThrough, paymentProvider := a.paymentProvider,
        paymentMethod := a.paymentMethod } := rfl

theorem ShopOrderRow.listens :
    Listens shopOrderColumns ShopOrderRow.setAttribution ShopOrderRow.labels ShopOrderRow.attribution
      ShopOrderRow.paymentData fun o => [some o.paymentStatus.value] where
  labels_attribution o := by
    rw [ShopOrderRow.labels_setAttribution]
    simp only [ShopOrderRow.attribution, applyTo, shopOrderColumns, Bool.false_eq_true, false_and,
      if_false, ShopOrderRow.labels]
  set_ext o x y h := by
    simp only [ShopOrderRow.labels_setAttribution, Attribution.mk.injEq, and_true] at h
    simp only [ShopOrderRow.setAttribution, h]
  set_set _ _ _ := rfl
  paymentData_set _ _ := rfl
  statuses_set _ _ := rfl

theorem ShopOrderRow.beforeWrite_again_iff (o : ShopOrderRow) :
    o.beforeWrite.beforeWrite = o.beforeWrite ↔ ¬Drifts o.labels o.paymentData := by
  have hseen : shopOrderColumns.visible o.labels = o.labels := rfl
  rw [ShopOrderRow.beforeWrite_eq o, ShopOrderRow.beforeWrite_eq, ShopOrderRow.listens.again_iff o, hseen]
  simp only [shopOrderColumns, true_and]

end Shop
