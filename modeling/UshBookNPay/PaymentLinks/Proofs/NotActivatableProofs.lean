import UshBookNPay.PaymentLinks.Proofs.HeldProofs

/-!
# Paid links whose target cannot be activated

Such a link counts as refunded whether or not the gateway has taken the automatic refund. The target
itself stays as it was, but for the payment of a gift voucher, which is written first.
-/

open Transactions (Prog Ensures EnsuresUnder exec)
open Transactions

namespace PaymentLinks

/-! ## The automatic refund -/

theorem refundKey_of_truthy {link : PaymentLinkRow} {state : GatewayPaymentState} {invoice : String}
    (h : link.gatewayInvoiceId = some invoice) (hne : invoice ≠ "") :
    refundKey link state = invoice := by
  unfold refundKey
  rw [h]
  simp [Text.or, Text.orEmpty, hne]

theorem truthy_iff {s : Option String} : Text.truthy s ↔ ∃ t, s = some t ∧ t ≠ "" := by
  cases s with
  | none => simp [Text.truthy]
  | some t => simp [Text.truthy]

/-- The tried refund has reached the gateway and was accepted just where `RefundAccepted` says. -/
theorem RefundTried.sent_iff {link : PaymentLinkRow} {state : GatewayPaymentState}
    {answer : Except String Payment.RefundResponse} {es' : List Emission}
    (h : RefundTried (fun a => a.refund = answer) link state [] es') :
    RefundSent link state es' ↔ RefundAccepted link answer := by
  obtain ⟨link', hgateway, hinvoice, hamount, htried⟩ := h
  have hrefund : refundAmount link' state = refundAmount link state := by
    unfold refundAmount
    rw [hamount]
  constructor
  · rintro ⟨invoice, currency, hinv, hne, hmem⟩
    rcases htried with ⟨⟨hknown, -⟩, a, rfl, rfl⟩ | ⟨-, rfl⟩
    · refine ⟨hgateway ▸ hknown, truthy_iff.mpr ⟨invoice, hinv, hne⟩, ?_⟩
      cases hr : a.refund with
      | error e =>
        rw [hr] at hmem
        simp [emitted] at hmem
      | ok res =>
        refine ⟨res, rfl, ?_⟩
        by_contra hfail
        rw [hr] at hmem
        simp [emitted, hfail] at hmem
    · simp at hmem
  · rintro ⟨hknown, hkey, res, rfl, hsuccess⟩
    obtain ⟨invoice, hinv, hne⟩ := truthy_iff.mp hkey
    have hkey' : refundKey link' state = invoice := refundKey_of_truthy (hinvoice.trans hinv) hne
    rcases htried with ⟨-, a, ha, rfl⟩ | ⟨hskipped, -⟩
    · refine ⟨invoice, refundCurrency link' state, hinv, hne, ?_⟩
      rw [ha]
      simp [emitted, hsuccess, refundEmission, hgateway, hkey', hrefund]
    · exact absurd ⟨hgateway ▸ hknown, by rw [hkey']; exact hne⟩ hskipped

theorem Settled.get {linkId : Uuid} {d : Db} {link : PaymentLinkRow} (h : Settled linkId d)
    (hlink : Table.get d.paymentLinks linkId = some link) : link.status ∈ SETTLED := by
  obtain ⟨l, hl, hstatus⟩ := h
  rw [hlink] at hl
  obtain rfl : link = l := by simpa using hl
  exact hstatus

/-- A paid link of a target that cannot be activated becomes settled only with a refund the gateway has
accepted, if and only if: it is settled already, the amount is not the link's, or the refund goes
through. -/
theorem settled_only_when_refunded_iff (d : Db) (link : PaymentLinkRow) (state : GatewayPaymentState)
    (source : String) (env : ℕ → Env) (outcome : SettlementOutcome)
    (answer : Except String Payment.RefundResponse) (hanswer : ∀ n, (env n).refund = answer)
    (hlink : Table.get d.paymentLinks link.id = some link) (hpaid : state.status = .paid)
    (htarget : ¬ Activatable link d)
    (hreturns : (exec env (applyTo link.id state source) d).1 = .ok (some outcome)) :
    (¬ Settled link.id d → Settled link.id (exec env (applyTo link.id state source) d).2.1 →
        RefundSent link state (exec env (applyTo link.id state source) d).2.2) ↔
      link.status ∈ SETTLED ∨ amountMismatch link state ∨ RefundAccepted link answer := by
  by_cases hs : link.status ∈ SETTLED
  · have hsettled : Settled link.id d := ⟨link, hlink, hs⟩
    exact ⟨fun _ => .inl hs, fun _ h => absurd hsettled h⟩
  have hns : ¬ Settled link.id d := fun h => hs (h.get hlink)
  have happlied : Applied (fun a => a.refund = answer) link state outcome d _ [] _ :=
    exec_applyTo hanswer hs hlink hreturns
  have hout : outcome ≠ .settled := fun h => htarget (happlied.settled h).activatable
  obtain ⟨f, hf, hlinks, hpaidIff, hrefunded⟩ := happlied.row
  have hafter : Table.get (exec env (applyTo link.id state source) d).2.1.paymentLinks link.id =
      some (f link) := by
    rw [hlinks, Table.get_modify_self hf, hlink]
    rfl
  by_cases hm : amountMismatch link state
  · refine ⟨fun _ => .inr (.inl hm), fun _ _ hsettled => ?_⟩
    have hkeep := hsettled.get hafter
    rw [hrefunded hpaid hout, if_pos hm] at hkeep
    exact absurd hkeep hs
  · obtain ⟨htried, -⟩ := happlied.paid hpaid hm hout
    have hsettled : Settled link.id (exec env (applyTo link.id state source) d).2.1 :=
      ⟨f link, hafter, by rw [hrefunded hpaid hout, if_neg hm]; decide⟩
    constructor
    · intro h
      exact .inr (.inr (htried.sent_iff.mp (h hns hsettled)))
    · rintro (h | h | h)
      · exact absurd h hs
      · exact absurd h hm
      · exact fun _ _ => htried.sent_iff.mpr h

/-! ## The target -/

/-- The target and its payments are as they were, and none of the payments of the target says success
for the link. -/
structure TargetUntouched (link : PaymentLinkRow) (d d' : Db) : Prop where
  booking : link.targetType = .booking →
    Table.get d'.bookings link.targetId = Table.get d.bookings link.targetId
  voucher : link.targetType = .giftVoucher →
    Table.get d'.giftVouchers link.targetId = Table.get d.giftVouchers link.targetId
  payments : paymentsOf link.targetType link.targetId d' = paymentsOf link.targetType link.targetId d
  success : ∀ p ∈ paymentsOf link.targetType link.targetId d',
    p.paymentLinkId = some link.id → p.status ≠ some .success

/-- The payment a settlement has written says success for the link. -/
theorem PaymentsStep.says_success {link : PaymentLinkRow} {d d' : Db} {q : PaymentRow}
    (h : PaymentsStep link d d'.payments q) (ht : link.targetType ≠ .product) :
    ∃ p ∈ paymentsOf link.targetType link.targetId d', p.paymentLinkId = some link.id ∧
      p.status = some .success := by
  unfold paymentsOf
  generalize d'.payments = ps at h
  rcases h with ⟨_, -, -, hcreated⟩ | ⟨p, f, hnew, hchanged⟩
  · refine ⟨q, ?_, hcreated.link, hcreated.status⟩
    rw [List.mem_filter]
    exact ⟨by simp, hcreated.isOfTarget ht⟩
  · obtain ⟨hmem, hof⟩ := newest_mem hnew
    refine ⟨f p, ?_, (hchanged p).link, (hchanged p).status⟩
    rw [List.mem_filter]
    refine ⟨Table.mem_modify.mpr (.inr ⟨p, hmem, rfl, rfl⟩), ?_⟩
    rw [(hchanged p).ofTarget]
    exact hof

/-- A paid state whose target cannot be activated leaves the target and its payments alone if and only
if: the link is not for a gift voucher that is there, and no payment of the target says success for the
link yet. -/
theorem target_untouched_iff (d : Db) (link : PaymentLinkRow) (state : GatewayPaymentState)
    (source : String) (env : ℕ → Env) (outcome : SettlementOutcome)
    (hlink : Table.get d.paymentLinks link.id = some link) (hs : link.status ∉ SETTLED)
    (hpaid : state.status = .paid) (hmatch : ¬ amountMismatch link state)
    (htarget : ¬ Activatable link d)
    (hreturns : (exec env (applyTo link.id state source) d).1 = .ok (some outcome)) :
    TargetUntouched link d (exec env (applyTo link.id state source) d).2.1 ↔
      ¬ VoucherThere link d ∧ ∀ p ∈ paymentsOf link.targetType link.targetId d,
        p.paymentLinkId = some link.id → p.status ≠ some .success := by
  have happlied : Applied (fun _ => True) link state outcome d _ [] _ :=
    exec_applyTo (fun _ => trivial) hs hlink hreturns
  have hout : outcome ≠ .settled := fun h => htarget (happlied.settled h).activatable
  obtain ⟨-, hnot⟩ := happlied.paid hpaid hmatch hout
  constructor
  · intro h
    have hthere : ¬ VoucherThere link d := by
      intro hthere
      obtain ⟨q, hq⟩ := hnot.voucher hthere
      have ht : link.targetType ≠ .product := by
        rw [hthere.1]
        decide
      obtain ⟨p, hp, hpl, hps⟩ := hq.says_success ht
      exact h.success p hp hpl hps
    refine ⟨hthere, ?_⟩
    rw [← h.payments]
    exact h.success
  · rintro ⟨hthere, hnone⟩
    have hpayments : paymentsOf link.targetType link.targetId
        (exec env (applyTo link.id state source) d).2.1 =
        paymentsOf link.targetType link.targetId d := by
      unfold paymentsOf
      rw [hnot.without hthere]
    refine ⟨fun _ => by rw [hnot.bookings], fun _ => by rw [hnot.vouchers], hpayments, ?_⟩
    rw [hpayments]
    exact hnone

/-! ## A cancelled booking and a cancelled gift voucher -/

/-- Booking 3 was cancelled while its link could still be paid. -/
def cancelledBooking : Db where
  bookings := [
    { id := 3, customerId := 4, therapistId := 8, appointmentStart := 0, appointmentEnd := 60,
      totalAmount := 10000, status := .cancelled }]
  paymentLinks := [repayment]

/-- The gateway refuses every refund. -/
def refusing : ℕ → Env := fun _ => { refund := .error "timeout" }

def accepting : ℕ → Env := fun _ => { refund := .ok { isSuccessful := true } }

/-- The link counts as refunded, and nothing was refunded. -/
theorem refused_refund_settles :
    (exec refusing (applyTo 5 repaidState "webhook") cancelledBooking).1 =
        .ok (some .failureRecorded) ∧
      ¬ Settled 5 cancelledBooking ∧
      Settled 5 (exec refusing (applyTo 5 repaidState "webhook") cancelledBooking).2.1 ∧
      (exec refusing (applyTo 5 repaidState "webhook") cancelledBooking).2.2 = [] := by
  decide +kernel

theorem not_activatable_cancelledBooking : ¬ Activatable repayment cancelledBooking := by
  rintro ⟨b, hb, hpayable⟩
  have hcancelled : ∀ b ∈ cancelledBooking.bookings, b.status = .cancelled := by decide
  have hmem := (Table.get_some hb).1
  rw [hcancelled b hmem] at hpayable
  exact hpayable (by decide)

theorem settled_only_when_refunded_iff_accepting :
    (¬ Settled repayment.id cancelledBooking →
      Settled repayment.id (exec accepting (applyTo repayment.id repaidState "webhook")
        cancelledBooking).2.1 →
      RefundSent repayment repaidState (exec accepting (applyTo repayment.id repaidState "webhook")
        cancelledBooking).2.2) ↔
      repayment.status ∈ SETTLED ∨ amountMismatch repayment repaidState ∨
        RefundAccepted repayment (.ok { isSuccessful := true }) :=
  settled_only_when_refunded_iff cancelledBooking repayment repaidState "webhook" accepting
    .failureRecorded (.ok { isSuccessful := true }) (fun _ => rfl) (by decide +kernel) rfl
    not_activatable_cancelledBooking (by decide +kernel)

/-- The link of gift voucher 6. -/
def voucherLink : PaymentLinkRow :=
  { id := 7, targetType := .giftVoucher, targetId := 6, gateway := "myfatoorah",
    providerLabel := "MyFatoorah", gatewayInvoiceId := some "900", amount := 10000,
    status := .pending }

/-- Gift voucher 6 was cancelled while its link could still be paid. -/
def cancelledVoucher : Db where
  giftVouchers := [{ id := 6, senderId := 4, status := .cancelled, totalAmount := 10000 }]
  paymentLinks := [voucherLink]

/-- The link counts as refunded, and a payment of the gift voucher says success for it. -/
theorem cancelled_voucher_has_paid :
    (exec accepting (applyTo 7 repaidState "webhook") cancelledVoucher).1 =
        .ok (some .failureRecorded) ∧
      paymentsOf .giftVoucher 6 cancelledVoucher = [] ∧
      ∃ p ∈ paymentsOf .giftVoucher 6
          (exec accepting (applyTo 7 repaidState "webhook") cancelledVoucher).2.1,
        p.status = some .success ∧ p.paymentLinkId = some 7 := by
  decide +kernel

theorem target_untouched_iff_cancelledBooking :
    TargetUntouched repayment cancelledBooking
        (exec refusing (applyTo repayment.id repaidState "webhook") cancelledBooking).2.1 ↔
      ¬ VoucherThere repayment cancelledBooking ∧
        ∀ p ∈ paymentsOf repayment.targetType repayment.targetId cancelledBooking,
          p.paymentLinkId = some repayment.id → p.status ≠ some .success :=
  target_untouched_iff cancelledBooking repayment repaidState "webhook" refusing .failureRecorded
    (by decide +kernel) (by decide) rfl (by decide +kernel) not_activatable_cancelledBooking
    (by decide +kernel)

end PaymentLinks
