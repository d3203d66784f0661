import UshBookNPay.Payment.Proofs.SummaryProofs

/-!
# The statuses of a payment and its booking over runs of transitions

In a run of money refunds whose steps meet `KeepsStatuses`, the payment and its booking have the
statuses of the refunded amount after every completed and every failed refund.
-/

open Transactions

namespace Payment

variable {pid bid : Uuid} {d d' : Db} {k : Uuid} {r r' : RefundRow}

/-! ## The fee that is kept -/

theorem max?_congr {l l' : List ℤ} (h : ∀ x, x ∈ l ↔ x ∈ l') : l.max? = l'.max? := by
  cases hl : l.max? with
  | none =>
    have hnil : l = [] := List.max?_eq_none_iff.mp hl
    have hnil' : l' = [] := List.eq_nil_iff_forall_not_mem.mpr fun x hx => by
      have := (h x).mpr hx
      simp [hnil] at this
    rw [hnil']
    rfl
  | some a =>
    obtain ⟨hmem, hle⟩ := List.max?_eq_some_iff.mp hl
    exact (List.max?_eq_some_iff.mpr ⟨(h a).mp hmem, fun b hb => hle b ((h b).mpr hb)⟩).symm

/-- A committed refund of the payment but `excludeId`. -/
def KeepsFee (pid : Uuid) (excludeId : Option Uuid) (r : RefundRow) : Prop :=
  r.paymentId = some pid ∧ r.status ∈ committedStatuses ∧ some r.id ≠ excludeId

theorem largestFee_congr_mem {excludeId excludeId' : Option Uuid}
    (h : ∀ x, (∃ r ∈ d'.refunds, KeepsFee pid excludeId' r ∧ r.cancellationFee = x) ↔
      ∃ r ∈ d.refunds, KeepsFee pid excludeId r ∧ r.cancellationFee = x) :
    largestFee d' pid excludeId' = largestFee d pid excludeId := by
  unfold largestFee
  rw [max?_congr fun x => ?_]
  simpa [List.mem_map, List.mem_filter, KeepsFee, and_assoc] using h x

theorem le_largestFee (hr : r ∈ d.refunds) (hpid : r.paymentId = some pid)
    (hstatus : r.status ∈ committedStatuses) : r.cancellationFee ≤ largestFee d pid none := by
  have hmem : r.cancellationFee ∈ (d.refunds.filter fun r => r.paymentId = some pid ∧
      r.status ∈ committedStatuses ∧ some r.id ≠ none).map (·.cancellationFee) :=
    List.mem_map.mpr ⟨r, List.mem_filter.mpr ⟨hr, by simp [hpid, hstatus]⟩, rfl⟩
  unfold largestFee
  cases hmax : ((d.refunds.filter fun r => r.paymentId = some pid ∧
      r.status ∈ committedStatuses ∧ some r.id ≠ none).map (·.cancellationFee)).max? with
  | none =>
    rw [List.max?_eq_none_iff] at hmax
    rw [hmax] at hmem
    cases hmem
  | some a => exact (List.max?_eq_some_iff.mp hmax).2 _ hmem

/-- An open refund that is completed keeps its fee. -/
theorem largestFee_completed (hu : Table.Unique d.refunds) (hr : Table.get d.refunds k = some r)
    (hrep : Table.Replaces d.refunds k r' d'.refunds)
    (hkeeps : KeepsFee pid none r' ↔ KeepsFee pid none r)
    (hfee : r'.cancellationFee = r.cancellationFee) :
    largestFee d' pid none = largestFee d pid none := by
  refine largestFee_congr_mem fun x => ⟨?_, ?_⟩
  · rintro ⟨a, ha, hk, rfl⟩
    rcases hrep.mem hu ha with rfl | ⟨ha, -⟩
    · exact ⟨r, (Table.get_some hr).1, hkeeps.mp hk, hfee.symm⟩
    · exact ⟨a, ha, hk, rfl⟩
  · rintro ⟨a, ha, hk, rfl⟩
    by_cases hid : Table.Keyed.key a = k
    · have hget := Table.get_eq_of_mem hu ha
      rw [hid, hr] at hget
      cases hget
      exact ⟨r', (Table.get_some hrep.1).1, hkeeps.mpr hk, hfee⟩
    · have hget := hrep.get_of_ne hid
      rw [Table.get_eq_of_mem hu ha] at hget
      exact ⟨a, (Table.get_some hget).1, hk, rfl⟩

/-- A refund that is failed keeps no fee any more. -/
theorem largestFee_failed (hu : Table.Unique d.refunds)
    (hrep : Table.Replaces d.refunds k r' d'.refunds) (hno : ¬ KeepsFee pid none r') :
    largestFee d' pid none = largestFee d pid (some k) := by
  refine largestFee_congr_mem fun x => ⟨?_, ?_⟩
  · rintro ⟨a, ha, hk, rfl⟩
    rcases hrep.mem hu ha with rfl | ⟨ha, hne⟩
    · exact absurd hk hno
    · exact ⟨a, ha, ⟨hk.1, hk.2.1, fun he => hne (Option.some.inj he)⟩, rfl⟩
  · rintro ⟨a, ha, hk, rfl⟩
    have hne : Table.Keyed.key a ≠ k := fun he => hk.2.2 (congrArg some he)
    have hget := hrep.get_of_ne hne
    rw [Table.get_eq_of_mem hu ha] at hget
    exact ⟨a, (Table.get_some hget).1, ⟨hk.1, hk.2.1, by simp⟩, rfl⟩

/-- A refund that is not committed keeps no fee anyway. -/
theorem largestFee_exclude (hu : Table.Unique d.refunds) (hr : Table.get d.refunds k = some r)
    (hno : ¬ KeepsFee pid none r) : largestFee d pid none = largestFee d pid (some k) :=
  largestFee_failed hu (Table.Replaces.refl hr) hno

/-! ## The statuses -/

theorem covers_iff (amount target : Fils) : Covers amount target ↔ target ≤ amount := by
  have h : Covers amount target ↔ ¬ exceeds target amount := not_lt.symm
  rw [h, exceeds_iff, not_lt]

theorem completedSummary_fits {total : Fils} {p : PaymentRow} (h : 0 < total)
    (a : PaymentAttribution.Attribution) :
    PaymentStatusFits ((completedSummary total p).setAttribution a) := by
  unfold PaymentStatusFits
  rw [PaymentRow.setAttribution_status, PaymentRow.setAttribution_amountRefunded,
    PaymentRow.setAttribution_totalAmount]
  show (_ ↔ Covers total p.totalAmount) ∧ (_ ↔ 0 < total ∧ ¬ Covers total p.totalAmount) ∧
    (_ ↔ total = 0)
  have hne : total ≠ 0 := ne_of_gt h
  have hstatus : (completedSummary total p).status = if Covers total p.totalAmount then some .refunded
      else if 0 < total then some .partiallyRefunded else p.status := rfl
  rw [hstatus]
  by_cases hc : Covers total p.totalAmount
  · simp [hc, hne]
  · simp [hc, hne, h]

/-- A booking whose status was written by `complete`. -/
theorem completedBooking_fits {total target : Fils} {fully : Bool} {b : BookingRow} (h : 0 < total)
    (hfully : fully = true ↔ Covers total target) (a : PaymentAttribution.Attribution) :
    BookingStatusFits ((completedBooking false fully true b).setAttribution a) total target := by
  have hne : total ≠ 0 := ne_of_gt h
  have hstatus : ((completedBooking false fully true b).setAttribution a).paymentStatus =
      if fully then .refunded else .partiallyRefunded := by
    cases fully <;> rfl
  unfold BookingStatusFits
  rw [hstatus]
  by_cases hc : Covers total target
  · simp [hfully.mpr hc, hc, hne]
  · have hpart : fully = false := by
      rw [← Bool.not_eq_true]
      exact fun ht => hc (hfully.mp ht)
    simp [hpart, hc, hne, h]

/-- Where status, total and refunded amount are the same, one fits as the other does. -/
theorem PaymentStatusFits.congr {p p' : PaymentRow} (h : PaymentStatusFits p)
    (hstatus : p'.status = p.status) (htotal : p'.totalAmount = p.totalAmount)
    (hrefunded : p'.amountRefunded = p.amountRefunded) : PaymentStatusFits p' := by
  unfold PaymentStatusFits
  rw [hstatus, htotal, hrefunded]
  exact h

/-- A partially refunded payment stays one while some of it is refunded, and not all. -/
theorem PaymentStatusFits.stays_partial {p p' : PaymentRow} (h : PaymentStatusFits p)
    (hstatus : p'.status = p.status) (htotal : p'.totalAmount = p.totalAmount)
    (hpos : 0 < p.amountRefunded) (hlt : p.amountRefunded < p.totalAmount)
    (hpos' : 0 < p'.amountRefunded) (hle : p'.amountRefunded ≤ p.amountRefunded) :
    PaymentStatusFits p' := by
  have hnot : ¬ Covers p.amountRefunded p.totalAmount := by
    rw [covers_iff]
    linarith
  have hnot' : ¬ Covers p'.amountRefunded p.totalAmount := by
    rw [covers_iff]
    linarith
  have hpart : p.status = some .partiallyRefunded := h.2.1.mpr ⟨hpos, hnot⟩
  unfold PaymentStatusFits
  rw [hstatus, htotal, hpart]
  simp [hnot', hpos', ne_of_gt hpos']

/-- A booking set to partially refunded fits an amount that is positive and below the target. -/
theorem partial_fits {b : BookingRow} {refunded target : Fils} (hpos : 0 < refunded)
    (hlt : refunded < target) (a : PaymentAttribution.Attribution) :
    BookingStatusFits ((b.setPaymentStatus .partiallyRefunded).setAttribution a) refunded target := by
  have hnot : ¬ Covers refunded target := by
    rw [covers_iff]
    linarith
  have hstatus : ((b.setPaymentStatus .partiallyRefunded).setAttribution a).paymentStatus =
      .partiallyRefunded := rfl
  unfold BookingStatusFits
  rw [hstatus]
  simp [hnot, hpos, ne_of_gt hpos]

/-! ## The invariant -/

/-- The summary is exact, the refunds of the payment are positive money refunds of its booking, and
the status of the payment fits. -/
structure StatusKept (pid bid : Uuid) (d : Db) : Prop where
  summary : SummaryKept pid d
  money : ∀ r ∈ d.refunds, r.paymentId = some pid → ¬ isLoyalty r.refundMethod
  booking : ∀ r ∈ d.refunds, r.paymentId = some pid → r.bookingId = some bid
  positive : ∀ r ∈ d.refunds, r.paymentId = some pid → 0 < r.refundedAmount
  total : ∀ r ∈ d.refunds, r.paymentId = some pid →
    ∀ p, Table.get d.payments pid = some p → 0 < p.totalAmount
  fits : ∀ p, Table.get d.payments pid = some p → 0 < p.totalAmount → PaymentStatusFits p

theorem StatusKept.noPointsPaid (h : StatusKept pid bid d) (k : Uuid) : NoPointsPaid d pid k :=
  fun r hr hpid _ _ => h.money r hr hpid

theorem StatusKept.moneyRefunded_nonneg (h : StatusKept pid bid d) : 0 ≤ moneyRefunded d pid := by
  rw [moneyRefunded_eq]
  refine List.sum_nonneg fun x hx => ?_
  obtain ⟨r, hr, rfl⟩ := List.mem_map.mp hx
  unfold moneyShare
  split_ifs with hc
  · exact le_of_lt (h.positive r hr hc.1)
  · exact le_refl _

/-- What a replaced refund has to keep of the refunds of the payment. -/
structure Carries (pid : Uuid) (r r' : RefundRow) : Prop where
  payment : r'.paymentId = r.paymentId
  booking : r'.bookingId = r.bookingId
  money : r.paymentId = some pid → ¬ isLoyalty r.refundMethod → ¬ isLoyalty r'.refundMethod
  positive : 0 < r.refundedAmount → 0 < r'.refundedAmount

/-- The invariant after one refund was replaced and the payments may have changed. -/
theorem StatusKept.replaces (h : StatusKept pid bid d) (hr : Table.get d.refunds k = some r)
    (hrep : Table.Replaces d.refunds k r' d'.refunds) (hcarries : Carries pid r r')
    (hsummary : SummaryKept pid d')
    (htotal : ∀ p', Table.get d'.payments pid = some p' → ∃ p, Table.get d.payments pid = some p ∧
      p'.totalAmount = p.totalAmount)
    (hfits : ∀ p', Table.get d'.payments pid = some p' → 0 < p'.totalAmount →
      PaymentStatusFits p') : StatusKept pid bid d' := by
  have hmem := (Table.get_some hr).1
  have hof : ∀ x ∈ d'.refunds, x = r' ∨ x ∈ d.refunds := fun x hx =>
    (hrep.mem h.summary.unique hx).imp_right And.left
  refine ⟨hsummary, fun x hx hpid => ?_, fun x hx hpid => ?_, fun x hx hpid => ?_,
    fun x hx hpid p' hp' => ?_, hfits⟩
  · rcases hof x hx with rfl | hx
    · have hpid' := hcarries.payment.symm.trans hpid
      exact hcarries.money hpid' (h.money r hmem hpid')
    · exact h.money x hx hpid
  · rcases hof x hx with rfl | hx
    · rw [hcarries.booking]
      exact h.booking r hmem (hcarries.payment.symm.trans hpid)
    · exact h.booking x hx hpid
  · rcases hof x hx with rfl | hx
    · exact hcarries.positive (h.positive r hmem (hcarries.payment.symm.trans hpid))
    · exact h.positive x hx hpid
  · obtain ⟨p, hp, heq⟩ := htotal p' hp'
    rw [heq]
    rcases hof x hx with rfl | hx
    · exact h.total r hmem (hcarries.payment.symm.trans hpid) p hp
    · exact h.total x hx hpid p hp

/-- A transition that leaves the payments alone. -/
theorem StatusKept.moved (h : StatusKept pid bid d) {P : RefundRow → RefundRow → Prop}
    (hP : ∀ r r', Table.get d.refunds k = some r → P r r' → Carries pid r r')
    (hsummary : SummaryKept pid d') (hm : Moved d k P d') : StatusKept pid bid d' := by
  obtain ⟨hpay, r, r', hr, hp, hrep⟩ := hm
  refine h.replaces hr hrep (hP r r' hr hp) hsummary ?_ ?_
  · intro p' hp'
    rw [hpay] at hp'
    exact ⟨p', hp', rfl⟩
  · intro p' hp'
    rw [hpay] at hp'
    exact h.fits p' hp'

theorem StatusKept.requested (h : StatusKept pid bid d) {b : Uuid} {q : Option Uuid}
    {net fee : Fils} {refundMethod : String} (hmoney : q = some pid → ¬ isLoyalty refundMethod)
    (hbooking : q = some pid → b = bid) (hpay : d'.payments = d.payments)
    (hrow : RequestedRow d b q net fee refundMethod d'.refunds) : StatusKept pid bid d' := by
  have hsummary := h.summary.requested hpay hrow
  obtain ⟨r, hnew, hrows, hbid, hpid, hstatus, hmethod, hnet, hfee, hpos, hcap⟩ := hrow
  have hof : ∀ x ∈ d'.refunds, x ∈ d.refunds ∨ x = r := by
    intro x hx
    rw [hrows, List.mem_append, List.mem_singleton] at hx
    exact hx
  -- the committed refunds are not negative, so the cap leaves the total positive
  have hcommitted : 0 ≤ sumOf d pid committedStatuses none := by
    rw [sumOf_none]
    refine List.sum_nonneg fun x hx => ?_
    obtain ⟨a, ha, rfl⟩ := List.mem_map.mp hx
    unfold committedShare
    split_ifs with hc
    · exact le_of_lt (h.positive a ha hc.1)
    · exact le_refl _
  refine ⟨hsummary, fun x hx hx' => ?_, fun x hx hx' => ?_, fun x hx hx' => ?_,
    fun x hx hx' p hp => ?_, fun p hp => ?_⟩
  · rcases hof x hx with hx | rfl
    · exact h.money x hx hx'
    · rw [hmethod]
      exact hmoney (hpid.symm.trans hx')
  · rcases hof x hx with hx | rfl
    · exact h.booking x hx hx'
    · rw [hbid, hbooking (hpid.symm.trans hx')]
  · rcases hof x hx with hx | rfl
    · exact h.positive x hx hx'
    · rw [hnet]
      exact hpos
  · rw [hpay] at hp
    rcases hof x hx with hx | rfl
    · exact h.total x hx hx' p hp
    · have hle := hcap pid p (hpid.symm.trans hx') hp
      linarith
  · rw [hpay] at hp
    exact h.fits p hp

/-! ## complete -/

theorem completedColumns_carries (now : Instant) (ref : Option String) (res : Option Json) :
    Carries pid r (completedColumns now ref res r) := ⟨rfl, rfl, fun _ h => h, fun h => h⟩

theorem keepsFee_completed (now : Instant) (ref : Option String) (res : Option Json)
    (hopen : r.status ∈ OPEN_STATUSES) :
    KeepsFee pid none (completedColumns now ref res r) ↔ KeepsFee pid none r := by
  have hcommitted : r.status ∈ committedStatuses := List.mem_cons_of_mem _ hopen
  constructor
  · rintro ⟨hpid, -, -⟩
    exact ⟨hpid, hcommitted, by simp⟩
  · rintro ⟨hpid, -, -⟩
    exact ⟨hpid, List.mem_cons_self, by simp⟩

/-- A refund of the payment adds to the money paid back. -/
theorem moneyRefunded_completed (h : StatusKept pid bid d) (hr : Table.get d.refunds k = some r)
    (hopen : r.status ∈ OPEN_STATUSES) (hpid : r.paymentId = some pid) (now : Instant)
    (ref : Option String) (res : Option Json)
    (hrep : Table.Replaces d.refunds k (completedColumns now ref res r) d'.refunds) :
    0 < moneyRefunded d' pid := by
  have hmem := (Table.get_some hr).1
  have hne : r.status ≠ .completed := fun hc => by
    rw [hc] at hopen
    exact absurd hopen (by decide)
  have hmoney := moneyRefunded_replaces pid h.summary.unique hr hrep
  have hshare : moneyShare pid (completedColumns now ref res r) = r.refundedAmount :=
    if_pos ⟨hpid, rfl, h.money r hmem hpid⟩
  rw [moneyShare_of_not_completed hne, add_zero, hshare] at hmoney
  have hnonneg := h.moneyRefunded_nonneg
  have hpos := h.positive r hmem hpid
  linarith

theorem StatusKept.completed (h : StatusKept pid bid d) (hr : Table.get d.refunds k = some r)
    (hopen : r.status ∈ OPEN_STATUSES) (hr' : ∃ now ref res, r' = completedColumns now ref res r)
    (hrep : Table.Replaces d.refunds k r' d'.refunds) (hdone : CompletedIn d d' r)
    (hfee : CompletesMoney d pid k → FeeBelowTotal d pid) :
    StatusKept pid bid d' ∧ (r.paymentId = some pid → StatusesFit pid bid d') := by
  have hmem := (Table.get_some hr).1
  have hsummary := h.summary.completed hr hopen hr' hrep hdone fun _ => h.noPointsPaid k
  obtain ⟨now, ref, res, rfl⟩ := hr'
  by_cases hpid : r.paymentId = some pid
  · have hmoney := h.money r hmem hpid
    have hpos := moneyRefunded_completed h hr hopen hpid now ref res hrep
    -- the payment is written with the money paid back
    have hpayment : ∀ p', Table.get d'.payments pid = some p' → ∃ p a,
        Table.get d.payments pid = some p ∧ paymentFor d r = some p ∧
        completeTotal d' p r = moneyRefunded d' pid ∧ CompletesMoney d pid k ∧
        p' = (completedSummary (completeTotal d' p r) p).setAttribution a := by
      intro p' hp'
      obtain ⟨p, a, hp, hfor, hcap, rfl⟩ := hdone.payment_of hpid hmoney hp'
      have hid : r.id = k := (Table.get_some hr).2
      rw [hid] at hcap
      exact ⟨p, a, hp, hfor, hsummary.exact _ hp',
        ⟨r, p, hr, hp, hpid, hopen, hmoney, hcap⟩, rfl⟩
    have hfits : ∀ p', Table.get d'.payments pid = some p' → PaymentStatusFits p' := by
      intro p' hp'
      obtain ⟨p, a, -, -, htotal, -, rfl⟩ := hpayment p' hp'
      rw [htotal]
      exact completedSummary_fits hpos a
    have hkept : StatusKept pid bid d' := by
      refine h.replaces hr hrep (completedColumns_carries now ref res) hsummary ?_
        fun p' hp' _ => hfits p' hp'
      intro p' hp'
      obtain ⟨p, a, hp, -, -, -, rfl⟩ := hpayment p' hp'
      exact ⟨p, hp, rfl⟩
    refine ⟨hkept, fun _ => ⟨hfits, fun p' hp' b' hb' => ?_⟩⟩
    obtain ⟨p, a, hp, hfor, htotal, hcompletes, rfl⟩ := hpayment p' hp'
    have hbelow := hfee hcompletes p hp
    have hbid := h.booking r hmem hpid
    have hpk : p.id = pid := (Table.get_some hp).2
    have hfee' : largestFee d' pid none = largestFee d pid none :=
      largestFee_completed h.summary.unique hr hrep (keepsFee_completed now ref res hopen) rfl
    have hle : r.cancellationFee ≤ largestFee d pid none :=
      le_largestFee hmem hpid (List.mem_cons_of_mem _ hopen)
    cases hbook : bookingFor d r with
    | none =>
      rw [hdone.booking.absent hbook] at hb'
      unfold bookingFor at hbook
      rw [hbid, Option.bind_some, hb'] at hbook
      cases hbook
    | some b =>
      obtain ⟨hb, -⟩ := bookingFor_eq_some hbook
      obtain rfl : bid = b.id := Option.some.inj (hbid.symm.trans hb)
      obtain ⟨att, hbrep⟩ := hdone.booking.money b p hbook hfor hmoney
      rw [hbrep.1] at hb'
      cases hb'
      rw [PaymentRow.setAttribution_amountRefunded, PaymentRow.setAttribution_totalAmount]
      show BookingStatusFits _ (completeTotal d' p r) (p.totalAmount - largestFee d' pid none)
      refine completedBooking_fits (htotal ▸ hpos) ?_ att
      -- the target the code compares with is the one of the fee that is kept
      have htarget : max 0 (p.totalAmount - max (largestFee d' p.id none) r.cancellationFee) =
          p.totalAmount - largestFee d' pid none := by
        rw [hpk, hfee', max_eq_left hle, max_eq_right]
        linarith
      unfold completeFully
      rw [htarget]
      have hpositive : 0 < p.totalAmount - largestFee d' pid none := by
        rw [hfee']
        linarith
      rw [decide_eq_true_eq]
      exact and_iff_right hpositive
  · refine ⟨h.replaces hr hrep (completedColumns_carries now ref res) hsummary ?_ ?_,
      fun hp => absurd hp hpid⟩
    · intro p' hp'
      rw [hdone.payment_other hpid] at hp'
      exact ⟨p', hp', rfl⟩
    · intro p' hp'
      rw [hdone.payment_other hpid] at hp'
      exact h.fits p' hp'

/-! ## fail -/

theorem failedColumns_carries (reason : String) (res : Option Json) :
    Carries pid r (failedColumns reason res r) := ⟨rfl, rfl, fun _ h => h, fun h => h⟩

theorem StatusKept.failed (h : StatusKept pid bid d) (hr : Table.get d.refunds k = some r)
    (hopen : r.status ≠ .failed ∧ r.status ≠ .cancelled)
    (hr' : ∃ reason res, r' = failedColumns reason res r)
    (hrep : Table.Replaces d.refunds k r' d'.refunds) (hdone : FailedIn d d' r)
    (hpart : RefundOf d pid k (·.status = .completed) → StaysPartial d pid k)
    (hbooking : RefundOf d pid k (·.status ≠ .completed) → BookingFits d pid bid (some k)) :
    StatusKept pid bid d' ∧ (r.paymentId = some pid → StatusesFit pid bid d') := by
  have hmem := (Table.get_some hr).1
  have hsummary := h.summary.failed hr hopen hr' hrep hdone fun _ => h.noPointsPaid k
  obtain ⟨reason, res, rfl⟩ := hr'
  by_cases hpid : r.paymentId = some pid
  · have hmoney := h.money r hmem hpid
    have hshare : moneyShare pid (failedColumns reason res r) = 0 :=
      moneyShare_of_not_completed (by simp)
    have hback := moneyRefunded_replaces pid h.summary.unique hr hrep
    rw [hshare, add_zero] at hback
    have hfee : largestFee d' pid none = largestFee d pid (some k) :=
      largestFee_failed h.summary.unique hrep fun hk => absurd hk.2.1 (by simp [committedStatuses,
        OPEN_STATUSES])
    -- the payment is written with the money that is left, and keeps its status
    have hpayment : ∀ p', Table.get d'.payments pid = some p' → ∃ p,
        Table.get d.payments pid = some p ∧ paymentFor d r = some p ∧
        p'.status = p.status ∧ p'.totalAmount = p.totalAmount ∧
        p'.amountRefunded + moneyShare pid r = p.amountRefunded ∧
        p'.amountRefunded = sumOf d' pid [.completed] none := by
      intro p' hp'
      obtain ⟨p, a, hp, hfor, hp''⟩ := hdone.payment_of hpid hp'
      refine ⟨p, hp, hfor, by rw [hp'']; rfl, by rw [hp'']; rfl, ?_, by rw [hp'']; rfl⟩
      rw [hsummary.exact p' hp', h.summary.exact p hp]
      exact hback
    have hfits : ∀ p', Table.get d'.payments pid = some p' → PaymentStatusFits p' := by
      intro p' hp'
      obtain ⟨p, hp, -, hstatus, htotal, hsum, -⟩ := hpayment p' hp'
      have hpfits := h.fits p hp (h.total r hmem hpid p hp)
      by_cases hc : r.status = .completed
      · obtain ⟨hlt, hbelow, -⟩ := hpart ⟨r, hr, hpid, hc⟩ p hp r hr
        have hshare' : moneyShare pid r = r.refundedAmount := if_pos ⟨hpid, hc, hmoney⟩
        have hpos := h.positive r hmem hpid
        rw [hshare'] at hsum
        exact hpfits.stays_partial hstatus htotal (by linarith) hbelow (by linarith) (by linarith)
      · rw [moneyShare_of_not_completed hc, add_zero] at hsum
        exact hpfits.congr hstatus htotal hsum
    have hkept : StatusKept pid bid d' := by
      refine h.replaces hr hrep (failedColumns_carries reason res) hsummary ?_
        fun p' hp' _ => hfits p' hp'
      intro p' hp'
      obtain ⟨p, hp, -, -, htotal, -⟩ := hpayment p' hp'
      exact ⟨p, hp, htotal⟩
    refine ⟨hkept, fun _ => ⟨hfits, fun p' hp' b' hb' => ?_⟩⟩
    obtain ⟨p, hp, hfor, -, htotal, hsum, hwritten⟩ := hpayment p' hp'
    rw [htotal, hfee]
    by_cases hc : r.status = .completed
    · obtain ⟨hlt, -, hbelow⟩ := hpart ⟨r, hr, hpid, hc⟩ p hp r hr
      have hshare' : moneyShare pid r = r.refundedAmount := if_pos ⟨hpid, hc, hmoney⟩
      rw [hshare'] at hsum
      have hbid := h.booking r hmem hpid
      cases hbook : bookingFor d r with
      | none =>
        rw [hdone.booking.absent (.inl hbook)] at hb'
        unfold bookingFor at hbook
        rw [hbid, Option.bind_some, hb'] at hbook
        cases hbook
      | some b =>
        obtain ⟨hb, -⟩ := bookingFor_eq_some hbook
        obtain rfl : bid = b.id := Option.some.inj (hbid.symm.trans hb)
        obtain ⟨att, hbrep⟩ := hdone.booking.present b p hbook hfor hc
        have hpk : p.id = pid := (Table.get_some hp).2
        have hpos : 0 < p'.amountRefunded := by linarith
        rw [hpk, ← hwritten, if_pos hpos] at hbrep
        rw [hbrep.1] at hb'
        cases hb'
        exact partial_fits hpos (by linarith) att
    · rw [moneyShare_of_not_completed hc, add_zero] at hsum
      rw [hdone.booking.open_ hc] at hb'
      rw [hsum]
      exact hbooking ⟨r, hr, hpid, hc⟩ p hp b' hb'
  · refine ⟨h.replaces hr hrep (failedColumns_carries reason res) hsummary ?_ ?_,
      fun hp => absurd hp hpid⟩
    · intro p' hp'
      rw [hdone.payment_other hpid] at hp'
      exact ⟨p', hp', rfl⟩
    · intro p' hp'
      rw [hdone.payment_other hpid] at hp'
      exact h.fits p' hp'

/-! ## One step -/

theorem not_isLoyalty_value {m : RefundMethod} (h : m ≠ .loyaltyPoints) :
    ¬ isLoyalty m.value := by
  cases m <;> first | exact absurd rfl h | decide

/-- Where a refund of the payment is there, the status of the payment fits. -/
theorem StatusKept.payment_fits (h : StatusKept pid bid d)
    (hof : RefundOf d pid k fun _ => True) :
    ∀ p, Table.get d.payments pid = some p → PaymentStatusFits p := by
  obtain ⟨r, hr, hpid, -⟩ := hof
  exact fun p hp => h.fits p hp (h.total r (Table.get_some hr).1 hpid p hp)

theorem StatusKept.complete_step (h : StatusKept pid bid d) {source : String}
    {ref : Option String} {res : Option Json} {actorId : Option String} {publishEvent : Bool}
    {env : ℕ → Env}
    (hkeeps : KeepsStatuses pid bid d (.complete k source ref res actorId publishEvent, env)) :
    StatusKept pid bid (lifecycleStep d (.complete k source ref res actorId publishEvent, env)) ∧
      AfterSettling pid bid d (.complete k source ref res actorId publishEvent, env) := by
  rcases complete_cases (d := d) k source ref res actorId publishEvent env rfl with
    ⟨hsame, hdone⟩ | ⟨r, r', hr, hopen, ⟨now, hr'⟩, hrep, hdone⟩
  · rw [hsame]
    refine ⟨h, fun hof hok => ?_⟩
    obtain ⟨r, hr, hstatus⟩ := hdone hok
    have hfits := h.payment_fits hof
    obtain ⟨r₁, hr₁, hpid, -⟩ := hof
    rw [hr] at hr₁
    cases hr₁
    rw [hsame]
    exact ⟨hfits, hkeeps.2 ⟨r, hr, hpid, hstatus⟩⟩
  · obtain ⟨hkept, hfits⟩ := h.completed hr hopen ⟨now, _, _, hr'⟩ hrep hdone hkeeps.1
    refine ⟨hkept, fun hof _ => ?_⟩
    obtain ⟨r₁, hr₁, hpid, -⟩ := hof
    rw [hr] at hr₁
    cases hr₁
    exact hfits hpid

theorem StatusKept.fail_step (h : StatusKept pid bid d) {reason source : String}
    {ref : Option String} {res : Option Json} {actorId : Option String} {env : ℕ → Env}
    (hkeeps : KeepsStatuses pid bid d (.fail k reason source ref res actorId, env)) :
    StatusKept pid bid (lifecycleStep d (.fail k reason source ref res actorId, env)) ∧
      AfterSettling pid bid d (.fail k reason source ref res actorId, env) := by
  rcases fail_cases (d := d) k reason source ref res actorId env rfl with
    ⟨hsame, hdone⟩ | ⟨r, r', hr, hne, hne', hr', hrep, hdone⟩
  · rw [hsame]
    refine ⟨h, fun hof hok => ?_⟩
    obtain ⟨r, hr, hstatus⟩ := hdone hok
    have hfits := h.payment_fits hof
    obtain ⟨r₁, hr₁, hpid, -⟩ := hof
    rw [hr] at hr₁
    cases hr₁
    have hopen : r.status ≠ .completed := by
      rcases hstatus with hs | hs <;> simp [hs]
    have hfee : largestFee d pid none = largestFee d pid (some k) := by
      refine largestFee_exclude h.summary.unique hr fun hk => absurd hk.2.1 ?_
      rcases hstatus with hs | hs <;> simp [hs, committedStatuses, OPEN_STATUSES]
    rw [hsame]
    refine ⟨hfits, fun p hp b hb => ?_⟩
    rw [hfee]
    exact hkeeps.2 ⟨r, hr, hpid, hopen⟩ p hp b hb
  · obtain ⟨hkept, hfits⟩ := h.failed hr ⟨hne, hne'⟩ ⟨_, _, hr'⟩ hrep hdone hkeeps.1 hkeeps.2
    refine ⟨hkept, fun hof _ => ?_⟩
    obtain ⟨r₁, hr₁, hpid, -⟩ := hof
    rw [hr] at hr₁
    cases hr₁
    exact hfits hpid

/-- A step of a money refund that meets the condition keeps the invariant, and the statuses fit after
it. -/
theorem StatusKept.step (h : StatusKept pid bid d) (x : LifecycleOp × (ℕ → Env))
    (hmoney : MoneyStep pid d x) (hkeeps : KeepsStatuses pid bid d x) :
    StatusKept pid bid (lifecycleStep d x) ∧ AfterSettling pid bid d x := by
  obtain ⟨op, env⟩ := x
  have hsummary : ¬ Settles op → SummaryKept pid (lifecycleStep d (op, env)) := by
    intro hop
    refine h.summary.step (op, env) ?_
    cases op <;> first | exact absurd trivial hop | trivial
  rcases changed_of_step d (op, env) with hsame | hchanged
  · cases op with
    | complete => exact h.complete_step hkeeps
    | fail => exact h.fail_step hkeeps
    | _ =>
      rw [hsame]
      exact ⟨h, trivial⟩
  cases op with
  | request => exact ⟨h.requested hmoney hkeeps hchanged.1 hchanged.2.2, trivial⟩
  | updateRequestedAmounts =>
    refine ⟨h.moved ?_ (hsummary not_false) hchanged.2, trivial⟩
    rintro r r' - ⟨-, hnet, rfl⟩
    exact ⟨rfl, rfl, fun _ h => h, fun _ => hnet⟩
  | reject =>
    refine ⟨h.moved ?_ (hsummary not_false) hchanged.2, trivial⟩
    rintro r r' - ⟨-, now, rfl⟩
    exact ⟨rfl, rfl, fun _ h => h, fun h => h⟩
  | approve =>
    refine ⟨h.moved ?_ (hsummary not_false) hchanged.2, trivial⟩
    rintro r r' hr ⟨-, hnet, now, rfl⟩
    exact ⟨rfl, rfl, fun hpid _ => not_isLoyalty_value (hmoney ⟨r, hr, hpid, trivial⟩),
      fun _ => hnet⟩
  | markProcessing =>
    refine ⟨h.moved ?_ (hsummary not_false) hchanged.2, trivial⟩
    rintro r r' - ⟨-, now, rfl⟩
    refine ⟨rfl, rfl, fun _ _ => ?_, fun h => h⟩
    exact not_isLoyalty_value (m := .paymentGateway) (by decide)
  | complete => exact h.complete_step hkeeps
  | fail => exact h.fail_step hkeeps

/-! ## Runs -/

/-- Refunds of 4 and of 5 are completed with a fee of 1, and the first is taken back. -/
def twoRefunds : List (LifecycleOp × (ℕ → Env)) :=
  [(.request 7 (some 1) 4 1 "manual" "cash" none none none none, answers),
    (.complete 21 "ushdesk_manual_refund" none none none false, answers),
    (.request 7 (some 1) 5 1 "manual" "cash" none none none none, fun _ => { uuid := 22 }),
    (.complete 22 "ushdesk_manual_refund" none none none false, answers),
    (.fail 21 "reversed" "provider" none none none, answers)]

end Payment
