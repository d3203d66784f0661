import UshBookNPay.Payment.Proofs.RefundCapProofs
import UshBookNPay.Payment.Proofs.ServiceProofs

/-!
# The invariant of the money sent back

Every accepted call belongs to a refund in `processing` or `completed` with the amount of the call, and
no refund has two. The money sent back is then at most the committed sum, which the cap bounds by the
total of the payment.
-/

open Transactions (Prog Ensures)
open Transactions

namespace Payment

variable {bid pid : Uuid} {total : Fils} {d d' : Db} {es es' : List Emission}

/-! ## Calls and refunds -/

/-- The statuses of a refund the provider has accepted. -/
def executedStatuses : List RefundStatus := [.processing, .completed]

/-- The accepted calls are those of executed refunds of the table, one for each. -/
structure CallsMatch (refunds : List RefundRow) (calls : List (Uuid × Fils)) : Prop where
  nodup : (calls.map Prod.fst).Nodup
  row : ∀ c ∈ calls, ∃ r, Table.get refunds c.1 = some r ∧ r.status ∈ executedStatuses ∧
    r.refundedAmount = c.2

theorem mem_committed_of_executed {s : RefundStatus} (h : s ∈ executedStatuses) :
    s ∈ committedStatuses := by
  cases s <;> simp_all [executedStatuses, committedStatuses, OPEN_STATUSES]

/-- What a refund sends back is at most what it has committed. -/
theorem moneySentBack_le {refunds : List RefundRow} {calls : List (Uuid × Fils)}
    (hu : Table.Unique refunds) (hcalls : CallsMatch refunds calls)
    (hpay : ∀ r ∈ refunds, r.paymentId = some pid) (hpos : ∀ r ∈ refunds, 0 ≤ r.refundedAmount) :
    moneySentBack refunds calls ≤ Table.total (committedShare pid) refunds := by
  unfold moneySentBack
  rw [Table.sum_entries (w := RefundRow.refundedAmount) hu hcalls.nodup
    fun c hc => by obtain ⟨r, hr, -, ha⟩ := hcalls.row c hc; exact ⟨r, hr, ha⟩]
  rw [Table.total_add]
  refine Table.total_le fun r hr => ?_
  have hkey : Table.Keyed.key r = r.id := rfl
  have hshare : r.status ∈ committedStatuses → committedShare pid r = r.refundedAmount :=
    fun hs => if_pos ⟨hpay r hr, hs⟩
  have hnonneg : 0 ≤ committedShare pid r := by
    unfold committedShare
    split_ifs
    · exact hpos r hr
    · exact le_refl 0
  by_cases hcalled : r.id ∈ calls.map Prod.fst
  · -- called: the row is executed, and nothing is handed back at the desk
    obtain ⟨c, hc, hid⟩ := List.mem_map.mp hcalled
    obtain ⟨r', hr', hstatus, -⟩ := hcalls.row c hc
    have hrow : r' = r := Table.eq_of_key_eq hu (Table.get_some hr').1 hr
      ((Table.get_some hr').2.trans hid)
    subst hrow
    rw [hkey, if_pos hcalled, hshare (mem_committed_of_executed hstatus)]
    simp [deskAmount, hcalled]
  · rw [hkey, if_neg hcalled, Int.zero_add]
    unfold deskAmount
    split_ifs with hdesk
    · rw [hshare (by simp [hdesk.1, committedStatuses])]
    · exact hnonneg

theorem CallsMatch.erase {refunds : List RefundRow} {calls : List (Uuid × Fils)} {k : Uuid}
    (h : CallsMatch refunds calls) (hnew : k ∉ calls.map Prod.fst) :
    CallsMatch (Table.erase refunds k) calls := by
  refine ⟨h.nodup, fun c hc => ?_⟩
  obtain ⟨r, hr, hstatus, ha⟩ := h.row c hc
  have hne : c.1 ≠ k := fun he => hnew (he ▸ List.mem_map_of_mem hc)
  exact ⟨r, (Table.get_erase_of_ne hne).trans hr, hstatus, ha⟩

/-- With one call more, for a refund that is not completed, the money sent back stays within the total
where the payment has room for the call. -/
theorem moneySentBack_call_le {refunds : List RefundRow} {calls : List (Uuid × Fils)} {k : Uuid}
    {amount : Fils} (hu : Table.Unique refunds) (hcalls : CallsMatch refunds calls)
    (hpay : ∀ r ∈ refunds, r.paymentId = some pid) (hpos : ∀ r ∈ refunds, 0 ≤ r.refundedAmount)
    (hnew : k ∉ calls.map Prod.fst)
    (hopen : ∀ r, Table.get refunds k = some r → r.status ≠ .completed)
    (hroom : Table.total (committedShare pid) (Table.erase refunds k) + amount ≤ total) :
    moneySentBack refunds (calls ++ [(k, amount)]) ≤ total := by
  have hothers := moneySentBack_le (hu.erase k) (hcalls.erase hnew)
    (fun r hr => hpay r (Table.mem_erase.mp hr).1) fun r hr => hpos r (Table.mem_erase.mp hr).1
  have hdesk : Table.total (deskAmount (calls ++ [(k, amount)])) refunds =
      Table.total (deskAmount calls) (Table.erase refunds k) := by
    have hsame : Table.total (deskAmount (calls ++ [(k, amount)])) (Table.erase refunds k) =
        Table.total (deskAmount calls) (Table.erase refunds k) := by
      refine Table.total_congr fun r hr => ?_
      have hne : r.id ≠ k := (Table.mem_erase.mp hr).2
      have hmem : r.id ∉ (calls ++ [(k, amount)]).map Prod.fst ↔ r.id ∉ calls.map Prod.fst := by
        simp [hne]
      exact if_congr (and_congr Iff.rfl (and_congr Iff.rfl hmem)) rfl rfl
    cases hr : Table.get refunds k with
    | none => rw [← hsame, Table.total_erase_of_none hr]
    | some r =>
      have hzero : deskAmount (calls ++ [(k, amount)]) r = 0 := if_neg fun h => hopen r hr h.1
      rw [Table.total_eq_erase_add hu hr, hsame, hzero, Int.add_zero]
  unfold moneySentBack at hothers ⊢
  rw [hdesk, List.map_append, List.sum_append, List.map_singleton, List.sum_singleton]
  dsimp only
  linarith

/-! ## The invariant -/

/-- The only payment of the booking is `pid`, its refunds keep the cap, and the accepted calls are
those of executed refunds. -/
structure SentInv (bid pid : Uuid) (total : Fils) (d : Db) (es : List Emission) : Prop where
  wf : RefundsWf pid total d
  cap : CapHolds pid d
  payment : ∃ p, d.payments.filter (·.bookingId = some bid) = [p] ∧ p.id = pid ∧
    p.totalAmount = total
  unique : Table.Unique d.payments
  refunds : ∀ r ∈ d.refunds, r.paymentId = some pid
  calls : CallsMatch d.refunds (acceptedCalls es)

/-- The bound, as the invariant of the transactions in flight states it. -/
def Bounded (total : Fils) (d : Db) (es : List Emission) : Prop :=
  moneySentBack d.refunds (acceptedCalls es) ≤ total

theorem Bounded.congr (h : Bounded total d es) (hcalls : acceptedCalls es' = acceptedCalls es) :
    Bounded total d es' := by
  unfold Bounded
  rw [hcalls]
  exact h

theorem sentBackWithin_iff {total : Fils} {s : RefundSystem} :
    SentBackWithin total s ↔ Bounded total s.db s.log := by
  have h : SentBackWithin total s ↔ ¬ exceeds (moneySentBack s.db.refunds (acceptedCalls s.log))
      total := by
    simp [SentBackWithin, exceeds]
  rw [h, exceeds_iff, not_lt]
  rfl

theorem SentInv.bounded (h : SentInv bid pid total d es) : Bounded total d es :=
  le_trans (moneySentBack_le h.wf.unique h.calls h.refunds
    fun r hr => h.wf.nonneg r hr (h.refunds r hr)) (h.wf.capHolds_iff.mp h.cap)

/-- A call for a refund that is not executed yet, where the payment has room for it. -/
theorem SentInv.bounded_call (h : SentInv bid pid total d es) {k : Uuid} {amount : Fils}
    (hnew : ∀ r, Table.get d.refunds k = some r → r.status ∉ executedStatuses)
    (hroom : sumOf d pid committedStatuses (some k) + amount ≤ total)
    (hes : acceptedCalls es' = acceptedCalls es ++ [(k, amount)]) : Bounded total d es' := by
  unfold Bounded
  rw [hes]
  rw [sumOf_some] at hroom
  refine moneySentBack_call_le h.wf.unique h.calls h.refunds
    (fun r hr => h.wf.nonneg r hr (h.refunds r hr)) (fun hmem => ?_) (fun r hr hc => ?_) hroom
  · obtain ⟨c, hc, rfl⟩ := List.mem_map.mp hmem
    obtain ⟨r, hr, hstatus, -⟩ := h.calls.row c hc
    exact hnew r hr hstatus
  · exact hnew r hr (by simp [hc, executedStatuses])

theorem fixedPayment_filter (rows : List PaymentRow) :
    (rows.filter (·.bookingId = some bid)).map fixedPayment =
      (rows.map fixedPayment).filter (·.bookingId = some bid) := by
  rw [List.filter_map]
  rfl

theorem SentInv.payment_frame (h : SentInv bid pid total d es) (hframe : Frame d d') :
    ∃ p, d'.payments.filter (·.bookingId = some bid) = [p] ∧ p.id = pid ∧
      p.totalAmount = total := by
  obtain ⟨p, hp, hid, htotal⟩ := h.payment
  have heq : (d'.payments.filter (·.bookingId = some bid)).map fixedPayment = [fixedPayment p] := by
    rw [fixedPayment_filter, hframe.payments, ← fixedPayment_filter, hp]
    rfl
  obtain ⟨p', hp', hfixed⟩ := List.map_eq_singleton_iff.mp heq
  have hid' : (fixedPayment p').id = (fixedPayment p).id := by rw [hfixed]
  have htotal' : (fixedPayment p').totalAmount = (fixedPayment p).totalAmount := by rw [hfixed]
  exact ⟨p', hp', hid'.trans hid, htotal'.trans htotal⟩

theorem Frame.uniquePayments (hframe : Frame d d') (h : Table.Unique d.payments) :
    Table.Unique d'.payments := by
  have hkeys : ∀ rows : List PaymentRow, (rows.map fixedPayment).map Table.Keyed.key =
      rows.map Table.Keyed.key := by
    intro rows
    rw [List.map_map]
    rfl
  unfold Table.Unique at h ⊢
  rw [← hkeys, hframe.payments, hkeys]
  exact h

/-- What leaves the refunds as they are keeps the invariant. -/
theorem SentInv.frame (h : SentInv bid pid total d es) (hframe : Frame d d')
    (hrows : d'.refunds = d.refunds) (hcalls : acceptedCalls es' = acceptedCalls es) :
    SentInv bid pid total d' es' := by
  have hwf := h.wf.frame hframe hrows
  refine ⟨hwf, ?_, h.payment_frame hframe, hframe.uniquePayments h.unique,
    hrows ▸ h.refunds, ?_⟩
  · rw [hwf.capHolds_iff, hrows]
    exact h.wf.capHolds_iff.mp h.cap
  · rw [hrows, hcalls]
    exact h.calls

/-- A refund of the payment replaced within the cap, with calls that match the new row. -/
theorem SentInv.replaces (h : SentInv bid pid total d es) {k : Uuid} {r' : RefundRow}
    (hframe : Frame d d')
    (hrep : Table.Replaces d.refunds k r' d'.refunds) (hpay : r'.paymentId = some pid)
    (hpos : 0 ≤ r'.refundedAmount)
    (hroom : sumOf d pid committedStatuses (some k) + committedShare pid r' ≤ total)
    (hmatch : CallsMatch d'.refunds (acceptedCalls es')) : SentInv bid pid total d' es' := by
  obtain ⟨hwf, hcap⟩ := h.wf.replaces hframe hrep fun _ => hpos
  refine ⟨hwf, hcap.mpr hroom, h.payment_frame hframe, hframe.uniquePayments h.unique,
    fun x hx => ?_, hmatch⟩
  rcases hrep.mem h.wf.unique hx with rfl | ⟨hx, -⟩
  · exact hpay
  · exact h.refunds x hx

/-- The calls of the other refunds match after one row is replaced. -/
theorem CallsMatch.replaces {refunds refunds' : List RefundRow} {calls : List (Uuid × Fils)}
    {k : Uuid} {r r' : RefundRow} (h : CallsMatch refunds calls)
    (hr : Table.get refunds k = some r) (hrep : Table.Replaces refunds k r' refunds')
    (hkeep : r.status ∈ executedStatuses →
      r'.status ∈ executedStatuses ∧ r'.refundedAmount = r.refundedAmount) :
    CallsMatch refunds' calls := by
  refine ⟨h.nodup, fun c hc => ?_⟩
  obtain ⟨x, hx, hstatus, ha⟩ := h.row c hc
  by_cases hk : c.1 = k
  · rw [hk, hr] at hx
    cases hx
    obtain ⟨hstatus', ha'⟩ := hkeep hstatus
    exact ⟨r', hk ▸ hrep.1, hstatus', ha'.trans ha⟩
  · exact ⟨x, (hrep.get_of_ne hk).trans hx, hstatus, ha⟩

/-- A transition without a call: an executed refund stays executed with its amount. -/
theorem SentInv.update (h : SentInv bid pid total d es) {k : Uuid} {r r' : RefundRow}
    (hr : Table.get d.refunds k = some r) (hframe : Frame d d')
    (hrep : Table.Replaces d.refunds k r' d'.refunds) (hpay : r'.paymentId = some pid)
    (hpos : 0 ≤ r'.refundedAmount)
    (hroom : sumOf d pid committedStatuses (some k) + committedShare pid r' ≤ total)
    (hkeep : r.status ∈ executedStatuses →
      r'.status ∈ executedStatuses ∧ r'.refundedAmount = r.refundedAmount)
    (hcalls : acceptedCalls es' = acceptedCalls es) : SentInv bid pid total d' es' :=
  h.replaces hframe hrep hpay hpos hroom (hcalls ▸ h.calls.replaces hr hrep hkeep)

/-- A transition after the accepted call of a refund that was not executed. -/
theorem SentInv.sent (h : SentInv bid pid total d es) {k : Uuid} {r r' : RefundRow}
    (hr : Table.get d.refunds k = some r) (hframe : Frame d d')
    (hrep : Table.Replaces d.refunds k r' d'.refunds) (hpay : r'.paymentId = some pid)
    (hpos : 0 ≤ r'.refundedAmount)
    (hroom : sumOf d pid committedStatuses (some k) + committedShare pid r' ≤ total)
    (hnew : r.status ∉ executedStatuses) (hexec : r'.status ∈ executedStatuses)
    (hcalls : acceptedCalls es' = acceptedCalls es ++ [(k, r'.refundedAmount)]) :
    SentInv bid pid total d' es' := by
  have hmatch := h.calls.replaces hr hrep fun hs => absurd hs hnew
  refine h.replaces hframe hrep hpay hpos hroom ?_
  rw [hcalls]
  refine ⟨?_, fun c hc => ?_⟩
  · rw [List.map_append, List.map_singleton, List.nodup_append]
    refine ⟨hmatch.nodup, by simp, ?_⟩
    rintro x hx y hy rfl
    rw [List.mem_singleton] at hy
    obtain ⟨c, hc, rfl⟩ := List.mem_map.mp hx
    obtain ⟨x, hx, hstatus, -⟩ := h.calls.row c hc
    rw [hy, hr] at hx
    cases hx
    exact hnew hstatus
  · rcases List.mem_append.mp hc with hc | hc
    · exact hmatch.row c hc
    · rw [List.mem_singleton] at hc
      subst hc
      exact ⟨r', hrep.1, hexec, rfl⟩

/-- A new refund of the payment within the cap. -/
theorem SentInv.insert (h : SentInv bid pid total d es) {r : RefundRow} (hframe : Frame d d')
    (hrows : d'.refunds = d.refunds ++ [r]) (hnew : Table.get d.refunds r.id = none)
    (hpay : r.paymentId = some pid) (hpos : 0 ≤ r.refundedAmount)
    (hroom : sumOf d pid committedStatuses none + committedShare pid r ≤ total) :
    SentInv bid pid total d' es := by
  obtain ⟨hwf, hcap⟩ := h.wf.insert hframe hrows hnew fun _ => hpos
  refine ⟨hwf, hcap.mpr hroom, h.payment_frame hframe, hframe.uniquePayments h.unique,
    fun x hx => ?_, h.calls.nodup, fun c hc => ?_⟩
  · rw [hrows, List.mem_append, List.mem_singleton] at hx
    rcases hx with hx | rfl
    · exact h.refunds x hx
    · exact hpay
  · obtain ⟨x, hx, hstatus, ha⟩ := h.calls.row c hc
    exact ⟨x, by rw [hrows, Table.get_append_of_some hx], hstatus, ha⟩

end Payment
