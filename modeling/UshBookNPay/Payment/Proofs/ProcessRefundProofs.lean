import UshBookNPay.Payment.Proofs.ServiceProofs

/-!
# An approved refund is executed at most once

`process_refund` reads the refund without a lock and checks its status before the provider is called,
so two overlapping calls both pass the check. Called one at a time, none of them rolled back after the
provider has accepted, it executes the refund at most once.
-/

open Transactions (Prog Ensures Session System Event Restores)
open Transactions

namespace Payment

variable {rid : Uuid} {number : String} {before : ℕ} {d d' : Db} {es es' : List Emission}

/-- The refund is no longer approved, or it has not been executed yet. -/
structure ProcessInv (rid : Uuid) (number : String) (before : ℕ) (d : Db)
    (es : List Emission) : Prop where
  refund : ∃ r, Table.get d.refunds rid = some r ∧ r.refundNumber = number ∧
    (r.status = .approved → executions rid number d es ≤ before)
  once : executions rid number d es ≤ before + 1

/-- The refund has been taken out of `approved`. -/
structure Executed (rid : Uuid) (number : String) (before : ℕ) (d : Db)
    (es : List Emission) : Prop where
  refund : ∃ r, Table.get d.refunds rid = some r ∧ r.refundNumber = number ∧ r.status ≠ .approved
  once : executions rid number d es ≤ before + 1

theorem Executed.processInv (h : Executed rid number before d es) :
    ProcessInv rid number before d es := by
  obtain ⟨r, hr, hnum, hstatus⟩ := h.refund
  exact ⟨⟨r, hr, hnum, fun happ => absurd happ hstatus⟩, h.once⟩

theorem executions_congr (hcalls : acceptedCalls es' = acceptedCalls es)
    (hcredits : d'.loyaltyTransactions = d.loyaltyTransactions) :
    executions rid number d' es' = executions rid number d es := by
  unfold executions callsFor loyaltyCredits
  rw [hcalls, hcredits]

theorem Executed.frame (h : Executed rid number before d es) (hframe : Frame d d')
    (hrows : d'.refunds = d.refunds) (hcalls : acceptedCalls es' = acceptedCalls es) :
    Executed rid number before d' es' := by
  refine ⟨hrows ▸ h.refund, ?_⟩
  rw [executions_congr hcalls hframe.loyaltyTransactions]
  exact h.once

theorem callsFor_refundCall (p : PaymentRow) (ref : String) (refund : RefundRow) :
    callsFor refund.id (es ++ [refundCall p ref refund]) = callsFor refund.id es + 1 := by
  rw [callsFor_append]
  simp [callsFor, acceptedCalls, refundCall, Emission.accepted]

theorem loyaltyCredits_append {t : LoyaltyTransactionRow}
    (h : d'.loyaltyTransactions = d.loyaltyTransactions ++ [t]) :
    loyaltyCredits number d' ≤ loyaltyCredits number d + 1 := by
  unfold loyaltyCredits
  rw [h, List.countP_append]
  have : List.countP (fun t => decide (t.description = creditDescription number)) [t] ≤ 1 :=
    List.countP_le_length
  omega

/-- Completing the refund takes it out of `approved`. -/
theorem ensures_complete_executed {mid : List Emission → Prop} {known : Known} {refund : RefundRow}
    {source : String} {providerReference : Option String} {gatewayResponse : Option Json}
    {actorId : Option String} (hmid : mid es)
    (hmid' : ∀ ev, mid (es ++ [Emission.refundCompleted ev]))
    (hr : Table.get d.refunds rid = some refund) (hnum : refund.refundNumber = number)
    (happ : refund.status = .approved) (honce : executions rid number d es ≤ before + 1) :
    Ensures mid (fun r d' es' => acceptedCalls es' = acceptedCalls es ∧ ∀ c, r = .ok c →
        Executed rid number before d' es' ∧ (∀ b, c.booking = some b → b.changes = id) ∧
        c.refund.changes = id)
      (complete known (.ofRow refund) source providerReference gatewayResponse actorId true) d
      es := by
  have hid : refund.id = rid := (Table.get_some hr).2
  refine (ensures_complete hmid hmid' (inStep_ofRow hr)).mono (fun _ h => h) ?_
  rintro r d' es' ⟨hone, h⟩
  refine ⟨hone.acceptedCalls, fun c hc => ?_⟩
  rcases h c hc with ⟨hdone, -, -⟩ | ⟨-, hframe, hbooking, now, hrow, hrep⟩
  · rw [Orm.ofRow_row, happ] at hdone
    exact absurd hdone (by decide)
  · have hget : Table.get d'.refunds rid = some c.refund.row := by
      have := hrep.1
      rwa [Orm.ofRow_row, hid] at this
    have hstatus : c.refund.row.status = .completed := by rw [hrow]; rfl
    have hnumber : c.refund.row.refundNumber = number := by rw [hrow]; exact hnum
    refine ⟨⟨⟨c.refund.row, hget, hnumber, by simp [hstatus]⟩, ?_⟩, hbooking, ?_⟩
    · rw [executions_congr hone.acceptedCalls hframe.loyaltyTransactions]
      exact honce
    · rw [hrow, Orm.ofRow_changes]

/-- The loyalty branch. -/
theorem ensures_processLoyaltyRefund {known : Known} {refund : RefundRow}
    {booking : Option BookingRow} {actorId : String}
    (hr : Table.get d.refunds rid = some refund) (hnum : refund.refundNumber = number)
    (happ : refund.status = .approved) (hbefore : executions rid number d es ≤ before) :
    Ensures (fun es' => executions rid number d es' ≤ before + 1)
      (Restores fun d' es' => Executed rid number before d' es')
      (processLoyaltyRefund known refund booking actorId) d es := by
  have hmid : ∀ es', acceptedCalls es' = acceptedCalls es →
      executions rid number d es' ≤ before + 1 := by
    intro es' hcalls
    rw [executions_congr hcalls rfl]
    omega
  have hes := hmid es rfl
  unfold processLoyaltyRefund
  refine (ensures_creditLoyalty hes).bind ?_ fun _ _ _ _ => trivial
  rintro _ d₁ es ⟨rfl, h⟩
  obtain ⟨hframe₁, htx⟩ := h () rfl
  have hr₁ : Table.get d₁.refunds rid = some refund := by rw [hframe₁.refunds, hr]
  have honce₁ : executions rid number d₁ es ≤ before + 1 := by
    unfold executions at hbefore ⊢
    rcases htx with htx | ⟨t, htx, -⟩
    · rw [loyaltyCredits, htx, ← loyaltyCredits]
      omega
    · have hle : loyaltyCredits number d₁ ≤ loyaltyCredits number d + 1 :=
        loyaltyCredits_append htx
      omega
  refine (ensures_complete_executed hes (fun ev => hmid _ (acceptedCalls_append_void rfl)) hr₁ hnum
    happ honce₁).bind ?_ fun _ _ _ _ => trivial
  rintro done d₂ es₂ ⟨hcalls₂, h⟩
  obtain ⟨hexec, hbooking, -⟩ := h done rfl
  refine (ensures_loyaltyBooking hbooking (hmid _ hcalls₂)).bind_returns ?_
  rintro _ d₃ es₃ ⟨rfl, hframe₃, hrows₃⟩
  exact hexec.frame hframe₃ hrows₃ rfl

/-- The money branch: at most one accepted call, and the refund completed after it. -/
theorem ensures_processMoneyRefund {known : Known} {refund : RefundRow}
    {payment : Option PaymentRow} {booking : Option BookingRow} {actorId : String}
    (hr : Table.get d.refunds rid = some refund) (hnum : refund.refundNumber = number)
    (happ : refund.status = .approved) (hbefore : executions rid number d es ≤ before) :
    Ensures (fun es' => executions rid number d es' ≤ before + 1)
      (Restores fun d' es' => Executed rid number before d' es')
      (processMoneyRefund known refund payment booking actorId) d es := by
  have hid : refund.id = rid := (Table.get_some hr).2
  have hcall : ∀ p ref, executions rid number d (es ++ [refundCall p ref refund]) ≤ before + 1 := by
    intro p ref
    unfold executions at hbefore ⊢
    have hcalls : callsFor rid (es ++ [refundCall p ref refund]) = callsFor rid es + 1 := by
      rw [← hid]
      exact callsFor_refundCall p ref refund
    omega
  unfold processMoneyRefund
  refine (ensures_executeRefund (by omega) hcall).bind ?_ fun _ _ _ _ => trivial
  rintro res d es₁ ⟨rfl, hres⟩
  have honce₁ : executions rid number d es₁ ≤ before + 1 := by
    rcases hres with ⟨rfl, -⟩ | ⟨p, ref, x, rfl, -⟩
    · omega
    · exact hcall p ref
  have hmid : ∀ es', acceptedCalls es' = acceptedCalls es₁ →
      executions rid number d es' ≤ before + 1 := by
    intro es' hcalls
    rw [executions_congr hcalls rfl]
    exact honce₁
  refine (ensures_complete_executed honce₁ (fun ev => hmid _ (acceptedCalls_append_void rfl)) hr hnum
    happ honce₁).bind ?_ fun _ _ _ _ => trivial
  rintro done d₂ es₂ ⟨hcalls₂, h⟩
  obtain ⟨hexec, -, hchanges⟩ := h done rfl
  -- the credit note is asked for, and the last flush has nothing left to write
  refine (Ensures.forSome (Q := fun _ d' es' => d' = d₂ ∧ acceptedCalls es' = acceptedCalls es₂)
    ⟨rfl, rfl⟩ fun b _ => ?_).bind_returns ?_
  · rw [ensures_emit]
    have hnote : ∀ e : Emission, e.void → acceptedCalls (es₂ ++ [e]) = acceptedCalls es₂ :=
      fun e he => acceptedCalls_append_void (by simp [he])
    exact ⟨hmid _ ((hnote _ rfl).trans hcalls₂), rfl, hnote _ rfl⟩
  rintro _ d₂ es₃ ⟨rfl, hcalls₃⟩
  refine (ensures_flushRefund_idle (hmid _ (hcalls₃.trans hcalls₂)) hchanges).mono (fun _ h => h) ?_
  rintro (e | o) d₄ es₄ ⟨rfl, h⟩
  · trivial
  · obtain rfl := h o rfl
    exact hexec.frame (Frame.refl _) rfl hcalls₃

/-- `process_refund`, run alone, executes a refund that has not been executed yet. -/
theorem ensures_processCode {actorId : ProcessCall} (h : ProcessInv rid number before d es) :
    Ensures (fun es' => executions rid number d es' ≤ before + 1)
      (Restores (ProcessInv rid number before)) (processCode rid actorId) d es := by
  obtain ⟨r, hr, hnum, hfresh⟩ := h.refund
  have hexec : ∀ (res : Except Error (Orm RefundRow)) (d' : Db) (es' : List Emission),
      Restores (Executed rid number before) res d' es' →
      Restores (ProcessInv rid number before) res d' es' := by
    rintro (e | o) d' es' h
    · trivial
    · exact Executed.processInv h
  unfold processCode processRefund getRefundById
  refine Ensures.bind (Q := Restores (ProcessInv rid number before)) ?_
    (fun _ _ _ h => h) (fun _ _ _ h => h)
  refine Ensures.bind_reads (ensures_load h.once) (fun refund hrefund => ?_) fun _ => trivial
  have heq : r = refund := Option.some.inj (hr.symm.trans hrefund)
  subst heq
  rw [ensures_bind_raiseIf]
  refine ⟨fun _ => trivial, fun happ => ?_⟩
  have happ' : r.status = .approved := not_not.mp happ
  refine Ensures.bind_reads (ensures_bookingOfRefund h.once) (fun booking _ => ?_) fun _ => trivial
  refine Ensures.bind_reads (ensures_paymentOfBooking h.once) (fun payment _ => ?_) fun _ => trivial
  dsimp only
  by_cases hloyal : isLoyalty r.refundMethod = true
  · rw [if_pos hloyal]
    exact (ensures_processLoyaltyRefund hr hnum happ' (hfresh happ')).mono (fun _ h => h) hexec
  · rw [if_neg hloyal]
    exact (ensures_processMoneyRefund hr hnum happ' (hfresh happ')).mono (fun _ h => h) hexec

/-! ## Runs -/

/-- Along a run of calls that follow one another, none rolled back after its acceptance, the refund is
executed at most once. -/
theorem refund_executed_at_most_once {d : Db} {rid : Uuid} {refund : RefundRow}
    (hr : Table.get d.refunds rid = some refund) {evs : List (Event ProcessCall Env)}
    (h : Runs.AllSteps (processStep rid) OneAtATime { db := d } evs) :
    Runs.Always (processStep rid)
      (ExecutedAtMostOnce rid refund.refundNumber (loyaltyCredits refund.refundNumber d))
      { db := d } evs := by
  have hstart : executions rid refund.refundNumber d [] = loyaltyCredits refund.refundNumber d :=
    Nat.zero_add _
  obtain ⟨before, hbefore⟩ : ∃ n, n = loyaltyCredits refund.refundNumber d := ⟨_, rfl⟩
  rw [← hbefore] at hstart ⊢
  have hinit : ProcessInv rid refund.refundNumber before d [] := by
    refine ⟨⟨refund, hr, rfl, fun _ => ?_⟩, ?_⟩ <;> omega
  have hgood : ∀ d es, ProcessInv rid refund.refundNumber before d es →
      executions rid refund.refundNumber d es ≤ before + 1 := fun d es hI => hI.once
  have hvoid : ∀ d es es', ProcessInv rid refund.refundNumber before d es →
      es'.all Emission.void → ProcessInv rid refund.refundNumber before d (es ++ es') := by
    rintro d es es' ⟨⟨r, hr, hnum, hfresh⟩, honce⟩ hv
    have hcalls : acceptedCalls (es ++ es') = acceptedCalls es := acceptedCalls_append_void hv
    refine ⟨⟨r, hr, hnum, fun happ => ?_⟩, ?_⟩
    · rw [executions_congr hcalls rfl]
      exact hfresh happ
    · rw [executions_congr hcalls rfl]
      exact honce
  exact always_of_serial hgood hvoid (fun d es actorId hI _ => ensures_processCode hI) hinit h

/-! ## An approved refund of 10.000 -/

def moneyRefund : RefundRow :=
  { id := 21
    refundNumber := "REF/2026/10/000001"
    bookingId := some 7
    paymentId := some 1
    status := .approved
    refundMethod := "money"
    requestedAmount := 10000
    refundedAmount := 10000 }

/-- A cancelled booking paid by card, with an approved refund. -/
def approvedRefund : Db where
  payments := [
    { id := 1
      bookingId := some 7
      totalAmount := 10000
      status := some .success
      paymentProvider := some "tap"
      paymentId := some "chg_1" }]
  bookings := [
    { id := 7
      customerId := 3
      therapistId := 4
      appointmentStart := 0
      appointmentEnd := 0
      totalAmount := 10000
      status := .cancelled
      paymentStatus := .success }]
  refunds := [moneyRefund]

/-- The provider accepts every refund. -/
def accepting : Env := { refund := .ok { isSuccessful := true, providerRefundId := some "re_1" } }

/-- A call of the session `sid`, from its beginning to its commit. -/
def wholeCall (sid : ℕ) : List (Event ProcessCall Env) :=
  .start sid none :: List.replicate 20 (.exec sid accepting) ++ [.finish sid]

theorem refund_executed_once_in_two_calls :
    Runs.Always (processStep 21) (ExecutedAtMostOnce 21 moneyRefund.refundNumber
      (loyaltyCredits moneyRefund.refundNumber approvedRefund))
      { db := approvedRefund } (wholeCall 1 ++ wholeCall 2) := by
  have hrow : Table.get approvedRefund.refunds 21 = some moneyRefund := rfl
  exact refund_executed_at_most_once hrow (by decide +kernel)

/-- Two calls overlap: both pass the status check before either has completed the refund. -/
def overlappingCalls : List (Event ProcessCall Env) :=
  [.start 1 none, .start 2 none] ++ List.replicate 4 (.exec 1 accepting) ++
    List.replicate 4 (.exec 2 accepting)

theorem refund_executed_twice_by_overlapping_calls :
    callsFor 21 (Runs.run (processStep 21) { db := approvedRefund } overlappingCalls).log = 2 ∧
      ¬ Runs.Always (processStep 21) (ExecutedAtMostOnce 21 "REF/2026/10/000001" 0)
        { db := approvedRefund } overlappingCalls := by
  refine ⟨by decide +kernel, fun h => ?_⟩
  have hlast : ExecutedAtMostOnce 21 "REF/2026/10/000001" 0
      (Runs.run (processStep 21) { db := approvedRefund } overlappingCalls) := h.last
  exact absurd hlast (by decide +kernel)

end Payment
