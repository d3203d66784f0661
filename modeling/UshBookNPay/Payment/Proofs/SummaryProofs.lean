import UshBookNPay.Payment.Proofs.StepProofs

/-!
# The refunded amount of a payment over runs of transitions

In a run that writes no summary beside a refund paid out in loyalty points, the payment holds what its
completed refunds have paid back as money.
-/

open Transactions

namespace Payment

/-! ## The sums -/

/-- What a refund adds to the money paid back for the payment `pid`. -/
def moneyShare (pid : Uuid) (r : RefundRow) : Fils :=
  if r.paymentId = some pid ∧ r.status = .completed ∧ ¬ isLoyalty r.refundMethod then
    r.refundedAmount else 0

/-- What a refund adds to the total `complete` and `fail` recompute for the payment `pid`. -/
def completedShare (pid : Uuid) (r : RefundRow) : Fils :=
  if r.paymentId = some pid ∧ r.status = .completed then r.refundedAmount else 0

variable {pid : Uuid} {d d' : Db} {k : Uuid} {r r' : RefundRow}

theorem moneyRefunded_eq (d : Db) (pid : Uuid) :
    moneyRefunded d pid = Table.total (moneyShare pid) d.refunds := by
  unfold moneyRefunded
  rw [total_filter_eq]
  rfl

theorem sumOf_completed (d : Db) (pid : Uuid) :
    sumOf d pid [.completed] none = Table.total (completedShare pid) d.refunds := by
  unfold sumOf
  rw [total_filter_eq]
  exact Table.total_congr fun r _ => by simp [completedShare]

theorem moneyShare_of_not_completed (h : r.status ≠ .completed) : moneyShare pid r = 0 :=
  if_neg fun hc => h hc.2.1

theorem moneyShare_of_other (h : r.paymentId ≠ some pid) : moneyShare pid r = 0 :=
  if_neg fun hc => h hc.1

theorem moneyRefunded_append (hrows : d'.refunds = d.refunds ++ [r]) :
    moneyRefunded d' pid = moneyRefunded d pid + moneyShare pid r := by
  rw [moneyRefunded_eq, moneyRefunded_eq, hrows, Table.total_append, Table.total_singleton]

/-- One refund replaced: the money paid back changes by its share. -/
theorem moneyRefunded_replaces (pid : Uuid) (hu : Table.Unique d.refunds)
    (hr : Table.get d.refunds k = some r) (hrep : Table.Replaces d.refunds k r' d'.refunds) :
    moneyRefunded d' pid + moneyShare pid r = moneyRefunded d pid + moneyShare pid r' := by
  rw [moneyRefunded_eq, moneyRefunded_eq, hrep.total hu, Table.total_eq_erase_add hu hr]
  ring

/-- Beside no refund paid out in points, the recomputed total is the money paid back. -/
theorem sumOf_completed_eq (hu : Table.Unique d.refunds) (hno : NoPointsPaid d pid k)
    (hrep : Table.Replaces d.refunds k r' d'.refunds)
    (hr' : completedShare pid r' = moneyShare pid r') :
    sumOf d' pid [.completed] none = moneyRefunded d' pid := by
  rw [sumOf_completed, moneyRefunded_eq, hrep.total hu, hrep.total hu, hr']
  have hothers : ∀ x ∈ Table.erase d.refunds k, completedShare pid x = moneyShare pid x := by
    intro x hx
    obtain ⟨hmem, hne⟩ := Table.mem_erase.mp hx
    unfold completedShare moneyShare
    by_cases hc : x.paymentId = some pid ∧ x.status = .completed
    · have hmoney := hno x hmem hc.1 hc.2 hne
      rw [if_pos hc, if_pos ⟨hc.1, hc.2, hmoney⟩]
    · rw [if_neg hc, if_neg fun h => hc ⟨h.1, h.2.1⟩]
  rw [Table.total_congr hothers]

/-! ## One step -/

/-- Refund ids are unique and the payment holds the money paid back. -/
structure SummaryKept (pid : Uuid) (d : Db) : Prop where
  unique : Table.Unique d.refunds
  exact : SummaryExact pid d

/-- Where the payment stays and no money comes or goes, the summary stays exact. -/
theorem SummaryKept.of_same (h : SummaryKept pid d) (hu : Table.Unique d'.refunds)
    (hpay : Table.get d'.payments pid = Table.get d.payments pid)
    (hmoney : moneyRefunded d' pid = moneyRefunded d pid) : SummaryKept pid d' := by
  refine ⟨hu, fun p hp => ?_⟩
  rw [hmoney]
  exact h.exact p (hpay ▸ hp)

theorem SummaryKept.requested (h : SummaryKept pid d) {bid : Uuid} {q : Option Uuid} {net fee : Fils}
    {refundMethod : String} (hpay : d'.payments = d.payments)
    (hrow : RequestedRow d bid q net fee refundMethod d'.refunds) : SummaryKept pid d' := by
  obtain ⟨r, hnew, hrows, -, -, hstatus, -⟩ := hrow
  have hshare : moneyShare pid r = 0 := moneyShare_of_not_completed (by rw [hstatus]; decide)
  refine h.of_same (hrows ▸ Table.Unique.append h.unique hnew) (by rw [hpay]) ?_
  rw [moneyRefunded_append hrows, hshare, add_zero]

/-- A transition that neither completes nor takes back a refund. -/
theorem SummaryKept.moved (h : SummaryKept pid d) {P : RefundRow → RefundRow → Prop}
    (hP : ∀ r r', P r r' → r.status ≠ .completed ∧ r'.status ≠ .completed) (hm : Moved d k P d') :
    SummaryKept pid d' := by
  obtain ⟨hpay, r, r', hr, hp, hrep⟩ := hm
  obtain ⟨hne, hne'⟩ := hP r r' hp
  have hmoney := moneyRefunded_replaces pid h.unique hr hrep
  rw [moneyShare_of_not_completed hne, moneyShare_of_not_completed hne', add_zero, add_zero] at hmoney
  exact h.of_same (hrep.unique h.unique) (by rw [hpay]) hmoney

theorem SummaryKept.completed (h : SummaryKept pid d) (hr : Table.get d.refunds k = some r)
    (hopen : r.status ∈ OPEN_STATUSES) (hr' : ∃ now ref res, r' = completedColumns now ref res r)
    (hrep : Table.Replaces d.refunds k r' d'.refunds) (hdone : CompletedIn d d' r)
    (hkeeps : CompletesMoney d pid k → NoPointsPaid d pid k) : SummaryKept pid d' := by
  obtain ⟨now, ref, res, rfl⟩ := hr'
  have hopen' : r.status ≠ .completed := fun hc => by
    rw [hc] at hopen
    exact absurd hopen (by decide)
  have hmoney := moneyRefunded_replaces pid h.unique hr hrep
  rw [moneyShare_of_not_completed hopen', add_zero] at hmoney
  have hid : r.id = k := (Table.get_some hr).2
  have hu := hrep.unique h.unique
  by_cases hpid : r.paymentId = some pid
  · by_cases hloyal : isLoyalty r.refundMethod = true
    · have hshare : moneyShare pid (completedColumns now ref res r) = 0 :=
        if_neg fun hc => hc.2.2 hloyal
      rw [hshare, add_zero] at hmoney
      exact h.of_same hu (by rw [hdone.payment.points hloyal]) hmoney
    · have hshare : moneyShare pid (completedColumns now ref res r) = r.refundedAmount :=
        if_pos ⟨hpid, rfl, hloyal⟩
      have hshare' : completedShare pid (completedColumns now ref res r) =
          moneyShare pid (completedColumns now ref res r) := by
        rw [hshare]
        exact if_pos ⟨hpid, rfl⟩
      rw [hshare] at hmoney
      refine ⟨hu, fun p' hp' => ?_⟩
      obtain ⟨p, a, hp, -, hcap, rfl⟩ := hdone.payment_of hpid hloyal hp'
      rw [hid] at hcap
      have hno := hkeeps ⟨r, p, hr, hp, hpid, hopen, hloyal, hcap⟩
      have hpk : p.id = pid := (Table.get_some hp).2
      show max (sumOf d' p.id [.completed] none) (p.amountRefunded + r.refundedAmount) = _
      rw [hpk, sumOf_completed_eq h.unique hno hrep hshare', h.exact p hp, ← hmoney, max_self]
  · rw [moneyShare_of_other (r := completedColumns now ref res r) hpid, add_zero] at hmoney
    exact h.of_same hu (hdone.payment_other hpid) hmoney

theorem SummaryKept.failed (h : SummaryKept pid d) (hr : Table.get d.refunds k = some r)
    (hopen : r.status ≠ .failed ∧ r.status ≠ .cancelled)
    (hr' : ∃ reason res, r' = failedColumns reason res r)
    (hrep : Table.Replaces d.refunds k r' d'.refunds) (hdone : FailedIn d d' r)
    (hkeeps : FailsRefund d pid k → NoPointsPaid d pid k) : SummaryKept pid d' := by
  obtain ⟨reason, res, rfl⟩ := hr'
  have hshare : moneyShare pid (failedColumns reason res r) = 0 :=
    moneyShare_of_not_completed (by simp)
  have hshare' : completedShare pid (failedColumns reason res r) =
      moneyShare pid (failedColumns reason res r) := by
    rw [hshare]
    exact if_neg fun hc => (by cases hc.2)
  have hmoney := moneyRefunded_replaces pid h.unique hr hrep
  have hu := hrep.unique h.unique
  by_cases hpid : r.paymentId = some pid
  · have hno := hkeeps ⟨r, hr, hpid, hopen⟩
    refine ⟨hu, fun p' hp' => ?_⟩
    obtain ⟨p, a, -, -, rfl⟩ := hdone.payment_of hpid hp'
    exact sumOf_completed_eq h.unique hno hrep hshare'
  · rw [hshare, moneyShare_of_other hpid, add_zero, add_zero] at hmoney
    exact h.of_same hu (hdone.payment_other hpid) hmoney

/-- A step that meets the condition keeps the summary exact. -/
theorem SummaryKept.step (h : SummaryKept pid d) (x : LifecycleOp × (ℕ → Env))
    (hkeeps : KeepsSummary pid d x) : SummaryKept pid (lifecycleStep d x) := by
  rcases changed_of_step d x with hsame | hchanged
  · rw [hsame]
    exact h
  obtain ⟨op, env⟩ := x
  cases op with
  | request => exact h.requested hchanged.1 hchanged.2.2
  | updateRequestedAmounts =>
    refine h.moved ?_ hchanged.2
    rintro r r' ⟨hreq, -, rfl⟩
    exact ⟨by simp [hreq], by simp [hreq]⟩
  | reject =>
    refine h.moved ?_ hchanged.2
    rintro r r' ⟨hreq, now, rfl⟩
    exact ⟨by simp [hreq], by simp⟩
  | approve =>
    refine h.moved ?_ hchanged.2
    rintro r r' ⟨hreq, -, now, rfl⟩
    exact ⟨by simp [hreq], by simp⟩
  | markProcessing =>
    refine h.moved ?_ hchanged.2
    rintro r r' ⟨hreq, now, rfl⟩
    refine ⟨?_, by simp⟩
    rcases hreq with hreq | hreq <;> simp [hreq]
  | complete =>
    obtain ⟨r, r', hr, hopen, ⟨now, hr'⟩, hrep, hdone⟩ := hchanged
    exact h.completed hr hopen ⟨now, _, _, hr'⟩ hrep hdone hkeeps
  | fail =>
    obtain ⟨r, r', hr, hne, hne', hr', hrep, hdone⟩ := hchanged
    exact h.failed hr ⟨hne, hne'⟩ ⟨_, _, hr'⟩ hrep hdone hkeeps

/-! ## Runs -/

/-- From a payment without refunds: where no summary is written beside a refund paid out in points,
the payment holds the money paid back in every state of the run. -/
theorem summary_exact {d : Db} {pid : Uuid} (hunique : Table.Unique d.refunds)
    (hnone : ∀ r ∈ d.refunds, r.paymentId ≠ some pid)
    (hzero : ∀ p, Table.get d.payments pid = some p → p.amountRefunded = 0)
    (ops : List (LifecycleOp × (ℕ → Env)))
    (hkeeps : Runs.AllSteps lifecycleStep (KeepsSummary pid) d ops) :
    Runs.Always lifecycleStep (SummaryExact pid) d ops := by
  have hmoney : moneyRefunded d pid = 0 := by
    rw [moneyRefunded_eq, Table.total_congr fun r hr => moneyShare_of_other (hnone r hr)]
    simp [Table.total]
  have hstart : SummaryKept pid d := ⟨hunique, fun p hp => (hzero p hp).trans hmoney.symm⟩
  exact (Runs.always_of_allSteps (fun _ x h hx => h.step x hx) hstart hkeeps).mono
    fun _ h => h.exact

/-- A refund of 4 is requested, approved in cash, completed and taken back. -/
def takenBack : List (LifecycleOp × (ℕ → Env)) :=
  [(.request 7 (some 1) 4 0 "manual" "other" none none none none, answers),
    (.approve 21 "cash" 4 none none, answers),
    (.complete 21 "ushdesk_manual_refund" none none none false, answers),
    (.fail 21 "reversed" "provider" none none none, answers)]

theorem summary_exact_takenBack : Runs.Always lifecycleStep (SummaryExact 1) paidBooking takenBack :=
  summary_exact (by simp [Table.Unique, paidBooking]) (by simp [paidBooking]) (by decide) takenBack
    (by decide +kernel)

/-- A refund of 5 in points is completed, then one of 3 in cash. -/
def pointsThenCash : List (LifecycleOp × (ℕ → Env)) :=
  [(.request 7 (some 1) 5 0 "manual" "other" none none none none, answers),
    (.approve 21 "loyalty_points" 5 none none, answers),
    (.complete 21 "ushdesk_manual_refund" none none none false, answers),
    (.request 7 (some 1) 3 0 "manual" "cash" none none none none, fun _ => { uuid := 22 }),
    (.complete 22 "ushdesk_manual_refund" none none none false, answers)]

theorem points_counted_as_money :
    paidBooking.refunds = [] ∧ (∀ p ∈ paidBooking.payments, p.amountRefunded = 0) ∧
      ¬ Runs.Always lifecycleStep (SummaryExact 1) paidBooking pointsThenCash := by
  refine ⟨rfl, by decide, fun h => ?_⟩
  have hlast : SummaryExact 1 (Runs.run lifecycleStep paidBooking pointsThenCash) := h.last
  exact absurd hlast (by decide +kernel)

end Payment
