import UshBookNPay.Lib.Runs
import UshBookNPay.PaymentLinks.Proofs.ApplyProofs

/-!
# Runs of settlements: idempotence

Over any sequence of `apply` calls on any links a settled link stays as it is, a link queues its paid
event at most once, and a target gets at most one payment.
-/

open Transactions (Prog Ensures EnsuresUnder Ledger transact AtEnd)
open Transactions

namespace PaymentLinks

/-! ## One call -/

theorem applyStep_settled {s : Desk} {c : ApplyCall} (hs : Settled c.linkId s.db) :
    applyStep s c = s := by
  have h : Ensures (fun _ => True) (AtEnd (fun d' es' => d' = s.db ∧ es' = s.log) s.db)
      (applyTo c.linkId c.state c.source) s.db s.log := by
    refine (ensures_applyTo_settled hs).mono (fun _ h => h) ?_
    rintro r d' es' hr
    cases r with
    | error e => exact hr.elim
    | ok r => exact hr.2
  obtain ⟨hdb, hlog⟩ := h.transact c.env
  unfold applyStep
  cases s
  exact congrArg₂ Ledger.mk hdb hlog

/-- A call on a link that is not settled does nothing, or what `Applied` says. -/
theorem applyStep_cases {s : Desk} {c : ApplyCall} (hs : ¬ Settled c.linkId s.db) :
    applyStep s c = s ∨ ∃ link outcome, Table.get s.db.paymentLinks c.linkId = some link ∧
      Applied (fun _ => True) link c.state outcome s.db (applyStep s c).db s.log
        (applyStep s c).log := by
  have h : EnsuresUnder (fun _ => True) (AtEnd (fun d' es' => (d' = s.db ∧ es' = s.log) ∨
      ∃ link outcome, Table.get s.db.paymentLinks c.linkId = some link ∧
        Applied (fun _ => True) link c.state outcome s.db d' s.log es') s.db)
      (applyTo c.linkId c.state c.source) s.db s.log := by
    refine (ensures_applyTo hs).mono ?_
    rintro r d' es' ⟨herr, hnone, hsome⟩
    cases r with
    | error e => exact .inl ⟨rfl, herr e rfl⟩
    | ok r =>
      cases r with
      | none => exact .inl (hnone rfl).2
      | some outcome =>
        obtain ⟨link, hlink, happlied⟩ := hsome outcome rfl
        exact .inr ⟨link, outcome, hlink, happlied⟩
  have hstep := h.transact c.env fun _ => trivial
  rcases hstep with ⟨hdb, hlog⟩ | hstep
  · left
    unfold applyStep
    cases s
    exact congrArg₂ Ledger.mk hdb hlog
  · exact .inr hstep

/-! ## Links -/

/-- The rows of the other links stay. -/
theorem Applied.get_of_ne {ans : Env → Prop} {link : PaymentLinkRow} {state : GatewayPaymentState}
    {outcome : SettlementOutcome} {d d' : Db} {es es' : List Emission}
    (h : Applied ans link state outcome d d' es es') {k : Uuid} (hk : k ≠ link.id) :
    Table.get d'.paymentLinks k = Table.get d.paymentLinks k := by
  obtain ⟨f, hf, hlinks, -⟩ := h.row
  rw [hlinks]
  exact Table.get_modify_of_ne hf hk

theorem Settled.applyStep {linkId : Uuid} {s : Desk} (h : Settled linkId s.db) (c : ApplyCall) :
    Table.get (applyStep s c).db.paymentLinks linkId = Table.get s.db.paymentLinks linkId := by
  by_cases hs : Settled c.linkId s.db
  · rw [applyStep_settled hs]
  · rcases applyStep_cases hs with hsame | ⟨link, outcome, hlink, happlied⟩
    · rw [hsame]
    · refine happlied.get_of_ne ?_
      rintro rfl
      have hid : link.id = c.linkId := (Table.get_some hlink).2
      exact hs (hid ▸ h)

/-- A link that becomes settled by a call: the paid status is a settled one. -/
theorem Applied.settles {ans : Env → Prop} {link : PaymentLinkRow} {state : GatewayPaymentState}
    {d d' : Db} {es es' : List Emission} (h : Applied ans link state .settled d d' es es')
    (hlink : Table.get d.paymentLinks link.id = some link) : Settled link.id d' := by
  obtain ⟨f, hf, hlinks, hstatus⟩ := h.row
  refine ⟨f link, ?_, ?_⟩
  · rw [hlinks, Table.get_modify_self hf, hlink]
    rfl
  · rw [hstatus.1.mpr rfl]
    decide

/-! ## Paid events -/

theorem paidEvents_append (linkId : Uuid) (es es' : List Emission) :
    paidEvents linkId (es ++ es') = paidEvents linkId es + es'.countP (isPaidEvent linkId) := by
  simp [paidEvents]

/-- A call queues at most one paid event, for its own link. -/
theorem Applied.paidEvents_le {ans : Env → Prop} {link : PaymentLinkRow}
    {state : GatewayPaymentState} {outcome : SettlementOutcome} {d d' : Db} {es es' : List Emission}
    (h : Applied ans link state outcome d d' es es') (linkId : Uuid) :
    paidEvents linkId es' ≤
      paidEvents linkId es + if linkId = link.id ∧ outcome = .settled then 1 else 0 := by
  by_cases hout : outcome = .settled
  · rcases (h.settled hout).events with rfl | ⟨ev, hev, rfl⟩ | ⟨v, st, rfl⟩
    · omega
    · rw [paidEvents_append]
      by_cases hid : linkId = link.id
      · rw [if_pos ⟨hid, hout⟩]
        have : List.countP (isPaidEvent linkId) [Emission.paymentLinkPaid ev] ≤ 1 :=
          List.countP_le_length
        omega
      · have hnot : isPaidEvent linkId (.paymentLinkPaid ev) = false := by
          simp only [isPaidEvent, hev, decide_eq_false_iff_not]
          exact fun h => hid h.symm
        simp [hnot]
    · rw [paidEvents_append]
      have : List.countP (isPaidEvent linkId) [Emission.voucherStatus v st] = 0 := rfl
      omega
  · obtain ⟨new, rfl, hnew⟩ := h.notSettled hout
    rw [paidEvents_append, hnew linkId]
    omega

/-- The paid events of a link and, while it is not settled, the one it may still queue. -/
def paidEventBudget (linkId : Uuid) (s : Desk) : ℕ :=
  paidEvents linkId s.log + if Settled linkId s.db then 0 else 1

theorem paidEventBudget_applyStep (linkId : Uuid) (s : Desk) (c : ApplyCall) :
    paidEventBudget linkId (applyStep s c) ≤ paidEventBudget linkId s := by
  by_cases hs : Settled c.linkId s.db
  · rw [applyStep_settled hs]
  · rcases applyStep_cases hs with hsame | ⟨link, outcome, hlink, happlied⟩
    · rw [hsame]
    · have hid : link.id = c.linkId := (Table.get_some hlink).2
      have hle := happlied.paidEvents_le linkId
      have hkeep : Settled linkId s.db → Settled linkId (applyStep s c).db := by
        rintro h
        have hget := h.applyStep c
        obtain ⟨l, hl, hstatus⟩ := h
        exact ⟨l, hget.trans hl, hstatus⟩
      unfold paidEventBudget
      by_cases hself : linkId = link.id ∧ outcome = .settled
      · obtain ⟨rfl, rfl⟩ := hself
        have hafter : Settled link.id (applyStep s c).db := happlied.settles (hid ▸ hlink)
        rw [if_pos ⟨rfl, rfl⟩] at hle
        rw [if_pos hafter, if_neg (hid ▸ hs)]
        omega
      · rw [if_neg hself] at hle
        by_cases hbefore : Settled linkId s.db
        · rw [if_pos hbefore, if_pos (hkeep hbefore)]
          omega
        · rw [if_neg hbefore]
          split_ifs <;> omega

/-! ## Payments of a target -/

theorem CreatedFor.ofTarget {link : PaymentLinkRow} {r : PaymentRow} (h : CreatedFor link r)
    {targetType : PaymentLinkTarget} {targetId : Uuid} (hr : ofTarget targetType targetId r) :
    targetType = link.targetType ∧ targetId = link.targetId := by
  have hb := h.booking
  have hv := h.voucher
  cases targetType with
  | product => simp [PaymentLinks.ofTarget] at hr
  | booking =>
    have hr' : r.bookingId = some targetId := by simpa [PaymentLinks.ofTarget] using hr
    by_cases ht : link.targetType = .booking
    · rw [if_pos ht, hr'] at hb
      exact ⟨ht.symm, Option.some.inj hb⟩
    · rw [if_neg ht, hr'] at hb
      cases hb
  | giftVoucher =>
    have hr' : r.voucherId = some targetId := by simpa [PaymentLinks.ofTarget] using hr
    by_cases ht : link.targetType = .giftVoucher
    · rw [if_pos ht, hr'] at hv
      exact ⟨ht.symm, Option.some.inj hv⟩
    · rw [if_neg ht, hr'] at hv
      cases hv

theorem ChangedTo.ofTarget {link : PaymentLinkRow} {r r' : PaymentRow} (h : ChangedTo link r r')
    (targetType : PaymentLinkTarget) (targetId : Uuid) :
    PaymentLinks.ofTarget targetType targetId r' = PaymentLinks.ofTarget targetType targetId r := by
  unfold PaymentLinks.ofTarget
  cases targetType with
  | product => rfl
  | booking => rw [h.booking]
  | giftVoucher => rw [h.voucher]

/-- A settlement never gives a target with a payment another one. -/
theorem PaymentsStep.count_le {link : PaymentLinkRow} {d : Db} {ps : List PaymentRow} {q : PaymentRow}
    (h : PaymentsStep link d ps q) (targetType : PaymentLinkTarget) (targetId : Uuid) :
    ps.countP (ofTarget targetType targetId) ≤
      max (d.payments.countP (ofTarget targetType targetId)) 1 := by
  rcases h with ⟨_, hnone, -, hcreated⟩ | ⟨p, f, -, hchanged⟩
  · rw [List.countP_append]
    by_cases hq : ofTarget targetType targetId q
    · obtain ⟨rfl, rfl⟩ := hcreated.ofTarget hq
      have hzero : d.payments.countP (ofTarget link.targetType link.targetId) = 0 := by
        rw [List.countP_eq_length_filter]
        exact congrArg List.length hnone
      have hone : List.countP (ofTarget link.targetType link.targetId) [q] ≤ 1 :=
        List.countP_le_length
      omega
    · have hzero : List.countP (ofTarget targetType targetId) [q] = 0 := by simp [hq]
      omega
  · have hsame : (Table.modify d.payments p.id f).countP (ofTarget targetType targetId) =
        d.payments.countP (ofTarget targetType targetId) := by
      unfold Table.modify
      rw [List.countP_map]
      congr 1
      funext r
      simp only [Function.comp_apply]
      split_ifs
      · exact (hchanged r).ofTarget targetType targetId
      · rfl
    omega

theorem paymentsOf_applyStep (targetType : PaymentLinkTarget) (targetId : Uuid) (s : Desk)
    (c : ApplyCall) : (paymentsOf targetType targetId (applyStep s c).db).length ≤
      max (paymentsOf targetType targetId s.db).length 1 := by
  unfold paymentsOf
  simp only [← List.countP_eq_length_filter]
  by_cases hs : Settled c.linkId s.db
  · rw [applyStep_settled hs]
    omega
  · rcases applyStep_cases hs with hsame | ⟨link, outcome, -, happlied⟩
    · rw [hsame]
      omega
    · rcases happlied.payments with hp | ⟨q, hq⟩
      · rw [hp]
        omega
      · exact hq.count_le targetType targetId

/-! ## Runs -/

theorem paidEventBudget_run (linkId : Uuid) (s : Desk) (calls : List ApplyCall) :
    paidEventBudget linkId (Runs.run applyStep s calls) ≤ paidEventBudget linkId s := by
  induction calls generalizing s with
  | nil => exact le_refl _
  | cons c calls ih => exact (ih (applyStep s c)).trans (paidEventBudget_applyStep linkId s c)

theorem paymentsOf_run (targetType : PaymentLinkTarget) (targetId : Uuid) (s : Desk)
    (calls : List ApplyCall) :
    (paymentsOf targetType targetId (Runs.run applyStep s calls).db).length ≤
      max (paymentsOf targetType targetId s.db).length 1 := by
  induction calls generalizing s with
  | nil =>
    rw [Runs.run_nil]
    omega
  | cons c calls ih =>
    have hrest := ih (applyStep s c)
    have hfirst := paymentsOf_applyStep targetType targetId s c
    rw [Runs.run_cons]
    omega

/-- What a call leaves alone: a call on a settled link changes nothing at all, and no call changes a
settled link. -/
def LeavesSettled (s : Desk) (c : ApplyCall) : Prop :=
  (Settled c.linkId s.db → applyStep s c = s) ∧
    ∀ linkId, Settled linkId s.db →
      Table.get (applyStep s c).db.paymentLinks linkId = Table.get s.db.paymentLinks linkId

theorem leavesSettled_run (s : Desk) (calls : List ApplyCall) :
    Runs.AllSteps applyStep LeavesSettled s calls := by
  induction calls generalizing s with
  | nil => trivial
  | cons c calls ih =>
    exact ⟨⟨applyStep_settled, fun _ h => h.applyStep c⟩, ih (applyStep s c)⟩

/-- Settlement is idempotent, in every order and repetition of the calls. -/
theorem settlement_idempotent (s : Desk) (calls : List ApplyCall) :
    Runs.AllSteps applyStep LeavesSettled s calls ∧
      (∀ linkId, paidEvents linkId (Runs.run applyStep s calls).log ≤ paidEvents linkId s.log + 1) ∧
      ∀ targetType targetId, (paymentsOf targetType targetId (Runs.run applyStep s calls).db).length ≤
        (paymentsOf targetType targetId s.db).length + 1 := by
  refine ⟨leavesSettled_run s calls, fun linkId => ?_, fun targetType targetId => ?_⟩
  · have hbudget := paidEventBudget_run linkId s calls
    unfold paidEventBudget at hbudget
    split_ifs at hbudget <;> omega
  · have hcount := paymentsOf_run targetType targetId s calls
    omega

end PaymentLinks
