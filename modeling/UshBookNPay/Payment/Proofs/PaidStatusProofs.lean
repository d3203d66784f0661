import UshBookNPay.Payment.Proofs.SummaryProofs
import UshBookNPay.Payment.Proofs.WebhookProofs

/-!
# A payment that was paid stays paid

What one step of a run does to the row of a payment, and from it the statuses, the refunded amount and
the order of the deliveries over whole runs.
-/

open Transactions (Prog Ensures)
open Transactions

namespace Payment

section Rows

variable {pid : Uuid} {d d' : Db} {p p' : PaymentRow}

/-! ## One step -/

/-- What a step can do to the row of a payment: nothing, copy a response over it, or write the summary
of a completed refund. -/
inductive RowStep (d : Db) (op : GatewayOp) (p p' : PaymentRow) : Prop
  | same (hnot : ∀ c ∈ copied d op, c.1.id ≠ p.id) (h : moneyColumns p' = moneyColumns p)
  | reported (r : GatewayResponse) (hcopied : copied d op = some (p, r))
      (h : moneyColumns p' = moneyColumns (copiedColumns op r p))
  | completed (refundId : Uuid) (r : RefundRow) (total : Fils)
      (hop : ∃ source ref res actorId publish,
        op = .refund (.complete refundId source ref res actorId publish))
      (hr : Table.get d.refunds refundId = some r) (hmoney : CompletesMoney d p.id refundId)
      (htotal : total ≤ p.totalAmount ∨ total = p.amountRefunded + r.refundedAmount)
      (h : moneyColumns p' = moneyColumns (completedSummary total p))

theorem mem_of_named (op : GatewayOp) (h : p ∈ namedPayments d op) : p ∈ d.payments := by
  cases op with
  | myfatoorah body =>
    simp only [namedPayments] at h
    split at h
    · exact (List.mem_filter.mp h).1
    · cases h
  | tap body =>
    simp only [namedPayments] at h
    split at h
    · exact (List.mem_filter.mp h).1
    · cases h
  | refund op => cases h

/-- A transition of a refund that leaves the row of the payment. -/
theorem rowStep_of_get {op : LifecycleOp} (hp : Table.get d.payments pid = some p)
    (h : Table.get d'.payments pid = Table.get d.payments pid) :
    ∃ p', Table.get d'.payments pid = some p' ∧ RowStep d (.refund op) p p' :=
  ⟨p, h.trans hp, .same (fun c hc => by simp [copied, reported] at hc) rfl⟩

theorem rowStep_of_delivery {op : GatewayOp} (hu : UniqueIds d)
    (hp : Table.get d.payments pid = some p) (hdelivery : op.isDelivery) (env : ℕ → Env) :
    ∃ p', Table.get (gatewayStep d (op, env)).payments pid = some p' ∧ RowStep d op p p' := by
  obtain ⟨p', hget, hmoney⟩ := Option.map_eq_some_iff.mp
    ((wrote_of_delivery hu.payments hdelivery env).row pid p hp)
  refine ⟨p', hget, ?_⟩
  cases hc : copied d op with
  | none =>
    rw [written_of_none hc] at hmoney
    exact .same (by simp [hc]) hmoney
  | some c =>
    rw [written_of_some hc] at hmoney
    by_cases hid : c.1.id = p.id
    · have hmem : c.1 ∈ d.payments := mem_of_named op (by simp [(copied_eq_some hc).2.1])
      have hpid : c.1.id = pid := hid.trans (Table.get_some hp).2
      have hself : c.1 = p := by
        have := Table.get_eq_of_mem hu.payments hmem
        rw [show Table.Keyed.key c.1 = pid from hpid, hp] at this
        exact (Option.some.inj this).symm
      rw [if_pos hid] at hmoney
      exact .reported c.2 (by rw [hc, ← hself]) hmoney
    · rw [if_neg hid] at hmoney
      exact .same (by simpa [hc] using hid) hmoney

theorem rowStep_of_complete {refundId : Uuid} {source : String} {ref : Option String}
    {res : Option Json} {actorId : Option String} {publish : Bool} (hu : UniqueIds d)
    (hp : Table.get d.payments pid = some p) (env : ℕ → Env) :
    ∃ p', Table.get (gatewayStep d
        (.refund (.complete refundId source ref res actorId publish), env)).payments pid = some p' ∧
      RowStep d (.refund (.complete refundId source ref res actorId publish)) p p' := by
  have hid : p.id = pid := (Table.get_some hp).2
  rcases changed_of_step d (.complete refundId source ref res actorId publish, env) with
    hsame | ⟨r, r', hr, hopen, ⟨now, hr'⟩, hrep, hdone⟩
  · exact rowStep_of_get hp (congrArg (fun d => Table.get (Db.payments d) pid) hsame)
  by_cases hpid : r.paymentId = some pid
  swap
  · exact rowStep_of_get hp (hdone.payment_other hpid)
  by_cases hloyal : isLoyalty r.refundMethod = true
  · exact rowStep_of_get hp (congrArg (Table.get · pid) (hdone.payment.points hloyal))
  have hfor : paymentFor d r = some p := by
    unfold paymentFor
    rw [hpid]
    exact hp
  obtain ⟨hcap, a, hreplaced⟩ := hdone.payment.money p hfor hloyal
  have hrid : r.id = refundId := (Table.get_some hr).2
  refine ⟨_, hid ▸ hreplaced.1, .completed refundId r _ ⟨_, _, _, _, _, rfl⟩ hr ?_ ?_
    (moneyColumns_setAttribution _ a)⟩
  · refine ⟨r, p, hr, hid ▸ hp, hid ▸ hpid, hopen, hloyal, ?_⟩
    rw [← hrid]
    exact hcap
  · -- the completed refunds are those before and the one of this step, which the check allows
    have hdonesum : sumOf (lifecycleStep d (.complete refundId source ref res actorId publish, env))
        p.id [.completed] none ≤ p.totalAmount := by
      have hbefore : sumOf d p.id [.completed] (some r.id) =
          Table.total (completedShare p.id) (Table.erase d.refunds refundId) := by
        unfold sumOf Table.erase
        rw [total_filter_eq, total_filter_eq]
        refine Table.total_congr fun x _ => ?_
        have hkey : Table.Keyed.key x = x.id := rfl
        by_cases hx : x.id = refundId
        · simp [hkey, hx, hrid]
        · simp [completedShare, hkey, hx, hrid]
      have hshare : completedShare p.id r' = r.refundedAmount := by
        rw [hr']
        exact if_pos ⟨hid ▸ hpid, rfl⟩
      rw [sumOf_completed, hrep.total hu.refunds, hshare, ← hbefore]
      exact not_lt.mp fun h => hcap ((exceeds_iff _ _).mpr h)
    unfold completeTotal
    rcases max_cases (sumOf (lifecycleStep d
        (.complete refundId source ref res actorId publish, env)) p.id [.completed] none)
      (p.amountRefunded + r.refundedAmount) with ⟨h, -⟩ | ⟨h, -⟩
    · exact .inl (h.le.trans hdonesum)
    · exact .inr h

/-- What a step that meets the condition does to the row of the payment. -/
theorem rowStep (hu : UniqueIds d) (hp : Table.get d.payments pid = some p)
    (x : GatewayOp × (ℕ → Env)) (hkeeps : KeepsPaid pid d x) :
    ∃ p', Table.get (gatewayStep d x).payments pid = some p' ∧ RowStep d x.1 p p' := by
  obtain ⟨op, env⟩ := x
  cases op with
  | myfatoorah body => exact rowStep_of_delivery hu hp rfl env
  | tap body => exact rowStep_of_delivery hu hp rfl env
  | refund op =>
    have hstep := changed_of_step d (op, env)
    cases op with
    | complete => exact rowStep_of_complete hu hp env
    | fail refundId reason source ref res actorId =>
      rcases hstep with hsame | ⟨r, r', hr, hne, hne', -, -, hdone⟩
      · exact rowStep_of_get hp (congrArg (fun d => Table.get (Db.payments d) pid) hsame)
      · have hother : r.paymentId ≠ some pid := fun h => hkeeps ⟨r, hr, h, hne, hne'⟩
        exact rowStep_of_get hp (hdone.payment_other hother)
    | request | updateRequestedAmounts | reject | approve | markProcessing =>
      rcases hstep with hsame | hchanged
      · exact rowStep_of_get hp (congrArg (fun d => Table.get (Db.payments d) pid) hsame)
      · first
          | exact rowStep_of_get hp (congrArg (Table.get · pid) hchanged.1)
          | exact rowStep_of_get hp (congrArg (Table.get · pid) hchanged.2.1)

theorem uniqueIds_gatewayStep (hu : UniqueIds d) (x : GatewayOp × (ℕ → Env)) :
    UniqueIds (gatewayStep d x) := by
  obtain ⟨op, env⟩ := x
  cases op with
  | refund op => exact hu.lifecycle (op, env)
  | myfatoorah body =>
    have hwrote : Wrote d (.myfatoorah body) (gatewayStep d (.myfatoorah body, env)) :=
      wrote_of_delivery hu.payments rfl env
    exact ⟨hwrote.refunds ▸ hu.refunds, hwrote.unique⟩
  | tap body =>
    have hwrote : Wrote d (.tap body) (gatewayStep d (.tap body, env)) :=
      wrote_of_delivery hu.payments rfl env
    exact ⟨hwrote.refunds ▸ hu.refunds, hwrote.unique⟩

/-! ## The statuses and the amounts -/

theorem moneyColumns_eq (h : moneyColumns p' = moneyColumns p) :
    p'.status = p.status ∧ p'.totalAmount = p.totalAmount ∧
      p'.amountRefunded = p.amountRefunded := by
  have hstatus := congrArg PaymentRow.status h
  have htotal := congrArg PaymentRow.totalAmount h
  have hrefunded := congrArg PaymentRow.amountRefunded h
  exact ⟨hstatus, htotal, hrefunded⟩

/-- A payment that was paid stays paid, and one that is refunded stays refunded. -/
structure StaysPaid (p p' : PaymentRow) : Prop where
  paid : p.status ∈ paidStatuses → p'.status ∈ paidStatuses
  refunded : p.status = some .refunded → p'.status = some .refunded

theorem StaysPaid.trans {p'' : PaymentRow} (h : StaysPaid p p') (h' : StaysPaid p' p'') :
    StaysPaid p p'' :=
  ⟨fun hp => h'.paid (h.paid hp), fun hp => h'.refunded (h.refunded hp)⟩

theorem completedSummary_paid (total : Fils) (h : p.status ∈ paidStatuses) :
    (completedSummary total p).status ∈ paidStatuses := by
  unfold completedSummary
  dsimp only
  split_ifs
  · simp [paidStatuses]
  · simp [paidStatuses]
  · exact h

/-- What a step that meets the condition keeps of the row. -/
theorem RowStep.kept {x : GatewayOp × (ℕ → Env)} (h : RowStep d x.1 p p')
    (hp : Table.get d.payments pid = some p) (hkeeps : KeepsPaid pid d x) :
    StaysPaid p p' ∧ (p.amountRefunded ≤ p.totalAmount → p'.amountRefunded ≤ p'.totalAmount) := by
  have hid : p.id = pid := (Table.get_some hp).2
  obtain ⟨op, env⟩ := x
  cases h with
  | same _ h =>
    obtain ⟨hstatus, htotal, hrefunded⟩ := moneyColumns_eq h
    rw [hrefunded, htotal]
    exact ⟨⟨fun hs => hstatus ▸ hs, fun hs => hstatus.trans hs⟩, id⟩
  | reported r hcopied h =>
    obtain ⟨hstatus, htotal, hrefunded⟩ := moneyColumns_eq h
    have hreport : Reportable op p r := by
      cases op with
      | myfatoorah body => exact hkeeps (p, r) hcopied hid
      | tap body => exact hkeeps (p, r) hcopied hid
      | refund op => cases (copied_eq_some hcopied).1
    obtain ⟨hnot, hsuccess, hamount⟩ := hreport
    have hreported : (copiedColumns op r p).status = some r.status := by
      cases op with
      | myfatoorah body => rfl
      | tap body => rfl
      | refund op => cases (copied_eq_some hcopied).1
    refine ⟨⟨fun hs => ?_, fun hs => absurd hs hnot⟩, fun _ => ?_⟩
    · rw [hstatus, hreported, hsuccess hs]
      simp [paidStatuses]
    · rw [hrefunded, htotal, copiedColumns_amountRefunded]
      exact hamount
  | completed refundId r total hop hr hmoney htotal h =>
    obtain ⟨source, ref, res, actorId, publish, rfl⟩ := hop
    obtain ⟨hstatus, htotal', hrefunded⟩ := moneyColumns_eq h
    obtain ⟨hnot, hleft⟩ := hkeeps (hid ▸ hmoney) p hp r hr
    refine ⟨⟨fun hs => ?_, fun hs => absurd hs hnot⟩, fun _ => ?_⟩
    · rw [hstatus]
      exact completedSummary_paid total hs
    · rw [hrefunded, htotal']
      show total ≤ p.totalAmount
      rcases htotal with htotal | rfl
      · exact htotal
      · exact hleft

/-- A payment over a run whose steps meet the condition. -/
theorem staysPaid_run {ops : List (GatewayOp × (ℕ → Env))} (hu : UniqueIds d)
    (hp : Table.get d.payments pid = some p)
    (hkeeps : Runs.AllSteps gatewayStep (KeepsPaid pid) d ops) :
    ∃ p', Table.get (Runs.run gatewayStep d ops).payments pid = some p' ∧ StaysPaid p p' := by
  induction ops generalizing d p with
  | nil => exact ⟨p, hp, ⟨id, id⟩⟩
  | cons x ops ih =>
    obtain ⟨p₁, hp₁, hstep⟩ := rowStep hu hp x hkeeps.1
    obtain ⟨p', hp', hlater⟩ := ih (uniqueIds_gatewayStep hu x) hp₁ hkeeps.2
    exact ⟨p', hp', (hstep.kept hp hkeeps.1).1.trans hlater⟩

theorem StaysPaid.kept (h : StaysPaid p p') :
    (p.status ∈ paidStatuses → p'.status ∉ unpaidStatuses) ∧
      (p.status = some .refunded → p'.status ≠ some .success) := by
  constructor
  · intro hs
    have hdisjoint : ∀ s ∈ paidStatuses, s ∉ unpaidStatuses := by decide
    exact hdisjoint _ (h.paid hs)
  · intro hs
    rw [h.refunded hs]
    decide

/-! ## The order of the deliveries -/

/-- The delivery reports the success of the payment, in the database `start`. -/
def SettlesIn (pid : Uuid) (start : Db) (op : GatewayOp) : Prop :=
  Reaches pid start op ∧ ∃ r ∈ reported op, r.status = .success

theorem isPaid_iff (hp : Table.get d.payments pid = some p) :
    IsPaid pid d ↔ p.status ∈ paidStatuses := by
  simp [IsPaid, hp]

/-- Of the statuses a gateway reports only success is paid. -/
theorem reported_paid {r : GatewayResponse} {op : GatewayOp} (hr : reported op = some r) :
    some r.status ∈ paidStatuses ↔ r.status = .success := by
  have hmem : r.status ∈ responseStatuses := by
    cases op with
    | myfatoorah body => exact parseGatewayResponse_status hr
    | tap body => exact parseGatewayResponse_status hr
    | refund op => cases hr
  have hall : ∀ s ∈ responseStatuses, (some s ∈ paidStatuses ↔ s = .success) := by decide
  exact hall _ hmem

/-- The payment is paid after a step if it was before, or if the step is a delivery of its success. -/
theorem isPaid_step {start : Db} (hu : UniqueIds d) (hp : Table.get d.payments pid = some p)
    (x : GatewayOp × (ℕ → Env)) (hkeeps : KeepsPaid pid d x) (horder : OrderFree pid start d x) :
    IsPaid pid (gatewayStep d x) ↔
      IsPaid pid d ∨ (x.1.isDelivery ∧ SettlesIn pid start x.1) := by
  have hid : p.id = pid := (Table.get_some hp).2
  obtain ⟨p', hp', hstep⟩ := rowStep hu hp x hkeeps
  rw [isPaid_iff hp', isPaid_iff hp]
  have hstays := (hstep.kept hp hkeeps).1
  obtain ⟨op, env⟩ := x
  have hreaches : op.isDelivery → (Reaches pid d op ↔ Reaches pid start op) := by
    intro hdelivery
    cases op with
    | myfatoorah body => exact horder
    | tap body => exact horder
    | refund op => cases hdelivery
  cases hstep with
  | same hnot h =>
    rw [(moneyColumns_eq h).1]
    refine ⟨.inl, ?_⟩
    rintro (hs | ⟨hdelivery, hreach, -⟩)
    · exact hs
    · obtain ⟨c, hc, hcid⟩ := (hreaches hdelivery).mpr hreach
      exact absurd (hcid.trans hid.symm) (hnot c hc)
  | reported r hcopied h =>
    have hr : reported op = some r := (copied_eq_some hcopied).1
    have hdelivery : op.isDelivery := by
      cases op with
      | myfatoorah body => rfl
      | tap body => rfl
      | refund op => cases hr
    have hstatus : p'.status = some r.status := by
      rw [(moneyColumns_eq h).1]
      cases op with
      | myfatoorah body => rfl
      | tap body => rfl
      | refund op => cases hr
    have hreach : Reaches pid start op := (hreaches hdelivery).mp ⟨(p, r), hcopied, hid⟩
    constructor
    · intro hs
      rw [hstatus, reported_paid hr] at hs
      exact .inr ⟨hdelivery, hreach, r, hr, hs⟩
    · rintro (hs | ⟨-, -, r', hr', hsuccess⟩)
      · exact hstays.paid hs
      · obtain rfl : r = r' := Option.some.inj (hr.symm.trans hr')
        rw [hstatus, reported_paid hr]
        exact hsuccess
  | completed refundId r total hop hr hmoney htotal h =>
    obtain ⟨source, ref, res, actorId, publish, rfl⟩ := hop
    have hpaid : p.status ∈ paidStatuses := (isPaid_iff hp).mp (horder (hid ▸ hmoney))
    exact ⟨fun _ => .inl hpaid, fun _ => hstays.paid hpaid⟩

/-- The payment is paid at the end of a run if it was at its start, or if one of the deliveries reports
its success. -/
theorem isPaid_run {start : Db} {ops : List (GatewayOp × (ℕ → Env))} (hu : UniqueIds d)
    (hp : Table.get d.payments pid = some p)
    (hkeeps : Runs.AllSteps gatewayStep (KeepsPaid pid) d ops)
    (horder : Runs.AllSteps gatewayStep (OrderFree pid start) d ops) :
    IsPaid pid (Runs.run gatewayStep d ops) ↔
      IsPaid pid d ∨ ∃ op ∈ deliveries ops, SettlesIn pid start op := by
  induction ops generalizing d p with
  | nil => simp [deliveries]
  | cons x ops ih =>
    obtain ⟨p₁, hp₁, -⟩ := rowStep hu hp x hkeeps.1
    rw [Runs.run_cons, ih (uniqueIds_gatewayStep hu x) hp₁ hkeeps.2 horder.2,
      isPaid_step hu hp x hkeeps.1 horder.1, or_assoc]
    have hdeliveries : (∃ op ∈ deliveries (x :: ops), SettlesIn pid start op) ↔
        (x.1.isDelivery ∧ SettlesIn pid start x.1) ∨
          ∃ op ∈ deliveries ops, SettlesIn pid start op := by
      unfold deliveries
      rw [List.map_cons, List.filter_cons]
      by_cases hx : x.1.isDelivery = true
      · simp [hx]
      · simp [hx]
    rw [hdeliveries]

end Rows

/-! ## Runs -/

/-- In a run whose steps meet the condition a paid payment never becomes unpaid, a refunded one never
successful, and what is refunded stays within the total. Two such runs with the same deliveries, in
whatever order, end with the payment paid or unpaid alike, where the order is free. -/
theorem paid_stays_paid {d : Db} {pid : Uuid} {p : PaymentRow} (hpayments : Table.Unique d.payments)
    (hrefunds : Table.Unique d.refunds) (hp : Table.get d.payments pid = some p)
    (hwithin : p.amountRefunded ≤ p.totalAmount) (ops : List (GatewayOp × (ℕ → Env)))
    (hkeeps : Runs.AllSteps gatewayStep (KeepsPaid pid) d ops) :
    (∀ before after, ops = before ++ after →
      PaidKept pid (Runs.run gatewayStep d before) (Runs.run gatewayStep d ops)) ∧
    Runs.Always gatewayStep (RefundedWithin pid) d ops ∧
    ∀ ops', (deliveries ops').Perm (deliveries ops) →
      Runs.AllSteps gatewayStep (KeepsPaid pid) d ops' →
      Runs.AllSteps gatewayStep (OrderFree pid d) d ops →
      Runs.AllSteps gatewayStep (OrderFree pid d) d ops' →
      (IsPaid pid (Runs.run gatewayStep d ops') ↔ IsPaid pid (Runs.run gatewayStep d ops)) := by
  have hu : UniqueIds d := ⟨hrefunds, hpayments⟩
  refine ⟨?_, ?_, ?_⟩
  · rintro before after rfl
    obtain ⟨hbefore, hafter⟩ := Runs.AllSteps.append_iff.mp hkeeps
    have hids : Runs.Always gatewayStep UniqueIds d before :=
      Runs.always_of_step (P := UniqueIds) (fun _ x h => uniqueIds_gatewayStep h x) hu before
    intro q hq
    obtain ⟨q', hq', hstays⟩ := staysPaid_run hids.last hq hafter
    rw [Runs.run_append]
    exact ⟨q', hq', hstays.kept⟩
  · have hinv : ∀ (s : Db) (x : GatewayOp × (ℕ → Env)),
        (UniqueIds s ∧ (∃ q, Table.get s.payments pid = some q) ∧ RefundedWithin pid s) →
        KeepsPaid pid s x → UniqueIds (gatewayStep s x) ∧
          (∃ q, Table.get (gatewayStep s x).payments pid = some q) ∧
          RefundedWithin pid (gatewayStep s x) := by
      rintro s x ⟨hids, ⟨q, hq⟩, hs⟩ hx
      obtain ⟨q', hq', hstep⟩ := rowStep hids hq x hx
      refine ⟨uniqueIds_gatewayStep hids x, ⟨q', hq'⟩, fun a ha => ?_⟩
      obtain rfl : q' = a := Option.some.inj (hq'.symm.trans ha)
      exact (hstep.kept hq hx).2 (hs q hq)
    refine (Runs.always_of_allSteps hinv ⟨hu, ⟨p, hp⟩, ?_⟩ hkeeps).mono fun _ h => h.2.2
    intro a ha
    obtain rfl : p = a := Option.some.inj (hp.symm.trans ha)
    exact hwithin
  · intro ops' hperm hkeeps' horder horder'
    rw [isPaid_run hu hp hkeeps horder, isPaid_run hu hp hkeeps' horder']
    have hsame : ∀ op, op ∈ deliveries ops' ↔ op ∈ deliveries ops := fun op => hperm.mem_iff
    simp only [hsame]

/-- A payment of 10 at MyFatoorah, with its status and what is refunded of it. -/
def onlineRow (status : PaymentStatus) (amountRefunded : Fils) : PaymentRow where
  id := 1
  totalAmount := 10000
  amountRefunded := amountRefunded
  status := some status
  invoiceId := some "900"
  paymentId := some "p1"

def onlinePayment (status : PaymentStatus) (amountRefunded : Fils) : Db where
  payments := [onlineRow status amountRefunded]

def paidInvoice : GatewayOp × (ℕ → Env) :=
  (.myfatoorah "\x7b\"isPaid\": true, \"invoiceId\": \"900\", \"amount\": 10\x7d", answers)

def capturedCharge : GatewayOp × (ℕ → Env) :=
  (.tap "\x7b\"id\": \"p1\", \"status\": \"CAPTURED\"\x7d", answers)

/-- An event of an earlier attempt on the same invoice, which names no amount. -/
def pendingInvoice : GatewayOp × (ℕ → Env) :=
  (.myfatoorah "\x7b\"invoiceId\": \"900\", \"status\": \"pending\"\x7d", answers)

theorem paid_stays_paid_twice :
    Runs.Always gatewayStep (RefundedWithin 1) (onlinePayment .pending 0)
        [paidInvoice, capturedCharge] ∧
      (IsPaid 1 (Runs.run gatewayStep (onlinePayment .pending 0) [capturedCharge, paidInvoice]) ↔
        IsPaid 1 (Runs.run gatewayStep (onlinePayment .pending 0)
          [paidInvoice, capturedCharge])) := by
  have hget : Table.get (onlinePayment .pending 0).payments 1 =
      some (onlineRow .pending 0) := rfl
  have h := paid_stays_paid (by simp [Table.Unique, onlinePayment])
    (by simp [Table.Unique, onlinePayment]) hget (by decide) [paidInvoice, capturedCharge]
    (by decide +kernel)
  refine ⟨h.2.1, h.2.2 [capturedCharge, paidInvoice] ?_ ?_ ?_ ?_⟩
  · exact List.Perm.swap _ _ _
  · decide +kernel
  · decide +kernel
  · decide +kernel

/-- The late event makes a paid payment pending and sets its total to zero, the event of the payment
repeated makes a refunded one successful, and the order of the two decides how the payment ends. -/
theorem late_delivery_undoes_payment :
    ¬ PaidKept 1 (onlinePayment .success 0)
        (Runs.run gatewayStep (onlinePayment .success 0) [pendingInvoice]) ∧
      ¬ PaidKept 1 (onlinePayment .refunded 10000)
        (Runs.run gatewayStep (onlinePayment .refunded 10000) [paidInvoice]) ∧
      ¬ RefundedWithin 1
        (Runs.run gatewayStep (onlinePayment .partiallyRefunded 4000) [pendingInvoice]) ∧
      ¬ (IsPaid 1 (Runs.run gatewayStep (onlinePayment .pending 0) [paidInvoice, pendingInvoice]) ↔
        IsPaid 1 (Runs.run gatewayStep (onlinePayment .pending 0)
          [pendingInvoice, paidInvoice])) := by
  decide +kernel

end Payment
