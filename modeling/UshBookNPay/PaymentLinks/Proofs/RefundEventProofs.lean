import UshBookNPay.Payment.Proofs.SummaryProofs
import UshBookNPay.PaymentLinks.Proofs.LawfulProofs
import UshBookNPay.PaymentLinks.RefundEvents

/-!
# Refund webhooks refine the state machine where they agree

A webhook that finds no refund changes nothing, and one that finds a refund writes its status, and on a
cancellation its payment. Where these are the columns `complete` and `fail` leave, the two paths agree,
and runs that mix them keep the payment exact.
-/

open Transactions (Prog Ensures Ledger transact)
open Transactions

namespace PaymentLinks

open Payment (LifecycleOp isLoyalty sumOf fits failedColumns FailedIn CompletedIn
  paymentFor bookingFor completedShare SummaryKept UniqueIds)

variable {d d' : Db} {es es' : List Emission} {s : Ledger Db Emission} {env : ℕ → Env}
  {p : PaymentRow} {r r' : RefundRow}

/-! ## Steps that change nothing -/

/-- A program that raises, or returns without a change, and emits nothing. -/
def Idle {α : Type} (d : Db) (es : List Emission) (res : Except Error α) (d' : Db)
    (es' : List Emission) : Prop :=
  es' = es ∧ ∀ a, res = .ok a → d' = d

theorem ledger_of_idle {α : Type} {code : Tx α}
    (h : Ensures (fun _ => True) (Idle s.db s.log) code s.db s.log) : transact env code s = s := by
  have hend : Ensures (fun _ => True) (AtEnd (fun d es => d = s.db ∧ es = s.log) s.db) code s.db
      s.log := by
    refine h.mono (fun _ h => h) ?_
    rintro (e | a) d' es' ⟨rfl, hd⟩
    · exact ⟨rfl, rfl⟩
    · exact ⟨hd a rfl, rfl⟩
  have hdb := (hend.transact env).1
  have hlog := (hend.transact env).2
  cases hs : transact env code s with
  | mk db log =>
    rw [hs] at hdb hlog
    rw [show db = s.db from hdb, show log = s.log from hlog]

theorem idle_bind {α β : Type} {Q : α → Prop} {code : Tx α} {f : α → Tx β}
    (hp : Ensures (fun _ => True) (Reads d es Q) code d es)
    (hok : ∀ a, Q a → Ensures (fun _ => True) (Idle d es) (f a) d es) :
    Ensures (fun _ => True) (Idle d es) (code >>= f) d es :=
  Ensures.bind_reads hp hok fun _ => ⟨rfl, fun _ h => (by cases h)⟩

theorem idle_discard {α : Type} {code : Tx α}
    (h : Ensures (fun _ => True) (Idle d es) code d es) :
    Ensures (fun _ => True) (Idle d es) (discard code) d es := by
  refine Ensures.bind h ?_ ?_
  · rintro a d' es' ⟨rfl, hd⟩
    exact ⟨rfl, fun _ _ => hd a rfl⟩
  · rintro e d' es' ⟨rfl, -⟩
    exact ⟨rfl, fun _ h => (by cases h)⟩

theorem idle_loaded {code : Orm RefundRow → Tx Unit} (hr : Table.get d.refunds r.id = some r)
    (h : Ensures (fun _ => True) (Idle d es) (code (.ofRow r)) d es) :
    Ensures (fun _ => True) (Idle d es) (Payment.loadRefund r.id >>= code) d es := by
  refine Payment.ensures_bind_loadRefund trivial (fun x hx => ?_)
    fun _ _ => ⟨rfl, fun _ h => (by cases h)⟩
  rw [hr] at hx
  cases hx
  exact h

/-- `complete` of a refund that is not open, or is beyond the paid amount. -/
theorem complete_idle {source : String} {ref : Option String} {res : Option Json}
    {actor : Option String} (hr : Table.get s.db.refunds r.id = some r)
    (hp : paymentFor s.db r = some p) (h : r.status ∉ Payment.OPEN_STATUSES ∨ ExceedsPaid s.db p r) :
    refundStep s (.lifecycle (.complete r.id source ref res actor true), env) = s := by
  refine ledger_of_idle (idle_loaded hr (idle_discard ?_))
  unfold Payment.complete
  by_cases hdone : r.status = .completed
  · rw [Orm.ofRow_row, if_pos hdone]
    exact ⟨rfl, fun _ _ => rfl⟩
  rw [Orm.ofRow_row, if_neg hdone, ensures_bind_raiseIf]
  refine ⟨fun _ => ⟨rfl, fun _ h => (by cases h)⟩, fun hopen => ?_⟩
  refine (Payment.ensures_paymentOf trivial (Payment.agrees_empty s.db)).bind_returns ?_
  rintro payment d es ⟨hpayment, rfl, rfl⟩
  refine (Payment.ensures_checkPaidAmount_ok trivial hpayment).bind ?_ ?_
  · rintro _ d es ⟨rfl, rfl, hok⟩
    rcases h with hclosed | ⟨hmoney, hexceeds⟩
    · exact absurd (not_not.mp hopen) hclosed
    · exact absurd hexceeds (hok rfl p hp hmoney)
  · rintro e d es ⟨rfl, rfl, -⟩
    exact ⟨rfl, fun _ h => (by cases h)⟩

theorem fail_idle {reason source : String} {ref : Option String} {res : Option Json}
    {actor : Option String} (hr : Table.get s.db.refunds r.id = some r)
    (h : r.status = .failed ∨ r.status = .cancelled) :
    refundStep s (.lifecycle (.fail r.id reason source ref res actor), env) = s := by
  refine ledger_of_idle (idle_loaded hr (idle_discard ?_))
  unfold Payment.fail
  rw [Orm.ofRow_row, if_pos h]
  exact ⟨rfl, fun _ _ => rfl⟩

/-- A webhook that finds no refund, or one that has the status already. -/
theorem ensures_handleRefundEvent_idle {gw : PaymentLinkGateway} {event : GatewayWebhookEvent}
    (h : ∀ r, eventRefund gw event d = some r →
      (event.refundStatus = some "REFUNDED" → r.status = .completed) ∧
      (event.cancels → r.status = .failed)) :
    Ensures (fun _ => True) (Idle d es) (handleRefundEvent gw event) d es := by
  unfold handleRefundEvent
  refine ensures_eventPayment.bind_returns ?_
  rintro payment d es ⟨rfl, rfl, hp⟩
  cases payment with
  | none => exact ⟨rfl, fun _ _ => rfl⟩
  | some p =>
    refine idle_bind (ensures_eventRefund hp.symm) fun refund hrefund => ?_
    split_ifs with hrefunded hcancels
    · have hnone : refund.filter (·.status ≠ .completed) = none := by
        cases refund with
        | none => rfl
        | some r =>
          have hstatus := (h r hrefund.symm).1 hrefunded
          simp [hstatus]
      rw [hnone]
      exact ⟨rfl, fun _ _ => rfl⟩
    · cases refund with
      | none => exact ⟨rfl, fun _ _ => rfl⟩
      | some r =>
        have hstatus := (h r hrefund.symm).2 hcancels
        dsimp only
        rw [if_neg (not_not.mpr hstatus)]
        exact ⟨rfl, fun _ _ => rfl⟩
    · exact ⟨rfl, fun _ _ => rfl⟩

theorem webhook_idle {gw : PaymentLinkGateway} {event : GatewayWebhookEvent}
    (h : ∀ r, eventRefund gw event s.db = some r →
      (event.refundStatus = some "REFUNDED" → r.status = .completed) ∧
      (event.cancels → r.status = .failed)) :
    refundStep s (.webhook gw event, env) = s :=
  ledger_of_idle (idle_discard (ensures_handleRefundEvent_idle h))

theorem ensures_eventRefund_some {gw : PaymentLinkGateway} {event : GatewayWebhookEvent}
    (hp : eventPayment gw event d = some p) (hr : eventRefund gw event d = some r) :
    Ensures (fun _ => True) (Returns fun x d' es' => d' = d ∧ es' = es ∧ x = some r)
      (findEventRefund p event.refundId) d es := by
  unfold eventRefund at hr
  rw [hp, Option.bind_some] at hr
  split_ifs at hr with hkey
  unfold findEventRefund
  rw [if_neg (not_not.mpr hkey)]
  dsimp only
  rw [ensures_bind_queryForUpdate]
  refine ⟨trivial, ?_⟩
  generalize d.refunds.filter _ = rows at hr
  rcases rows with _ | ⟨x, _ | ⟨x', rows⟩⟩
  · cases hr
  · exact ⟨rfl, rfl, hr⟩
  · cases hr

/-! ## A refund that is paid back -/

/-- A webhook that completes the refund, or raises where an amount does not fit. -/
theorem ensures_handleRefundEvent_refunded {gw : PaymentLinkGateway} {event : GatewayWebhookEvent}
    (hpay : eventPayment gw event d = some p) (hrefund : eventRefund gw event d = some r)
    (hr : Table.get d.refunds r.id = some r) (hrefunded : event.refundStatus = some "REFUNDED")
    (hopen : r.status ≠ .completed) :
    Ensures (fun _ => True) (AtEnd (fun d' es' => es' = es ∧
      ((fits r ∧ d'.payments = d.payments ∧
          Table.Replaces d.refunds r.id (setRefundStatus .completed r) d'.refunds) ∨
        (¬ fits r ∧ d' = d))) d) (handleRefundEvent gw event) d es := by
  have hs := (inStep_ofRow hr).set (f := setRefundStatus .completed) fun _ => rfl
  unfold handleRefundEvent
  refine ensures_eventPayment.bind_returns ?_
  rintro payment d es ⟨rfl, rfl, hpayment⟩
  rw [hpay] at hpayment
  subst hpayment
  refine (ensures_eventRefund_some hpay hrefund).bind_returns ?_
  rintro refund d es ⟨rfl, rfl, rfl⟩
  rw [if_pos hrefunded]
  have hfound : (some r).filter (·.status ≠ .completed) = some r := by simp [hopen]
  rw [hfound]
  refine Ensures.bind (Q := AtEnd (fun d' es' => es' = es ∧
    ((fits r ∧ d'.payments = d.payments ∧
        Table.Replaces d.refunds r.id (setRefundStatus .completed r) d'.refunds) ∨
      (¬ fits r ∧ d' = d))) d) ?_ ?_ ?_
  · refine Ensures.bind (Payment.ensures_flushRefund trivial hs) ?_ ?_
    · rintro o d' es' ⟨rfl, -, -, hpayments, -, hrep, hfits⟩
      exact ⟨rfl, .inl ⟨hfits, hpayments, hrep⟩⟩
    · rintro e d' es' ⟨rfl, hno⟩
      exact ⟨rfl, .inr ⟨hno, rfl⟩⟩
  · exact fun _ _ _ h => h
  · exact fun _ _ _ h => h

/-! ## A cancelled refund -/

/-- The refund and its payment after a webhook has cancelled the refund. -/
structure CancelledIn (d d' : Db) (p : PaymentRow) (r : RefundRow) : Prop where
  bookings : d'.bookings = d.bookings
  refund : Table.Replaces d.refunds r.id (setRefundStatus .failed r) d'.refunds
  payment : ∃ a, Table.Replaces d.payments p.id ((revertedPayment r p).setAttribution a) d'.payments

theorem ensures_cancel {gw : PaymentLinkGateway} {refundId : Option String}
    (hr : Table.get d.refunds r.id = some r) (hp : Table.get d.payments p.id = some p) :
    Ensures (fun _ => True) (fun res d' es' => es' = es ∧ match res with
        | .ok _ => FitsLeft p r ∧ CancelledIn d d' p r
        | .error _ => ¬ FitsLeft p r) (do
      discard (Payment.flushRefund ((Orm.ofRow r).set (setRefundStatus .failed)))
      let written ← flushPayment ((Orm.ofRow p).set (revertedPayment r))
      addPaymentHistory (revertedHistory gw p written.row.status refundId)) d es := by
  have hs := (inStep_ofRow hr).set (f := setRefundStatus .failed) fun _ => rfl
  rw [ensures_bind]
  refine (Payment.ensures_flushRefund trivial hs).bind ?_ ?_
  swap
  · rintro e d₁ es ⟨rfl, hf⟩
    exact ⟨rfl, fun h => hf h.1⟩
  rintro o d₁ es ⟨rfl, -, -, hpayments, hbookings, hrep, hfits⟩
  dsimp only
  have hp₁ : Table.get d₁.payments p.id = some p := by rw [hpayments, hp]
  obtain ⟨o, ho⟩ : ∃ o, o = (Orm.ofRow p).set (revertedPayment r) := ⟨_, rfl⟩
  have hamount : o.row.amountRefunded = (revertedPayment r p).amountRefunded := by
    rw [ho, Orm.set_row, Orm.ofRow_row]
  have hfit : Ensures (fun _ => True) (fun res _ _ =>
      res.isOk = fitsNumeric (revertedPayment r p).amountRefunded) (flushPayment o) d₁ es := by
    rw [← hamount]
    exact ensures_payment_fits trivial
  rw [ho] at hfit
  have hid : ∀ q, (revertedPayment r q).id = q.id := fun _ => rfl
  refine Ensures.bind (Ensures.and (Payment.ensures_changePayment trivial hp₁ hid) hfit) ?_ ?_
  swap
  · rintro e d₂ es ⟨⟨rfl, -⟩, hf⟩
    refine ⟨rfl, fun h => ?_⟩
    have hno : false = fitsNumeric (revertedPayment r p).amountRefunded := hf
    rw [show fitsNumeric (revertedPayment r p).amountRefunded = true from h.2] at hno
    cases hno
  rintro q d₂ es ⟨⟨rfl, hok⟩, hf⟩
  obtain ⟨hrows, hbookings₂, hpay⟩ := hok q rfl
  unfold addPaymentHistory
  rw [ensures_update]
  rw [hpayments] at hpay
  rw [← hrows] at hrep
  exact ⟨trivial, rfl, ⟨hfits, hf.symm⟩, hbookings₂.trans hbookings, hrep, hpay⟩

theorem cancels_not_refunded {event : GatewayWebhookEvent} (h : event.cancels) :
    event.refundStatus ≠ some "REFUNDED" := by
  intro hrefunded
  unfold GatewayWebhookEvent.cancels at h
  rw [hrefunded] at h
  exact absurd h (by decide)

/-- A webhook that cancels the refund, or raises where an amount does not fit. -/
theorem ensures_handleRefundEvent_cancels {gw : PaymentLinkGateway} {event : GatewayWebhookEvent}
    (hpay : eventPayment gw event d = some p) (hrefund : eventRefund gw event d = some r)
    (hr : Table.get d.refunds r.id = some r) (hp : Table.get d.payments p.id = some p)
    (hcancels : event.cancels) (hopen : r.status ≠ .failed) :
    Ensures (fun _ => True) (AtEnd (fun d' es' => es' = es ∧
      ((FitsLeft p r ∧ CancelledIn d d' p r) ∨ (¬ FitsLeft p r ∧ d' = d))) d)
      (handleRefundEvent gw event) d es := by
  unfold handleRefundEvent
  refine ensures_eventPayment.bind_returns ?_
  rintro payment d es ⟨rfl, rfl, hpayment⟩
  rw [hpay] at hpayment
  subst hpayment
  refine (ensures_eventRefund_some hpay hrefund).bind_returns ?_
  rintro refund d es ⟨rfl, rfl, rfl⟩
  have hcancelled : event.refundStatus ∈ [some "CANCELED", some "CANCELLED"] := hcancels
  rw [if_neg (cancels_not_refunded hcancels), if_pos hcancelled]
  dsimp only
  rw [if_pos hopen]
  refine Ensures.bind (ensures_cancel hr hp) ?_ ?_
  · rintro _ d' es' ⟨rfl, hdone⟩
    exact ⟨rfl, .inl hdone⟩
  · rintro e d' es' ⟨rfl, hno⟩
    exact ⟨rfl, .inr ⟨hno, rfl⟩⟩

theorem webhook_cancels {gw : PaymentLinkGateway} {event : GatewayWebhookEvent} (env : ℕ → Env)
    (hpay : eventPayment gw event s.db = some p) (hrefund : eventRefund gw event s.db = some r)
    (hr : Table.get s.db.refunds r.id = some r) (hp : Table.get s.db.payments p.id = some p)
    (hcancels : event.cancels) (hopen : r.status ≠ .failed) :
    (refundStep s (.webhook gw event, env)).log = s.log ∧
      ((FitsLeft p r ∧ CancelledIn s.db (refundStep s (.webhook gw event, env)).db p r) ∨
        (¬ FitsLeft p r ∧ (refundStep s (.webhook gw event, env)).db = s.db)) := by
  have hend : Ensures (fun _ => True) (AtEnd (fun d' es' => es' = s.log ∧
      ((FitsLeft p r ∧ CancelledIn s.db d' p r) ∨ (¬ FitsLeft p r ∧ d' = s.db))) s.db)
      (discard (handleRefundEvent gw event)) s.db s.log :=
    Ensures.bind (ensures_handleRefundEvent_cancels hpay hrefund hr hp hcancels hopen)
      (fun _ _ _ h => h) fun _ _ _ h => h
  exact hend.transact env

/-! ## A failed refund -/

/-- Without a refund that is not completed any more, the total is that of the others. -/
theorem sumOf_without (hu : Table.Unique d.refunds)
    (hrep : Table.Replaces d.refunds r.id r' d'.refunds) (hstatus : r'.status ≠ .completed) :
    sumOf d' p.id [.completed] none = othersTotal d p r := by
  have hothers : othersTotal d p r =
      Table.total (completedShare p.id) (Table.erase d.refunds r.id) := by
    unfold othersTotal sumOf Table.erase
    rw [Payment.total_filter_eq, Payment.total_filter_eq]
    refine Table.total_congr fun x _ => ?_
    have hkey : Table.Keyed.key x = x.id := rfl
    by_cases hk : x.id = r.id <;> simp [completedShare, hkey, hk]
  have hshare : completedShare p.id r' = 0 := if_neg fun hc => hstatus hc.2
  rw [Payment.sumOf_completed, hrep.total hu, hothers, hshare, add_zero]

/-- The refund and the total of the others fit their columns. -/
def FitsOthers (d : Db) (p : PaymentRow) (r : RefundRow) : Prop :=
  fits r ∧ fitsNumeric (othersTotal d p r)

theorem ensures_fail_fits {reason source : String} {ref : Option String} {res : Option Json}
    {actor : Option String} (hu : Table.Unique d.refunds) (hr : Table.get d.refunds r.id = some r)
    (hp : paymentFor d r = some p) (hopen : ¬ (r.status = .failed ∨ r.status = .cancelled)) :
    Ensures (fun _ => True) (fun x _ _ => x.isOk ↔ FitsOthers d p r)
      (Payment.fail {} (.ofRow r) reason source ref res actor) d es := by
  unfold Payment.fail
  rw [Orm.ofRow_row, if_neg hopen]
  dsimp only
  have hs := (inStep_ofRow hr).set (f := failedColumns reason res) fun _ => rfl
  refine (Payment.ensures_flushRefund trivial hs).bind ?_ ?_
  swap
  · rintro e d₁ es ⟨rfl, hf⟩
    exact ⟨fun h => (by cases h), fun h => absurd h.1 hf⟩
  rintro o d₁ es ⟨rfl, rfl, -, hpayments, -, hrep, hfits⟩
  have hfor : paymentFor d₁ ((Orm.ofRow r).set (failedColumns reason res)).row = some p := by
    rw [← hp]
    exact Payment.paymentFor_congr hpayments rfl
  have htotal : sumOf d₁ p.id [.completed] none = othersTotal d p r :=
    sumOf_without hu hrep (by simp)
  rw [Orm.ofRow_row]
  refine (Payment.ensures_paymentOf trivial (Payment.agrees_empty d₁)).bind_returns ?_
  rintro payment d₁ es ⟨hpayment, rfl, rfl⟩
  have hpayment' : payment = some (Orm.ofRow p) := by
    rw [hpayment]
    exact congrArg (Option.map Orm.ofRow) hfor
  rw [hpayment']
  refine Ensures.bind (Q := fun x _ _ => x.isOk = fitsNumeric (othersTotal d p r)) ?_ ?_ ?_
  · unfold Payment.failPayment Payment.completedTotal
    dsimp only
    rw [Orm.ofRow_row, ensures_bind_query, htotal]
    refine ⟨trivial, ?_⟩
    obtain ⟨o, ho⟩ : ∃ o, o = (Orm.ofRow p).set (Payment.failedSummary (othersTotal d p r)
      (decide (r.status = .completed)) (failedColumns reason res r).refundNumber) := ⟨_, rfl⟩
    have hamount : o.row.amountRefunded = othersTotal d p r := by
      rw [ho, Orm.set_row]
      rfl
    rw [Orm.set_row, Orm.ofRow_row, ← ho, ← hamount]
    refine (ensures_payment_fits trivial).bind ?_ ?_
    · intro q d₂ es hok
      refine (Payment.ensures_auditOnly trivial).bind_returns ?_
      exact fun _ _ _ _ => hok
    · exact fun _ _ _ hno => hno
  · intro total d₂ es hok
    refine (Payment.ensures_failBooking_done trivial).bind_returns ?_
    intro _ d₃ es' _
    exact ⟨fun _ => ⟨hfits, hok.symm⟩, fun _ => rfl⟩
  · intro e d₂ es hno
    have hno' : false = fitsNumeric (othersTotal d p r) := hno
    refine ⟨fun h => (by cases h), fun h => ?_⟩
    rw [show fitsNumeric (othersTotal d p r) = true from h.2] at hno'
    cases hno'

/-- `fail` takes the refund back, or raises where an amount does not fit. -/
theorem lifecycle_fails (reason source : String) (ref : Option String) (res : Option Json)
    (actor : Option String) (env : ℕ → Env) (hu : Table.Unique s.db.refunds)
    (hr : Table.get s.db.refunds r.id = some r) (hp : paymentFor s.db r = some p)
    (hopen : ¬ (r.status = .failed ∨ r.status = .cancelled)) :
    (refundStep s (.lifecycle (.fail r.id reason source ref res actor), env)).log = s.log ∧
      ((FitsOthers s.db p r ∧ FailedIn s.db
          (refundStep s (.lifecycle (.fail r.id reason source ref res actor), env)).db r ∧
        Table.Replaces s.db.refunds r.id (failedColumns reason res r)
          (refundStep s (.lifecycle (.fail r.id reason source ref res actor), env)).db.refunds) ∨
        (¬ FitsOthers s.db p r ∧
          (refundStep s (.lifecycle (.fail r.id reason source ref res actor), env)).db = s.db)) := by
  have hend : Ensures (fun _ => True) (AtEnd (fun d' es' => es' = s.log ∧
      ((FitsOthers s.db p r ∧ FailedIn s.db d' r ∧
          Table.Replaces s.db.refunds r.id (failedColumns reason res r) d'.refunds) ∨
        (¬ FitsOthers s.db p r ∧ d' = s.db))) s.db)
      (Payment.lifecycleCode (.fail r.id reason source ref res actor)) s.db s.log := by
    refine Payment.ensures_bind_loadRefund trivial (fun x hx => ?_) fun hnone => ?_
    swap
    · rw [hr] at hnone
      cases hnone
    rw [hr] at hx
    cases hx
    refine Ensures.bind (Ensures.and (Ensures.and (Payment.ensures_fail trivial (inStep_ofRow hr))
      (Payment.ensures_fail_done (inStep_ofRow hr))) (ensures_fail_fits hu hr hp hopen)) ?_ ?_
    · rintro o d' es' ⟨⟨⟨rfl, hok⟩, hdone⟩, hfits⟩
      rcases hok o rfl with ⟨hclosed, -⟩ | ⟨-, -, rfl, hrep⟩
      · exact absurd hclosed hopen
      · exact ⟨rfl, .inl ⟨hfits.mp rfl, hdone _ rfl hopen, hrep⟩⟩
    · rintro e d' es' ⟨⟨⟨rfl, -⟩, -⟩, hfits⟩
      refine ⟨rfl, .inr ⟨fun h => ?_, rfl⟩⟩
      have := hfits.mpr h
      cases this
  exact hend.transact env

/-! ## Agreement -/

/-- The part of an effect that is outside the refund: the payment, the booking and the events. -/
theorem SameEffect.refl (p : PaymentRow) (r : RefundRow) (s : Ledger Db Emission) :
    SameEffect p r s s := ⟨rfl, rfl, rfl, rfl, rfl⟩

theorem HoldsBeside.left_eq (h : HoldsBeside d p r) :
    (revertedPayment r p).amountRefunded = othersTotal d p r := by
  show max 0 (p.amountRefunded - r.refundedAmount) = othersTotal d p r
  rcases h.amount with ⟨hpos, hamount⟩ | ⟨hzero, hle⟩
  · rw [hamount, add_sub_cancel_right]
    exact max_eq_right (le_of_lt hpos)
  · rw [hzero]
    exact max_eq_left (sub_nonpos.mpr hle)

theorem HoldsBeside.status_eq (h : HoldsBeside d p r) :
    (revertedPayment r p).status = p.status := by
  have hleft : max 0 (p.amountRefunded - r.refundedAmount) = othersTotal d p r := h.left_eq
  rw [h.status]
  unfold revertedPayment
  dsimp only
  rw [hleft]
  split_ifs <;> rfl

/-- The booking `fail` leaves has the status it had. -/
theorem HoldsBeside.booking_eq (h : HoldsBeside d p r) (hu : Table.Unique d.refunds)
    (hp : paymentFor d r = some p) (hrep : Table.Replaces d.refunds r.id r' d'.refunds)
    (hstatus : r'.status ≠ .completed) (hfailed : FailedIn d d' r) :
    (r.bookingId.bind (Table.get d'.bookings)).map (·.paymentStatus) =
      (r.bookingId.bind (Table.get d.bookings)).map (·.paymentStatus) := by
  by_cases hcompleted : r.status = .completed
  · cases hb : bookingFor d r with
    | none => rw [hfailed.booking.absent (.inl hb)]
    | some b =>
      obtain ⟨hbid, hget⟩ := Payment.bookingFor_eq_some hb
      obtain ⟨a, hchanged⟩ := hfailed.booking.present b p hb hp hcompleted
      have hkept := h.booking hcompleted b hb
      rw [hbid, Option.bind_some, Option.bind_some, hchanged.1, hget, Option.map_some,
        Option.map_some, hkept, sumOf_without hu hrep hstatus]
      rfl
  · rw [hfailed.booking.open_ hcompleted]

theorem sameEffect_cancelled {gw : PaymentLinkGateway} {event : GatewayWebhookEvent}
    {reason source : String} {ref : Option String} {res : Option Json} {actor : Option String}
    {env' : ℕ → Env} (hu : Table.Unique s.db.refunds) (hpay : eventPayment gw event s.db = some p)
    (hrefund : eventRefund gw event s.db = some r) (hr : Table.get s.db.refunds r.id = some r)
    (hp : Table.get s.db.payments p.id = some p) (hpid : r.paymentId = some p.id)
    (hcancels : event.cancels) (hopen : ¬ (r.status = .failed ∨ r.status = .cancelled))
    (hholds : HoldsBeside s.db p r) :
    SameEffect p r (refundStep s (.webhook gw event, env))
      (refundStep s (.lifecycle (.fail r.id reason source ref res actor), env')) := by
  have hfor : paymentFor s.db r = some p := by
    unfold paymentFor
    rw [hpid, Option.bind_some, hp]
  have hleft := hholds.left_eq
  have hiff : FitsLeft p r ↔ FitsOthers s.db p r := by
    unfold FitsLeft FitsOthers
    rw [hleft]
  obtain ⟨hlog, hwebhook⟩ := webhook_cancels env hpay hrefund hr hp hcancels
    fun h => hopen (.inl h)
  obtain ⟨hlog', hfail⟩ := lifecycle_fails reason source ref res actor env' hu hr hfor hopen
  rcases hwebhook with ⟨hfits, hcancelled⟩ | ⟨hno, hsame⟩
  · rcases hfail with ⟨-, hfailed, hrep⟩ | ⟨hno, -⟩
    · obtain ⟨a, hpaid⟩ := hcancelled.payment
      obtain ⟨a', hpaid'⟩ := hfailed.payment.present p hfor
      have htotal : sumOf _ p.id [.completed] none = othersTotal s.db p r :=
        sumOf_without hu hrep (by simp)
      rw [htotal] at hpaid'
      refine ⟨?_, ?_, ?_, ?_, ?_⟩
      · rw [hcancelled.refund.1, hrep.1]
        rfl
      · rw [hpaid.1, hpaid'.1, Option.map_some, Option.map_some]
        exact congrArg some hleft
      · rw [hpaid.1, hpaid'.1, Option.map_some, Option.map_some]
        exact congrArg some hholds.status_eq
      · rw [hcancelled.bookings]
        exact (hholds.booking_eq hu hfor hrep (by simp) hfailed).symm
      · rw [hlog, hlog']
    · exact absurd (hiff.mp hfits) hno
  · rcases hfail with ⟨hfits, -⟩ | ⟨-, hsame'⟩
    · exact absurd (hiff.mpr hfits) hno
    · exact ⟨by rw [hsame, hsame'], by rw [hsame, hsame'], by rw [hsame, hsame'],
        by rw [hsame, hsame'], by rw [hlog, hlog']⟩

/-! ## One step -/

theorem eventPayment_names {gw : PaymentLinkGateway} {event : GatewayWebhookEvent}
    (h : eventPayment gw event d = some p) :
    p ∈ d.payments ∧ Text.truthy event.invoiceId ∧ p.invoiceId = event.invoiceId := by
  unfold eventPayment at h
  split_ifs at h with hkey
  have hmem := List.mem_of_getLast? h
  rw [List.mem_filter] at hmem
  exact ⟨hmem.1, hkey, (of_decide_eq_true hmem.2).1⟩

/-- The refund an event finds is the only one it names on its payment. -/
theorem eventRefund_names {gw : PaymentLinkGateway} {event : GatewayWebhookEvent}
    (h : eventRefund gw event d = some r) :
    ∃ p, eventPayment gw event d = some p ∧ r ∈ d.refunds ∧ r.paymentId = some p.id ∧
      Text.truthy event.refundId ∧ r.gatewayRefundId = event.refundId ∧
      ∀ x ∈ d.refunds, x.paymentId = some p.id → x.gatewayRefundId = event.refundId → x = r := by
  unfold eventRefund at h
  obtain ⟨p, hp, hr⟩ := Option.bind_eq_some_iff.mp h
  split_ifs at hr with hkey
  have hfilter : d.refunds.filter (fun r => r.paymentId = some p.id ∧
      r.gatewayRefundId = event.refundId) = [r] := by
    split at hr
    · rename_i x hx
      cases hr
      exact hx
    · cases hr
  have hmem : ∀ x, x ∈ d.refunds.filter (fun r => r.paymentId = some p.id ∧
      r.gatewayRefundId = event.refundId) ↔ x = r := by
    intro x
    rw [hfilter, List.mem_singleton]
  have hself := List.mem_filter.mp ((hmem r).mpr rfl)
  have hcols := of_decide_eq_true hself.2
  refine ⟨p, hp, hself.1, hcols.1, hkey, hcols.2, fun x hx hpid hgid => ?_⟩
  exact (hmem x).mp (List.mem_filter.mpr ⟨hx, decide_eq_true ⟨hpid, hgid⟩⟩)

theorem eventRefund_named {gw : PaymentLinkGateway} {event : GatewayWebhookEvent}
    (hu : Table.Unique d.refunds) (hup : Table.Unique d.payments)
    (h : eventRefund gw event d = some r) :
    ∃ p, eventPayment gw event d = some p ∧ Names event d p r := by
  obtain ⟨p, hp, hmem, hpid, hkey, hgid, -⟩ := eventRefund_names h
  obtain ⟨hpmem, hinvoice, hsame⟩ := eventPayment_names hp
  exact ⟨p, hp, Table.get_eq_of_mem hup hpmem, Table.get_eq_of_mem hu hmem, hpid, hinvoice, hsame,
    hkey, hgid⟩

/-- A webhook that cancels the refund `x` leaves the other refunds and their payments alone. -/
theorem sameEffect_other {gw : PaymentLinkGateway} {event : GatewayWebhookEvent} {x : RefundRow}
    (hu : Table.Unique s.db.refunds) (hup : Table.Unique s.db.payments)
    (hx : eventRefund gw event s.db = some x) (hcancels : event.cancels) (hopen : x.status ≠ .failed)
    (hne : x ≠ r) (hnames : Names event s.db p r) :
    SameEffect p r (refundStep s (.webhook gw event, env)) s := by
  obtain ⟨hp, hr, hpid, -, -, -, hgid⟩ := hnames
  obtain ⟨q, hq, hqget, hxget, hxpid, -⟩ := eventRefund_named hu hup hx
  obtain ⟨q', hq', -, -, -, -, honly⟩ := eventRefund_names hx
  obtain rfl : q = q' := Option.some.inj (hq.symm.trans hq')
  have hrid : r.id ≠ x.id := by
    intro hid
    rw [hid, hxget] at hr
    exact hne (Option.some.inj hr)
  have hpid' : p.id ≠ q.id := by
    intro hid
    exact hne (honly r (Table.get_some hr).1 (hid ▸ hpid) hgid).symm
  obtain ⟨hlog, hdone⟩ := webhook_cancels env hq hx hxget hqget hcancels hopen
  rcases hdone with ⟨-, hcancelled⟩ | ⟨-, hsame⟩
  · obtain ⟨a, hpaid⟩ := hcancelled.payment
    refine ⟨?_, ?_, ?_, ?_, ?_⟩
    · rw [hcancelled.refund.get_of_ne hrid]
    · rw [hpaid.get_of_ne hpid']
    · rw [hpaid.get_of_ne hpid']
    · rw [hcancelled.bookings]
    · rw [hlog]
  · exact ⟨by rw [hsame], by rw [hsame], by rw [hsame], by rw [hsame], by rw [hlog]⟩

/-- Under the condition a webhook that reports a refund as paid back changes nothing. -/
theorem refunded_idle {gw : PaymentLinkGateway} {event : GatewayWebhookEvent}
    (hu : Table.Unique s.db.refunds) (hup : Table.Unique s.db.payments)
    (h : KeepsRefining s.db (.webhook gw event)) (hrefunded : event.refundStatus = some "REFUNDED") :
    refundStep s (.webhook gw event, env) = s := by
  refine webhook_idle fun x hx => ⟨fun _ => ?_, fun hcancels => ?_⟩
  · obtain ⟨q, -, hnames⟩ := eventRefund_named hu hup hx
    rcases (h q x hnames).1 hrefunded with hdone | ⟨hnot, -⟩
    · exact hdone
    · exact absurd hx hnot
  · exact absurd hrefunded (cancels_not_refunded hcancels)

/-- A cancellation leaves a refund it does not find, or that has failed, as it is. -/
theorem sameEffect_kept {gw : PaymentLinkGateway} {event : GatewayWebhookEvent}
    (hu : Table.Unique s.db.refunds) (hup : Table.Unique s.db.payments) (hcancels : event.cancels)
    (hkept : r.status = .failed ∨ eventRefund gw event s.db ≠ some r)
    (hnames : Names event s.db p r) :
    SameEffect p r (refundStep s (.webhook gw event, env)) s := by
  have hidle : (∀ x, eventRefund gw event s.db = some x → x.status = .failed) →
      refundStep s (.webhook gw event, env) = s := fun hfailed =>
    webhook_idle fun x hx => ⟨fun h => absurd h (cancels_not_refunded hcancels),
      fun _ => hfailed x hx⟩
  cases hx : eventRefund gw event s.db with
  | none =>
    rw [hidle fun x h => by rw [hx] at h; cases h]
    exact .refl p r s
  | some x =>
    by_cases hdone : x.status = .failed
    · rw [hidle fun y h => by rw [hx] at h; cases h; exact hdone]
      exact .refl p r s
    · refine sameEffect_other hu hup hx hcancels hdone ?_ hnames
      rintro rfl
      rcases hkept with hfailed | hnot
      · exact hdone hfailed
      · exact hnot hx

theorem handledAs_of_refining {x : RefundStep × (ℕ → Env)} (hu : Table.Unique s.db.refunds)
    (hup : Table.Unique s.db.payments) (h : KeepsRefining s.db x.1) : HandledAs s x := by
  obtain ⟨step, env⟩ := x
  cases step with
  | lifecycle => trivial
  | webhook gw event =>
    intro p r hnames
    have hp := hnames.1
    have hr := hnames.2.1
    have hpid := hnames.2.2.1
    have hfor : paymentFor s.db r = some p := by
      unfold paymentFor
      rw [hpid, Option.bind_some, hp]
    obtain ⟨hcomplete, hcancel⟩ := h p r hnames
    constructor
    · intro hrefunded source ref res actor env'
      have hclosed : r.status ∉ Payment.OPEN_STATUSES ∨ ExceedsPaid s.db p r := by
        rcases hcomplete hrefunded with hdone | ⟨-, hclosed⟩
        · rw [hdone]
          exact .inl (by decide)
        · exact hclosed
      rw [refunded_idle hu hup h hrefunded, complete_idle hr hfor hclosed]
      exact .refl p r s
    · intro hcancels reason source ref res actor env'
      by_cases hdone : r.status = .failed
      · rw [fail_idle hr (.inl hdone)]
        exact sameEffect_kept hu hup hcancels (.inl hdone) hnames
      rcases hcancel hcancels with hfailed | ⟨hnot, hclosed⟩ | ⟨hfound, hopen, hholds⟩
      · exact absurd hfailed hdone
      · rw [fail_idle hr (.inr hclosed)]
        exact sameEffect_kept hu hup hcancels (.inr hnot) hnames
      · obtain ⟨q, hq, hqget, -, hqpid, -⟩ := eventRefund_named hu hup hfound
        rw [hpid] at hqpid
        rw [← Option.some.inj hqpid, hp] at hqget
        cases hqget
        exact sameEffect_cancelled hu hq hfound hr hp hpid hcancels
          (fun hs => hs.elim hdone hopen) hholds

/-- Under the condition a webhook changes nothing, or cancels a refund whose payment holds it. -/
theorem webhook_step {gw : PaymentLinkGateway} {event : GatewayWebhookEvent} (env : ℕ → Env)
    (hu : Table.Unique s.db.refunds) (hup : Table.Unique s.db.payments)
    (h : KeepsRefining s.db (.webhook gw event)) :
    refundStep s (.webhook gw event, env) = s ∨
      (refundStep s (.webhook gw event, env)).db = s.db ∨
      ∃ p r, Names event s.db p r ∧ eventRefund gw event s.db = some r ∧ event.cancels ∧
        r.status ≠ .failed ∧ r.status ≠ .cancelled ∧ HoldsBeside s.db p r ∧
        CancelledIn s.db (refundStep s (.webhook gw event, env)).db p r := by
  by_cases hrefunded : event.refundStatus = some "REFUNDED"
  · exact .inl (refunded_idle hu hup h hrefunded)
  by_cases hfailed : ∀ x, eventRefund gw event s.db = some x → event.cancels → x.status = .failed
  · exact .inl (webhook_idle fun x hx => ⟨fun h => absurd h hrefunded, hfailed x hx⟩)
  simp only [not_forall] at hfailed
  obtain ⟨r, hr, hcancels, hopen⟩ := hfailed
  obtain ⟨p, hp, hnames⟩ := eventRefund_named hu hup hr
  rcases (h p r hnames).2 hcancels with hdone | ⟨hnot, -⟩ | ⟨-, hopen', hholds⟩
  · exact absurd hdone hopen
  · exact absurd hr hnot
  · obtain ⟨-, hdone⟩ := webhook_cancels env hp hr hnames.2.1 hnames.1 hcancels hopen
    rcases hdone with ⟨-, hcancelled⟩ | ⟨-, hsame⟩
    · exact .inr (.inr ⟨p, r, hnames, hr, hcancels, hopen, hopen', hholds, hcancelled⟩)
    · exact .inr (.inl hsame)

/-! ## Invariants -/

theorem uniqueIds_step (h : UniqueIds s.db) {x : RefundStep × (ℕ → Env)}
    (hx : KeepsRefining s.db x.1) : UniqueIds (refundStep s x).db := by
  obtain ⟨step, env⟩ := x
  cases step with
  | lifecycle op => exact h.lifecycle (op, env)
  | webhook gw event =>
    rcases webhook_step env h.refunds h.payments hx with hsame | hsame | ⟨p, r, -, -, -, -, -, -, hc⟩
    · rw [hsame]
      exact h
    · rw [hsame]
      exact h
    · obtain ⟨a, hpaid⟩ := hc.payment
      exact ⟨hc.refund.unique h.refunds, hpaid.unique h.payments⟩

/-- A cancelled refund whose payment holds it leaves the payment exact. -/
theorem summaryKept_cancelled {pid : Uuid} (h : SummaryKept pid d)
    (hr : Table.get d.refunds r.id = some r) (hpid : r.paymentId = some p.id) (hholds : HoldsBeside d p r) (hcancelled : CancelledIn d d' p r)
    (hno : r.paymentId = some pid → Payment.NoPointsPaid d pid r.id) : SummaryKept pid d' := by
  have hrep := hcancelled.refund
  have hshare : Payment.moneyShare pid (setRefundStatus .failed r) = 0 :=
    Payment.moneyShare_of_not_completed (by simp [setRefundStatus])
  have hshare' : completedShare pid (setRefundStatus .failed r) =
      Payment.moneyShare pid (setRefundStatus .failed r) := by
    rw [hshare]
    exact if_neg fun hc => (by cases hc.2)
  have hmoney := Payment.moneyRefunded_replaces pid h.unique hr hrep
  have hu := hrep.unique h.unique
  obtain ⟨a, hpaid⟩ := hcancelled.payment
  by_cases hof : r.paymentId = some pid
  · have hid : p.id = pid := Option.some.inj (hpid.symm.trans hof)
    refine ⟨hu, fun p' hp' => ?_⟩
    rw [← hid, hpaid.1] at hp'
    cases hp'
    have hleft : (revertedPayment r p).amountRefunded = othersTotal d p r := hholds.left_eq
    have htotal : sumOf d' p.id [.completed] none = othersTotal d p r :=
      sumOf_without h.unique hrep (by simp [setRefundStatus])
    have hexact := Payment.sumOf_completed_eq h.unique (hno hof) hrep hshare'
    rw [← hid, htotal] at hexact
    rw [← hid, ← hexact]
    exact hleft
  · have hne : pid ≠ p.id := fun hid => hof (hid ▸ hpid)
    rw [hshare, Payment.moneyShare_of_other hof, add_zero, add_zero] at hmoney
    exact h.of_same hu (hpaid.get_of_ne hne) hmoney

theorem summaryKept_step {pid : Uuid} (h : SummaryKept pid s.db) (hup : Table.Unique s.db.payments)
    {x : RefundStep × (ℕ → Env)} (hx : KeepsRefining s.db x.1) (hexact : KeepsExact pid s.db x) :
    SummaryKept pid (refundStep s x).db := by
  obtain ⟨step, env⟩ := x
  cases step with
  | lifecycle op => exact h.step (op, env) hexact
  | webhook gw event =>
    rcases webhook_step env h.unique hup hx with hsame | hsame |
      ⟨p, r, hnames, hfound, hcancels, hfailed, hcancelled, hholds, hc⟩
    · rw [hsame]
      exact h
    · rw [hsame]
      exact h
    · exact summaryKept_cancelled h hnames.2.1 hnames.2.2.1 hholds hc fun hpid =>
        hexact hcancels r hfound ⟨r, hnames.2.1, hpid, hfailed, hcancelled⟩

/-! ## Runs -/

/-- In a run of transitions and webhooks whose webhooks meet the condition, each webhook does what the
state machine does, and a payment stays exact that was so at the beginning. -/
theorem webhooks_refine_lifecycle {s : Ledger Db Emission} {xs : List (RefundStep × (ℕ → Env))}
    (hunique : Table.Unique s.db.refunds) (hpayments : Table.Unique s.db.payments)
    (h : Runs.AllSteps refundStep (fun s x => KeepsRefining s.db x.1) s xs) :
    Runs.AllSteps refundStep HandledAs s xs ∧
      ∀ pid, Payment.SummaryExact pid s.db →
        Runs.AllSteps refundStep (fun s x => KeepsExact pid s.db x) s xs →
        Runs.Always refundStep (fun s => Payment.SummaryExact pid s.db) s xs := by
  constructor
  · refine Runs.allSteps_of_allSteps (I := fun s => UniqueIds s.db) ?_ ⟨hunique, hpayments⟩ h
    intro s x hids hx
    exact ⟨uniqueIds_step hids hx, handledAs_of_refining hids.refunds hids.payments hx⟩
  · intro pid hexact hkeeps
    have hall := Runs.always_of_allSteps (P := fun s => UniqueIds s.db ∧ SummaryKept pid s.db)
      (fun s x hI hx => ⟨uniqueIds_step hI.1 hx.1, summaryKept_step hI.2 hI.1.payments hx.1 hx.2⟩)
      ⟨⟨hunique, hpayments⟩, hunique, hexact⟩ (h.and hkeeps)
    exact hall.mono fun _ hI => hI.2.exact

/-! ## A refund in processing -/

/-- A booking of 10 that was paid through a link of the provider. -/
def paidThrough (provider : String) : Db where
  payments := [
    { id := 1
      bookingId := some 7
      totalAmount := 10000
      status := some .success
      paymentProvider := some provider
      invoiceId := some "900" }]
  bookings := Payment.paidBooking.bookings

/-- A refund of 4 is requested and accepted by the gateway. -/
def acceptedRefund : List (RefundStep × (ℕ → Env)) :=
  [(.lifecycle (.request 7 (some 1) 4 0 "manual" "other" none none none none), Payment.answers),
    (.lifecycle (.markProcessing 21 (some "55") none none), Payment.answers)]

/-- The event of MyFatoorah for the refund. -/
def refundEvent (status : String) : GatewayWebhookEvent where
  kind := .refundStatus
  invoiceId := some "900"
  refundId := some "55"
  refundStatus := some status

def refundWebhook (status : String) : RefundStep × (ℕ → Env) :=
  (.webhook myFatoorah (refundEvent status), Payment.answers)

/-- The refund is accepted, and the gateway cancels it twice. -/
def cancelledTwice : List (RefundStep × (ℕ → Env)) :=
  acceptedRefund ++ [refundWebhook "CANCELED", refundWebhook "CANCELED"]

theorem webhooks_refine_lifecycle_cancelled :
    Runs.AllSteps refundStep HandledAs { db := paidThrough "MyFatoorah" } cancelledTwice ∧
      ∀ pid, Payment.SummaryExact pid (paidThrough "MyFatoorah") →
        Runs.AllSteps refundStep (fun s x => KeepsExact pid s.db x) { db := paidThrough "MyFatoorah" }
          cancelledTwice →
        Runs.Always refundStep (fun s => Payment.SummaryExact pid s.db)
          { db := paidThrough "MyFatoorah" } cancelledTwice :=
  webhooks_refine_lifecycle (by simp [Table.Unique, paidThrough])
    (by simp [Table.Unique, paidThrough]) (by decide +kernel)

/-- The state in which the webhook comes. -/
def beforeWebhook (provider : String) : Ledger Db Emission :=
  Runs.run refundStep { db := paidThrough provider } acceptedRefund

/-- The webhook does not find the refund where the payment has a canonical provider, and changes
nothing. Where it has the label of the gateway, the refund is completed and the payment keeps its
summary. -/
theorem webhooks_not_lifecycle :
    ¬ Runs.AllSteps refundStep HandledAs { db := paidThrough "myfatoorah" }
        (acceptedRefund ++ [refundWebhook "REFUNDED"]) ∧
      ¬ Runs.AllSteps refundStep HandledAs { db := paidThrough "MyFatoorah" }
        (acceptedRefund ++ [refundWebhook "REFUNDED"]) := by
  have hnames : ∀ provider ∈ ["myfatoorah", "MyFatoorah"],
      ∃ p ∈ (beforeWebhook provider).db.payments, ∃ r ∈ (beforeWebhook provider).db.refunds,
        p.id = 1 ∧ r.id = 21 ∧ Names (refundEvent "REFUNDED") (beforeWebhook provider).db p r := by
    decide +kernel
  constructor
  · rintro ⟨-, -, h, -⟩
    obtain ⟨p, -, r, -, -, hid, hp⟩ := hnames "myfatoorah" (by simp)
    have hsame := ((h p r hp).1 rfl "webhook" none none none Payment.answers).refund
    rw [hid] at hsame
    exact absurd hsame (by decide +kernel)
  · rintro ⟨-, -, h, -⟩
    obtain ⟨p, -, r, -, hid, hrid, hp⟩ := hnames "MyFatoorah" (by simp)
    have hsame := ((h p r hp).1 rfl "webhook" none none none Payment.answers).amountRefunded
    rw [hid, hrid] at hsame
    exact absurd hsame (by decide +kernel)

end PaymentLinks
