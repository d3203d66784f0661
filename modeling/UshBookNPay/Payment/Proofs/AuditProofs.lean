import UshBookNPay.Payment.RefundSummaries
import UshBookNPay.Payment.Proofs.StepProofs

/-!
# What the audit trail tells

Every transition of a refund appends the row of its change, but the rejection and the approval: they
append none. The rows lead to the status of the payment in every run.
-/

open Transactions (Prog Ensures Keeps)
open Transactions

namespace Payment

/-! ## The row of a transition -/

/-- What the audit trail depends on. -/
def trailOf (d : Db) : List PaymentRow × List PaymentStatusHistoryRow :=
  (d.payments, d.paymentStatusHistory)

/-- The row a transition of a refund of `payment` appends. -/
def Logged (payment : Option PaymentRow) (d d' : Db) : Prop :=
  match payment with
  | none => d'.paymentStatusHistory = d.paymentStatusHistory
  | some p => ∃ row, d'.paymentStatusHistory = d.paymentStatusHistory ++ [row] ∧
      row.paymentId = p.id ∧ row.oldStatus = p.status.or (statusOf p.id d') ∧
      row.newStatus = (statusOf p.id d').getD .success

section Statements

variable {d d₁ d₂ d' : Db} {es : List Emission} {payment : Option PaymentRow}

theorem trailOf_eq (h : trailOf d' = trailOf d) :
    d'.payments = d.payments ∧ d'.paymentStatusHistory = d.paymentStatusHistory :=
  Prod.mk.inj h

theorem statusOf_congr (h : d'.payments = d.payments) (pid : Uuid) :
    statusOf pid d' = statusOf pid d := by
  unfold statusOf
  rw [h]

theorem statusOf_get {p : PaymentRow} {pid : Uuid} (h : Table.get d.payments pid = some p) :
    statusOf pid d = p.status := by
  unfold statusOf
  rw [h, Option.bind_some]

/-- What comes before the row leaves the history alone, what comes after it the payments, too. -/
theorem Logged.within (h : Logged payment d₁ d₂)
    (hhistory : d₁.paymentStatusHistory = d.paymentStatusHistory)
    (hafter : trailOf d' = trailOf d₂) : Logged payment d d' := by
  obtain ⟨hpayments', hhistory'⟩ := trailOf_eq hafter
  cases payment with
  | none => exact hhistory'.trans (h.trans hhistory)
  | some p =>
    obtain ⟨row, hrow, hpid, hold, hnew⟩ := h
    rw [← statusOf_congr hpayments'] at hold hnew
    refine ⟨row, ?_, hpid, hold, hnew⟩
    rw [hhistory', hrow, hhistory]

theorem keeps_trail_flushRefund (o : Orm RefundRow) : Keeps trailOf (flushRefund o) := by
  unfold flushRefund
  refine (keeps_checkedUpdate _ _ fun d => ?_).bind fun _ => keeps_pure _
  rfl

theorem keeps_trail_flushBooking (o : Orm BookingRow) : Keeps trailOf (flushBooking o) := by
  unfold flushBooking
  refine (keeps_update _ fun d => ?_).bind fun _ => keeps_pure _
  rfl

/-- The row of the payment `p`, as it is in the database, whose status before was that of `p₀`. -/
theorem ensures_audit_logged {p₀ p : PaymentRow} {reason source : String} {refund : RefundRow}
    {actorId providerReference : Option String} {oldStatus : Option PaymentStatus}
    (hid : p.id = p₀.id) (hstatus : statusOf p₀.id d = p.status)
    (hold : oldStatus.or p.status = p₀.status.or p.status) :
    Ensures (fun _ => True) (Returns fun _ d' _ => Logged (some p₀) d d')
      (audit p reason refund source actorId providerReference oldStatus) d es := by
  unfold audit
  rw [ensures_update]
  refine ⟨trivial, _, rfl, hid, ?_, ?_⟩
  · show oldStatus.or p.status = p₀.status.or (statusOf p₀.id d)
    rw [hstatus]
    exact hold
  · show p.status.getD .success = (statusOf p₀.id d).getD .success
    rw [hstatus]

/-- The row of a payment that the transition leaves alone. -/
theorem ensures_forSome_audit_logged {α : Type} {o : Option α} {g : α → PaymentRow}
    {reason : α → String} {source : String} {refund : RefundRow}
    {actorId providerReference : Option String}
    (hp : ∀ p, o.map g = some p → Table.get d.payments p.id = some p) :
    Ensures (fun _ => True) (Returns fun _ d' _ => Logged (o.map g) d d')
      (Prog.forSome o fun a =>
        audit (g a) (reason a) refund source actorId providerReference none) d es := by
  cases o with
  | none => exact rfl
  | some a =>
    exact ensures_audit_logged rfl (statusOf_get (hp (g a) rfl)) (Option.or_self).symm

theorem keeps_trail_insertRefund (r : RefundRow) : Keeps trailOf (insertRefund r) := by
  unfold insertRefund
  refine (keeps_checkedUpdate _ _ fun d => ?_).bind fun _ => keeps_pure _
  rfl

theorem get_of_trail {p : PaymentRow} (h : trailOf d' = trailOf d)
    (hp : Table.get d.payments p.id = some p) : Table.get d'.payments p.id = some p := by
  rw [(trailOf_eq h).1]
  exact hp

/-- The part of a transition between the loaded rows and the row it appends. -/
theorem Logged.of_keeps {β : Type} {p : Tx β} (h : Logged payment d₁ d₂)
    (hhistory : d₁.paymentStatusHistory = d.paymentStatusHistory) (hp : Keeps trailOf p) :
    Ensures (fun _ => True) (fun r d' _ => ∀ x, r = .ok x → Logged payment d d') p d₂ es :=
  ensures_keeps hp fun _ hafter => h.within hhistory hafter

/-- A transition that does not stop at a refund that is done. -/
theorem logged_inr {α : Type} {p : Tx α}
    (h : Ensures (fun _ => True) (fun r d' _ => ∀ x, r = .ok x → Logged payment d d') p d es) :
    Ensures (fun _ => True) (fun r d' _ => ∀ x, r = .ok x → d' = d ∨ Logged payment d d') p d es :=
  h.mono (fun _ h => h) fun _ _ _ h x hx => .inr (h x hx)

theorem logged_requestNew {booking : BookingRow} {net fee : Fils} {refundType refundMethod : String}
    {reason notes idempotencyKey actorId : Option String}
    (hp : ∀ p, payment = some p → Table.get d.payments p.id = some p) :
    Ensures (fun _ => True) (fun r d' _ => ∀ x, r = .ok x → Logged payment d d')
      (requestNew booking payment net fee refundType refundMethod reason notes idempotencyKey actorId)
      d es := by
  unfold requestNew
  refine ensures_bind_keeps (g := trailOf) (keeps_raiseIf _ _) fun _ d₁ _ h₁ => ?_
  refine ensures_bind_keeps (g := trailOf) (keeps_raiseIf _ _) fun _ d₂ _ h₂ => ?_
  refine ensures_bind_keeps (g := trailOf) (keeps_forSome _ fun _ => keeps_checkCap)
    fun _ d₃ _ h₃ => ?_
  refine ensures_bind_keeps (g := trailOf) ?_ fun number d₄ _ h₄ => ?_
  · unfold generateRefundNumber
    refine (keeps_ask _).bind fun month => ?_
    exact (keeps_queryForUpdate _ _).bind fun _ => keeps_query _
  refine ensures_bind_keeps (g := trailOf) (keeps_ask _) fun refundId d₅ _ h₅ => ?_
  refine ensures_bind_keeps (g := trailOf) (keeps_ask _) fun now d₆ _ h₆ => ?_
  refine ensures_bind_keeps (keeps_trail_insertRefund _) fun refund d₇ _ h₇ => ?_
  have hbefore : trailOf d₇ = trailOf d :=
    h₇.trans (h₆.trans (h₅.trans (h₄.trans (h₃.trans (h₂.trans h₁)))))
  have hmap : payment.map id = payment := by cases payment <;> rfl
  refine (ensures_forSome_audit_logged (g := id) fun p h =>
    get_of_trail hbefore (hp p (hmap.symm.trans h))).bind_returns fun _ d₈ _ h => ?_
  rw [hmap] at h
  exact h.of_keeps (trailOf_eq hbefore).2 (keeps_pure _)

theorem logged_request {booking : BookingRow} {refundAmount cancellationFee : ℚ}
    {refundType refundMethod : String} {reason notes idempotencyKey actorId : Option String}
    (hp : ∀ p, payment = some p → Table.get d.payments p.id = some p) :
    Ensures (fun _ => True) (fun r d' _ => ∀ x, r = .ok x → d' = d ∨ Logged payment d d')
      (request booking payment refundAmount cancellationFee refundType refundMethod reason notes
        idempotencyKey actorId) d es := by
  unfold request
  rw [ensures_bind_query]
  refine ⟨trivial, ?_⟩
  cases (if Text.truthy idempotencyKey then
      d.refunds.find? fun r => r.idempotencyKey = idempotencyKey else none) with
  | some row => exact fun _ _ => .inl rfl
  | none =>
    refine (logged_requestNew hp).bind ?_ ?_
    · exact fun o d' es' h _ _ => .inr (h o rfl)
    · exact fun _ _ _ _ _ h => (by cases h)

theorem paymentFor_get {refund : RefundRow} {p : PaymentRow} (h : paymentFor d refund = some p) :
    Table.get d.payments p.id = some p :=
  (paymentFor_eq_some h).2

theorem map_ofRow_row {R : Type} (o : Option R) : (o.map Orm.ofRow).map (·.row) = o := by
  cases o <;> rfl

theorem logged_markProcessing {refund : Orm RefundRow} {providerRefundId : Option String}
    {gatewayResponse : Option Json} {actorId : Option String} :
    Ensures (fun _ => True)
      (fun r d' _ => ∀ x, r = .ok x → d' = d ∨ Logged (paymentFor d refund.row) d d')
      (markProcessing {} refund providerRefundId gatewayResponse actorId) d es := by
  unfold markProcessing
  split_ifs
  · exact fun _ _ => .inl rfl
  apply logged_inr
  refine ensures_bind_keeps (g := id) (keeps_raiseIf _ _) fun _ d _ h => ?_
  obtain rfl : d = _ := h
  refine ensures_bind_keeps (g := id) (keeps_ask _) fun now d _ h => ?_
  obtain rfl : d = _ := h
  dsimp only
  refine (ensures_paymentOf trivial (agrees_empty d)).bind_returns ?_
  rintro payment d es ⟨hpayment, rfl, rfl⟩
  have hfor : payment.map (·.row) = paymentFor d refund.row := by
    rw [hpayment]
    exact map_ofRow_row _
  refine (ensures_forSome_audit_logged (g := fun o : Orm PaymentRow => o.row) fun p h =>
    paymentFor_get (hfor.symm.trans h)).bind_returns fun _ d' _ h => ?_
  rw [hfor] at h
  exact h.of_keeps rfl (keeps_trail_flushRefund _)

/-! ### complete and fail -/

/-- A payment written with the columns `f`, and the history as it was. -/
theorem ensures_flush_trail {q : PaymentRow} {f : PaymentRow → PaymentRow}
    (hq : Table.get d.payments q.id = some q) (hf : ∀ r, (f r).id = r.id) :
    Ensures (fun _ => True) (fun r d' _ => ∀ o, r = .ok o →
        d'.paymentStatusHistory = d.paymentStatusHistory ∧ o.row.id = q.id ∧
          o.row.status = (f q).status ∧ statusOf q.id d' = o.row.status)
      (flushPayment ((Orm.ofRow q).set f)) d es := by
  refine (ensures_writePayment trivial).mono (fun _ h => h) ?_
  rintro r d' es' ⟨-, -, hok⟩ o ho
  obtain ⟨hrow, rfl⟩ := hok o ho
  obtain ⟨a, ha⟩ : ∃ a, a = ((Orm.ofRow q).set f).row.attribution := ⟨_, rfl⟩
  rw [← ha] at hrow ⊢
  have hid : ((Orm.ofRow q).set f).row.id = q.id := hf q
  rw [hid, hrow]
  have hget : Table.get (Table.modify d.payments q.id fun r => (f r).setAttribution a) q.id =
      some ((f q).setAttribution a) := by
    rw [Table.get_modify_self (f := fun r => (f r).setAttribution a) hf, hq]
    rfl
  exact ⟨rfl, hid, rfl, statusOf_get hget⟩

theorem logged_completePayment {refund : RefundRow} {source : String}
    {providerReference actorId : Option String} {p : Option (Orm PaymentRow)}
    (hp : p = payment.map Orm.ofRow)
    (hget : ∀ p, payment = some p → Table.get d.payments p.id = some p) :
    Ensures (fun _ => True) (fun r d' _ => ∀ x, r = .ok x → Logged payment d d')
      (completePayment refund source providerReference actorId p) d es := by
  subst hp
  cases payment with
  | none => exact fun _ _ => rfl
  | some q =>
    have hq := hget q rfl
    rw [Option.map_some]
    unfold completePayment
    dsimp only
    split_ifs
    · refine (ensures_audit_logged rfl (statusOf_get hq) rfl).bind_returns fun _ d' _ h => ?_
      exact h.of_keeps rfl (keeps_pure _)
    · refine ensures_bind_keeps (g := id) (keeps_query _) fun dbTotal d _ h => ?_
      obtain rfl : d = _ := h
      refine ensures_bind_keeps (g := id) (keeps_query _) fun fee d _ h => ?_
      obtain rfl : d = _ := h
      refine (ensures_flush_trail hq (completedSummary_id _)).bind ?_ ?_
      swap
      · exact fun _ _ _ _ _ h => (by cases h)
      intro o d₁ es₁ h
      obtain ⟨hhistory, hid, -, hstatus⟩ := h o rfl
      refine (ensures_audit_logged hid hstatus rfl).bind_returns fun _ d₂ _ h => ?_
      exact h.of_keeps hhistory (keeps_pure _)

theorem logged_complete {refund : Orm RefundRow} {source : String}
    {providerReference : Option String} {gatewayResponse : Option Json} {actorId : Option String}
    {publishEvent : Bool} :
    Ensures (fun _ => True)
      (fun r d' _ => ∀ x, r = .ok x → d' = d ∨ Logged (paymentFor d refund.row) d d')
      (complete {} refund source providerReference gatewayResponse actorId publishEvent) d es := by
  unfold complete
  split_ifs
  · exact fun _ _ => .inl rfl
  apply logged_inr
  refine ensures_bind_keeps (g := id) (keeps_raiseIf _ _) fun _ d _ h => ?_
  obtain rfl : d = _ := h
  refine (ensures_paymentOf trivial (agrees_empty d)).bind_returns ?_
  rintro payment d es ⟨hpayment, rfl, rfl⟩
  refine ensures_bind_keeps (g := trailOf) ?_ fun _ d₁ _ h₁ => ?_
  · exact keeps_forSome _ fun _ => (keeps_query _).bind fun _ => keeps_raiseIf _ _
  refine ensures_bind_keeps (g := trailOf) (keeps_ask _) fun now d₂ _ h₂ => ?_
  refine ensures_bind_keeps (keeps_trail_flushRefund _) fun refund' d₃ _ h₃ => ?_
  refine ensures_bind_keeps (g := trailOf) keeps_bookingOf fun booking d₄ _ h₄ => ?_
  have hbefore : trailOf d₄ = trailOf d := h₄.trans (h₃.trans (h₂.trans h₁))
  refine (logged_completePayment hpayment fun p h =>
    get_of_trail hbefore (paymentFor_get h)).bind ?_ ?_
  swap
  · exact fun _ _ _ _ _ h => (by cases h)
  intro x d₅ es₅ h
  refine (h x rfl).of_keeps (trailOf_eq hbefore).2 ?_
  refine Keeps.bind ?_ fun booking' => Keeps.bind ?_ fun _ => keeps_pure _
  · unfold completeBooking
    cases booking with
    | none => exact keeps_pure _
    | some b => exact (keeps_trail_flushBooking _).map _
  · unfold publishCompletedEvent
    exact Keeps.ite (keeps_call _ _) (keeps_pure _)

theorem logged_failPayment {refund : RefundRow} {reason source : String} {wasCompleted : Bool}
    {providerReference actorId : Option String} {p : Option (Orm PaymentRow)}
    (hp : p = payment.map Orm.ofRow)
    (hget : ∀ p, payment = some p → Table.get d.payments p.id = some p) :
    Ensures (fun _ => True) (fun r d' _ => ∀ x, r = .ok x → Logged payment d d')
      (failPayment refund reason source wasCompleted providerReference actorId p) d es := by
  subst hp
  cases payment with
  | none => exact fun _ _ => rfl
  | some q =>
    have hq := hget q rfl
    rw [Option.map_some]
    unfold failPayment
    dsimp only
    refine ensures_bind_keeps (g := id) (keeps_query _) fun total d _ h => ?_
    obtain rfl : d = _ := h
    refine (ensures_flush_trail hq (failedSummary_id _ _ _)).bind ?_ ?_
    swap
    · exact fun _ _ _ _ _ h => (by cases h)
    intro o d₁ es₁ h
    obtain ⟨hhistory, hid, hsame, hstatus⟩ := h o rfl
    have hold : (none : Option PaymentStatus).or o.row.status = q.status.or o.row.status := by
      have hq' : o.row.status = q.status := hsame
      rw [hq', Option.or_self]
      rfl
    refine (ensures_audit_logged hid hstatus hold).bind_returns fun _ d₂ _ h => ?_
    exact h.of_keeps hhistory (keeps_pure _)

theorem ensures_flushRefund_trail (o : Orm RefundRow) :
    Ensures (fun _ => True) (fun r d' _ => ∀ o', r = .ok o' →
        o'.row = o.row ∧ trailOf d' = trailOf d) (flushRefund o) d es := by
  unfold flushRefund
  rw [ensures_bind, ensures_checkedUpdate]
  refine ⟨trivial, ?_⟩
  by_cases hfits : fits o.row
  · rw [if_pos hfits]
    rintro o' ⟨⟩
    exact ⟨rfl, rfl⟩
  · rw [if_neg hfits]
    rintro o' ⟨⟩

theorem logged_fail {refund : Orm RefundRow} {reason source : String}
    {providerReference : Option String} {gatewayResponse : Option Json} {actorId : Option String} :
    Ensures (fun _ => True)
      (fun r d' _ => ∀ x, r = .ok x → d' = d ∨ Logged (paymentFor d refund.row) d d')
      (fail {} refund reason source providerReference gatewayResponse actorId) d es := by
  unfold fail
  split_ifs
  · exact fun _ _ => .inl rfl
  apply logged_inr
  refine (ensures_flushRefund_trail _).bind ?_ ?_
  swap
  · exact fun _ _ _ _ _ h => (by cases h)
  intro refund' d₁ es₁ h
  obtain ⟨hrow, h₁⟩ := h refund' rfl
  have hfor : paymentFor d₁ refund'.row = paymentFor d refund.row := by
    refine paymentFor_congr (trailOf_eq h₁).1 ?_
    rw [hrow]
    rfl
  refine (ensures_paymentOf trivial (agrees_empty d₁)).bind_returns ?_
  rintro payment d₁ es₁ ⟨hpayment, rfl, rfl⟩
  have hp : payment = (paymentFor d refund.row).map Orm.ofRow := by
    rw [← hfor]
    exact hpayment
  refine (logged_failPayment hp fun p h => get_of_trail h₁ (paymentFor_get h)).bind ?_ ?_
  swap
  · exact fun _ _ _ _ _ h => (by cases h)
  intro total d₂ es₂ h
  refine (h total rfl).of_keeps (trailOf_eq h₁).2 ?_
  refine Keeps.bind ?_ fun _ => keeps_pure _
  unfold failBooking
  refine Keeps.bind (keeps_bookingOf.ite (keeps_pure _)) fun booking => ?_
  exact keeps_forSome _ fun b => keeps_forSome _ fun t => (keeps_trail_flushBooking _).map _

end Statements

/-! ## The transitions without a row -/

theorem keeps_trail_reject (refund : Orm RefundRow) (reason actorId : Option String) :
    Keeps trailOf (reject refund reason actorId) := by
  refine Keeps.ite (keeps_pure _) ?_
  refine (keeps_raiseIf _ _).bind fun _ => (keeps_ask _).bind fun _ => ?_
  exact keeps_trail_flushRefund _

theorem keeps_trail_approve (refund : Orm RefundRow) (refundMethod : String) (approvedAmount : ℚ)
    (notes actorId : Option String) :
    Keeps trailOf (approve {} refund refundMethod approvedAmount notes actorId) := by
  refine Keeps.ite (keeps_pure _) ?_
  refine (keeps_raiseIf _ _).bind fun _ => (keeps_raiseIf _ _).bind fun _ => ?_
  refine keeps_paymentOf.bind fun _ => (keeps_forSome _ fun _ => keeps_checkCap).bind fun _ => ?_
  refine (keeps_ask _).bind fun _ => (keeps_bookingOf.ite (keeps_pure _)).bind fun _ => ?_
  refine (keeps_forSome _ fun b => ?_).bind fun _ => keeps_trail_flushRefund _
  exact (keeps_trail_flushBooking _).map _

/-! ## One step -/

section Step

variable {d d' : Db} {pid : Uuid}

/-- The payment whose refund a transition changes with a row. -/
def auditedPayment (d : Db) : LifecycleOp → Option PaymentRow
  | .request _ paymentId _ _ _ _ _ _ _ _ => paymentId.bind (Table.get d.payments)
  | .markProcessing refundId _ _ _ => (Table.get d.refunds refundId).bind (paymentFor d)
  | .complete refundId _ _ _ _ _ => (Table.get d.refunds refundId).bind (paymentFor d)
  | .fail refundId _ _ _ _ _ => (Table.get d.refunds refundId).bind (paymentFor d)
  | .updateRequestedAmounts .. | .reject .. | .approve .. => none

theorem auditedPayment_get (op : LifecycleOp) {p : PaymentRow} (h : auditedPayment d op = some p) :
    Table.get d.payments p.id = some p := by
  have hloaded : ∀ {k : Uuid}, (Table.get d.refunds k).bind (paymentFor d) = some p →
      Table.get d.payments p.id = some p := by
    intro k hk
    obtain ⟨r, -, hfor⟩ := Option.bind_eq_some_iff.mp hk
    exact paymentFor_get hfor
  cases op with
  | request bookingId paymentId =>
    obtain ⟨q, -, hq⟩ := Option.bind_eq_some_iff.mp h
    rwa [(Table.get_some hq).2.symm] at hq
  | markProcessing => exact hloaded h
  | complete => exact hloaded h
  | fail => exact hloaded h
  | updateRequestedAmounts => cases h
  | reject => cases h
  | approve => cases h

/-- A step on a loaded refund that appends the row of its payment. -/
theorem logged_loaded {α : Type} {f : Orm RefundRow → Tx α} {k : Uuid} (env : ℕ → Env)
    (h : ∀ r, Ensures (fun _ => True)
      (fun res d' _ => ∀ x, res = .ok x → d' = d ∨ Logged (paymentFor d (Orm.ofRow r).row) d d')
      (f (.ofRow r)) d []) :
    atomically env (loadRefund k >>= fun r => discard (f r)) d = d ∨
      Logged ((Table.get d.refunds k).bind (paymentFor d)) d
        (atomically env (loadRefund k >>= fun r => discard (f r)) d) := by
  have hrow := step_of_loaded (d := d) (k := k) (f := fun r => discard (f r))
    (P := fun r d' => Logged (paymentFor d r) d d') env fun r _ => by
    refine (h r).bind ?_ fun _ _ _ _ => .inl rfl
    exact fun x d' es' hx => hx x rfl
  rcases hrow with hsame | ⟨r, hr, hlogged⟩
  · exact .inl hsame
  · right
    rw [hr]
    exact hlogged

/-- A step changes nothing, or it appends the row of its payment. -/
theorem logged_of_step (d : Db) (x : LifecycleOp × (ℕ → Env)) :
    lifecycleStep d x = d ∨ Logged (auditedPayment d x.1) d (lifecycleStep d x) := by
  obtain ⟨op, env⟩ := x
  cases op with
  | request bookingId paymentId refundAmount cancellationFee refundType refundMethod reason notes
      idempotencyKey actorId =>
    refine Ensures.atomically (Q := fun d' => d' = d ∨
      Logged (paymentId.bind (Table.get d.payments)) d d') ?_ env
    unfold lifecycleCode load
    rw [ensures_bind, ensures_bind_query]
    refine ⟨trivial, ?_⟩
    cases Table.get d.bookings bookingId with
    | none => exact .inl rfl
    | some booking =>
      have hrun : ∀ payment, payment = paymentId.bind (Table.get d.payments) →
          Ensures (fun _ => True) (OnCommit (fun d' => d' = d ∨
            Logged (paymentId.bind (Table.get d.payments)) d d') d)
          (discard (request booking payment refundAmount cancellationFee refundType refundMethod
            reason notes idempotencyKey actorId)) d [] := by
        rintro payment rfl
        refine (logged_request fun p hp => ?_).bind ?_ fun _ _ _ _ => .inl rfl
        · exact auditedPayment_get (.request bookingId paymentId refundAmount cancellationFee
            refundType refundMethod reason notes idempotencyKey actorId) hp
        · exact fun x d' es' hx => hx x rfl
      refine ensures_bind_loadPayment trivial (fun hnone => hrun none ?_) (fun q p hq hp => hrun _ ?_)
        fun _ _ _ _ => .inl rfl
      · rw [hnone]
        rfl
      · rw [hq, Option.bind_some, hp]
  | updateRequestedAmounts refundId paymentId refundAmount cancellationFee =>
    right
    have hkeeps : Keeps trailOf (lifecycleCode
        (.updateRequestedAmounts refundId paymentId refundAmount cancellationFee)) :=
      keeps_loadRefund.bind fun _ => keeps_loadPayment.bind fun _ =>
        keeps_updateRequestedAmounts.bind fun _ => (keeps_trail_flushRefund _).map _
    exact (trailOf_eq (hkeeps.atomically env d)).2
  | reject refundId reason actorId =>
    right
    have hkeeps : Keeps trailOf (lifecycleCode (.reject refundId reason actorId)) :=
      keeps_loadRefund.bind fun _ => (keeps_trail_reject _ _ _).map _
    exact (trailOf_eq (hkeeps.atomically env d)).2
  | approve refundId refundMethod approvedAmount notes actorId =>
    right
    have hkeeps : Keeps trailOf
        (lifecycleCode (.approve refundId refundMethod approvedAmount notes actorId)) :=
      keeps_loadRefund.bind fun _ => (keeps_trail_approve _ _ _ _ _).map _
    exact (trailOf_eq (hkeeps.atomically env d)).2
  | markProcessing => exact logged_loaded env fun r => logged_markProcessing
  | complete => exact logged_loaded env fun r => logged_complete
  | fail => exact logged_loaded env fun r => logged_fail

/-! ### The refunds a step changes -/

theorem not_changesRefund_self : ¬ ChangesRefund pid d d := by
  rintro ⟨k, r, hr, -, hne⟩
  rw [hr] at hne
  exact hne rfl

theorem changesRefund_append {r : RefundRow} (hnew : Table.get d.refunds r.id = none)
    (hrows : d'.refunds = d.refunds ++ [r]) : ChangesRefund pid d d' ↔ r.paymentId = some pid := by
  constructor
  · rintro ⟨k, r', hr', hpid, hne⟩
    rw [hrows, Table.get_append] at hr'
    cases hk : Table.get d.refunds k with
    | some r₀ =>
      rw [hk] at hr' hne
      cases hr'
      exact absurd rfl hne
    | none =>
      rw [hk] at hr'
      obtain rfl := List.mem_singleton.mp (Table.get_some hr').1
      exact hpid
  · intro hpid
    refine ⟨r.id, r, ?_, hpid, ?_⟩
    · rw [hrows]
      exact Table.get_append_new hnew
    · rw [hnew]
      simp

theorem changesRefund_replaces {k : Uuid} {r r' : RefundRow} (hr : Table.get d.refunds k = some r)
    (hrep : Table.Replaces d.refunds k r' d'.refunds) (hpid : r'.paymentId = r.paymentId) :
    ChangesRefund pid d d' ↔ r.paymentId = some pid ∧ r'.status ≠ r.status := by
  constructor
  · rintro ⟨k', r₁, hr₁, hpid₁, hne⟩
    by_cases hk : k' = k
    · subst hk
      obtain rfl : r' = r₁ := Option.some.inj (hrep.1.symm.trans hr₁)
      rw [hr] at hne
      exact ⟨hpid.symm.trans hpid₁, fun h => hne (congrArg some h.symm)⟩
    · rw [hrep.get_of_ne hk] at hr₁
      rw [hr₁] at hne
      exact absurd rfl hne
  · rintro ⟨hpid', hne⟩
    refine ⟨k, r', hrep.1, hpid.trans hpid', ?_⟩
    rw [hr]
    exact fun h => hne (Option.some.inj h).symm

/-! ### The status of the payment -/

theorem payment_of_status (h : (statusOf pid d).isSome) :
    ∃ p, Table.get d.payments pid = some p ∧ p.id = pid ∧ p.status.isSome := by
  unfold statusOf at h
  cases hp : Table.get d.payments pid with
  | none =>
    rw [hp] at h
    cases h
  | some p =>
    rw [hp] at h
    exact ⟨p, rfl, (Table.get_some hp).2, h⟩

/-- A payment that is there is the one its id names. -/
theorem names_payment (h : (statusOf pid d).isSome) (o : Option Uuid) :
    o = some pid ↔ ∃ p, o.bind (Table.get d.payments) = some p ∧ p.id = pid := by
  constructor
  · rintro rfl
    obtain ⟨p, hp, hid, -⟩ := payment_of_status h
    exact ⟨p, hp, hid⟩
  · rintro ⟨p, hp, rfl⟩
    obtain ⟨q, rfl, hq⟩ := Option.bind_eq_some_iff.mp hp
    exact congrArg some (Table.get_some hq).2.symm

theorem statusOf_completed {r : RefundRow} (h : CompletedIn d d' r) (hd : (statusOf pid d).isSome) :
    (statusOf pid d').isSome := by
  by_cases hpid : r.paymentId = some pid
  · obtain ⟨p, hp, hid⟩ := (names_payment hd _).mp hpid
    by_cases hloyal : isLoyalty r.refundMethod
    · rwa [statusOf_congr (h.payment.points hloyal)]
    · obtain ⟨-, a, hrep⟩ := h.payment.money p hp hloyal
      have hstatus := statusOf_get (paymentFor_get hp)
      rw [hid] at hrep hstatus
      rw [hstatus] at hd
      rw [statusOf_get hrep.1]
      show (completedSummary (completeTotal d' p r) p).status.isSome
      unfold completedSummary
      dsimp only
      split_ifs
      · rfl
      · rfl
      · exact hd
  · unfold statusOf
    rw [h.payment_other hpid]
    exact hd

theorem statusOf_failed {r : RefundRow} (h : FailedIn d d' r) (hd : (statusOf pid d).isSome) :
    (statusOf pid d').isSome := by
  by_cases hpid : r.paymentId = some pid
  · obtain ⟨p, hp, hid⟩ := (names_payment hd _).mp hpid
    obtain ⟨a, hrep⟩ := h.payment.present p hp
    have hstatus := statusOf_get (paymentFor_get hp)
    rw [hid] at hrep hstatus
    rw [hstatus] at hd
    rw [statusOf_get hrep.1]
    exact hd
  · unfold statusOf
    rw [h.payment_other hpid]
    exact hd

/-- The payment keeps a status. -/
theorem statusOf_step (hd : (statusOf pid d).isSome) (x : LifecycleOp × (ℕ → Env)) :
    (statusOf pid (lifecycleStep d x)).isSome := by
  rcases changed_of_step d x with hsame | hchanged
  · rw [hsame]
    exact hd
  obtain ⟨op, env⟩ := x
  cases op with
  | request => rwa [statusOf_congr hchanged.1]
  | updateRequestedAmounts => rwa [statusOf_congr hchanged.2.1]
  | reject => rwa [statusOf_congr hchanged.2.1]
  | approve => rwa [statusOf_congr hchanged.2.1]
  | markProcessing => rwa [statusOf_congr hchanged.2.1]
  | complete =>
    obtain ⟨r, r', -, -, -, -, hin⟩ := hchanged
    exact statusOf_completed hin hd
  | fail =>
    obtain ⟨r, r', -, -, -, -, -, hin⟩ := hchanged
    exact statusOf_failed hin hd

/-- The status of a payment no transition has appended a row of. -/
theorem statusOf_other (hd : (statusOf pid d).isSome) {x : LifecycleOp × (ℕ → Env)}
    (hne : ∀ p, auditedPayment d x.1 = some p → p.id ≠ pid) :
    statusOf pid (lifecycleStep d x) = statusOf pid d := by
  have hloaded : ∀ {k : Uuid} {r : RefundRow}, Table.get d.refunds k = some r →
      auditedPayment d x.1 = (Table.get d.refunds k).bind (paymentFor d) →
      r.paymentId ≠ some pid := by
    intro k r hr haudited hpid
    obtain ⟨p, hp, hid⟩ := (names_payment hd _).mp hpid
    refine hne p ?_ hid
    rw [haudited, hr]
    exact hp
  rcases changed_of_step d x with hsame | hchanged
  · rw [hsame]
  obtain ⟨op, env⟩ := x
  cases op with
  | request => exact statusOf_congr hchanged.1 pid
  | updateRequestedAmounts => exact statusOf_congr hchanged.2.1 pid
  | reject => exact statusOf_congr hchanged.2.1 pid
  | approve => exact statusOf_congr hchanged.2.1 pid
  | markProcessing => exact statusOf_congr hchanged.2.1 pid
  | complete =>
    obtain ⟨r, r', hr, -, -, -, hin⟩ := hchanged
    unfold statusOf
    rw [hin.payment_other (hloaded hr rfl)]
  | fail =>
    obtain ⟨r, r', hr, -, -, -, -, hin⟩ := hchanged
    unfold statusOf
    rw [hin.payment_other (hloaded hr rfl)]

/-! ### The rows of the payment -/

theorem historyOf_congr (h : d'.paymentStatusHistory = d.paymentStatusHistory) :
    historyOf pid d' = historyOf pid d := by
  unfold historyOf
  rw [h]

/-- A row of another payment. -/
theorem Logged.other {payment : Option PaymentRow} (h : Logged payment d d')
    (hne : ∀ p, payment = some p → p.id ≠ pid) : historyOf pid d' = historyOf pid d := by
  cases payment with
  | none => exact historyOf_congr h
  | some p =>
    obtain ⟨row, hrow, hid, -⟩ := h
    have hother : row.paymentId ≠ pid := fun he => hne p rfl (hid.symm.trans he)
    unfold historyOf
    rw [hrow, List.filter_append, List.filter_singleton]
    simp [hother]

/-- The row of the payment says the status before and the one after. -/
theorem Logged.own {p : PaymentRow} (h : Logged (some p) d d')
    (hp : Table.get d.payments p.id = some p) (hd : (statusOf p.id d).isSome)
    (hd' : (statusOf p.id d').isSome) :
    ∃ row, historyOf p.id d' = historyOf p.id d ++ [row] ∧ row.oldStatus = statusOf p.id d ∧
      some row.newStatus = statusOf p.id d' := by
  obtain ⟨row, hrow, hid, hold, hnew⟩ := h
  obtain ⟨s, hs⟩ := Option.isSome_iff_exists.mp hd
  obtain ⟨s', hs'⟩ := Option.isSome_iff_exists.mp hd'
  rw [← statusOf_get hp, hs] at hold
  rw [hs'] at hnew
  refine ⟨row, ?_, ?_, ?_⟩
  · unfold historyOf
    rw [hrow, List.filter_append, List.filter_singleton]
    simp [hid]
  · rw [hold, hs]
    rfl
  · rw [hnew, hs']
    rfl

theorem audited_of_logged {payment : Option PaymentRow} (h : Logged payment d d')
    (hget : ∀ p, payment = some p → Table.get d.payments p.id = some p)
    (hd : (statusOf pid d).isSome) (hd' : (statusOf pid d').isSome)
    (hiff : ChangesRefund pid d d' ↔ ∃ p, payment = some p ∧ p.id = pid) : Audited pid d d' := by
  constructor
  · intro hchanges
    obtain ⟨p, rfl, rfl⟩ := hiff.mp hchanges
    exact h.own (hget p rfl) hd hd'
  · intro hnot
    exact h.other fun p hp hid => hnot (hiff.mpr ⟨p, hp, hid⟩)

theorem audited_self : Audited pid d d :=
  ⟨fun h => absurd h not_changesRefund_self, fun _ => rfl⟩

theorem audited_step (hd : (statusOf pid d).isSome) {x : LifecycleOp × (ℕ → Env)}
    (hx : LeavesTrail pid d x) : Audited pid d (lifecycleStep d x) := by
  rcases logged_of_step d x with hsame | hlogged
  · rw [hsame]
    exact audited_self
  rcases changed_of_step d x with hsame | hchanged
  · rw [hsame]
    exact audited_self
  refine audited_of_logged hlogged (fun p hp => auditedPayment_get x.1 hp) hd (statusOf_step hd x) ?_
  -- the refunds a step changes are those of the payment whose row it appends
  have hloaded : ∀ {k : Uuid} {r r' : RefundRow}, Table.get d.refunds k = some r →
      Table.Replaces d.refunds k r' (lifecycleStep d x).refunds → r'.paymentId = r.paymentId →
      r'.status ≠ r.status → auditedPayment d x.1 = (Table.get d.refunds k).bind (paymentFor d) →
      (ChangesRefund pid d (lifecycleStep d x) ↔ ∃ p, auditedPayment d x.1 = some p ∧ p.id = pid) := by
    intro k r r' hr hrep hpid hne haudited
    rw [changesRefund_replaces hr hrep hpid, haudited, hr, Option.bind_some, names_payment hd]
    exact and_iff_left hne
  have hsilent : ∀ {k : Uuid} {r r' : RefundRow}, Table.get d.refunds k = some r →
      Table.Replaces d.refunds k r' (lifecycleStep d x).refunds → r'.paymentId = r.paymentId →
      (r.paymentId = some pid → r'.status = r.status) → auditedPayment d x.1 = none →
      (ChangesRefund pid d (lifecycleStep d x) ↔ ∃ p, auditedPayment d x.1 = some p ∧ p.id = pid) := by
    intro k r r' hr hrep hpid hsame haudited
    rw [changesRefund_replaces hr hrep hpid, haudited]
    constructor
    · rintro ⟨hpid', hne⟩
      exact absurd (hsame hpid') hne
    · rintro ⟨p, hp, -⟩
      cases hp
  obtain ⟨op, env⟩ := x
  cases op with
  | request =>
    obtain ⟨-, -, r, hnew, hrows, -, hpid, -⟩ := hchanged
    rw [changesRefund_append hnew hrows, hpid]
    exact names_payment hd _
  | updateRequestedAmounts =>
    obtain ⟨-, -, r, r', hr, ⟨-, -, rfl⟩, hrep⟩ := hchanged
    exact hsilent hr hrep rfl (fun _ => rfl) rfl
  | reject =>
    obtain ⟨-, -, r, r', hr, ⟨hreq, now, rfl⟩, hrep⟩ := hchanged
    exact hsilent hr hrep rfl (fun hpid => absurd ⟨r, hr, hpid, hreq⟩ hx) rfl
  | approve =>
    obtain ⟨-, -, r, r', hr, ⟨hreq, -, now, rfl⟩, hrep⟩ := hchanged
    exact hsilent hr hrep rfl (fun hpid => absurd ⟨r, hr, hpid, hreq⟩ hx) rfl
  | markProcessing =>
    obtain ⟨-, -, r, r', hr, ⟨hreq, now, rfl⟩, hrep⟩ := hchanged
    refine hloaded hr hrep rfl ?_ rfl
    rcases hreq with h | h <;> simp [h]
  | complete =>
    obtain ⟨r, r', hr, hopen, ⟨now, rfl⟩, hrep, -⟩ := hchanged
    refine hloaded hr hrep rfl ?_ rfl
    intro h
    rw [← h] at hopen
    exact absurd hopen (by simp [OPEN_STATUSES])
  | fail =>
    obtain ⟨r, r', hr, hne, -, rfl, hrep, -⟩ := hchanged
    exact hloaded hr hrep rfl (fun h => hne h.symm) rfl

/-! ### Rejections and approvals -/

/-- A requested refund that is rejected or approved changes without a row. -/
theorem not_audited {k : Uuid} {r r' : RefundRow} (hr : Table.get d.refunds k = some r)
    (hrep : Table.Replaces d.refunds k r' d'.refunds) (hkeeps : r'.paymentId = r.paymentId)
    (hne : r'.status ≠ r.status) (hpid : r.paymentId = some pid)
    (hhistory : d'.paymentStatusHistory = d.paymentStatusHistory) : ¬ Audited pid d d' := by
  intro h
  obtain ⟨row, hrow, -⟩ := h.changed ((changesRefund_replaces hr hrep hkeeps).mpr ⟨hpid, hne⟩)
  rw [historyOf_congr hhistory] at hrow
  have hlength := congrArg List.length hrow
  simp at hlength

theorem rejects_of_succeeds {k : Uuid} {r : RefundRow} {reason actorId : Option String}
    {env : ℕ → Env} (hr : Table.get d.refunds k = some r) (hreq : r.status = .requested)
    (hok : Succeeds d (.reject k reason actorId, env)) :
    ∃ now, Table.Replaces d.refunds k (rejectedColumns reason actorId now r)
      (lifecycleStep d (.reject k reason actorId, env)).refunds := by
  have hrow := raised_or_loaded (d := d) (k := k)
    (f := fun refund => discard (reject refund reason actorId))
    (P := fun r d' => r.status = .requested → ∃ now,
      Table.Replaces d.refunds k (rejectedColumns reason actorId now r) d'.refunds) env
    fun r hr => by
    refine (ensures_reject trivial (inStep_ofRow hr)).bind ?_ fun _ _ _ _ _ h => (by cases h)
    rintro o d' es ⟨-, ho⟩ _ _ hreq
    rcases ho o rfl with ⟨hne, -⟩ | ⟨-, -, now, rfl, hrep⟩
    · exact absurd hreq hne
    · rw [key_of_loaded hr] at hrep
      exact ⟨now, hrep⟩
  rcases hrow with ⟨hraised, -⟩ | ⟨r', hr', h⟩
  · exact absurd hok hraised
  · obtain rfl : r = r' := Option.some.inj (hr.symm.trans hr')
    exact h hreq

theorem approves_of_succeeds {k : Uuid} {r : RefundRow} {refundMethod : String}
    {approvedAmount : ℚ} {notes actorId : Option String} {env : ℕ → Env}
    (hr : Table.get d.refunds k = some r) (hreq : r.status = .requested)
    (hok : Succeeds d (.approve k refundMethod approvedAmount notes actorId, env)) :
    ∃ now, Table.Replaces d.refunds k (approvedColumns (RefundMethod.normalise refundMethod)
        (dec approvedAmount) notes actorId now r)
      (lifecycleStep d (.approve k refundMethod approvedAmount notes actorId, env)).refunds := by
  have hrow := raised_or_loaded (d := d) (k := k)
    (f := fun refund => discard (approve {} refund refundMethod approvedAmount notes actorId))
    (P := fun r d' => r.status = .requested → ∃ now,
      Table.Replaces d.refunds k (approvedColumns (RefundMethod.normalise refundMethod)
        (dec approvedAmount) notes actorId now r) d'.refunds) env fun r hr => by
    refine (ensures_approve trivial (agrees_empty d) (inStep_ofRow hr)).bind ?_
      fun _ _ _ _ _ h => (by cases h)
    rintro o d' es ⟨-, ho⟩ _ _ hreq
    rcases ho with ⟨happ, -⟩ | ⟨-, -, -, -, now, rfl, -, hrep⟩
    · exact absurd (hreq.symm.trans happ) (by decide)
    · rw [key_of_loaded hr] at hrep
      exact ⟨now, hrep⟩
  rcases hrow with ⟨hraised, -⟩ | ⟨r', hr', h⟩
  · exact absurd hok hraised
  · obtain rfl : r = r' := Option.some.inj (hr.symm.trans hr')
    exact h hreq

/-- A transition that succeeds is audited unless it rejects or approves a requested refund. -/
theorem audited_step_iff (hd : (statusOf pid d).isSome) {x : LifecycleOp × (ℕ → Env)}
    (hok : Succeeds d x) : Audited pid d (lifecycleStep d x) ↔ LeavesTrail pid d x := by
  refine ⟨fun h => ?_, audited_step hd⟩
  have hsilent : auditedPayment d x.1 = none →
      (lifecycleStep d x).paymentStatusHistory = d.paymentStatusHistory := by
    intro hnone
    rcases logged_of_step d x with hsame | hlogged
    · rw [hsame]
    · rw [hnone] at hlogged
      exact hlogged
  obtain ⟨op, env⟩ := x
  cases op with
  | reject =>
    rintro ⟨r, hr, hpid, hreq⟩
    obtain ⟨now, hrep⟩ := rejects_of_succeeds hr hreq hok
    exact not_audited hr hrep rfl (by simp [hreq]) hpid (hsilent rfl) h
  | approve =>
    rintro ⟨r, hr, hpid, hreq⟩
    obtain ⟨now, hrep⟩ := approves_of_succeeds hr hreq hok
    exact not_audited hr hrep rfl (by simp [hreq]) hpid (hsilent rfl) h
  | request => trivial
  | updateRequestedAmounts => trivial
  | markProcessing => trivial
  | complete => trivial
  | fail => trivial

/-! ## Replays -/

theorem Replays.refl (pid : Uuid) (d : Db) : Replays pid d d := ⟨[], by simp, rfl⟩

theorem Replays.trans {d'' : Db} (h : Replays pid d d') (h' : Replays pid d' d'') :
    Replays pid d d'' := by
  obtain ⟨rows, hrows, hreplay⟩ := h
  obtain ⟨rows', hrows', hreplay'⟩ := h'
  refine ⟨rows ++ rows', ?_, ?_⟩
  · rw [hrows', hrows, List.append_assoc]
  · unfold replay at hreplay hreplay' ⊢
    rw [List.foldl_append, hreplay, hreplay']

theorem replays_step (hd : (statusOf pid d).isSome) (x : LifecycleOp × (ℕ → Env)) :
    Replays pid d (lifecycleStep d x) := by
  rcases logged_of_step d x with hsame | hlogged
  · rw [hsame]
    exact .refl pid d
  by_cases hown : ∃ p, auditedPayment d x.1 = some p ∧ p.id = pid
  · obtain ⟨p, hp, rfl⟩ := hown
    rw [hp] at hlogged
    obtain ⟨row, hrow, hold, hnew⟩ :=
      hlogged.own (auditedPayment_get x.1 hp) hd (statusOf_step hd x)
    refine ⟨[row], hrow, ?_⟩
    show (if row.oldStatus = statusOf p.id d then some row.newStatus else none) = _
    rw [if_pos hold, hnew]
  · have hne : ∀ p, auditedPayment d x.1 = some p → p.id ≠ pid := fun p hp hid => hown ⟨p, hp, hid⟩
    refine ⟨[], ?_, (statusOf_other hd hne).symm⟩
    rw [hlogged.other hne, List.append_nil]

end Step

/-- In a run of transitions that succeed, each change of a refund of the payment has its one row
exactly when none of them rejects or approves a requested refund of it. In every run the rows lead to
the status the payment has. -/
theorem audit_trail_iff (pid : Uuid) {d : Db} {ops : List (LifecycleOp × (ℕ → Env))}
    (hstart : (statusOf pid d).isSome) (hok : Runs.AllSteps lifecycleStep Succeeds d ops) :
    (Runs.AllSteps lifecycleStep (fun d x => Audited pid d (lifecycleStep d x)) d ops ↔
      Runs.AllSteps lifecycleStep (LeavesTrail pid) d ops) ∧
      Runs.Always lifecycleStep (Replays pid d) d ops := by
  constructor
  · exact Runs.allSteps_iff (fun d x h => statusOf_step h x) (fun d x h => audited_step_iff h) hstart
      hok
  · have hboth : Runs.Always lifecycleStep (fun d' => (statusOf pid d').isSome ∧ Replays pid d d') d
        ops := by
      refine Runs.always_of_step ?_ ⟨hstart, .refl pid d⟩ ops
      intro d' x h
      exact ⟨statusOf_step h.1 x, h.2.trans (replays_step h.1 x)⟩
    exact hboth.mono fun _ h => h.2

/-- Two refunds are requested of a paid booking, one is sent to the provider and completed in part, the
other one failed. -/
def partlyRefunded : List (LifecycleOp × (ℕ → Env)) :=
  [(.request 7 (some 1) 4 0 "manual" "other" none none none none, answers),
    (.request 7 (some 1) 6 0 "manual" "other" none none none none, fun _ => { uuid := 22 }),
    (.markProcessing 21 (some "re_1") none none, answers),
    (.complete 21 "provider_webhook" none none none false, answers),
    (.fail 22 "declined" "provider_webhook" none none none, answers)]

theorem audit_trail_partlyRefunded :
    (Runs.AllSteps lifecycleStep (fun d x => Audited 1 d (lifecycleStep d x)) paidBooking
        partlyRefunded ↔ Runs.AllSteps lifecycleStep (LeavesTrail 1) paidBooking partlyRefunded) ∧
      Runs.Always lifecycleStep (Replays 1 paidBooking) paidBooking partlyRefunded :=
  audit_trail_iff 1 (by decide) (by decide +kernel)

/-- The approval of the refund leaves no row. -/
theorem approved_without_row :
    Runs.AllSteps lifecycleStep Succeeds paidBooking refundInCash ∧
      ¬ Runs.AllSteps lifecycleStep (fun d x => Audited 1 d (lifecycleStep d x)) paidBooking
        refundInCash := by
  refine ⟨by decide +kernel, fun h => ?_⟩
  have hrow := (audited_step_iff (by decide +kernel) (by decide +kernel)).mp h.2.1
  exact absurd hrow (by decide +kernel)

end Payment
