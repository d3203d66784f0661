import UshBookNPay.Payment.Proofs.LifecycleProofs
import UshBookNPay.Payment.LifecycleRuns

/-!
# One specification for each transition

What a transition of `RefundLifecycle` does when its objects are in step with the database: the row of
`refunds` it replaces or adds and the guards it has passed.
-/

open Transactions (Prog Ensures)
open Transactions

namespace Payment

variable {mid : List Emission → Prop} {d : Db} {es : List Emission} {known : Known}

/-- The cap of the refund's own payment, which `approve` leaves out for loyalty points. -/
def ApprovalCap (d : Db) (refund : RefundRow) (method : RefundMethod) (net : Fils) : Prop :=
  method ≠ .loyaltyPoints → ∀ pid, refund.paymentId = some pid → WithinCap d pid (some refund.id) net

/-! ## request -/

theorem ensures_generateRefundNumber (hmid : mid es) :
    Ensures mid (Returns fun _ d' es' => d' = d ∧ es' = es) generateRefundNumber d es := by
  unfold generateRefundNumber
  rw [ensures_bind_ask]
  refine ⟨hmid, fun a => ?_⟩
  rw [ensures_bind_queryForUpdate, ensures_query]
  exact ⟨hmid, hmid, rfl, rfl⟩

theorem refundConflict_none {d : Db} {r : RefundRow} (h : refundConflict d r = none) :
    Table.get d.refunds r.id = none ∧ fits r := by
  unfold refundConflict at h
  split_ifs at h with h1 h2 h3 h4
  exact ⟨by simpa using h1, h4⟩

/-- An insert adds one row under a new key. -/
theorem ensures_insertRefund {r : RefundRow} (hmid : mid es) :
    Ensures mid (fun res d' es' => es' = es ∧ ∀ o, res = .ok o →
        o = .ofRow r ∧ Frame d d' ∧ d'.refunds = d.refunds ++ [r] ∧
          Table.get d.refunds r.id = none ∧ fits r)
      (insertRefund r) d es := by
  unfold insertRefund
  rw [ensures_bind, ensures_checkedUpdate]
  refine ⟨hmid, ?_⟩
  cases hc : refundConflict d r with
  | none =>
    obtain ⟨hnew, hfits⟩ := refundConflict_none hc
    refine ⟨rfl, fun o ho => ?_⟩
    cases ho
    exact ⟨rfl, ⟨rfl, rfl, rfl, rfl⟩, rfl, hnew, hfits⟩
  | some e => exact ⟨rfl, fun o ho => nomatch ho⟩

/-- A new refund is positive, `requested` and within the cap of its payment. -/
theorem ensures_requestNew {booking : BookingRow} {payment : Option PaymentRow} {net fee : Fils}
    {refundType refundMethod : String} {reason notes idempotencyKey actorId : Option String}
    (hmid : mid es) :
    Ensures mid (fun r d' es' => es' = es ∧ ∀ o, r = .ok o → 0 < net ∧
        (∀ p, payment = some p →
          ¬ exceeds (sumOf d p.id committedStatuses none + net) p.totalAmount) ∧
        Frame d d' ∧ ∃ id refundNumber now,
          o = .ofRow (requestedRow booking payment net fee refundType refundMethod reason notes
            idempotencyKey actorId id refundNumber now) ∧
          d'.refunds = d.refunds ++ [o.row] ∧ Table.get d.refunds id = none ∧ fits o.row)
      (requestNew booking payment net fee refundType refundMethod reason notes idempotencyKey
        actorId) d es := by
  unfold requestNew
  rw [ensures_bind_raiseIf]
  refine ⟨fun _ => ⟨rfl, fun _ h => nomatch h⟩, fun hnet => ?_⟩
  rw [ensures_bind_raiseIf]
  refine ⟨fun _ => ⟨rfl, fun _ h => nomatch h⟩, fun _ => ?_⟩
  refine (ensures_checkCap hmid).bind ?_ ?_
  · rintro _ d es ⟨rfl, rfl, hiff⟩
    refine (ensures_generateRefundNumber hmid).bind_returns ?_
    rintro refundNumber d es ⟨rfl, rfl⟩
    rw [ensures_bind_ask]
    refine ⟨hmid, fun a => ?_⟩
    rw [ensures_bind_ask]
    refine ⟨hmid, fun b => ?_⟩
    refine (ensures_insertRefund hmid).bind ?_ ?_
    · rintro o d₁ es ⟨rfl, ho⟩
      obtain ⟨rfl, hframe, hrows, hnew, hfits⟩ := ho o rfl
      refine (ensures_forSome_audit hmid).bind_returns ?_
      rintro _ d₂ es ⟨rfl, hframe', hrows'⟩
      refine ⟨rfl, fun o ho => ?_⟩
      cases ho
      have hcap : ∀ p, payment = some p →
          ¬ exceeds (sumOf d p.id committedStatuses none + net) p.totalAmount := by
        intro p hp hex
        have := hiff.mpr ⟨p, hp, hex⟩
        simp at this
      exact ⟨not_le.mp hnet, hcap, hframe.trans hframe', a.uuid, refundNumber, b.now, rfl,
        hrows'.trans hrows, hnew, hfits⟩
    · rintro e d₁ es ⟨rfl, -⟩
      exact ⟨rfl, fun _ h => nomatch h⟩
  · rintro e d es ⟨rfl, rfl, -⟩
    exact ⟨rfl, fun _ h => nomatch h⟩

/-- `request` returns the refund that has the idempotency key, or a new one. -/
theorem ensures_request {booking : BookingRow} {payment : Option PaymentRow}
    {refundAmount cancellationFee : ℚ} {refundType refundMethod : String}
    {reason notes idempotencyKey actorId : Option String} (hmid : mid es) :
    Ensures mid (fun r d' es' => es' = es ∧ ∀ o created, r = .ok (o, created) →
        (d' = d ∧ created = false ∧ Text.truthy idempotencyKey ∧ ∃ row ∈ d.refunds,
          o = .ofRow row) ∨
        (created = true ∧ 0 < dec refundAmount ∧
          (∀ p, payment = some p → ¬ exceeds
            (sumOf d p.id committedStatuses none + dec refundAmount) p.totalAmount) ∧
          Frame d d' ∧ ∃ id refundNumber now,
            o = .ofRow (requestedRow booking payment (dec refundAmount) (dec cancellationFee)
              refundType refundMethod reason notes idempotencyKey actorId id refundNumber now) ∧
            d'.refunds = d.refunds ++ [o.row] ∧ Table.get d.refunds id = none ∧ fits o.row))
      (request booking payment refundAmount cancellationFee refundType refundMethod reason notes
        idempotencyKey actorId) d es := by
  unfold request
  rw [ensures_bind_query]
  refine ⟨hmid, ?_⟩
  cases hex : (if Text.truthy idempotencyKey then
      d.refunds.find? fun r => r.idempotencyKey = idempotencyKey else none) with
  | some row =>
    have hrow : Text.truthy idempotencyKey ∧ row ∈ d.refunds := by
      split_ifs at hex with hkey
      exact ⟨hkey, List.mem_of_find?_eq_some hex⟩
    refine ⟨rfl, fun o created h => .inl ?_⟩
    cases h
    exact ⟨rfl, rfl, hrow.1, row, hrow.2, rfl⟩
  | none =>
    refine (ensures_requestNew hmid).bind ?_ ?_
    · rintro o d' es ⟨rfl, h⟩
      refine ⟨rfl, fun o' created h' => .inr ?_⟩
      cases h'
      exact ⟨rfl, h o rfl⟩
    · rintro e d' es ⟨rfl, -⟩
      exact ⟨rfl, fun _ _ h => nomatch h⟩

/-! ## update_requested_amounts, reject -/

theorem ensures_updateRequestedAmounts {refund : Orm RefundRow} {payment : Option PaymentRow}
    {refundAmount cancellationFee : ℚ} (hmid : mid es) :
    Ensures mid (fun r d' es' => d' = d ∧ es' = es ∧
        ((∃ e, r = .error e) ↔ refund.row.status ≠ .requested ∨ dec refundAmount ≤ 0 ∨
          ∃ p, payment = some p ∧ exceeds (sumOf d p.id committedStatuses (some refund.row.id) +
            dec refundAmount) p.totalAmount) ∧
        ∀ o, r = .ok o →
          o = refund.set (requestedColumns (dec refundAmount) (dec cancellationFee)))
      (updateRequestedAmounts refund payment refundAmount cancellationFee) d es := by
  unfold updateRequestedAmounts
  rw [ensures_bind_raiseIf]
  refine ⟨fun h => ⟨rfl, rfl, by simp [h], fun _ h => nomatch h⟩, fun hreq => ?_⟩
  rw [ensures_bind_raiseIf]
  refine ⟨fun h => ⟨rfl, rfl, by simp [h], fun _ h => nomatch h⟩, fun hnet => ?_⟩
  refine (ensures_checkCap hmid).bind ?_ ?_
  · rintro _ d es ⟨rfl, rfl, hiff⟩
    refine ⟨rfl, rfl, ?_, fun o ho => (Except.ok.inj ho).symm⟩
    simp only [reduceCtorEq, exists_false, false_iff] at hiff
    simp only [reduceCtorEq, exists_false, false_iff, not_or]
    exact ⟨hreq, hnet, hiff⟩
  · rintro e d es ⟨rfl, rfl, hiff⟩
    have hex := hiff.mp ⟨e, rfl⟩
    exact ⟨rfl, rfl, ⟨fun _ => .inr (.inr hex), fun _ => ⟨e, rfl⟩⟩, fun _ h => nomatch h⟩

theorem ensures_reject {refund : Orm RefundRow} {reason actorId : Option String} (hmid : mid es)
    (hs : InStep refund d.refunds) :
    Ensures mid (fun r d' es' => es' = es ∧ ∀ o, r = .ok o →
        (refund.row.status ≠ .requested ∧ d' = d ∧ o = refund) ∨
        (refund.row.status = .requested ∧ Frame d d' ∧ ∃ now,
          o = .ofRow (rejectedColumns reason actorId now refund.row) ∧
          Table.Replaces d.refunds refund.row.id o.row d'.refunds))
      (reject refund reason actorId) d es := by
  unfold reject
  by_cases hdone : refund.row.status = .completed ∨ refund.row.status = .rejected
  · rw [if_pos hdone]
    have hne : refund.row.status ≠ .requested := by rcases hdone with h | h <;> rw [h] <;> decide
    exact ⟨rfl, fun o ho => .inl ⟨hne, rfl, (Except.ok.inj ho).symm⟩⟩
  rw [if_neg hdone]
  rw [ensures_bind_raiseIf]
  refine ⟨fun _ => ⟨rfl, fun _ h => nomatch h⟩, fun hreq => ?_⟩
  rw [ensures_bind_ask]
  refine ⟨hmid, fun a => ?_⟩
  have hs' := hs.set (f := rejectedColumns reason actorId a.now) fun _ => rfl
  refine (ensures_flushRefund hmid hs').mono (fun _ h => h) ?_
  rintro (_ | o) d' es' ⟨rfl, h⟩
  · exact ⟨rfl, fun _ h => nomatch h⟩
  · obtain ⟨rfl, hframe, -, -, hrep, -⟩ := h
    refine ⟨rfl, fun o ho => .inr ?_⟩
    cases ho
    exact ⟨not_not.mp hreq, hframe, a.now, rfl, hrep⟩

/-! ## approve -/

/-- The booking a transition touches only under a condition. -/
theorem ensures_ite_bookingOf {c : Prop} [Decidable c] {refund : RefundRow} (hmid : mid es) :
    Ensures mid (Returns fun b d' es' => d' = d ∧ es' = es ∧ ∀ o, b = some o → o.changes = id)
      (if c then bookingOf known refund else pure none) d es := by
  split_ifs
  · exact ensures_bookingOf hmid
  · exact ⟨rfl, rfl, fun _ h => nomatch h⟩

/-- `approve` returns an approved refund as it is, and otherwise approves a requested one within the
cap of its payment, which is left out for loyalty points. It raises only where a guard fails or an
amount does not fit its column. -/
theorem ensures_approve {refund : Orm RefundRow} {refundMethod : String} {approvedAmount : ℚ}
    {notes actorId : Option String} (hmid : mid es) (hk : Agrees known d)
    (hs : InStep refund d.refunds) :
    Ensures mid (fun r d' es' => es' = es ∧ match r with
      | .ok o =>
        (refund.row.status = .approved ∧ o = refund ∧ d' = d) ∨
        (refund.row.status = .requested ∧ 0 < dec approvedAmount ∧
          ApprovalCap d refund.row (RefundMethod.normalise refundMethod) (dec approvedAmount) ∧
          Frame d d' ∧ ∃ now, o = .ofRow (approvedColumns (RefundMethod.normalise refundMethod)
            (dec approvedAmount) notes actorId now refund.row) ∧ fits o.row ∧
            Table.Replaces d.refunds refund.row.id o.row d'.refunds)
      | .error _ =>
        refund.row.status ≠ .approved ∧
        (refund.row.status = .requested → 0 < dec approvedAmount →
          ApprovalCap d refund.row (RefundMethod.normalise refundMethod) (dec approvedAmount) →
          ∃ now, ¬ fits (approvedColumns (RefundMethod.normalise refundMethod) (dec approvedAmount)
            notes actorId now refund.row)))
      (approve known refund refundMethod approvedAmount notes actorId) d es := by
  unfold approve
  by_cases happ : refund.row.status = .approved
  · rw [if_pos happ]
    exact ⟨rfl, .inl ⟨happ, rfl, rfl⟩⟩
  rw [if_neg happ, ensures_bind_raiseIf]
  refine ⟨fun h => ⟨rfl, happ, fun h' => absurd h' h⟩, fun hreq => ?_⟩
  rw [ensures_bind_raiseIf]
  refine ⟨fun h => ⟨rfl, happ, fun _ h' => absurd h (not_le.mpr h')⟩, fun hnet => ?_⟩
  refine (ensures_paymentOf hmid hk).bind_returns ?_
  rintro _ d es ⟨rfl, rfl, rfl⟩
  -- the payment the cap is checked on is the refund's own
  have hcapIff : ApprovalCap d refund.row (RefundMethod.normalise refundMethod)
      (dec approvedAmount) ↔ ¬ ∃ p : Orm PaymentRow,
        (if RefundMethod.normalise refundMethod ≠ .loyaltyPoints then
          (refund.row.paymentId.bind (Table.get d.payments)).map Orm.ofRow else none) = some p ∧
        exceeds (sumOf d p.row.id committedStatuses (some refund.row.id) + dec approvedAmount)
          p.row.totalAmount := by
    unfold ApprovalCap WithinCap
    by_cases hloyal : RefundMethod.normalise refundMethod = .loyaltyPoints
    · simp [hloyal]
    · simp only [ne_eq, hloyal, not_false_eq_true, forall_true_left, if_true, not_exists, not_and]
      constructor
      · intro h p hp
        simp only [Option.map_eq_some_iff, Option.bind_eq_some_iff] at hp
        obtain ⟨q, ⟨pid, hpid, hq⟩, rfl⟩ := hp
        have hid : q.id = pid := (Table.get_some hq).2
        have := h pid hpid q hq
        rwa [Orm.ofRow_row, hid]
      · intro h pid hpid q hq
        have hid : q.id = pid := (Table.get_some hq).2
        have := h (Orm.ofRow q) (by simp [hpid, hq])
        rwa [Orm.ofRow_row, hid] at this
  refine (ensures_checkCap (g := Orm.row) hmid).bind ?_ ?_
  · rintro _ d es ⟨rfl, rfl, hiff⟩
    have hcap : ApprovalCap d refund.row (RefundMethod.normalise refundMethod)
        (dec approvedAmount) := by
      rw [hcapIff, ← hiff]
      simp
    rw [ensures_bind_ask]
    refine ⟨hmid, fun a => ?_⟩
    refine (ensures_ite_bookingOf hmid).bind_returns ?_
    rintro b d es ⟨rfl, rfl, hb⟩
    refine (ensures_forSome_flushBooking (f := (·.setPaymentStatus .refundedWithPoints)) hmid hb
      fun _ => rfl).bind_returns ?_
    rintro _ d₁ es ⟨rfl, hframe₁, hrows₁⟩
    have hs₁ : InStep (refund.set (approvedColumns (RefundMethod.normalise refundMethod)
        (dec approvedAmount) notes actorId a.now)) d₁.refunds := by
      rw [hrows₁]
      exact hs.set fun _ => rfl
    refine (ensures_flushRefund hmid hs₁).mono (fun _ h => h) ?_
    rintro (_ | o) d₂ es ⟨rfl, h⟩
    · exact ⟨rfl, happ, fun _ _ _ => ⟨a.now, h⟩⟩
    · obtain ⟨rfl, hframe₂, -, -, hrep, hfits⟩ := h
      rw [hrows₁] at hrep
      exact ⟨rfl, .inr ⟨not_not.mp hreq, not_le.mp hnet, hcap, hframe₁.trans hframe₂, a.now, rfl,
        hfits, hrep⟩⟩
  · rintro e d es ⟨rfl, rfl, hiff⟩
    refine ⟨rfl, happ, fun _ _ hcap => ?_⟩
    exact absurd (hiff.mp ⟨e, rfl⟩) (hcapIff.mp hcap)

/-! ## mark_processing -/

theorem ensures_markProcessing {refund : Orm RefundRow} {providerRefundId : Option String}
    {gatewayResponse : Option Json} {actorId : Option String} (hmid : mid es)
    (hs : InStep refund d.refunds) :
    Ensures mid (fun r d' es' => es' = es ∧ ∀ o, r = .ok o →
        ((refund.row.status = .completed ∨ refund.row.status = .processing) ∧ d' = d ∧
          o = refund) ∨
        ((refund.row.status = .requested ∨ refund.row.status = .approved) ∧ Frame d d' ∧ ∃ now,
          o = .ofRow (processingColumns providerRefundId gatewayResponse actorId now refund.row) ∧
          Table.Replaces d.refunds refund.row.id o.row d'.refunds))
      (markProcessing known refund providerRefundId gatewayResponse actorId) d es := by
  unfold markProcessing
  by_cases hdone : refund.row.status = .completed ∨ refund.row.status = .processing
  · rw [if_pos hdone]
    exact ⟨rfl, fun o ho => .inl ⟨hdone, rfl, (Except.ok.inj ho).symm⟩⟩
  rw [if_neg hdone, ensures_bind_raiseIf]
  refine ⟨fun _ => ⟨rfl, fun _ h => nomatch h⟩, fun hreq => ?_⟩
  have hreq' : refund.row.status = .requested ∨ refund.row.status = .approved := by
    by_contra h
    exact hreq (not_or.mp h)
  rw [ensures_bind_ask]
  refine ⟨hmid, fun a => ?_⟩
  have hs' := hs.set (f := processingColumns providerRefundId gatewayResponse actorId a.now)
    fun _ => rfl
  refine (ensures_paymentOf_changes hmid).bind_returns ?_
  rintro _ d es ⟨rfl, rfl, -⟩
  refine (ensures_forSome_audit (g := Orm.row) hmid).bind_returns ?_
  rintro _ d₁ es ⟨rfl, hframe₁, hrows₁⟩
  rw [← hrows₁] at hs'
  refine (ensures_flushRefund hmid hs').mono (fun _ h => h) ?_
  rintro (_ | o) d₂ es ⟨rfl, h⟩
  · exact ⟨rfl, fun _ h => nomatch h⟩
  · obtain ⟨rfl, hframe₂, -, -, hrep, -⟩ := h
    rw [hrows₁] at hrep
    refine ⟨rfl, fun o ho => .inr ?_⟩
    cases ho
    exact ⟨hreq', hframe₁.trans hframe₂, a.now, rfl, hrep⟩

/-! ## complete -/

theorem ensures_checkPaidAmount {refund : RefundRow} {payment : Option (Orm PaymentRow)}
    (hmid : mid es) :
    Ensures mid (fun _ d' es' => d' = d ∧ es' = es) (checkPaidAmount refund payment) d es := by
  unfold checkPaidAmount completedTotal
  rw [ensures_forSome]
  refine ⟨fun _ => ⟨rfl, rfl⟩, fun p _ => ?_⟩
  rw [ensures_bind_query, ensures_raiseIf]
  exact ⟨hmid, fun _ => ⟨rfl, rfl⟩, fun _ => ⟨rfl, rfl⟩⟩

/-- Assignments of a fixed column-keeping function to an object that has none pending. -/
theorem fixed_set {R : Type} {fixed : R → R} {o : Orm R} (ho : o.changes = id) {f : R → R}
    (hf : ∀ r, fixed (f r) = fixed r) (r : R) : fixed ((o.set f).changes r) = fixed r := by
  simp [ho, hf]

theorem fixedPayment_completedSummary (total : Fils) (p : PaymentRow) :
    fixedPayment (completedSummary total p) = fixedPayment p := rfl

theorem fixedPayment_failedSummary (total : Fils) (wasCompleted : Bool) (refundNumber : String)
    (p : PaymentRow) :
    fixedPayment (failedSummary total wasCompleted refundNumber p) = fixedPayment p := rfl

theorem fixedBooking_setPaymentStatus (s : Booking.PaymentStatus) (b : BookingRow) :
    fixedBooking (b.setPaymentStatus s) = fixedBooking b := rfl

theorem ensures_completePayment {refund : RefundRow} {source : String}
    {providerReference actorId : Option String} {payment : Option (Orm PaymentRow)}
    (hmid : mid es) (hp : ∀ p, payment = some p → p.changes = id) :
    Ensures mid (fun r d' es' => es' = es ∧ ∀ x, r = .ok x → Frame d d' ∧ d'.refunds = d.refunds)
      (completePayment refund source providerReference actorId payment) d es := by
  cases payment with
  | none => exact ⟨rfl, fun _ _ => ⟨Frame.refl d, rfl⟩⟩
  | some p =>
    unfold completePayment completedTotal retainedFee
    by_cases hloyal : isLoyalty refund.refundMethod = true
    · simp only [hloyal, if_true]
      refine (ensures_audit hmid).bind_returns ?_
      rintro _ d' es ⟨rfl, hframe, hrows, -⟩
      exact ⟨rfl, fun _ _ => ⟨hframe, hrows⟩⟩
    · simp only [hloyal, Bool.false_eq_true, if_false]
      rw [ensures_bind_query]
      refine ⟨hmid, ?_⟩
      rw [ensures_bind_query]
      refine ⟨hmid, ?_⟩
      refine (ensures_flushPayment hmid
        (fixed_set (hp p rfl) (fixedPayment_completedSummary _))).bind ?_ ?_
      · rintro p' d₁ es ⟨rfl, h⟩
        obtain ⟨hframe₁, hrows₁, -⟩ := h p' rfl
        refine (ensures_audit hmid).bind_returns ?_
        rintro _ d₂ es ⟨rfl, hframe₂, hrows₂, -⟩
        exact ⟨rfl, fun _ _ => ⟨hframe₁.trans hframe₂, hrows₂.trans hrows₁⟩⟩
      · rintro e d₁ es ⟨rfl, -⟩
        exact ⟨rfl, fun _ h => nomatch h⟩

theorem ensures_completeBooking {loyalty fully hasPayment : Bool} {booking : Option (Orm BookingRow)}
    (hmid : mid es) (hb : ∀ b, booking = some b → b.changes = id) :
    Ensures mid (Returns fun b d' es' => es' = es ∧ Frame d d' ∧ d'.refunds = d.refunds ∧
        ∀ o, b = some o → o.changes = id)
      (completeBooking loyalty fully hasPayment booking) d es := by
  cases booking with
  | none => exact ⟨rfl, Frame.refl d, rfl, fun _ h => nomatch h⟩
  | some b =>
    have hf : ∀ r, fixedBooking (completedBooking loyalty fully hasPayment r) = fixedBooking r := by
      intro r
      unfold completedBooking
      split_ifs <;> rfl
    unfold completeBooking
    rw [ensures_map]
    refine (ensures_flushBooking hmid (fixed_set (hb b rfl) hf)).mono (fun _ h => h) ?_
    rintro (_ | o) d' es' h
    · exact h
    · obtain ⟨rfl, hframe, hrows, ho⟩ := h
      refine ⟨rfl, hframe, hrows, fun o' ho' => ?_⟩
      cases ho'
      exact ho

/-- At most one event more than before. -/
def OneEvent (es es' : List Emission) : Prop :=
  es' = es ∨ ∃ ev, es' = es ++ [Emission.refundCompleted ev]

theorem ensures_publishCompletedEvent {publishEvent : Bool} {event : RefundCompletedEvent}
    (hmid : ∀ ev, mid (es ++ [Emission.refundCompleted ev])) :
    Ensures mid (Returns fun _ d' es' => d' = d ∧ OneEvent es es')
      (publishCompletedEvent publishEvent event) d es := by
  unfold publishCompletedEvent
  split_ifs
  · rw [ensures_emit]
    exact ⟨hmid event, rfl, .inr ⟨event, rfl⟩⟩
  · exact ⟨rfl, .inl rfl⟩

/-- `complete` returns a completed refund as it is and otherwise completes an open one; it publishes
at most one event. -/
theorem ensures_complete {refund : Orm RefundRow} {source : String}
    {providerReference : Option String} {gatewayResponse : Option Json} {actorId : Option String}
    {publishEvent : Bool} (hmid : mid es)
    (hmid' : ∀ ev, mid (es ++ [Emission.refundCompleted ev]))
    (hs : InStep refund d.refunds) :
    Ensures mid (fun r d' es' => OneEvent es es' ∧ ∀ c, r = .ok c →
        (refund.row.status = .completed ∧ d' = d ∧ c.refund = refund) ∨
        (refund.row.status ∈ OPEN_STATUSES ∧ Frame d d' ∧
          (∀ b, c.booking = some b → b.changes = id) ∧ ∃ now,
          c.refund = .ofRow (completedColumns now providerReference gatewayResponse refund.row) ∧
          Table.Replaces d.refunds refund.row.id c.refund.row d'.refunds))
      (complete known refund source providerReference gatewayResponse actorId publishEvent) d
      es := by
  unfold complete
  by_cases hdone : refund.row.status = .completed
  · rw [if_pos hdone]
    refine ⟨.inl rfl, fun c hc => .inl ?_⟩
    cases hc
    exact ⟨hdone, rfl, rfl⟩
  rw [if_neg hdone, ensures_bind_raiseIf]
  refine ⟨fun _ => ⟨.inl rfl, fun _ h => nomatch h⟩, fun hopen => ?_⟩
  refine (ensures_paymentOf_changes hmid).bind_returns ?_
  rintro payment d es ⟨rfl, rfl, hp⟩
  refine (ensures_checkPaidAmount hmid).bind ?_ ?_
  swap
  · rintro e d es ⟨rfl, rfl⟩
    exact ⟨.inl rfl, fun _ h => nomatch h⟩
  rintro _ d es ⟨rfl, rfl⟩
  rw [ensures_bind_ask]
  refine ⟨hmid, fun a => ?_⟩
  have hs' := hs.set (f := completedColumns a.now providerReference gatewayResponse) fun _ => rfl
  refine (ensures_flushRefund hmid hs').bind ?_ ?_
  swap
  · rintro e d es ⟨rfl, -⟩
    exact ⟨.inl rfl, fun _ h => nomatch h⟩
  rintro o d₁ es ⟨rfl, rfl, hframe₁, -, -, hrep, -⟩
  refine (ensures_bookingOf hmid).bind_returns ?_
  rintro booking d₁ es ⟨rfl, rfl, hb⟩
  refine (ensures_completePayment hmid hp).bind ?_ ?_
  swap
  · rintro e d es ⟨rfl, -⟩
    exact ⟨.inl rfl, fun _ h => nomatch h⟩
  rintro ⟨payment', fully⟩ d₂ es ⟨rfl, h⟩
  obtain ⟨hframe₂, hrows₂⟩ := h _ rfl
  refine (ensures_completeBooking hmid hb).bind_returns ?_
  rintro booking' d₃ es ⟨rfl, hframe₃, hrows₃, hb'⟩
  refine (ensures_publishCompletedEvent hmid').bind_returns ?_
  rintro _ d₃ es' ⟨rfl, hes⟩
  refine ⟨hes, fun c hc => .inr ?_⟩
  cases hc
  rw [← hrows₂, ← hrows₃] at hrep
  exact ⟨not_not.mp hopen, (hframe₁.trans hframe₂).trans hframe₃, hb', a.now, rfl, hrep⟩

/-! ## fail -/

theorem ensures_failPayment {refund : RefundRow} {reason source : String} {wasCompleted : Bool}
    {providerReference actorId : Option String} {payment : Option (Orm PaymentRow)}
    (hmid : mid es) (hp : ∀ p, payment = some p → p.changes = id) :
    Ensures mid (fun r d' es' => es' = es ∧ ∀ x, r = .ok x → Frame d d' ∧ d'.refunds = d.refunds)
      (failPayment refund reason source wasCompleted providerReference actorId payment) d es := by
  cases payment with
  | none => exact ⟨rfl, fun _ _ => ⟨Frame.refl d, rfl⟩⟩
  | some p =>
    unfold failPayment completedTotal
    dsimp only
    rw [ensures_bind_query]
    refine ⟨hmid, ?_⟩
    refine (ensures_flushPayment hmid
      (fixed_set (hp p rfl) (fixedPayment_failedSummary _ _ _))).bind ?_ ?_
    · rintro p' d₁ es ⟨rfl, h⟩
      obtain ⟨hframe₁, hrows₁, -⟩ := h p' rfl
      refine (ensures_audit hmid).bind_returns ?_
      rintro _ d₂ es ⟨rfl, hframe₂, hrows₂, -⟩
      exact ⟨rfl, fun _ _ => ⟨hframe₁.trans hframe₂, hrows₂.trans hrows₁⟩⟩
    · rintro e d₁ es ⟨rfl, -⟩
      exact ⟨rfl, fun _ h => nomatch h⟩

theorem ensures_failBooking {refund : RefundRow} {wasCompleted : Bool} {total : Option Fils}
    (hmid : mid es) :
    Ensures mid (Returns fun _ d' es' => es' = es ∧ Frame d d' ∧ d'.refunds = d.refunds)
      (failBooking {} refund wasCompleted total) d es := by
  unfold failBooking
  refine (ensures_ite_bookingOf hmid).bind_returns ?_
  rintro booking d es ⟨rfl, rfl, hb⟩
  refine Ensures.forSome ⟨rfl, Frame.refl d, rfl⟩ fun b hbook => ?_
  refine Ensures.forSome ⟨rfl, Frame.refl d, rfl⟩ fun t _ => ?_
  refine (ensures_flushBooking hmid
    (fixed_set (hb b hbook) (fixedBooking_setPaymentStatus _))).bind_returns ?_
  rintro _ d' es' ⟨rfl, hframe, hrows, -⟩
  exact ⟨rfl, hframe, hrows⟩

/-- `fail` returns a failed or cancelled refund as it is and fails every other one. -/
theorem ensures_fail {refund : Orm RefundRow} {reason source : String}
    {providerReference : Option String} {gatewayResponse : Option Json} {actorId : Option String}
    (hmid : mid es) (hs : InStep refund d.refunds) :
    Ensures mid (fun r d' es' => es' = es ∧ ∀ o, r = .ok o →
        ((refund.row.status = .failed ∨ refund.row.status = .cancelled) ∧ d' = d ∧ o = refund) ∨
        (¬ (refund.row.status = .failed ∨ refund.row.status = .cancelled) ∧ Frame d d' ∧
          o = .ofRow (failedColumns reason gatewayResponse refund.row) ∧
          Table.Replaces d.refunds refund.row.id o.row d'.refunds))
      (fail {} refund reason source providerReference gatewayResponse actorId) d es := by
  unfold fail
  split_ifs with hdone
  · exact ⟨rfl, fun o ho => .inl ⟨hdone, rfl, (Except.ok.inj ho).symm⟩⟩
  have hs' := hs.set (f := failedColumns reason gatewayResponse) fun _ => rfl
  refine (ensures_flushRefund hmid hs').bind ?_ ?_
  swap
  · rintro e d es ⟨rfl, -⟩
    exact ⟨rfl, fun _ h => nomatch h⟩
  rintro o d₁ es ⟨rfl, rfl, hframe₁, -, -, hrep, -⟩
  refine (ensures_paymentOf_changes hmid).bind_returns ?_
  rintro payment d₁ es ⟨rfl, rfl, hp⟩
  refine (ensures_failPayment hmid hp).bind ?_ ?_
  swap
  · rintro e d es ⟨rfl, -⟩
    exact ⟨rfl, fun _ h => nomatch h⟩
  rintro total d₂ es ⟨rfl, h⟩
  obtain ⟨hframe₂, hrows₂⟩ := h _ rfl
  refine (ensures_failBooking hmid).bind_returns ?_
  rintro _ d₃ es ⟨rfl, hframe₃, hrows₃⟩
  refine ⟨rfl, fun o ho => .inr ?_⟩
  cases ho
  rw [← hrows₂, ← hrows₃] at hrep
  exact ⟨hdone, (hframe₁.trans hframe₂).trans hframe₃, rfl, hrep⟩

end Payment
