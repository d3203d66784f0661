import UshBookNPay.PaymentLinks.Proofs.RoutingProofs
import UshBookNPay.PaymentLinks.RefundActions
import UshBookNPay.Payment.Proofs.ProcessRefundProofs
import UshBookNPay.Payment.Proofs.SentBackProofs
import UshBookNPay.Payment.Proofs.StepProofs

/-!
# What becomes of a refund

Every transition, workflow and webhook moves the refunds lawfully, but for the steps that have no guard:
`fail` of a rejected refund, an execution that reuses a refund approved as points, and a webhook for a
closed refund.
-/

open Transactions (Prog Ensures Ledger transact)
open Transactions

namespace PaymentLinks

open Payment (LifecycleOp RefundOp lifecycleCode refundCode isLoyalty RefundMethod
  acceptedCalls callsFor openRefund openRefund_some)

variable {d d' d'' : Db} {es es' es'' : List Emission} {k : Uuid} {r r' r'' : RefundRow}

/-! ## Lawful moves -/

theorem Lawful.of_same (hstatus : r'.status = r.status)
    (hmethod : ForPoints r → isLoyalty r'.refundMethod) : Lawful r r' := by
  refine ⟨fun _ => hstatus, fun hc => .inl (hstatus.trans hc), fun hp => ?_, fun hpoints => ?_⟩
  · rw [hstatus, hp]
    exact ⟨by decide, by decide⟩
  · exact ⟨hmethod hpoints, hstatus ▸ hpoints.2.1, hstatus ▸ hpoints.2.2⟩

theorem Lawful.refl (r : RefundRow) : Lawful r r := .of_same rfl And.left

theorem Lawful.trans (h : Lawful r r') (h' : Lawful r' r'') : Lawful r r'' := by
  refine ⟨fun hc => ?_, fun hc => ?_, fun hp => ?_, fun hp => h'.points (h.points hp)⟩
  · have hs := h.closed hc
    exact (h'.closed (hs ▸ hc)).trans hs
  · rcases h.completed hc with hs | hs
    · exact h'.completed hs
    · exact .inr ((h'.closed (by simp [hs])).trans hs)
  · obtain ⟨hne, hne'⟩ := h.processing hp
    cases hs : r'.status with
    | requested => exact absurd hs hne
    | approved => exact absurd hs hne'
    | processing => exact h'.processing hs
    | completed => rcases h'.completed hs with hs' | hs' <;> simp [hs']
    | rejected => simp [h'.closed (by simp [hs]), hs]
    | failed => simp [h'.closed (by simp [hs]), hs]
    | cancelled => simp [h'.closed (by simp [hs]), hs]

/-- A requested refund may become anything. -/
theorem Lawful.of_requested (h : r.status = .requested) : Lawful r r' := by
  refine ⟨fun hc => ?_, fun hc => ?_, fun hp => ?_, fun hp => absurd h hp.2.1⟩
  · simp [h] at hc
  · simp [h] at hc
  · simp [h] at hp

/-! ## Runs of a program -/

/-- The refunds of `d'` have followed lawfully from those of `d`, and no refund for points was accepted
by a provider between `es` and `es'`. -/
structure Follows (d : Db) (es : List Emission) (d' : Db) (es' : List Emission) : Prop where
  unique : Table.Unique d.refunds → Table.Unique d'.refunds
  rows : ∀ k r, Table.get d.refunds k = some r → ∃ r', Table.get d'.refunds k = some r' ∧ Lawful r r'
  calls : ∀ k r, Table.get d.refunds k = some r → ForPoints r → callsFor k es' = callsFor k es

theorem Follows.refl (d : Db) (es : List Emission) : Follows d es d es :=
  ⟨fun h => h, fun _ r hr => ⟨r, hr, Lawful.refl r⟩, fun _ _ _ _ => rfl⟩

theorem Follows.trans (h : Follows d es d' es') (h' : Follows d' es' d'' es'') :
    Follows d es d'' es'' := by
  refine ⟨fun hu => h'.unique (h.unique hu), fun k r hr => ?_, fun k r hr hp => ?_⟩
  · obtain ⟨r', hr', hl⟩ := h.rows k r hr
    obtain ⟨r'', hr'', hl'⟩ := h'.rows k r' hr'
    exact ⟨r'', hr'', hl.trans hl'⟩
  · obtain ⟨r', hr', hl⟩ := h.rows k r hr
    rw [h'.calls k r' hr' (hl.points hp), h.calls k r hr hp]

/-- Nothing happens to the refunds, and no call is accepted. -/
theorem Follows.of_same (hrows : d'.refunds = d.refunds)
    (hcalls : acceptedCalls es' = acceptedCalls es) : Follows d es d' es' := by
  refine ⟨fun hu => hrows ▸ hu, fun k r hr => ⟨r, hrows ▸ hr, Lawful.refl r⟩, fun k r _ _ => ?_⟩
  unfold callsFor
  rw [hcalls]

theorem Follows.of_replaces (hr : Table.get d.refunds k = some r)
    (hrep : Table.Replaces d.refunds k r' d'.refunds) (hlaw : Lawful r r')
    (hcalls : acceptedCalls es' = acceptedCalls es) : Follows d es d' es' := by
  refine ⟨hrep.unique, fun k' x hx => ?_, fun k' x _ _ => ?_⟩
  · by_cases hk : k' = k
    · subst hk
      rw [hr] at hx
      cases hx
      exact ⟨r', hrep.1, hlaw⟩
    · exact ⟨x, by rw [hrep.get_of_ne hk, hx], Lawful.refl x⟩
  · unfold callsFor
    rw [hcalls]

theorem Follows.of_append (hnew : Table.get d.refunds r.id = none)
    (hrows : d'.refunds = d.refunds ++ [r]) (hcalls : acceptedCalls es' = acceptedCalls es) :
    Follows d es d' es' := by
  refine ⟨fun hu => hrows ▸ hu.append hnew, fun k x hx => ⟨x, ?_, Lawful.refl x⟩, fun k x _ _ => ?_⟩
  · rw [hrows]
    exact Table.get_append_of_some hx
  · unfold callsFor
    rw [hcalls]

/-- A provider has accepted a refund that is not for points. -/
theorem Follows.of_call (amount : Fils) (hr : Table.get d.refunds k = some r) (hno : ¬ ForPoints r)
    (hcalls : acceptedCalls es' = acceptedCalls es ++ [(k, amount)]) : Follows d es d es' := by
  refine ⟨fun hu => hu, fun _ x hx => ⟨x, hx, Lawful.refl x⟩, fun k' x hx hpoints => ?_⟩
  have hne : k ≠ k' := by
    rintro rfl
    rw [hr] at hx
    cases hx
    exact hno hpoints
  unfold callsFor
  rw [hcalls, List.countP_append]
  simp [hne]

/-- A run that returns has moved the refunds lawfully; one that raises has made no call for points. -/
def Moves (d : Db) (es : List Emission) {α : Type} : Except Error α → Db → List Emission → Prop
  | .ok _, d', es' => Follows d es d' es'
  | .error _, _, es' => ∀ k r, Table.get d.refunds k = some r → ForPoints r →
    callsFor k es' = callsFor k es

theorem moves_error {α : Type} {e : Error} (hcalls : acceptedCalls es' = acceptedCalls es) :
    Moves d es (.error e : Except Error α) d' es' := by
  intro k r _ _
  unfold callsFor
  rw [hcalls]

/-- What follows a part of a program. -/
theorem Moves.after {α : Type} {res : Except Error α} (h : Follows d es d' es')
    (h' : Moves d' es' res d'' es'') : Moves d es res d'' es'' := by
  cases res with
  | ok a => exact h.trans h'
  | error e =>
    intro k r hr hp
    obtain ⟨r', hr', hl⟩ := h.rows k r hr
    rw [h' k r' hr' (hl.points hp), h.calls k r hr hp]

/-- The sequence rule. -/
theorem moves_bind {α β : Type} {Q : Except Error α → Db → List Emission → Prop} {p : Tx α}
    {f : α → Tx β} (hp : Ensures (fun _ => True) Q p d es)
    (hok : ∀ a d' es', Q (.ok a) d' es' → Follows d es d' es' ∧
      Ensures (fun _ => True) (Moves d' es') (f a) d' es')
    (herr : ∀ e d' es', Q (.error e) d' es' → acceptedCalls es' = acceptedCalls es) :
    Ensures (fun _ => True) (Moves d es) (p >>= f) d es := by
  refine hp.bind (fun a d' es' hq => ?_) fun e d' es' hq => moves_error (herr e d' es' hq)
  obtain ⟨hfollows, hf⟩ := hok a d' es' hq
  exact hf.mono (fun _ h => h) fun _ _ _ h => h.after hfollows

/-- The sequence rule after a program that only reads. -/
theorem moves_bind_reads {α β : Type} {Q : α → Prop} {p : Tx α} {f : α → Tx β}
    (hp : Ensures (fun _ => True) (Reads d es Q) p d es)
    (hok : ∀ a, Q a → Ensures (fun _ => True) (Moves d es) (f a) d es) :
    Ensures (fun _ => True) (Moves d es) (p >>= f) d es :=
  Ensures.bind_reads hp hok fun _ => moves_error rfl

theorem moves_after {α : Type} {p : Tx α} (h : Follows d es d' es')
    (hp : Ensures (fun _ => True) (Moves d' es') p d' es') :
    Ensures (fun _ => True) (Moves d es) p d' es' :=
  hp.mono (fun _ h => h) fun _ _ _ h' => Moves.after h h'

theorem Moves.bind {α β : Type} {p : Tx α} {f : α → Tx β}
    (hp : Ensures (fun _ => True) (Moves d es) p d es)
    (hok : ∀ a d' es', Ensures (fun _ => True) (Moves d' es') (f a) d' es') :
    Ensures (fun _ => True) (Moves d es) (p >>= f) d es := by
  refine Ensures.bind hp (fun a d' es' hfollows => ?_) fun _ _ _ h => h
  exact moves_after hfollows (hok a d' es')

theorem moves_discard {α : Type} {p : Tx α} (hp : Ensures (fun _ => True) (Moves d es) p d es) :
    Ensures (fun _ => True) (Moves d es) (discard p) d es :=
  Moves.bind hp fun _ d' es' => Follows.refl d' es'

theorem moves_raise {β : Type} {c : Prop} [Decidable c] {e : Error} {f : Unit → Tx β}
    (hok : ¬ c → Ensures (fun _ => True) (Moves d es) (f ()) d es) :
    Ensures (fun _ => True) (Moves d es) (Prog.raiseIf c e >>= f) d es := by
  rw [ensures_bind_raiseIf]
  exact ⟨fun _ => moves_error rfl, hok⟩

/-- A write of the booking, where there is something to write. -/
theorem ensures_forSome_booking {α : Type} {c : Option α} {o : α → Orm BookingRow} :
    Ensures (fun _ => True) (Returns fun _ d' es' => es' = es ∧ d'.refunds = d.refunds)
      (Prog.forSome c fun a => discard (flushBooking (o a))) d es := by
  refine Ensures.forSome ⟨rfl, rfl⟩ fun a _ => ?_
  refine (ensures_writeBooking trivial).bind_returns ?_
  rintro _ d' es' ⟨rfl, -, rfl⟩
  exact ⟨rfl, rfl⟩

theorem moves_emit {e : Emission} (he : [e].all Emission.void) :
    Ensures (fun _ => True) (Moves d es) (Prog.emit e : Tx Unit) d es := by
  rw [ensures_emit]
  exact ⟨trivial, .of_same rfl (Payment.acceptedCalls_append_void he)⟩

/-! ## Transitions -/

/-- The object stands for the refund `r` of the table, with its status, and for points where `r` is. -/
structure Stands (d : Db) (o : Orm RefundRow) (r : RefundRow) : Prop where
  inStep : InStep o d.refunds
  row : Table.get d.refunds o.row.id = some r
  status : o.row.status = r.status
  points : ForPoints r → isLoyalty o.row.refundMethod

theorem stands_ofRow (hr : Table.get d.refunds k = some r) : Stands d (.ofRow r) r := by
  have hid : r.id = k := (Table.get_some hr).2
  exact ⟨inStep_ofRow hr, by rw [Orm.ofRow_row, hid, hr], rfl, And.left⟩

theorem Stands.set {o : Orm RefundRow} (h : Stands d o r) {f : RefundRow → RefundRow}
    (hid : ∀ r, (f r).id = r.id) (hstatus : ∀ r, (f r).status = r.status)
    (hpoints : ForPoints r → isLoyalty (f o.row).refundMethod) : Stands d (o.set f) r := by
  refine ⟨h.inStep.set hid, ?_, ?_, hpoints⟩
  · rw [Orm.set_row, hid, h.row]
  · rw [Orm.set_row, hstatus, h.status]

/-- A refund replaced by one it may lawfully become. -/
theorem Stands.follows {o : Orm RefundRow} (h : Stands d o r)
    (hrep : Table.Replaces d.refunds o.row.id r' d'.refunds) (hlaw : Lawful r r')
    (hcalls : acceptedCalls es' = acceptedCalls es) :
    Follows d es d' es' ∧ Stands d' (.ofRow r') r' :=
  ⟨.of_replaces h.row hrep hlaw hcalls, stands_ofRow hrep.1⟩

theorem ensures_flushRefund_moves {o : Orm RefundRow} (h : Stands d o r) :
    Ensures (fun _ => True) (Moves d es) (Payment.flushRefund o) d es := by
  refine (Payment.ensures_flushRefund trivial h.inStep).mono (fun _ h => h) ?_
  rintro (e | o') d' es' ⟨rfl, hres⟩
  · exact moves_error rfl
  · obtain ⟨-, -, -, -, hrep, -⟩ := hres
    exact .of_replaces h.row hrep (.of_same h.status h.points) rfl

theorem lawful_completed {o : Orm RefundRow} (h : Stands d o r) (hopen : r.status ∈ Payment.OPEN_STATUSES)
    {now : Instant} {ref : Option String} {res : Option Json} :
    Lawful r (Payment.completedColumns now ref res o.row) := by
  refine ⟨fun hc => ?_, fun _ => .inl rfl, fun _ => ⟨by simp, by simp⟩,
    fun hp => ⟨h.points hp, by simp, by simp⟩⟩
  simp only [Payment.OPEN_STATUSES, List.mem_cons, List.not_mem_nil, or_false] at hopen hc
  rcases hopen with hs | hs | hs <;> simp [hs] at hc

/-- `complete` completes an open refund, and returns a completed one. -/
theorem ensures_complete_moves {known : Known} {o : Orm RefundRow} {source : String}
    {providerReference : Option String} {gatewayResponse : Option Json} {actorId : Option String}
    {publishEvent : Bool} (h : Stands d o r) :
    Ensures (fun _ => True) (fun res d' es' => acceptedCalls es' = acceptedCalls es ∧
        ∀ c, res = .ok c → Follows d es d' es' ∧ ∃ r', Stands d' c.refund r')
      (Payment.complete known o source providerReference gatewayResponse actorId publishEvent) d
      es := by
  refine (Payment.ensures_complete trivial (fun _ => trivial) h.inStep).mono (fun _ h => h) ?_
  rintro res d' es' ⟨hone, hc⟩
  refine ⟨hone.acceptedCalls, fun c hok => ?_⟩
  rcases hc c hok with ⟨-, rfl, hsame⟩ | ⟨hopen, -, -, now, hrow, hrep⟩
  · rw [hsame]
    exact ⟨.of_same rfl hone.acceptedCalls, r, h⟩
  · rw [hrow] at hrep ⊢
    obtain ⟨hfollows, hstands⟩ := h.follows hrep (lawful_completed h (h.status ▸ hopen))
      hone.acceptedCalls
    exact ⟨hfollows, _, hstands⟩

/-- `mark_processing` of a refund that was not approved as points. -/
theorem ensures_markProcessing_moves {known : Known} {o : Orm RefundRow}
    {providerRefundId : Option String} {gatewayResponse : Option Json} {actorId : Option String}
    (h : Stands d o r) (hmoney : ¬ (r.status = .approved ∧ ForPoints r)) :
    Ensures (fun _ => True) (fun res d' es' => acceptedCalls es' = acceptedCalls es ∧
        ∀ o', res = .ok o' → Follows d es d' es' ∧ ∃ r', Stands d' o' r')
      (Payment.markProcessing known o providerRefundId gatewayResponse actorId) d es := by
  refine (Payment.ensures_markProcessing trivial h.inStep).mono (fun _ h => h) ?_
  rintro res d' es' ⟨rfl, ho⟩
  refine ⟨rfl, fun o' hok => ?_⟩
  rcases ho o' hok with ⟨-, rfl, rfl⟩ | ⟨hreq, -, now, rfl, hrep⟩
  · exact ⟨.refl _ _, r, h⟩
  · rw [h.status] at hreq
    have hlaw : Lawful r
        (Payment.processingColumns providerRefundId gatewayResponse actorId now o.row) := by
      rcases hreq with hs | hs
      · exact .of_requested hs
      · refine ⟨fun hc => ?_, fun hc => ?_, fun hp => ?_, fun hp => absurd ⟨hs, hp⟩ hmoney⟩
        · simp [hs] at hc
        · simp [hs] at hc
        · simp [hs] at hp
    obtain ⟨hfollows, hstands⟩ := h.follows hrep hlaw rfl
    exact ⟨hfollows, _, hstands⟩

/-- `fail` of a refund that was not rejected. -/
theorem ensures_fail_moves {o : Orm RefundRow} {reason source : String}
    {providerReference : Option String} {gatewayResponse : Option Json} {actorId : Option String}
    (h : Stands d o r) (hne : r.status ≠ .rejected) :
    Ensures (fun _ => True) (Moves d es)
      (Payment.fail {} o reason source providerReference gatewayResponse actorId) d es := by
  refine (Payment.ensures_fail trivial h.inStep).mono (fun _ h => h) ?_
  rintro (e | o') d' es' ⟨rfl, ho⟩
  · exact moves_error rfl
  rcases ho o' rfl with ⟨-, rfl, -⟩ | ⟨hopen, -, rfl, hrep⟩
  · exact .refl _ _
  · rw [h.status] at hopen
    have hlaw : Lawful r (Payment.failedColumns reason gatewayResponse o.row) := by
      refine ⟨fun hc => ?_, fun _ => .inr rfl, fun _ => ⟨by simp, by simp⟩,
        fun hp => ⟨h.points hp, by simp, by simp⟩⟩
      simp only [List.mem_cons, List.not_mem_nil, or_false] at hc
      rcases hc with hs | hs | hs
      · exact absurd hs hne
      · exact absurd (.inl hs) hopen
      · exact absurd (.inr hs) hopen
    exact (h.follows hrep hlaw rfl).1

theorem ensures_approve_moves {k : Uuid} {refundMethod : String} {approvedAmount : ℚ}
    {notes actorId : Option String} (hr : Table.get d.refunds k = some r) :
    Ensures (fun _ => True) (fun res d' es' => acceptedCalls es' = acceptedCalls es ∧
        ∀ o, res = .ok o → Follows d es d' es')
      (Payment.approve {} (.ofRow r) refundMethod approvedAmount notes actorId) d es := by
  have h := stands_ofRow hr
  refine (Payment.ensures_approve trivial (Payment.agrees_empty d) h.inStep).mono (fun _ h => h) ?_
  rintro (e | o) d' es' ⟨rfl, ho⟩
  · exact ⟨rfl, fun _ h => (by cases h)⟩
  refine ⟨rfl, fun _ _ => ?_⟩
  rcases ho with ⟨-, -, rfl⟩ | ⟨hreq, -, -, -, now, rfl, -, hrep⟩
  · exact .refl _ _
  · exact (h.follows hrep (.of_requested hreq) rfl).1

/-- A new refund, or one that has the idempotency key. -/
theorem ensures_request_moves {booking : BookingRow} {payment : Option PaymentRow}
    {refundAmount cancellationFee : ℚ} {refundType refundMethod : String}
    {reason notes idempotencyKey actorId : Option String} (hu : Table.Unique d.refunds) :
    Ensures (fun _ => True) (fun res d' es' => es' = es ∧
        ∀ x, res = .ok x → Follows d es d' es' ∧ ∃ r', Stands d' x.1 r' ∧
          (idempotencyKey = none → r'.status = .requested))
      (Payment.request booking payment refundAmount cancellationFee refundType refundMethod reason
        notes idempotencyKey actorId) d es := by
  refine (Payment.ensures_request trivial).mono (fun _ h => h) ?_
  rintro res d' es' ⟨rfl, ho⟩
  refine ⟨rfl, ?_⟩
  rintro ⟨o, created⟩ hok
  rcases ho o created hok with
    ⟨rfl, -, htruthy, row, hrow, rfl⟩ | ⟨-, -, -, -, id, number, now, rfl, hrows, hnew, -⟩
  · refine ⟨.refl _ _, row, stands_ofRow (Table.get_eq_of_mem hu hrow), fun hnone => ?_⟩
    simp [hnone, Text.truthy] at htruthy
  · rw [Orm.ofRow_row] at hrows
    have hget := Table.get_append_new (r := Payment.requestedRow booking payment
      (Payment.dec refundAmount) (Payment.dec cancellationFee) refundType refundMethod reason notes
      idempotencyKey actorId id number now) hnew
    rw [← hrows] at hget
    exact ⟨.of_append hnew hrows rfl, _, stands_ofRow hget, fun _ => rfl⟩

theorem moves_request {booking : BookingRow} {payment : Option PaymentRow}
    {refundAmount cancellationFee : ℚ} {refundType refundMethod : String}
    {reason notes idempotencyKey actorId : Option String} (hu : Table.Unique d.refunds) :
    Ensures (fun _ => True) (Moves d es)
      (Payment.request booking payment refundAmount cancellationFee refundType refundMethod reason
        notes idempotencyKey actorId) d es := by
  refine (ensures_request_moves hu).mono (fun _ h => h) ?_
  rintro (e | x) d' es' ⟨rfl, ho⟩
  · exact moves_error rfl
  · exact (ho x rfl).1

/-! ## Workflows -/

/-- The object may be executed with the method it has: it stands for an open refund that is not in
`processing`, and one approved as points is executed as points. -/
structure Executable (d : Db) (o : Orm RefundRow) (refundMethod : String) (r : RefundRow) : Prop where
  stands : Stands d o r
  status : r.status = .requested ∨ r.status = .approved
  money : ¬ isLoyalty refundMethod → ¬ (r.status = .approved ∧ ForPoints r)

theorem ensures_adjustOpenRefund_moves {o : Orm RefundRow} {payment : Option PaymentRow}
    {netAmount : Option ℚ} {cancellationFee : ℚ} (h : Stands d o r) (ho : o = .ofRow r) :
    Ensures (fun _ => True) (Reads d es fun o' => Stands d o' r ∧ (r.status = .approved →
        ∀ x, netAmount = some x → ¬ Payment.differs r x cancellationFee))
      (Payment.adjustOpenRefund o payment netAmount cancellationFee) d es := by
  unfold Payment.adjustOpenRefund
  cases netAmount with
  | none => exact ⟨rfl, rfl, fun o' ho' => by cases ho'; exact ⟨h, fun _ _ hx => by cases hx⟩⟩
  | some net =>
    dsimp only
    split_ifs with hdiff
    · refine (Payment.ensures_updateRequestedAmounts trivial).mono (fun _ h => h) ?_
      rintro (e | o') d' es' ⟨rfl, rfl, herr, hok⟩
      · exact ⟨rfl, rfl, fun _ h => (by cases h)⟩
      refine ⟨rfl, rfl, fun o'' ho'' => ?_⟩
      cases ho''
      obtain rfl := hok o' rfl
      simp only [reduceCtorEq, exists_false, false_iff, not_or, not_not] at herr
      refine ⟨h.set (fun _ => rfl) (fun _ => rfl) h.points, fun happ => ?_⟩
      rw [← h.status, herr.1] at happ
      cases happ
    · refine ⟨rfl, rfl, fun o' ho' => ?_⟩
      cases ho'
      refine ⟨h, fun _ x hx => ?_⟩
      cases hx
      rw [ho] at hdiff
      exact hdiff

theorem ensures_resolve_moves {loaded : List RefundRow} {booking : BookingRow}
    {payment : Option PaymentRow} {netAmount : Option ℚ} {cancellationFee : ℚ}
    {refundType refundMethod : String} {reason notes : Option String} {actorId : String}
    (hu : Table.Unique d.refunds) (hloaded : ∀ r ∈ loaded, r ∈ d.refunds)
    (hno : ¬ isLoyalty refundMethod → ¬ ReusesPoints booking.id netAmount cancellationFee d) :
    Ensures (fun _ => True) (fun res d' es' => es' = es ∧ ∀ o, res = .ok o →
        Follows d es d' es' ∧ ∃ r, Executable d' o refundMethod r)
      (Payment.resolveRefundToExecute loaded booking payment netAmount cancellationFee refundType
        refundMethod reason notes actorId) d es := by
  have herr : ∀ e : Error, es = es ∧ ∀ o, (.error e : Except Error (Orm RefundRow)) = .ok o →
      Follows d es d es ∧ ∃ r, Executable d o refundMethod r := fun e => ⟨rfl, fun _ h => by cases h⟩
  unfold Payment.resolveRefundToExecute
  refine Ensures.bind_reads (Payment.ensures_findOpenRefund trivial hu hloaded) (fun o ho => ?_) herr
  cases o with
  | none =>
    dsimp only
    refine Ensures.bind_reads (Payment.ensures_netToRequest trivial) (fun net _ => ?_) herr
    refine (ensures_request_moves hu).bind ?_ ?_
    · rintro ⟨refund, created⟩ d' es' ⟨rfl, hok⟩
      obtain ⟨hfollows, r', hstands, hreq⟩ := hok _ rfl
      refine ⟨rfl, fun o ho => ?_⟩
      cases ho
      have hstatus := hreq rfl
      exact ⟨hfollows, r', hstands, .inl hstatus, fun _ h => (by rw [hstatus] at h; cases h.1)⟩
    · rintro e d' es' ⟨rfl, -⟩
      exact ⟨rfl, fun _ h => (by cases h)⟩
  | some row =>
    obtain ⟨hrow, hopen⟩ := openRefund_some hu ho.symm
    dsimp only
    rw [ensures_bind_raiseIf]
    refine ⟨fun _ => herr _, fun hproc => ?_⟩
    have hstatus : row.status = .requested ∨ row.status = .approved := by
      simp only [Payment.OPEN_STATUSES, List.mem_cons, List.not_mem_nil, or_false] at hopen
      rcases hopen with hs | hs | hs
      · exact .inl hs
      · exact .inr hs
      · exact absurd hs hproc
    refine Ensures.bind_reads (ensures_adjustOpenRefund_moves (stands_ofRow hrow) rfl)
      (fun refund hrefund => ?_) herr
    obtain ⟨hstands, hsame⟩ := hrefund
    -- a refund approved as points is reused for points only
    have hmoney : ¬ isLoyalty refundMethod → ¬ (row.status = .approved ∧ ForPoints row) :=
      fun hm hp => hno hm ⟨row, ho.symm, hp.1, hp.2.1, hsame hp.1⟩
    refine ⟨rfl, fun o ho => ?_⟩
    cases ho
    refine ⟨.refl _ _, row, ?_, hstatus, hmoney⟩
    refine hstands.set (fun _ => rfl) (fun _ => rfl) fun hp => ?_
    by_contra hm
    rcases hstatus with hs | hs
    · exact hp.2.1 hs
    · exact hmoney hm ⟨hs, hp⟩

theorem Stands.congr {o : Orm RefundRow} (h : Stands d o r) (hrows : d'.refunds = d.refunds) :
    Stands d' o r :=
  ⟨hrows ▸ h.inStep, hrows ▸ h.row, h.status, h.points⟩

theorem not_isLoyalty_gateway : ¬ isLoyalty RefundMethod.paymentGateway.value := by
  decide +kernel

theorem ensures_recordManualRefund_moves {bookingId : Uuid} {req : Payment.CreateManualRefundRequest}
    {currentUserId : String} (hu : Table.Unique d.refunds)
    (hno : RefundMethod.normalise req.refundMethod ≠ .loyaltyPoints → 0 < req.refundAmount →
      ¬ ReusesPoints bookingId (some (req.refundAmount - req.cancellationFee)) req.cancellationFee
        d) :
    Ensures (fun _ => True) (Moves d es) (Payment.recordManualRefund bookingId req currentUserId) d
      es := by
  unfold Payment.recordManualRefund
  refine moves_bind_reads (Payment.ensures_getBooking trivial) fun booking hbooking => ?_
  refine moves_bind_reads (Payment.ensures_getPaymentForBooking trivial) fun payment _ => ?_
  refine moves_bind_reads (Payment.ensures_loadRefunds trivial) fun loaded hloaded => ?_
  refine moves_raise fun hamount => ?_
  refine moves_raise fun _ => ?_
  refine moves_raise fun _ => ?_
  dsimp only
  have hreuse : ¬ isLoyalty (RefundMethod.normalise req.refundMethod).value →
      ¬ ReusesPoints booking.id (some (req.refundAmount - req.cancellationFee)) req.cancellationFee
        d := by
    intro hm
    rw [hbooking]
    refine hno (fun hloyal => hm ?_) (not_le.mp hamount)
    rw [hloyal]
    decide
  refine moves_bind (ensures_resolve_moves hu hloaded hreuse) ?_ fun e d' es' h => by rw [h.1]
  rintro refund d₁ es₁ ⟨rfl, hok⟩
  obtain ⟨hfollows, r, hexec⟩ := hok refund rfl
  refine ⟨hfollows, ?_⟩
  rw [ensures_bind_ask]
  refine ⟨trivial, fun a => ?_⟩
  have hstands := hexec.stands.set (f := Payment.manualColumns req
    (Payment.effectiveUser req.changeByUser currentUserId) a.now) (fun _ => rfl) (fun _ => rfl)
    hexec.stands.points
  refine moves_bind (ensures_complete_moves hstands) ?_ fun e d' es' h => h.1
  rintro done d₂ es₂ ⟨-, hdone⟩
  obtain ⟨hfollows₂, r₂, hstands₂⟩ := hdone done rfl
  refine ⟨hfollows₂, ?_⟩
  refine moves_bind ensures_forSome_booking ?_ fun _ _ _ h => h.elim
  rintro _ d₃ es₃ ⟨rfl, hrows⟩
  refine ⟨.of_same hrows rfl, ?_⟩
  refine Moves.bind (ensures_flushRefund_moves (hstands₂.congr hrows)) fun o d₄ es₄ => ?_
  exact Moves.bind (moves_emit rfl) fun _ d₅ es₅ => Follows.refl d₅ es₅

/-- A refund that is not for points is submitted to the gateway. -/
theorem ensures_submitRefund_moves {known : Known} {o : Orm RefundRow} {payment : PaymentRow}
    {ref actorId : String} (h : Stands d o r) (hopen : r.status = .requested ∨ r.status = .approved)
    (hmoney : ¬ (r.status = .approved ∧ ForPoints r)) :
    Ensures (fun _ => True) (Moves d es) (Payment.submitRefund known o payment ref actorId) d es := by
  have hno : ¬ ForPoints r := by
    intro hpoints
    rcases hopen with hs | hs
    · exact hpoints.2.1 hs
    · exact hmoney ⟨hs, hpoints⟩
  unfold Payment.submitRefund
  refine (Payment.ensures_refundPayment trivial trivial).bind ?_ ?_
  swap
  · rintro e d' es' ⟨-, _, h, -⟩
    cases h
  rintro res d es₁ ⟨rfl, _, hres, hcalled⟩
  cases hres
  have hfollows : Follows d es d es₁ := by
    rcases hcalled with ⟨rfl, -⟩ | ⟨rfl, -⟩
    · exact .refl _ _
    · exact .of_call o.row.refundedAmount h.row hno (Payment.acceptedCalls_refundCall payment ref o.row)
  refine moves_after hfollows ?_
  cases res with
  | error exc => exact moves_error rfl
  | ok res =>
    refine moves_raise fun _ => ?_
    refine moves_bind (ensures_markProcessing_moves h hmoney) ?_ fun e d' es' h => h.1
    rintro o' d₂ es₂ ⟨-, ho⟩
    obtain ⟨hfollows₂, r₂, hstands₂⟩ := ho o' rfl
    exact ⟨hfollows₂, ensures_flushRefund_moves hstands₂⟩

theorem ensures_processGatewayRefund_moves {bookingId : Uuid}
    {req : Payment.ProcessGatewayRefundRequest} {currentUserId : String}
    (hu : Table.Unique d.refunds)
    (hno : 0 ≤ req.cancellationFee → ¬ ReusesPoints bookingId
      (req.refundAmount.map (· - req.cancellationFee)) req.cancellationFee d) :
    Ensures (fun _ => True) (Moves d es) (Payment.processGatewayRefund bookingId req currentUserId) d
      es := by
  unfold Payment.processGatewayRefund
  refine moves_bind_reads (Payment.ensures_getBooking trivial) fun booking hbooking => ?_
  refine moves_bind_reads (Payment.ensures_getPaymentForBooking trivial) fun payment _ => ?_
  refine moves_bind_reads (Payment.ensures_loadRefunds trivial) fun loaded hloaded => ?_
  cases payment with
  | none => exact moves_error rfl
  | some payment =>
    refine moves_raise fun hfee => ?_
    refine moves_bind_reads Payment.ensures_netOfRequest fun net hnet => ?_
    dsimp only
    split
    · exact moves_error rfl
    · refine moves_raise fun _ => ?_
      subst hnet
      have hreuse : ¬ ReusesPoints booking.id (req.refundAmount.map (· - req.cancellationFee))
          req.cancellationFee d := hbooking ▸ hno (not_lt.mp hfee)
      refine moves_bind (ensures_resolve_moves hu hloaded fun _ => hreuse) ?_
        fun e d' es' h => by rw [h.1]
      rintro refund d₁ es₁ ⟨rfl, hok⟩
      obtain ⟨hfollows, r, hexec⟩ := hok refund rfl
      have hstands := hexec.stands.set (f := Payment.gatewayColumns payment) (fun _ => rfl)
        (fun _ => rfl) hexec.stands.points
      exact ⟨hfollows, ensures_submitRefund_moves hstands hexec.status
        (hexec.money not_isLoyalty_gateway)⟩

theorem ensures_processLoyaltyRefund_moves {known : Known} {refund : RefundRow}
    {booking : Option BookingRow} {actorId : String} (hr : Table.get d.refunds k = some refund) :
    Ensures (fun _ => True) (Moves d es)
      (Payment.processLoyaltyRefund known refund booking actorId) d es := by
  unfold Payment.processLoyaltyRefund
  refine moves_bind (Payment.ensures_creditLoyalty trivial) ?_ fun e d' es' h => by rw [h.1]
  rintro _ d₁ es₁ ⟨rfl, hcredit⟩
  have hrows : d₁.refunds = d.refunds := (hcredit () rfl).1.refunds
  refine ⟨.of_same hrows rfl, ?_⟩
  have hstands := (stands_ofRow hr).congr hrows
  refine moves_bind (ensures_complete_moves hstands) ?_ fun e d' es' h => h.1
  rintro done d₂ es₂ ⟨-, hdone⟩
  refine ⟨(hdone done rfl).1, ?_⟩
  refine moves_bind ensures_forSome_booking ?_ fun _ _ _ h => h.elim
  rintro _ d₃ es₃ ⟨rfl, hrows₃⟩
  exact ⟨.of_same hrows₃ rfl, Follows.refl d₃ es₃⟩

theorem ensures_processMoneyRefund_moves {known : Known} {refund : RefundRow}
    {payment : Option PaymentRow} {booking : Option BookingRow} {actorId : String}
    (hr : Table.get d.refunds k = some refund) (hmoney : ¬ isLoyalty refund.refundMethod) :
    Ensures (fun _ => True) (Moves d es)
      (Payment.processMoneyRefund known refund payment booking actorId) d es := by
  have hid : refund.id = k := (Table.get_some hr).2
  unfold Payment.processMoneyRefund
  refine (Payment.ensures_executeRefund trivial fun _ _ => trivial).bind ?_ ?_
  · rintro res d es₁ ⟨rfl, hres⟩
    have hfollows : Follows d es d es₁ := by
      rcases hres with ⟨rfl, -⟩ | ⟨p, ref, x, rfl, -⟩
      · exact .refl _ _
      · refine .of_call refund.refundedAmount hr (fun hpoints => hmoney hpoints.1) ?_
        rw [Payment.acceptedCalls_refundCall, hid]
    refine moves_after hfollows ?_
    refine moves_bind (ensures_complete_moves (stands_ofRow hr)) ?_ fun e d' es' h => h.1
    rintro done d₂ es₂ ⟨-, hdone⟩
    obtain ⟨hfollows₂, r₂, hstands₂⟩ := hdone done rfl
    refine ⟨hfollows₂, ?_⟩
    rw [ensures_bind, ensures_forSome]
    refine ⟨fun _ => ensures_flushRefund_moves hstands₂, fun b _ => ?_⟩
    rw [ensures_emit]
    exact ⟨trivial, moves_after (.of_same rfl (Payment.acceptedCalls_append_void rfl))
      (ensures_flushRefund_moves hstands₂)⟩
  · rintro e d' es' ⟨rfl, hres⟩
    rcases hres with ⟨rfl, -⟩ | ⟨_, _, _, -, h, -⟩
    · exact moves_error rfl
    · cases h

theorem ensures_processRefund_moves {refundId : Uuid} {actorId : Option String} :
    Ensures (fun _ => True) (Moves d es) (Payment.processRefund refundId actorId) d es := by
  unfold Payment.processRefund Payment.getRefundById
  refine moves_bind_reads (ensures_load trivial) fun refund hrefund => ?_
  refine moves_raise fun _ => ?_
  refine moves_bind_reads (Payment.ensures_bookingOfRefund trivial) fun booking _ => ?_
  refine moves_bind_reads (Payment.ensures_paymentOfBooking trivial) fun payment _ => ?_
  dsimp only
  split_ifs with hloyal
  · exact ensures_processLoyaltyRefund_moves hrefund
  · exact ensures_processMoneyRefund_moves hrefund hloyal

theorem appendNotes_kept (notes : Option String) (r : RefundRow) :
    (Payment.appendNotes notes r).id = r.id ∧ (Payment.appendNotes notes r).status = r.status ∧
      (Payment.appendNotes notes r).refundMethod = r.refundMethod := by
  unfold Payment.appendNotes
  split_ifs <;> exact ⟨rfl, rfl, rfl⟩

theorem ensures_confirmRefund_moves {refundId : Uuid} {providerReference notes : Option String}
    {actorId : String} :
    Ensures (fun _ => True) (Moves d es)
      (Payment.confirmRefund refundId providerReference notes actorId) d es := by
  unfold Payment.confirmRefund
  rw [ensures_bind_queryForUpdate]
  refine ⟨trivial, ?_⟩
  cases hrow : Table.get d.refunds refundId with
  | none => exact moves_error rfl
  | some row =>
    have hstands := (stands_ofRow hrow).set (f := Payment.appendNotes notes)
      (fun r => (appendNotes_kept notes r).1) (fun r => (appendNotes_kept notes r).2.1) fun hp => by
        rw [Orm.ofRow_row, (appendNotes_kept notes row).2.2]
        exact hp.1
    dsimp only
    refine moves_bind (ensures_complete_moves hstands) ?_ fun e d' es' h => h.1
    rintro done d₂ es₂ ⟨-, hdone⟩
    obtain ⟨hfollows, r₂, hstands₂⟩ := hdone done rfl
    exact ⟨hfollows, ensures_flushRefund_moves hstands₂⟩

theorem ensures_approveRefund_moves {refundId : Uuid} {refundMethod : String} {approvedAmount : ℚ}
    {notes actorId : Option String} :
    Ensures (fun _ => True) (Moves d es)
      (Payment.approveRefund refundId refundMethod approvedAmount notes actorId) d es := by
  unfold Payment.approveRefund Payment.getRefundById
  refine moves_bind_reads (ensures_load trivial) fun row hrow => ?_
  refine moves_bind (ensures_approve_moves hrow) ?_ fun e d' es' h => h.1
  rintro o d₁ es₁ ⟨-, ho⟩
  refine ⟨ho o rfl, ?_⟩
  refine (Payment.ensures_publishApprovedEvent fun _ _ => trivial).bind_returns ?_
  rintro _ d₂ es₂ ⟨rfl, hcalls⟩
  exact .of_same rfl hcalls

theorem ensures_requestPayment {booking : BookingRow} {paymentId : Option PaymentRef} :
    Ensures (fun _ => True) (Reads d es fun _ => True) (Payment.requestPayment booking paymentId) d
      es := by
  unfold Payment.requestPayment
  refine Ensures.bind_reads (Payment.ensures_findPayment trivial) (fun p _ => ?_)
    fun _ => ⟨rfl, rfl, fun _ _ => trivial⟩
  cases p with
  | some p => exact ⟨rfl, rfl, fun _ _ => trivial⟩
  | none =>
    refine (Payment.ensures_getPaymentForBooking trivial).mono (fun _ h => h) ?_
    rintro r d' es' ⟨rfl, rfl, -⟩
    exact ⟨rfl, rfl, fun _ _ => trivial⟩

theorem ensures_createRefundRequest_moves {bookingId : Uuid} {paymentId : Option PaymentRef}
    {invoiceId invoiceNumber : Option String} {refundAmount : Option ℚ} {cancellationFee : ℚ}
    {reason notes actorId : Option String} (hu : Table.Unique d.refunds) :
    Ensures (fun _ => True) (Moves d es)
      (Payment.createRefundRequest bookingId paymentId invoiceId invoiceNumber refundAmount
        cancellationFee reason notes actorId) d es := by
  unfold Payment.createRefundRequest
  refine moves_bind_reads (Payment.ensures_getBooking trivial) fun booking _ => ?_
  refine moves_bind_reads ensures_requestPayment fun payment _ => ?_
  refine moves_bind (ensures_request_moves hu) ?_ fun e d' es' h => by rw [h.1]
  rintro ⟨o, created⟩ d₁ es₁ ⟨rfl, ho⟩
  obtain ⟨hfollows, r, hstands, -⟩ := ho _ rfl
  refine ⟨hfollows, ?_⟩
  have hstands' := hstands.set (f := Payment.referenceColumns payment invoiceId invoiceNumber)
    (fun _ => rfl) (fun _ => rfl) hstands.points
  exact Moves.bind (ensures_flushRefund_moves hstands') fun _ d₂ es₂ => Follows.refl d₂ es₂

/-! ## One lemma for each entry point -/

theorem ensures_refundCode_moves {bookingId : Uuid} (op : RefundOp) (hu : Table.Unique d.refunds)
    (hkeeps : KeepsLawful d (.service bookingId op)) :
    Ensures (fun _ => True) (Moves d es) (refundCode bookingId op) d es := by
  cases op with
  | createRefundRequest => exact moves_discard (ensures_createRefundRequest_moves hu)
  | approveRefund => exact moves_discard ensures_approveRefund_moves
  | processGatewayRefund => exact moves_discard (ensures_processGatewayRefund_moves hu hkeeps)
  | processRefund => exact moves_discard ensures_processRefund_moves
  | recordManualRefund => exact moves_discard (ensures_recordManualRefund_moves hu hkeeps)
  | confirmRefund => exact moves_discard ensures_confirmRefund_moves

/-- A transition on a refund that is loaded by its id. -/
theorem moves_loaded {refundId : Uuid} {code : Orm RefundRow → Tx Unit}
    (h : ∀ r, Table.get d.refunds refundId = some r →
      Ensures (fun _ => True) (Moves d es) (code (.ofRow r)) d es) :
    Ensures (fun _ => True) (Moves d es) (Payment.loadRefund refundId >>= code) d es :=
  Payment.ensures_bind_loadRefund trivial h fun _ _ => moves_error rfl

theorem ensures_lifecycleCode_moves (op : LifecycleOp) (hu : Table.Unique d.refunds)
    (hkeeps : KeepsLawful d (.lifecycle op)) :
    Ensures (fun _ => True) (Moves d es) (lifecycleCode op) d es := by
  cases op with
  | request bookingId paymentId =>
    refine moves_bind_reads (ensures_load trivial) fun booking _ => ?_
    refine Payment.ensures_bind_loadPayment trivial (fun _ => moves_discard (moves_request hu))
      (fun _ p _ _ => moves_discard (moves_request hu)) fun _ _ _ _ => moves_error rfl
  | updateRequestedAmounts refundId paymentId refundAmount cancellationFee =>
    refine moves_loaded fun r hr => ?_
    have hupdate : ∀ payment, Ensures (fun _ => True) (Moves d es) (do
        let refund ← Payment.updateRequestedAmounts (.ofRow r) payment refundAmount cancellationFee
        discard (Payment.flushRefund refund)) d es := by
      intro payment
      refine (Payment.ensures_updateRequestedAmounts trivial).bind ?_ ?_
      · rintro o d' es' ⟨rfl, rfl, -, ho⟩
        obtain rfl := ho o rfl
        have hstands := stands_ofRow hr
        exact moves_discard (ensures_flushRefund_moves (hstands.set (fun _ => rfl) (fun _ => rfl)
          hstands.points))
      · rintro e d' es' ⟨rfl, rfl, -⟩
        exact moves_error rfl
    exact Payment.ensures_bind_loadPayment trivial (fun _ => hupdate none)
      (fun _ p _ _ => hupdate (some p)) fun _ _ _ _ => moves_error rfl
  | reject =>
    refine moves_loaded fun r hr => moves_discard ?_
    refine (Payment.ensures_reject trivial (inStep_ofRow hr)).mono (fun _ h => h) ?_
    rintro (e | o) d' es' ⟨rfl, ho⟩
    · exact moves_error rfl
    rcases ho o rfl with ⟨-, rfl, -⟩ | ⟨hreq, -, now, rfl, hrep⟩
    · exact .refl _ _
    · exact ((stands_ofRow hr).follows hrep (.of_requested hreq) rfl).1
  | approve =>
    refine moves_loaded fun r hr => moves_discard ?_
    refine (ensures_approve_moves hr).mono (fun _ h => h) ?_
    rintro (e | o) d' es' ⟨hcalls, ho⟩
    · exact moves_error hcalls
    · exact ho o rfl
  | markProcessing =>
    refine moves_loaded fun r hr => moves_discard ?_
    refine (ensures_markProcessing_moves (stands_ofRow hr) (hkeeps r hr)).mono (fun _ h => h) ?_
    rintro (e | o) d' es' ⟨hcalls, ho⟩
    · exact moves_error hcalls
    · exact (ho o rfl).1
  | complete =>
    refine moves_loaded fun r hr => moves_discard ?_
    refine (ensures_complete_moves (stands_ofRow hr)).mono (fun _ h => h) ?_
    rintro (e | c) d' es' ⟨hcalls, hc⟩
    · exact moves_error hcalls
    · exact (hc c rfl).1
  | fail =>
    exact moves_loaded fun r hr => moves_discard
      (ensures_fail_moves (stands_ofRow hr) (hkeeps r hr))

/-! ## Webhooks -/

theorem ensures_eventPayment {gw : PaymentLinkGateway} {event : GatewayWebhookEvent} :
    Ensures (fun _ => True) (Returns fun p d' es' => d' = d ∧ es' = es ∧ p = eventPayment gw event d)
      (findPaymentForUpdate gw event.invoiceId) d es := by
  unfold findPaymentForUpdate eventPayment
  by_cases hkey : ¬ Text.truthy event.invoiceId
  · rw [if_pos hkey, if_pos hkey]
    exact ⟨rfl, rfl, rfl⟩
  · rw [if_neg hkey, if_neg hkey]
    dsimp only
    rw [ensures_queryForUpdate]
    exact ⟨trivial, rfl, rfl, rfl⟩

theorem ensures_eventRefund {gw : PaymentLinkGateway} {event : GatewayWebhookEvent} {p : PaymentRow}
    (hp : eventPayment gw event d = some p) :
    Ensures (fun _ => True) (Reads d es fun r => r = eventRefund gw event d)
      (findEventRefund p event.refundId) d es := by
  unfold findEventRefund eventRefund
  rw [hp, Option.bind_some]
  by_cases hkey : ¬ Text.truthy event.refundId
  · rw [if_pos hkey, if_pos hkey]
    exact ⟨rfl, rfl, fun _ h => (by cases h; rfl)⟩
  · rw [if_neg hkey, if_neg hkey]
    dsimp only
    rw [ensures_bind_queryForUpdate]
    refine ⟨trivial, ?_⟩
    generalize d.refunds.filter _ = rows
    rcases rows with _ | ⟨r, _ | ⟨r', rows⟩⟩
    · exact ⟨rfl, rfl, fun _ h => (by cases h; rfl)⟩
    · exact ⟨rfl, rfl, fun _ h => (by cases h; rfl)⟩
    · exact ⟨rfl, rfl, fun _ h => (by cases h)⟩

theorem eventRefund_mem {gw : PaymentLinkGateway} {event : GatewayWebhookEvent}
    (h : eventRefund gw event d = some r) : r ∈ d.refunds := by
  unfold eventRefund at h
  obtain ⟨p, -, hr⟩ := Option.bind_eq_some_iff.mp h
  split_ifs at hr
  split at hr
  · rename_i x hfilter
    cases hr
    have hmem : r ∈ d.refunds.filter fun r =>
        r.paymentId = some p.id ∧ r.gatewayRefundId = event.refundId := by
      rw [hfilter]
      exact List.mem_singleton.mpr rfl
    exact (List.mem_filter.mp hmem).1
  · cases hr

/-- A refund that gets the status of an event. -/
theorem ensures_setRefundStatus_moves {status : Payment.RefundStatus}
    (hr : Table.get d.refunds k = some r) (hlaw : Lawful r (setRefundStatus status r)) :
    Ensures (fun _ => True) (Moves d es)
      (Payment.flushRefund ((Orm.ofRow r).set (setRefundStatus status))) d es := by
  have hs := (inStep_ofRow hr).set (f := setRefundStatus status) fun _ => rfl
  refine (Payment.ensures_flushRefund trivial hs).mono (fun _ h => h) ?_
  rintro (e | o') d' es' ⟨rfl, hres⟩
  · exact moves_error rfl
  · obtain ⟨-, -, -, -, hrep, -⟩ := hres
    have hid : r.id = k := (Table.get_some hr).2
    exact .of_replaces hr (hid ▸ hrep) hlaw rfl

theorem lawful_refunded (hopen : r.status ∉ [.rejected, .failed, .cancelled]) :
    Lawful r (setRefundStatus .completed r) :=
  ⟨fun hc => absurd hc hopen, fun _ => .inl rfl, fun _ => ⟨by simp [setRefundStatus],
    by simp [setRefundStatus]⟩, fun hp => ⟨hp.1, by simp [setRefundStatus], by simp [setRefundStatus]⟩⟩

theorem lawful_cancelled (hopen : r.status ∉ [.rejected, .cancelled]) :
    Lawful r (setRefundStatus .failed r) := by
  refine ⟨fun hc => ?_, fun _ => .inr rfl, fun _ => ⟨by simp [setRefundStatus],
    by simp [setRefundStatus]⟩, fun hp => ⟨hp.1, by simp [setRefundStatus], by simp [setRefundStatus]⟩⟩
  simp only [List.mem_cons, List.not_mem_nil, or_false, not_or] at hc hopen
  rcases hc with hs | hs | hs
  · exact absurd hs hopen.1
  · exact hs.symm
  · exact absurd hs hopen.2

/-- What a cancelled refund changes outside the refunds. -/
theorem ensures_revertPayment {gw : PaymentLinkGateway} {p : PaymentRow} {refundId : Option String} :
    Ensures (fun _ => True) (Moves d es) (do
      let written ← flushPayment ((Orm.ofRow p).set (revertedPayment r))
      addPaymentHistory (revertedHistory gw p written.row.status refundId)) d es := by
  refine (ensures_writePayment trivial).bind ?_ ?_
  · rintro o d' es' ⟨rfl, -, hok⟩
    obtain ⟨-, rfl⟩ := hok o rfl
    unfold addPaymentHistory
    rw [ensures_update]
    exact ⟨trivial, .of_same rfl rfl⟩
  · rintro e d' es' ⟨rfl, -⟩
    exact moves_error rfl

theorem ensures_handleRefundEvent_moves {gw : PaymentLinkGateway} {event : GatewayWebhookEvent}
    (hu : Table.Unique d.refunds) (hkeeps : KeepsLawful d (.webhook gw event)) :
    Ensures (fun _ => True) (Moves d es) (handleRefundEvent gw event) d es := by
  unfold handleRefundEvent
  refine ensures_eventPayment.bind_returns ?_
  rintro payment d es ⟨rfl, rfl, hp⟩
  cases payment with
  | none => exact .refl d es
  | some p =>
    refine moves_bind_reads (ensures_eventRefund hp.symm) fun refund hrefund => ?_
    have hget : ∀ r, refund = some r → Table.get d.refunds r.id = some r := fun r hr =>
      Table.get_eq_of_mem hu (eventRefund_mem (hrefund.symm.trans hr))
    split_ifs with hrefunded hcancels
    · refine Moves.bind ?_ fun _ d₁ es₁ => Follows.refl d₁ es₁
      refine (ensures_forSome _ _).mpr ⟨fun _ => .refl d es, fun r hr => ?_⟩
      obtain ⟨hsome, -⟩ := Option.filter_eq_some_iff.mp hr
      have hopen := (hkeeps r (hrefund.symm.trans hsome)).1 hrefunded
      exact moves_discard (ensures_setRefundStatus_moves (hget r hsome) (lawful_refunded hopen))
    · cases refund with
      | none => exact .refl d es
      | some r =>
        refine Moves.bind ?_ fun _ d₁ es₁ => Follows.refl d₁ es₁
        refine (ensures_forSome _ _).mpr ⟨fun _ => .refl d es, fun r' hr' => ?_⟩
        split_ifs at hr'
        cases hr'
        have hopen := (hkeeps r hrefund.symm).2 hcancels
        refine Moves.bind (moves_discard
          (ensures_setRefundStatus_moves (hget r rfl) (lawful_cancelled hopen))) fun _ d₁ es₁ => ?_
        exact ensures_revertPayment
    · exact .refl d es

/-! ## Runs -/

theorem ensures_actionCode_moves (action : RefundAction) (hu : Table.Unique d.refunds)
    (hkeeps : KeepsLawful d action) :
    Ensures (fun _ => True) (Moves d es) (actionCode action) d es := by
  cases action with
  | lifecycle op => exact ensures_lifecycleCode_moves op hu hkeeps
  | service bookingId op => exact ensures_refundCode_moves op hu hkeeps
  | webhook gw event => exact moves_discard (ensures_handleRefundEvent_moves hu hkeeps)

/-- What an action leaves when it is committed or rolled back. -/
theorem follows_actionStep {s : Ledger Db Emission} {x : RefundAction × (ℕ → Env)}
    (hu : Table.Unique s.db.refunds) (hkeeps : KeepsLawful s.db x.1) :
    Follows s.db s.log (actionStep s x).db (actionStep s x).log := by
  have hmoves : Ensures (fun _ => True) (AtEnd (Follows s.db s.log) s.db) (actionCode x.1) s.db
      s.log := by
    refine (ensures_actionCode_moves x.1 hu hkeeps).mono (fun _ h => h) ?_
    rintro (e | a) d' es' h
    · exact ⟨fun hu => hu, fun _ r hr => ⟨r, hr, .refl r⟩, h⟩
    · exact h
  exact hmoves.transact x.2

/-- Every action of a run moves every refund lawfully, where none of them is one of the steps without a
guard. -/
theorem refunds_move_lawfully {s : Ledger Db Emission} {xs : List (RefundAction × (ℕ → Env))}
    (hu : Table.Unique s.db.refunds)
    (h : Runs.AllSteps actionStep (fun s x => KeepsLawful s.db x.1) s xs) :
    Runs.AllSteps actionStep (fun s x => LawfulStep s (actionStep s x)) s xs := by
  refine Runs.allSteps_of_allSteps (I := fun s => Table.Unique s.db.refunds) ?_ hu h
  intro s x hu hkeeps
  have hfollows := follows_actionStep hu hkeeps
  exact ⟨hfollows.unique hu, fun k r hr => ⟨hfollows.rows k r hr, hfollows.calls k r hr⟩⟩

/-! ## A refund of a cancelled booking -/

def accepted (action : RefundAction) : RefundAction × (ℕ → Env) :=
  (action, fun _ => Payment.accepting)

/-- The approved refund is paid back by the provider, and fails later. -/
def paidBackAndFailed : List (RefundAction × (ℕ → Env)) :=
  [accepted (.service 7 (.processRefund 21 none)),
    accepted (.lifecycle (.fail 21 "declined" "staff" none none none)),
    accepted (.webhook myFatoorah { kind := .refundStatus, refundStatus := some "REFUNDED" })]

theorem refunds_move_lawfully_paidBack :
    Runs.AllSteps actionStep (fun s x => LawfulStep s (actionStep s x))
      { db := Payment.approvedRefund } paidBackAndFailed :=
  refunds_move_lawfully (by simp [Table.Unique, Payment.approvedRefund]) (by decide +kernel)

/-- The cancelled booking, with a refund that is not approved yet. -/
def requestedRefund : Db :=
  { Payment.approvedRefund with refunds := [{ Payment.moneyRefund with status := .requested }] }

/-- The refund is approved as points, and executed through the gateway. -/
def pointsThroughGateway : List (RefundAction × (ℕ → Env)) :=
  [accepted (.service 7 (.approveRefund 21 "loyalty_points" 10 none none)),
    accepted (.service 7 (.processGatewayRefund {} "staff"))]

/-- The refund is rejected, and failed by an event that comes later. -/
def failedAfterRejection : List (RefundAction × (ℕ → Env)) :=
  [accepted (.lifecycle (.reject 21 none none)),
    accepted (.lifecycle (.fail 21 "declined" "webhook" none none none))]

theorem refunds_moved_unlawfully :
    ¬ Runs.AllSteps actionStep (fun s x => LawfulStep s (actionStep s x)) { db := requestedRefund }
        pointsThroughGateway ∧
      ¬ Runs.AllSteps actionStep (fun s x => LawfulStep s (actionStep s x))
        { db := requestedRefund } failedAfterRejection := by
  have happroved : ∃ r ∈ Table.get (Runs.run actionStep { db := requestedRefund }
      (pointsThroughGateway.take 1)).db.refunds 21, ForPoints r := by
    decide +kernel
  have hrejected : ∃ r ∈ Table.get (Runs.run actionStep { db := requestedRefund }
      (failedAfterRejection.take 1)).db.refunds 21, r.status = .rejected := by
    decide +kernel
  constructor
  · rintro ⟨-, h, -⟩
    obtain ⟨r, hr, hpoints⟩ := happroved
    have hcalls := (h 21 r hr).2 hpoints
    exact absurd hcalls (by decide +kernel)
  · rintro ⟨-, h, -⟩
    obtain ⟨r, hr, hstatus⟩ := hrejected
    obtain ⟨⟨r', hr', hlaw⟩, -⟩ := h 21 r hr
    have hkept : r'.status = .rejected := (hlaw.closed (by simp [hstatus])).trans hstatus
    have hfailed : ∀ x ∈ Table.get (Runs.run actionStep { db := requestedRefund }
        failedAfterRejection).db.refunds 21, x.status = .failed := by
      decide +kernel
    have := hfailed r' hr'
    rw [hkept] at this
    cases this

end PaymentLinks
