import UshBookNPay.Payment.Proofs.SentBackInvariant

/-!
# The refund workflows send back at most what was paid

Each workflow of `RefundService`, run alone, keeps the bound after every provider call and restores the
invariant when it commits.
-/

open Transactions (Prog Ensures Session System Event Restores)
open Transactions

namespace Payment

variable {bid pid : Uuid} {total : Fils} {d₀ d d' : Db} {es es' : List Emission}
  {mid : List Emission → Prop}

/-! ## Executing a refund -/

/-- The object stands for a refund of the payment with room for its amount; the calls of `es'` are
those of `es`, or one more for this refund, which was not executed before. -/
structure Executing (bid pid : Uuid) (total : Fils) (d : Db) (es es' : List Emission)
    (o : Orm RefundRow) : Prop where
  inv : SentInv bid pid total d es
  inStep : InStep o d.refunds
  pay : o.row.paymentId = some pid
  pos : 0 ≤ o.row.refundedAmount
  room : sumOf d pid committedStatuses (some o.row.id) + o.row.refundedAmount ≤ total
  calls : ∃ r, Table.get d.refunds o.row.id = some r ∧
    ((acceptedCalls es' = acceptedCalls es ∧
        (r.status ∈ executedStatuses → o.row.refundedAmount = r.refundedAmount)) ∨
      (acceptedCalls es' = acceptedCalls es ++ [(o.row.id, o.row.refundedAmount)] ∧
        r.status ∉ executedStatuses))

theorem committedShare_le {r : RefundRow} (hpos : 0 ≤ r.refundedAmount) :
    committedShare pid r ≤ r.refundedAmount := by
  unfold committedShare
  split_ifs
  · exact le_refl _
  · exact hpos

/-- Once the row is executed with the amount of the object, the invariant holds again. -/
theorem Executing.done {o : Orm RefundRow} {r' : RefundRow} {es'' : List Emission}
    (h : Executing bid pid total d es es' o) (hframe : Frame d d')
    (hrep : Table.Replaces d.refunds o.row.id r' d'.refunds)
    (hpay : r'.paymentId = o.row.paymentId) (hamount : r'.refundedAmount = o.row.refundedAmount)
    (hexec : r'.status ∈ executedStatuses) (hcalls : acceptedCalls es'' = acceptedCalls es') :
    SentInv bid pid total d' es'' := by
  have hpos : 0 ≤ r'.refundedAmount := hamount ▸ h.pos
  have hroom : sumOf d pid committedStatuses (some o.row.id) + committedShare pid r' ≤ total := by
    have : committedShare pid r' ≤ r'.refundedAmount := committedShare_le hpos
    have := h.room
    rw [hamount] at *
    linarith
  obtain ⟨r, hr, ⟨hsame, hkeep⟩ | ⟨hnew, hopen⟩⟩ := h.calls
  · exact h.inv.update hr hframe hrep (hpay.trans h.pay) hpos hroom
      (fun hs => ⟨hexec, hamount.trans (hkeep hs)⟩) (hcalls.trans hsame)
  · refine h.inv.sent hr hframe hrep (hpay.trans h.pay) hpos hroom hopen hexec ?_
    rw [hcalls, hnew, hamount]

/-- Completing it. -/
theorem ensures_complete_sent {known : Known} {refund : Orm RefundRow} {source : String}
    {providerReference : Option String} {gatewayResponse : Option Json} {actorId : Option String}
    {publishEvent : Bool} (h : Executing bid pid total d es es' refund)
    (hmid : ∀ es'', acceptedCalls es'' = acceptedCalls es' → mid es'') :
    Ensures mid (fun r d' es'' => acceptedCalls es'' = acceptedCalls es' ∧ ∀ c, r = .ok c →
        (refund.row.status = .completed ∧ d' = d ∧ c.refund = refund) ∨
        (SentInv bid pid total d' es'' ∧ (∀ b, c.booking = some b → b.changes = id) ∧
          c.refund.changes = id))
      (complete known refund source providerReference gatewayResponse actorId publishEvent) d
      es' := by
  refine (ensures_complete (hmid es' rfl) (fun ev => hmid _ (acceptedCalls_append_void rfl))
    h.inStep).mono (fun _ h => h) ?_
  rintro r d' es'' ⟨hone, hc⟩
  refine ⟨hone.acceptedCalls, fun c hok => ?_⟩
  rcases hc c hok with hdone | ⟨-, hframe, hbooking, now, hrow, hrep⟩
  · exact .inl hdone
  · refine .inr ⟨?_, hbooking, by rw [hrow]; rfl⟩
    rw [hrow] at hrep
    exact h.done hframe hrep rfl rfl (by simp [completedColumns, executedStatuses])
      hone.acceptedCalls

/-- Moving it to `processing`, after its call. -/
theorem ensures_markProcessing_sent {known : Known} {refund : Orm RefundRow}
    {providerRefundId : Option String} {gatewayResponse : Option Json} {actorId : Option String}
    (h : Executing bid pid total d es es' refund)
    (hopen : refund.row.status ∉ executedStatuses) (hmid : mid es') :
    Ensures mid (fun r d' es'' => es'' = es' ∧ ∀ o, r = .ok o →
        SentInv bid pid total d' es'' ∧ o.changes = id)
      (markProcessing known refund providerRefundId gatewayResponse actorId) d es' := by
  refine (ensures_markProcessing hmid h.inStep).mono (fun _ h => h) ?_
  rintro r d' es'' ⟨rfl, ho⟩
  refine ⟨rfl, fun o hok => ?_⟩
  rcases ho o hok with ⟨hdone, -⟩ | ⟨-, hframe, now, rfl, hrep⟩
  · exact absurd (by rcases hdone with hs | hs <;> simp [hs, executedStatuses]) hopen
  · exact ⟨h.done hframe hrep rfl rfl (by simp [processingColumns, stamp, executedStatuses]) rfl,
      rfl⟩

/-! ## A refund that is ready to be executed -/

/-- The object stands for a refund that is not executed yet, with room for its amount in the
transaction and in the committed database `d₀`. -/
structure Ready (bid pid : Uuid) (total : Fils) (d₀ d : Db) (es : List Emission)
    (o : Orm RefundRow) : Prop where
  inv : SentInv bid pid total d es
  inStep : InStep o d.refunds
  status : o.row.status = .requested ∨ o.row.status = .approved
  row : ∃ r, Table.get d.refunds o.row.id = some r ∧ r.status = o.row.status
  pay : o.row.paymentId = some pid
  pos : 0 ≤ o.row.refundedAmount
  room : sumOf d pid committedStatuses (some o.row.id) + o.row.refundedAmount ≤ total
  base : ∀ es', acceptedCalls es' = acceptedCalls es ++ [(o.row.id, o.row.refundedAmount)] →
    Bounded total d₀ es'

theorem not_executed_of_open {s : RefundStatus} (h : s = .requested ∨ s = .approved) :
    s ∉ executedStatuses := by
  rcases h with rfl | rfl <;> decide

/-- The room the cap leaves for a refund that is counted already. -/
theorem SentInv.room (h : SentInv bid pid total d es) {k : Uuid} {r : RefundRow}
    (hr : Table.get d.refunds k = some r) :
    sumOf d pid committedStatuses (some k) + committedShare pid r ≤ total := by
  rw [sumOf_some, ← Table.total_eq_erase_add h.wf.unique hr]
  exact h.wf.capHolds_iff.mp h.cap

theorem SentInv.share (h : SentInv bid pid total d es) {k : Uuid} {r : RefundRow}
    (hr : Table.get d.refunds k = some r) (hstatus : r.status ∈ committedStatuses) :
    committedShare pid r = r.refundedAmount :=
  if_pos ⟨h.refunds r (Table.get_some hr).1, hstatus⟩

/-- A requested or approved refund of the table is ready. -/
theorem SentInv.ready (h : SentInv bid pid total d es) {k : Uuid} {r : RefundRow}
    (hr : Table.get d.refunds k = some r) (hstatus : r.status = .requested ∨ r.status = .approved) :
    Ready bid pid total d d es (.ofRow r) := by
  obtain ⟨hmem, hid⟩ := Table.get_some hr
  have hkey : r.id = k := hid
  have hcommitted : r.status ∈ committedStatuses := by
    rcases hstatus with hs | hs <;> simp [hs, committedStatuses, OPEN_STATUSES]
  have hroom : sumOf d pid committedStatuses (some r.id) + r.refundedAmount ≤ total := by
    rw [← h.share hr hcommitted, hkey]
    exact h.room hr
  refine ⟨h, inStep_ofRow hr, hstatus, ⟨r, hkey ▸ hr, rfl⟩, h.refunds r hmem,
    h.wf.nonneg r hmem (h.refunds r hmem), hroom, fun es' hes => ?_⟩
  refine h.bounded_call (fun x hx => ?_) hroom hes
  rw [hkey, hr] at hx
  cases hx
  exact not_executed_of_open hstatus

/-- Assignments that keep the columns of the invariant. -/
theorem Ready.set {o : Orm RefundRow} (h : Ready bid pid total d₀ d es o) {f : RefundRow → RefundRow}
    (hid : ∀ r, (f r).id = r.id) (hstatus : ∀ r, (f r).status = r.status)
    (hpay : ∀ r, (f r).paymentId = r.paymentId)
    (hamount : ∀ r, (f r).refundedAmount = r.refundedAmount) :
    Ready bid pid total d₀ d es (o.set f) := by
  obtain ⟨inv, inStep, status, row, pay, pos, room, base⟩ := h
  refine ⟨inv, inStep.set hid, ?_, ?_, ?_, ?_, ?_, ?_⟩
  · rwa [Orm.set_row, hstatus]
  · rwa [Orm.set_row, hid, hstatus]
  · rwa [Orm.set_row, hpay]
  · rwa [Orm.set_row, hamount]
  · rwa [Orm.set_row, hid, hamount]
  · rwa [Orm.set_row, hid, hamount]

theorem Ready.executing {o : Orm RefundRow} (h : Ready bid pid total d₀ d es o)
    (hcalls : acceptedCalls es' = acceptedCalls es ∨
      acceptedCalls es' = acceptedCalls es ++ [(o.row.id, o.row.refundedAmount)]) :
    Executing bid pid total d es es' o := by
  obtain ⟨r, hr, hstatus⟩ := h.row
  have hopen : r.status ∉ executedStatuses := hstatus ▸ not_executed_of_open h.status
  refine ⟨h.inv, h.inStep, h.pay, h.pos, h.room, r, hr, ?_⟩
  rcases hcalls with hsame | hnew
  · exact .inl ⟨hsame, fun hs => absurd hs hopen⟩
  · exact .inr ⟨hnew, hopen⟩

/-! ## The refund to execute -/

theorem openRefund_some {d : Db} {r : RefundRow} (hu : Table.Unique d.refunds)
    (h : openRefund bid d = some r) :
    Table.get d.refunds r.id = some r ∧ r.status ∈ OPEN_STATUSES := by
  have hopen := List.find?_some h
  simp only [decide_eq_true_eq] at hopen
  exact ⟨Table.get_eq_of_mem hu (List.mem_of_find?_eq_some h), hopen.2⟩

theorem ensures_findOpenRefund {loaded : List RefundRow} (hmid : mid es)
    (hu : Table.Unique d.refunds) (hloaded : ∀ r ∈ loaded, r ∈ d.refunds) :
    Ensures mid (Reads d es fun o => o = openRefund bid d) (findOpenRefund loaded bid) d es := by
  unfold findOpenRefund
  dsimp only
  rw [ensures_queryForUpdate]
  refine ⟨hmid, rfl, rfl, fun a ha => ?_⟩
  cases ha
  show (openRefund bid d).map _ = openRefund bid d
  cases hx : openRefund bid d with
  | none => rfl
  | some x =>
    have hmem : x ∈ d.refunds := List.mem_of_find?_eq_some hx
    -- in a run of its own the refund is the one the database holds
    have hsame : (Table.get loaded x.id).getD x = x := by
      cases hl : Table.get loaded x.id with
      | none => rfl
      | some y =>
        obtain ⟨hy, hid⟩ := Table.get_some hl
        exact Table.eq_of_key_eq hu (hloaded y hy) hmem hid
    rw [Option.map_some, hsame]

theorem ensures_adjustOpenRefund {refund : Orm RefundRow} {p : PaymentRow}
    {netAmount : Option ℚ} {cancellationFee : ℚ} (h : Ready bid pid total d d es refund)
    (hid : p.id = pid) (htotal : p.totalAmount = total) (hmid : mid es) :
    Ensures mid (Reads d es fun o => Ready bid pid total d d es o)
      (adjustOpenRefund refund (some p) netAmount cancellationFee) d es := by
  unfold adjustOpenRefund
  cases netAmount with
  | none => exact ⟨rfl, rfl, fun o ho => by cases ho; exact h⟩
  | some net =>
    dsimp only
    split_ifs with hdiff
    · refine (ensures_updateRequestedAmounts hmid).mono (fun _ h => h) ?_
      rintro (e | o) d' es' ⟨rfl, rfl, herr, hok⟩
      · exact ⟨rfl, rfl, fun _ h => nomatch h⟩
      refine ⟨rfl, rfl, fun o' ho' => ?_⟩
      cases ho'
      obtain rfl := hok o rfl
      simp only [reduceCtorEq, exists_false, false_iff, not_or, Option.some.injEq, exists_eq_left',
        not_not, not_le] at herr
      obtain ⟨hreq, hnet, hcap⟩ := herr
      rw [exceeds_iff, not_lt, hid, htotal] at hcap
      obtain ⟨r, hr, hstatus⟩ := h.row
      refine ⟨h.inv, h.inStep.set fun _ => rfl, h.status, ⟨r, hr, hstatus⟩, h.pay, le_of_lt hnet,
        hcap, fun es'' hes => ?_⟩
      refine h.inv.bounded_call (fun x hx => ?_) hcap hes
      have hx' : Table.get d'.refunds refund.row.id = some x := hx
      rw [hr] at hx'
      cases hx'
      rw [hstatus, hreq]
      decide
    · exact ⟨rfl, rfl, fun o ho => by cases ho; exact h⟩

/-- A new refund of the payment is ready. -/
theorem ensures_request_ready {booking : BookingRow} {p : PaymentRow} {net fee : ℚ}
    {refundType refundMethod : String} {reason notes actorId : Option String}
    (h : SentInv bid pid total d es) (hid : p.id = pid) (htotal : p.totalAmount = total)
    (hmid : mid es) :
    Ensures mid (fun r d' es' => es' = es ∧ ∀ x, r = .ok x → Ready bid pid total d d' es x.1)
      (request booking (some p) net fee refundType refundMethod reason notes none actorId) d es := by
  refine (ensures_request hmid).mono (fun _ h => h) ?_
  rintro r d' es' ⟨rfl, hr⟩
  refine ⟨rfl, ?_⟩
  rintro ⟨o, created⟩ hok
  rcases hr o created hok with ⟨-, -, htruthy, -⟩ | ⟨-, hnet, hcap, hframe, id, number, now, rfl,
    hrows, hnew, -⟩
  · simp [Text.truthy] at htruthy
  have hroom : sumOf d pid committedStatuses none + dec net ≤ total := by
    have := hcap p rfl
    rwa [exceeds_iff, not_lt, hid, htotal] at this
  have hpay : some p.id = some pid := by rw [hid]
  rw [Orm.ofRow_row] at hrows
  have hinv := h.insert hframe hrows hnew hpay (le_of_lt hnet)
    (le_trans (Int.add_le_add_left (committedShare_le (le_of_lt hnet)) _) hroom)
  have hget : Table.get d'.refunds id = some (requestedRow booking (some p) (dec net) (dec fee)
      refundType refundMethod reason notes none actorId id number now) := by
    rw [hrows]
    exact Table.get_append_new hnew
  have hready := hinv.ready hget (.inl rfl)
  refine ⟨hready.inv, hready.inStep, hready.status, hready.row, hready.pay, hready.pos,
    hready.room, fun es'' hes => ?_⟩
  -- the committed database has no refund of this id
  refine h.bounded_call (fun x hx => ?_) ?_ hes
  · rw [Orm.ofRow_row] at hx
    have hx' : Table.get d.refunds id = some x := hx
    rw [hnew] at hx'
    cases hx'
  · rw [Orm.ofRow_row]
    have hsum : sumOf d pid committedStatuses (some id) = sumOf d pid committedStatuses none := by
      rw [sumOf_some, sumOf_none, Table.total_erase_of_none hnew]
    show sumOf d pid committedStatuses (some id) + dec net ≤ total
    rw [hsum]
    exact hroom

theorem ensures_netToRequest {payment : Option PaymentRow} {netAmount : Option ℚ}
    {cancellationFee : ℚ} (hmid : mid es) :
    Ensures mid (Reads d es fun _ => True) (netToRequest payment netAmount cancellationFee) d es := by
  unfold netToRequest committedTotal
  cases netAmount with
  | some net => exact ⟨rfl, rfl, fun _ _ => trivial⟩
  | none =>
    cases payment with
    | none => exact ⟨rfl, rfl, fun _ _ => trivial⟩
    | some p =>
      dsimp only
      rw [ensures_bind_query]
      exact ⟨hmid, rfl, rfl, fun _ _ => trivial⟩

/-- The refund to execute is ready. -/
theorem ensures_resolveRefundToExecute {loaded : List RefundRow} {booking : BookingRow}
    {p : PaymentRow} {netAmount : Option ℚ} {cancellationFee : ℚ} {refundType refundMethod : String}
    {reason notes : Option String} {actorId : String} (h : SentInv bid pid total d es)
    (hloaded : ∀ r ∈ loaded, r ∈ d.refunds) (hid : p.id = pid) (htotal : p.totalAmount = total)
    (hmid : mid es) :
    Ensures mid (fun r d' es' => es' = es ∧ ∀ o, r = .ok o → Ready bid pid total d d' es o)
      (resolveRefundToExecute loaded booking (some p) netAmount cancellationFee refundType
        refundMethod reason notes actorId) d es := by
  have herr : ∀ e : Error, es = es ∧ ∀ o, (.error e : Except Error (Orm RefundRow)) = .ok o →
      Ready bid pid total d d es o := fun e => ⟨rfl, fun _ h => nomatch h⟩
  unfold resolveRefundToExecute
  refine Ensures.bind_reads (ensures_findOpenRefund hmid h.wf.unique hloaded) (fun o ho => ?_) herr
  cases o with
  | none =>
    dsimp only
    refine Ensures.bind_reads (ensures_netToRequest hmid) (fun net _ => ?_) herr
    refine (ensures_request_ready h hid htotal hmid).bind ?_ ?_
    · rintro ⟨refund, created⟩ d' es' ⟨rfl, hready⟩
      exact ⟨rfl, fun o ho => by cases ho; exact hready _ rfl⟩
    · rintro e d' es' ⟨rfl, -⟩
      exact ⟨rfl, fun _ h => nomatch h⟩
  | some row =>
    obtain ⟨hrow, hopen⟩ := openRefund_some h.wf.unique ho.symm
    dsimp only
    rw [ensures_bind_raiseIf]
    refine ⟨fun _ => herr _, fun hproc => ?_⟩
    have hstatus : row.status = .requested ∨ row.status = .approved := by
      simp only [OPEN_STATUSES, List.mem_cons, List.not_mem_nil, or_false] at hopen
      rcases hopen with hs | hs | hs
      · exact .inl hs
      · exact .inr hs
      · exact absurd hs hproc
    refine Ensures.bind_reads (ensures_adjustOpenRefund (h.ready hrow hstatus) hid htotal hmid)
      (fun refund hrefund => ?_) herr
    refine ⟨rfl, fun o ho => ?_⟩
    cases ho
    exact hrefund.set (fun _ => rfl) (fun _ => rfl) (fun _ => rfl) fun _ => rfl

/-! ## The workflows -/

/-- The booking's payment. -/
theorem ensures_payment_of_booking {booking : BookingRow} (h : SentInv bid pid total d es)
    (hbooking : booking.id = bid) (hmid : mid es) :
    Ensures mid (Reads d es fun p => ∃ q, p = some q ∧ q.id = pid ∧ q.totalAmount = total)
      (getPaymentForBooking booking) d es := by
  obtain ⟨q, hq, hid, htotal⟩ := h.payment
  refine (ensures_getPaymentForBooking hmid).mono (fun _ h => h) ?_
  rintro r d' es' ⟨rfl, rfl, hp⟩
  refine ⟨rfl, rfl, fun p hr => ⟨q, (hp p hr).trans ?_, hid, htotal⟩⟩
  unfold bookingPayment
  rw [hbooking, hq]
  rfl

theorem ensures_getBooking {bookingId : Uuid} (hmid : mid es) :
    Ensures mid (Reads d es fun b => b.id = bookingId) (getBooking bookingId) d es := by
  refine (ensures_load hmid).mono (fun _ h => h) ?_
  rintro r d' es' ⟨rfl, rfl, hb⟩
  exact ⟨rfl, rfl, fun b hr => (Table.get_some (hb b hr)).2⟩

/-- Writing columns of the booking keeps the invariant. -/
theorem ensures_note_booking {c : Option String} {o : Orm BookingRow}
    {f : String → BookingRow → BookingRow} (ho : o.changes = id)
    (hf : ∀ s r, fixedBooking (f s r) = fixedBooking r) (hmid : mid es)
    (h : SentInv bid pid total d es) :
    Ensures mid (Returns fun _ d' es' => es' = es ∧ SentInv bid pid total d' es)
      (Prog.forSome c fun s => discard (flushBooking (o.set (f s)))) d es := by
  refine Ensures.forSome ⟨rfl, h⟩ fun s _ => ?_
  refine (ensures_flushBooking hmid (fixed_set ho (hf s))).bind_returns ?_
  rintro _ d' es' ⟨rfl, hframe, hrows, -⟩
  exact ⟨rfl, h.frame hframe hrows rfl⟩

theorem ensures_recordManualRefund {req : CreateManualRefundRequest} {currentUserId : String}
    (h : SentInv bid pid total d es) :
    Ensures (Bounded total d) (Restores (SentInv bid pid total))
      (recordManualRefund bid req currentUserId) d es := by
  have hmid : ∀ es', acceptedCalls es' = acceptedCalls es → Bounded total d es' :=
    fun es' hcalls => h.bounded.congr hcalls
  have hes := h.bounded
  unfold recordManualRefund
  refine Ensures.bind_reads (ensures_getBooking hes) (fun booking hbooking => ?_) fun _ => trivial
  refine Ensures.bind_reads (ensures_payment_of_booking h hbooking hes) (fun p hp => ?_)
    fun _ => trivial
  obtain ⟨p, rfl, hid, htotal⟩ := hp
  refine Ensures.bind_reads (ensures_loadRefunds hes) (fun loaded hloaded => ?_) fun _ => trivial
  rw [ensures_bind_raiseIf]
  refine ⟨fun _ => trivial, fun _ => ?_⟩
  rw [ensures_bind_raiseIf]
  refine ⟨fun _ => trivial, fun _ => ?_⟩
  rw [ensures_bind_raiseIf]
  refine ⟨fun _ => trivial, fun _ => ?_⟩
  dsimp only
  refine (ensures_resolveRefundToExecute h hloaded hid htotal hes).bind ?_ fun _ _ _ _ => trivial
  rintro refund d₁ es ⟨rfl, hready⟩
  rw [ensures_bind_ask]
  refine ⟨hes, fun a => ?_⟩
  have hready' := (hready refund rfl).set (f := manualColumns req
    (effectiveUser req.changeByUser currentUserId) a.now) (fun _ => rfl) (fun _ => rfl)
    (fun _ => rfl) fun _ => rfl
  refine (ensures_complete_sent (hready'.executing (.inl rfl)) hmid).bind ?_ fun _ _ _ _ => trivial
  rintro done d₂ es₂ ⟨hcalls₂, hdone⟩
  rcases hdone done rfl with ⟨hstatus, -⟩ | ⟨hinv, hbook, hchanges⟩
  · exact absurd (by rw [hstatus]; decide) (not_executed_of_open hready'.status)
  have hobj : (done.booking.getD (.ofRow booking)).changes = id := by
    cases hb : done.booking with
    | none => rfl
    | some b => exact hbook b hb
  refine (ensures_note_booking (f := noteRefund done.refund.row.refundNumber) hobj
    (fun _ _ => rfl) (hmid _ hcalls₂) hinv).bind_returns ?_
  rintro _ d₃ es₃ ⟨rfl, hinv₃⟩
  refine (ensures_flushRefund_idle (hmid _ hcalls₂) hchanges).bind ?_ fun _ _ _ _ => trivial
  rintro o d₄ es₄ ⟨rfl, hd⟩
  obtain rfl := hd o rfl
  unfold publishRefundEvent
  rw [ensures_bind, ensures_emit]
  refine ⟨hmid _ ((acceptedCalls_append_void rfl).trans hcalls₂), ?_⟩
  exact hinv₃.frame (Frame.refl _) rfl (acceptedCalls_append_void rfl)

theorem ensures_netOfRequest {req : ProcessGatewayRefundRequest} :
    Ensures mid (Reads d es fun net => net = req.refundAmount.map (· - req.cancellationFee))
      (netOfRequest req) d es := by
  have herr : ∀ (e : Error) (Q : Option ℚ → Prop),
      Reads d es Q (.error e : Except Error (Option ℚ)) d es :=
    fun e Q => ⟨rfl, rfl, fun _ h => (by cases h)⟩
  unfold netOfRequest
  cases req.refundAmount with
  | none => exact ⟨rfl, rfl, fun _ h => (by cases h; rfl)⟩
  | some requested =>
    dsimp only
    rw [ensures_bind_raiseIf]
    refine ⟨fun _ => herr _ _, fun _ => ?_⟩
    rw [ensures_bind_raiseIf]
    refine ⟨fun _ => herr _ _, fun _ => ?_⟩
    rw [ensures_bind_raiseIf]
    exact ⟨fun _ => herr _ _, fun _ => ⟨rfl, rfl, fun _ h => (by cases h; rfl)⟩⟩

theorem acceptedCalls_refundCall (p : PaymentRow) (ref : String) (refund : RefundRow) :
    acceptedCalls (es ++ [refundCall p ref refund]) =
      acceptedCalls es ++ [(refund.id, refund.refundedAmount)] := by
  simp [acceptedCalls, refundCall, Emission.accepted]

theorem ensures_submitRefund {known : Known} {refund : Orm RefundRow} {p : PaymentRow}
    {ref actorId : String} (h : Ready bid pid total d₀ d es refund) (hes : Bounded total d₀ es) :
    Ensures (Bounded total d₀) (Restores (SentInv bid pid total))
      (submitRefund known refund p ref actorId) d es := by
  have hcall := h.base _ (acceptedCalls_refundCall p ref refund.row)
  unfold submitRefund
  refine (ensures_refundPayment hes hcall).bind ?_ fun _ _ _ _ => trivial
  rintro res d es' ⟨rfl, _, hres, hcalled⟩
  cases hres
  cases res with
  | error exc => trivial
  | ok res =>
    dsimp only
    rw [ensures_bind_raiseIf]
    refine ⟨fun _ => trivial, fun hs => ?_⟩
    rcases hcalled with ⟨-, hno⟩ | ⟨rfl, -⟩
    · exact absurd (not_not.mp hs) (hno res rfl)
    refine (ensures_markProcessing_sent
      (h.executing (.inr (acceptedCalls_refundCall p ref refund.row)))
      (not_executed_of_open h.status) hcall).bind ?_ fun _ _ _ _ => trivial
    rintro o d₂ es₂ ⟨rfl, ho⟩
    obtain ⟨hinv, hchanges⟩ := ho o rfl
    refine (ensures_flushRefund_idle hcall hchanges).mono (fun _ h => h) ?_
    rintro (e | o') d₃ es₃ ⟨rfl, hd⟩
    · trivial
    · obtain rfl := hd o' rfl
      exact hinv

theorem ensures_processGatewayRefund {req : ProcessGatewayRefundRequest} {currentUserId : String}
    (h : SentInv bid pid total d es) :
    Ensures (Bounded total d) (Restores (SentInv bid pid total))
      (processGatewayRefund bid req currentUserId) d es := by
  have hes := h.bounded
  unfold processGatewayRefund
  refine Ensures.bind_reads (ensures_getBooking hes) (fun booking hbooking => ?_) fun _ => trivial
  refine Ensures.bind_reads (ensures_payment_of_booking h hbooking hes) (fun p hp => ?_)
    fun _ => trivial
  obtain ⟨p, rfl, hid, htotal⟩ := hp
  refine Ensures.bind_reads (ensures_loadRefunds hes) (fun loaded hloaded => ?_) fun _ => trivial
  dsimp only
  rw [ensures_bind_raiseIf]
  refine ⟨fun _ => trivial, fun _ => ?_⟩
  refine Ensures.bind_reads ensures_netOfRequest (fun net _ => ?_) fun _ => trivial
  split
  · trivial
  · rw [ensures_bind_raiseIf]
    refine ⟨fun _ => trivial, fun _ => ?_⟩
    refine (ensures_resolveRefundToExecute h hloaded hid htotal hes).bind ?_ fun _ _ _ _ => trivial
    rintro refund d₁ es ⟨rfl, hready⟩
    exact ensures_submitRefund ((hready refund rfl).set (fun _ => rfl) (fun _ => rfl)
      (fun _ => rfl) fun _ => rfl) hes

/-- A loyalty credit is outside the invariant. -/
theorem SentInv.loyalty (h : SentInv bid pid total d es) (hframe : LoyaltyFrame d d') :
    SentInv bid pid total d' es := by
  have hwf : RefundsWf pid total d' := by
    obtain ⟨p, hp, htotal⟩ := h.wf.payment
    exact ⟨⟨p, by rw [hframe.payments]; exact hp, htotal⟩, hframe.refunds ▸ h.wf.unique,
      hframe.refunds ▸ h.wf.nonneg⟩
  refine ⟨hwf, ?_, ?_, hframe.payments ▸ h.unique, hframe.refunds ▸ h.refunds,
    hframe.refunds ▸ h.calls⟩
  · rw [hwf.capHolds_iff, hframe.refunds]
    exact h.wf.capHolds_iff.mp h.cap
  · rw [hframe.payments]
    exact h.payment

theorem ensures_processLoyaltyRefund_sent {known : Known} {refund : RefundRow}
    {booking : Option BookingRow} {actorId : String} (h : SentInv bid pid total d es)
    (hr : Table.get d.refunds refund.id = some refund) (happ : refund.status = .approved) :
    Ensures (Bounded total d) (Restores (SentInv bid pid total))
      (processLoyaltyRefund known refund booking actorId) d es := by
  have hmid : ∀ es', acceptedCalls es' = acceptedCalls es → Bounded total d es' :=
    fun es' hcalls => h.bounded.congr hcalls
  unfold processLoyaltyRefund
  refine (ensures_creditLoyalty h.bounded).bind ?_ fun _ _ _ _ => trivial
  rintro _ d₁ es ⟨rfl, hcredit⟩
  obtain ⟨hframe₁, -⟩ := hcredit () rfl
  have hinv₁ := h.loyalty hframe₁
  have hr₁ : Table.get d₁.refunds refund.id = some refund := by rw [hframe₁.refunds, hr]
  have hready := hinv₁.ready hr₁ (.inr happ)
  refine (ensures_complete_sent (hready.executing (.inl rfl)) hmid).bind ?_ fun _ _ _ _ => trivial
  rintro done d₂ es₂ ⟨hcalls₂, hdone⟩
  rcases hdone done rfl with ⟨hstatus, -⟩ | ⟨hinv, hbook, -⟩
  · rw [Orm.ofRow_row, happ] at hstatus
    cases hstatus
  refine (ensures_loyaltyBooking hbook (hmid _ hcalls₂)).bind_returns ?_
  rintro _ d₃ es₃ ⟨rfl, hframe₃, hrows₃⟩
  exact hinv.frame hframe₃ hrows₃ rfl

theorem ensures_processMoneyRefund_sent {known : Known} {refund : RefundRow}
    {payment : Option PaymentRow} {booking : Option BookingRow} {actorId : String}
    (h : SentInv bid pid total d es) (hr : Table.get d.refunds refund.id = some refund)
    (happ : refund.status = .approved) :
    Ensures (Bounded total d) (Restores (SentInv bid pid total))
      (processMoneyRefund known refund payment booking actorId) d es := by
  have hready := h.ready hr (.inr happ)
  have hcall : ∀ p ref, Bounded total d (es ++ [refundCall p ref refund]) :=
    fun p ref => hready.base _ (acceptedCalls_refundCall p ref refund)
  unfold processMoneyRefund
  refine (ensures_executeRefund h.bounded hcall).bind ?_ fun _ _ _ _ => trivial
  rintro res d es₁ ⟨rfl, hres⟩
  have hexec : Bounded total d es₁ ∧ Executing bid pid total d es es₁ (.ofRow refund) := by
    rcases hres with ⟨rfl, -⟩ | ⟨p, ref, x, rfl, -⟩
    · exact ⟨h.bounded, hready.executing (.inl rfl)⟩
    · exact ⟨hcall p ref, hready.executing (.inr (acceptedCalls_refundCall p ref refund))⟩
  have hmid : ∀ es', acceptedCalls es' = acceptedCalls es₁ → Bounded total d es' :=
    fun es' hcalls => hexec.1.congr hcalls
  refine (ensures_complete_sent hexec.2 hmid).bind ?_ fun _ _ _ _ => trivial
  rintro done d₂ es₂ ⟨hcalls₂, hdone⟩
  rcases hdone done rfl with ⟨hstatus, -⟩ | ⟨hinv, -, hchanges⟩
  · rw [Orm.ofRow_row, happ] at hstatus
    cases hstatus
  refine (Ensures.forSome (Q := fun _ d' es' => d' = d₂ ∧ acceptedCalls es' = acceptedCalls es₂)
    ⟨rfl, rfl⟩ fun b _ => ?_).bind_returns ?_
  · rw [ensures_emit]
    exact ⟨hmid _ ((acceptedCalls_append_void rfl).trans hcalls₂), rfl,
      acceptedCalls_append_void rfl⟩
  rintro _ d₂ es₃ ⟨rfl, hcalls₃⟩
  refine (ensures_flushRefund_idle (hmid _ (hcalls₃.trans hcalls₂)) hchanges).mono (fun _ h => h) ?_
  rintro (e | o) d₄ es₄ ⟨rfl, hd⟩
  · trivial
  · obtain rfl := hd o rfl
    exact hinv.frame (Frame.refl _) rfl hcalls₃

theorem ensures_processRefund {refundId : Uuid} {actorId : Option String}
    (h : SentInv bid pid total d es) :
    Ensures (Bounded total d) (Restores (SentInv bid pid total)) (processRefund refundId actorId) d
      es := by
  have hes := h.bounded
  unfold processRefund getRefundById
  refine Ensures.bind_reads (ensures_load hes) (fun refund hrefund => ?_) fun _ => trivial
  have hr : Table.get d.refunds refund.id = some refund := by
    rw [show refund.id = refundId from (Table.get_some hrefund).2, hrefund]
  rw [ensures_bind_raiseIf]
  refine ⟨fun _ => trivial, fun happ => ?_⟩
  refine Ensures.bind_reads (ensures_bookingOfRefund hes) (fun booking _ => ?_) fun _ => trivial
  refine Ensures.bind_reads (ensures_paymentOfBooking hes) (fun payment _ => ?_) fun _ => trivial
  dsimp only
  by_cases hloyal : isLoyalty refund.refundMethod = true
  · rw [if_pos hloyal]
    exact ensures_processLoyaltyRefund_sent h hr (not_not.mp happ)
  · rw [if_neg hloyal]
    exact ensures_processMoneyRefund_sent h hr (not_not.mp happ)

/-- A refund written back with its status and amount. -/
theorem ensures_flushRefund_sent {o : Orm RefundRow} {r : RefundRow}
    (h : SentInv bid pid total d es) (hr : Table.get d.refunds o.row.id = some r)
    (hs : InStep o d.refunds) (hstatus : o.row.status = r.status)
    (hamount : o.row.refundedAmount = r.refundedAmount) (hpay : o.row.paymentId = some pid)
    (hmid : mid es) :
    Ensures mid (fun res d' es' => es' = es ∧ ∀ o', res = .ok o' → SentInv bid pid total d' es')
      (flushRefund o) d es := by
  have hshare : committedShare pid o.row = committedShare pid r := by
    have hpay' := h.refunds r (Table.get_some hr).1
    simp [committedShare, hstatus, hamount, hpay, hpay']
  have hpos : 0 ≤ r.refundedAmount :=
    h.wf.nonneg r (Table.get_some hr).1 (h.refunds r (Table.get_some hr).1)
  refine (ensures_flushRefund hmid hs).mono (fun _ h => h) ?_
  rintro (e | o') d' es' ⟨rfl, hres⟩
  · exact ⟨rfl, fun _ h => by cases h⟩
  · obtain ⟨-, hframe, -, -, hrep, -⟩ := hres
    refine ⟨rfl, fun _ _ => h.update hr hframe hrep hpay (hamount ▸ hpos) ?_
      (fun hexec => ⟨hstatus ▸ hexec, hamount⟩) rfl⟩
    rw [hshare]
    exact h.room hr

theorem appendNotes_columns (notes : Option String) (r : RefundRow) :
    (appendNotes notes r).id = r.id ∧ (appendNotes notes r).status = r.status ∧
      (appendNotes notes r).paymentId = r.paymentId ∧
      (appendNotes notes r).refundedAmount = r.refundedAmount := by
  unfold appendNotes
  split_ifs <;> exact ⟨rfl, rfl, rfl, rfl⟩

theorem ensures_confirmRefund {refundId : Uuid} {providerReference notes : Option String}
    {actorId : String} (h : SentInv bid pid total d es) :
    Ensures (Bounded total d) (Restores (SentInv bid pid total))
      (confirmRefund refundId providerReference notes actorId) d es := by
  have hmid : ∀ es', acceptedCalls es' = acceptedCalls es → Bounded total d es' :=
    fun es' hcalls => h.bounded.congr hcalls
  unfold confirmRefund
  rw [ensures_bind_queryForUpdate]
  refine ⟨h.bounded, ?_⟩
  cases hrow : Table.get d.refunds refundId with
  | none => trivial
  | some r =>
    obtain ⟨hmem, hid⟩ := Table.get_some hrow
    have hkey : r.id = refundId := hid
    obtain ⟨hid', hstatus', hpay', hamount'⟩ := appendNotes_columns notes r
    have hs : InStep ((Orm.ofRow r).set (appendNotes notes)) d.refunds :=
      (inStep_ofRow hrow).set fun r => (appendNotes_columns notes r).1
    have hget : Table.get d.refunds ((Orm.ofRow r).set (appendNotes notes)).row.id = some r := by
      rw [Orm.set_row, Orm.ofRow_row, hid', hkey, hrow]
    have hpay : ((Orm.ofRow r).set (appendNotes notes)).row.paymentId = some pid := by
      rw [Orm.set_row, Orm.ofRow_row, hpay', h.refunds r hmem]
    have hpos := h.wf.nonneg r hmem (h.refunds r hmem)
    dsimp only
    by_cases hcommitted : r.status ∈ committedStatuses
    · have hexec : Executing bid pid total d es es ((Orm.ofRow r).set (appendNotes notes)) := by
        refine ⟨h, hs, hpay, ?_, ?_, r, hget, .inl ⟨rfl, fun _ => hamount'⟩⟩
        · rwa [Orm.set_row, Orm.ofRow_row, hamount']
        · rw [Orm.set_row, Orm.ofRow_row, hid', hamount', ← h.share hrow hcommitted, hkey]
          exact h.room hrow
      refine (ensures_complete_sent hexec hmid).bind ?_ fun _ _ _ _ => trivial
      rintro done d₂ es₂ ⟨hcalls₂, hdone⟩
      rcases hdone done rfl with ⟨-, rfl, hrefund⟩ | ⟨hinv, -, hchanges⟩
      · -- completed before: only the notes are written
        have h₂ := h.frame (Frame.refl _) rfl hcalls₂
        rw [hrefund]
        refine (ensures_flushRefund_sent h₂ hget hs hstatus' hamount' hpay
          (hmid _ hcalls₂)).mono (fun _ h => h) ?_
        rintro (e | o') d₃ es₃ ⟨rfl, hinv₃⟩
        · trivial
        · exact hinv₃ o' rfl
      · refine (ensures_flushRefund_idle (hmid _ hcalls₂) hchanges).mono (fun _ h => h) ?_
        rintro (e | o') d₃ es₃ ⟨rfl, hd⟩
        · trivial
        · obtain rfl := hd o' rfl
          exact hinv
    · -- a rejected, failed or cancelled refund is not completed
      refine (ensures_complete h.bounded (fun ev => hmid _ (acceptedCalls_append_void rfl)) hs).bind
        ?_ fun _ _ _ _ => trivial
      rintro done d₂ es₂ ⟨-, hdone⟩
      refine absurd ?_ hcommitted
      rw [← hstatus']
      rcases hdone done rfl with ⟨hc, -⟩ | ⟨ho, -⟩
      · rw [Orm.set_row, Orm.ofRow_row] at hc
        simp [hc, committedStatuses]
      · exact List.mem_cons_of_mem _ ho

theorem ensures_publishApprovedEvent {refund : RefundRow}
    (hmid : ∀ es', acceptedCalls es' = acceptedCalls es → mid es') :
    Ensures mid (Returns fun _ d' es' => d' = d ∧ acceptedCalls es' = acceptedCalls es)
      (publishApprovedEvent refund) d es := by
  have hes := hmid es rfl
  unfold publishApprovedEvent
  rw [ensures_tryCatch]
  have hlookup : ∀ bookingId : Uuid, Ensures mid (Reads d es fun _ => True)
      (do let booking ← getBooking bookingId
          discard (getPaymentForBooking booking)) d es := by
    intro bookingId
    refine Ensures.bind_reads (ensures_getBooking hes) (fun booking _ => ?_)
      fun _ => ⟨rfl, rfl, fun _ _ => trivial⟩
    refine Ensures.bind_reads (ensures_getPaymentForBooking hes)
      (fun _ _ => ⟨rfl, rfl, fun _ _ => trivial⟩) fun _ => ⟨rfl, rfl, fun _ _ => trivial⟩
  have hsome : Ensures mid (Reads d es fun _ => True)
      (Prog.forSome refund.bookingId fun bookingId => do
        let booking ← getBooking bookingId
        discard (getPaymentForBooking booking)) d es :=
    (ensures_forSome _ _).mpr ⟨fun _ => ⟨rfl, rfl, fun _ _ => trivial⟩, fun b _ => hlookup b⟩
  refine Ensures.bind_reads hsome (fun _ _ => ?_) fun _ => ⟨rfl, rfl⟩
  rw [ensures_emit]
  exact ⟨hmid _ (acceptedCalls_append_void rfl), rfl, acceptedCalls_append_void rfl⟩

theorem ensures_approveRefund {refundId : Uuid} {refundMethod : String} {approvedAmount : ℚ}
    {notes actorId : Option String} (h : SentInv bid pid total d es)
    (hcap : KeepsToPayment pid d (.approveRefund refundId refundMethod approvedAmount notes actorId)) :
    Ensures (Bounded total d) (Restores (SentInv bid pid total))
      (approveRefund refundId refundMethod approvedAmount notes actorId) d es := by
  have hmid : ∀ es', acceptedCalls es' = acceptedCalls es → Bounded total d es' :=
    fun es' hcalls => h.bounded.congr hcalls
  unfold approveRefund getRefundById
  refine Ensures.bind_reads (ensures_load h.bounded) (fun r hr => ?_) fun _ => trivial
  obtain ⟨hmem, hid⟩ := Table.get_some hr
  have hkey : r.id = refundId := hid
  have hpay : r.paymentId = some pid := h.refunds r hmem
  refine (ensures_approve h.bounded (agrees_empty d) (inStep_ofRow hr)).bind ?_
    fun _ _ _ _ => trivial
  rintro o d₁ es₁ ⟨rfl, ho⟩
  have hinv : SentInv bid pid total d₁ es₁ := by
    rcases ho with ⟨-, -, rfl⟩ | ⟨hreq, hnet, happroval, hframe, now, rfl, hfits, hrep⟩
    · exact h
    -- the cap that `approve` leaves out for loyalty points is the condition of the step
    have hroom : WithinCap d pid (some refundId) (dec approvedAmount) := by
      by_cases hloyal : RefundMethod.normalise refundMethod = .loyaltyPoints
      · exact hcap hloyal ⟨r, hr, hpay, hreq, hnet, hfits⟩
      · have := happroval hloyal pid hpay
        rwa [Orm.ofRow_row, hkey] at this
    rw [h.wf.withinCap_iff] at hroom
    rw [Orm.ofRow_row, hkey] at hrep
    have hpos : 0 ≤ dec approvedAmount := le_of_lt hnet
    refine h.update hr hframe hrep hpay hpos ?_ (fun hexec => ?_) rfl
    · refine le_trans (Int.add_le_add_left (committedShare_le hpos) _) hroom
    · rw [Orm.ofRow_row] at hreq
      rw [hreq] at hexec
      exact absurd hexec (by decide)
  refine (ensures_publishApprovedEvent hmid).bind_returns ?_
  rintro _ d₁ es₂ ⟨rfl, hcalls⟩
  exact hinv.frame (Frame.refl _) rfl hcalls

theorem ensures_createRefundRequest {paymentId : Option PaymentRef}
    {invoiceId invoiceNumber : Option String} {refundAmount : Option ℚ} {cancellationFee : ℚ}
    {reason notes actorId : Option String} (h : SentInv bid pid total d es)
    (hnamed : KeepsToPayment pid d (.createRefundRequest paymentId invoiceId invoiceNumber
      refundAmount cancellationFee reason notes actorId)) :
    Ensures (Bounded total d) (Restores (SentInv bid pid total))
      (createRefundRequest bid paymentId invoiceId invoiceNumber refundAmount cancellationFee reason
        notes actorId) d es := by
  have hes := h.bounded
  obtain ⟨q, hq, hqid, hqtotal⟩ := h.payment
  have hqmem : q ∈ d.payments := by
    have : q ∈ d.payments.filter (·.bookingId = some bid) := by rw [hq]; simp
    exact (List.mem_filter.mp this).1
  -- the payment of the request is the booking's own
  have hpayment : ∀ booking : BookingRow, booking.id = bid →
      Ensures (Bounded total d) (Reads d es fun p => p = some q)
        (requestPayment booking paymentId) d es := by
    intro booking hbooking
    unfold requestPayment
    refine Ensures.bind_reads (ensures_findPayment hes) (fun p hp => ?_)
      fun _ => ⟨rfl, rfl, fun _ h => nomatch h⟩
    cases p with
    | some x =>
      obtain ⟨ref, href, hx⟩ := mem_of_namedPayment hp.symm
      have hid : x.id = pid := hnamed ref href x hx
      have hxmem : x ∈ d.payments := by
        cases ref with
        | uuid k =>
          simp only [paymentsOf, Option.mem_toList] at hx
          exact (Table.get_some hx).1
        | text s =>
          simp only [paymentsOf, List.mem_filter] at hx
          exact hx.1
      have hxq : x = q := Table.eq_of_key_eq h.unique hxmem hqmem (hid.trans hqid.symm)
      exact ⟨rfl, rfl, fun a ha => by cases ha; rw [hxq]⟩
    | none =>
      refine (ensures_getPaymentForBooking hes).mono (fun _ h => h) ?_
      rintro r d' es' ⟨rfl, rfl, hp⟩
      refine ⟨rfl, rfl, fun p hr => (hp p hr).trans ?_⟩
      unfold bookingPayment
      rw [hbooking, hq]
      rfl
  unfold createRefundRequest
  refine Ensures.bind_reads (ensures_getBooking hes) (fun booking hbooking => ?_) fun _ => trivial
  refine Ensures.bind_reads (hpayment booking hbooking) (fun p hp => ?_) fun _ => trivial
  subst hp
  refine (ensures_request hes).bind ?_ fun _ _ _ _ => trivial
  rintro ⟨o, created⟩ d₁ es ⟨rfl, ho⟩
  dsimp only
  -- the refund of the request is a row of the table, within the cap
  have hrow : ∃ r, o = .ofRow r ∧ Table.get d₁.refunds r.id = some r ∧
      SentInv bid pid total d₁ es := by
    rcases ho o created rfl with ⟨rfl, -, -, row, hrow, rfl⟩ | ⟨-, hnet, hcap, hframe, id, number,
      now, rfl, hrows, hnew, -⟩
    · exact ⟨row, rfl, Table.get_eq_of_mem h.wf.unique hrow, h⟩
    · have hroom := hcap q rfl
      rw [exceeds_iff, not_lt, hqid, hqtotal] at hroom
      have hpay : some q.id = some pid := by rw [hqid]
      rw [Orm.ofRow_row] at hrows
      refine ⟨_, rfl, ?_, h.insert hframe hrows hnew hpay (le_of_lt hnet)
        (le_trans (Int.add_le_add_left (committedShare_le (le_of_lt hnet)) _) hroom)⟩
      rw [hrows]
      exact Table.get_append_new hnew
  obtain ⟨r, rfl, hr, hinv⟩ := hrow
  have hpay : r.paymentId = some pid := hinv.refunds r (Table.get_some hr).1
  have hs := (inStep_ofRow hr).set (f := referenceColumns (some q) invoiceId invoiceNumber)
    fun _ => rfl
  have hpay' : ((Orm.ofRow r).set (referenceColumns (some q) invoiceId invoiceNumber)).row.paymentId
      = some pid := by
    simp [referenceColumns, hpay]
  refine (ensures_flushRefund_sent (r := r) hinv hr hs rfl rfl hpay' hes).bind ?_ fun _ _ _ _ => trivial
  rintro o' d₂ es ⟨rfl, hinv₂⟩
  exact hinv₂ o' rfl

/-! ## Runs -/

/-- One lemma for every workflow. -/
theorem ensures_refundCode {op : RefundOp} (h : SentInv bid pid total d es)
    (hop : KeepsToPayment pid d op) :
    Ensures (Bounded total d) (Restores (SentInv bid pid total)) (refundCode bid op) d es := by
  cases op with
  | createRefundRequest =>
    exact (ensures_createRefundRequest h hop).bind (fun _ _ _ h => h) fun _ _ _ h => h
  | approveRefund => exact (ensures_approveRefund h hop).bind (fun _ _ _ h => h) fun _ _ _ h => h
  | processGatewayRefund =>
    exact (ensures_processGatewayRefund h).bind (fun _ _ _ h => h) fun _ _ _ h => h
  | processRefund => exact (ensures_processRefund h).bind (fun _ _ _ h => h) fun _ _ _ h => h
  | recordManualRefund =>
    exact (ensures_recordManualRefund h).bind (fun _ _ _ h => h) fun _ _ _ h => h
  | confirmRefund => exact (ensures_confirmRefund h).bind (fun _ _ _ h => h) fun _ _ _ h => h

def cardPayment : PaymentRow :=
  { id := 1
    bookingId := some 7
    totalAmount := 10000
    status := some .success
    paymentProvider := some "tap"
    paymentId := some "chg_1" }

/-- A cancelled booking with its card payment. -/
def paidByCard : Db where
  payments := [cardPayment]
  bookings := [
    { id := 7
      customerId := 3
      therapistId := 4
      appointmentStart := 0
      appointmentEnd := 0
      totalAmount := 10000
      status := .cancelled
      paymentStatus := .success }]

/-- The provider accepts every refund, and 21 is the next id. -/
def acceptingNew : Env :=
  { uuid := 21, refund := .ok { isSuccessful := true, providerRefundId := some "re_1" } }

/-- A workflow from its beginning to its commit. -/
def wholeWorkflow (op : RefundOp) : List (Event RefundOp Env) :=
  .start 1 op :: List.replicate 24 (.exec 1 acceptingNew) ++ [.finish 1]

/-- The cancelled booking is refunded through the gateway. -/
def gatewayRefund : List (Event RefundOp Env) :=
  wholeWorkflow (.createRefundRequest none none none (some 10) 0 none none none) ++
    wholeWorkflow (.processGatewayRefund {} "staff") ++
    wholeWorkflow (.confirmRefund 21 none none "staff")

/-- The refund of 10.000 is approved as 100 points and then submitted to the gateway. -/
def pointsThroughGateway : List (Event RefundOp Env) :=
  wholeWorkflow (.createRefundRequest none none none (some 10) 0 none none none) ++
    wholeWorkflow (.approveRefund 21 "loyalty_points" 100 none none) ++
    wholeWorkflow (.processGatewayRefund {} "staff")

end Payment
