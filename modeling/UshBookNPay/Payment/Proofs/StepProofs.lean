import UshBookNPay.Payment.Proofs.RefundCapProofs
import UshBookNPay.Payment.RefundSummaries

/-!
# What one transition does to a refund, its payment and its booking

One inversion result for a step of a run: either nothing has changed, or one refund was added or
replaced, and the payment and the booking of a completed or failed refund have new summaries.
-/

open Transactions (Prog Ensures)
open Transactions

namespace Payment

/-! ## The effects -/

/-- The payment a refund points to. -/
def paymentFor (d : Db) (r : RefundRow) : Option PaymentRow :=
  r.paymentId.bind (Table.get d.payments)

/-- The booking a refund points to. -/
def bookingFor (d : Db) (r : RefundRow) : Option BookingRow :=
  r.bookingId.bind (Table.get d.bookings)

/-- The total `complete` writes on the payment, with the refunds as they are in `d`. -/
def completeTotal (d : Db) (p : PaymentRow) (r : RefundRow) : Fils :=
  max (sumOf d p.id [.completed] none) (p.amountRefunded + r.refundedAmount)

/-- Whether `complete` finds the payment refunded down to the fee that is kept. -/
def completeFully (d : Db) (p : PaymentRow) (r : RefundRow) : Bool :=
  let target := max 0 (p.totalAmount - max (largestFee d p.id none) r.cancellationFee)
  decide (0 < target ∧ toDecimal target ≤ toDecimal (completeTotal d p r) + TOLERANCE)

/-- The payment of the refund `r`, completed in `d'`. -/
structure PaymentCompleted (d d' : Db) (r : RefundRow) : Prop where
  absent : paymentFor d r = none → d'.payments = d.payments
  points : isLoyalty r.refundMethod → d'.payments = d.payments
  money : ∀ p, paymentFor d r = some p → ¬ isLoyalty r.refundMethod →
    ¬ exceeds (sumOf d p.id [.completed] (some r.id) + r.refundedAmount) p.totalAmount ∧
    ∃ a, Table.Replaces d.payments p.id
      ((completedSummary (completeTotal d' p r) p).setAttribution a) d'.payments

/-- The booking of the refund `r`, completed in `d'`. -/
structure BookingCompleted (d d' : Db) (r : RefundRow) : Prop where
  absent : bookingFor d r = none → d'.bookings = d.bookings
  money : ∀ b p, bookingFor d r = some b → paymentFor d r = some p → ¬ isLoyalty r.refundMethod →
    ∃ a, Table.Replaces d.bookings b.id
      ((completedBooking false (completeFully d' p r) true b).setAttribution a) d'.bookings
  points : ∀ b, bookingFor d r = some b → isLoyalty r.refundMethod →
    ∃ a, Table.Replaces d.bookings b.id
      ((completedBooking true false true b).setAttribution a) d'.bookings
  written : ∀ b, bookingFor d r = some b → ∃ b', Table.Replaces d.bookings b.id b' d'.bookings

/-- The payment of the refund `r`, failed in `d'`. -/
structure PaymentFailed (d d' : Db) (r : RefundRow) : Prop where
  absent : paymentFor d r = none → d'.payments = d.payments
  present : ∀ p, paymentFor d r = some p → ∃ a, Table.Replaces d.payments p.id
    ((failedSummary (sumOf d' p.id [.completed] none) (decide (r.status = .completed))
      r.refundNumber p).setAttribution a) d'.payments

/-- The booking of the refund `r`, failed in `d'`. -/
structure BookingFailed (d d' : Db) (r : RefundRow) : Prop where
  open_ : r.status ≠ .completed → d'.bookings = d.bookings
  absent : bookingFor d r = none ∨ paymentFor d r = none → d'.bookings = d.bookings
  present : ∀ b p, bookingFor d r = some b → paymentFor d r = some p → r.status = .completed →
    ∃ a, Table.Replaces d.bookings b.id
      ((b.setPaymentStatus (if 0 < sumOf d' p.id [.completed] none then .partiallyRefunded
        else .success)).setAttribution a) d'.bookings

/-! ## The status a transition sets -/

section Columns

variable (r : RefundRow)

@[simp] theorem requestedColumns_status (net fee : Fils) :
    (requestedColumns net fee r).status = r.status := rfl

@[simp] theorem rejectedColumns_status (reason actorId : Option String) (now : Instant) :
    (rejectedColumns reason actorId now r).status = .rejected := rfl

@[simp] theorem approvedColumns_status (method : RefundMethod) (net : Fils)
    (notes actorId : Option String) (now : Instant) :
    (approvedColumns method net notes actorId now r).status = .approved := rfl

@[simp] theorem processingColumns_status (providerRefundId : Option String)
    (gatewayResponse : Option Json) (actorId : Option String) (now : Instant) :
    (processingColumns providerRefundId gatewayResponse actorId now r).status = .processing := rfl

@[simp] theorem completedColumns_status (now : Instant) (providerReference : Option String)
    (gatewayResponse : Option Json) :
    (completedColumns now providerReference gatewayResponse r).status = .completed := rfl

@[simp] theorem failedColumns_status (reason : String) (gatewayResponse : Option Json) :
    (failedColumns reason gatewayResponse r).status = .failed := rfl

end Columns

/-! ## The statements -/

section Statements

variable {mid : List Emission → Prop} {d d' : Db} {es : List Emission} {refund : RefundRow}

theorem paymentFor_eq_some {p : PaymentRow} (h : paymentFor d refund = some p) :
    refund.paymentId = some p.id ∧ Table.get d.payments p.id = some p := by
  obtain ⟨pid, hpid, hp⟩ := Option.bind_eq_some_iff.mp h
  have hid : p.id = pid := (Table.get_some hp).2
  rw [hid]
  exact ⟨hpid, hp⟩

theorem bookingFor_eq_some {b : BookingRow} (h : bookingFor d refund = some b) :
    refund.bookingId = some b.id ∧ Table.get d.bookings b.id = some b := by
  obtain ⟨bid, hbid, hb⟩ := Option.bind_eq_some_iff.mp h
  have hid : b.id = bid := (Table.get_some hb).2
  rw [hid]
  exact ⟨hbid, hb⟩

theorem sumOf_congr (h : d'.refunds = d.refunds) (pid : Uuid) (statuses : List RefundStatus)
    (excludeId : Option Uuid) : sumOf d' pid statuses excludeId = sumOf d pid statuses excludeId := by
  unfold sumOf
  rw [h]

theorem largestFee_congr (h : d'.refunds = d.refunds) (pid : Uuid) (excludeId : Option Uuid) :
    largestFee d' pid excludeId = largestFee d pid excludeId := by
  unfold largestFee
  rw [h]

/-- With no refund left out it is the fee `_retained_fee` finds. -/
theorem largestFee_none (d : Db) (pid : Uuid) :
    largestFee d pid none = (((d.refunds.filter fun r => r.paymentId = some pid ∧
      r.status ∈ committedStatuses).map (·.cancellationFee)).max?).getD 0 := by
  simp [largestFee]

theorem completeTotal_congr (h : d'.refunds = d.refunds) (p : PaymentRow) (r : RefundRow) :
    completeTotal d' p r = completeTotal d p r := by
  unfold completeTotal
  rw [sumOf_congr h]

theorem completeFully_congr (h : d'.refunds = d.refunds) (p : PaymentRow) (r : RefundRow) :
    completeFully d' p r = completeFully d p r := by
  unfold completeFully
  rw [completeTotal_congr h, largestFee_congr h]

theorem paymentFor_congr {refund' : RefundRow} (h : d'.payments = d.payments)
    (hid : refund'.paymentId = refund.paymentId) : paymentFor d' refund' = paymentFor d refund := by
  unfold paymentFor
  rw [h, hid]

theorem bookingFor_congr {refund' : RefundRow} (h : d'.bookings = d.bookings)
    (hid : refund'.bookingId = refund.bookingId) : bookingFor d' refund' = bookingFor d refund := by
  unfold bookingFor
  rw [h, hid]

/-- The booking a session without loaded rows finds. -/
theorem ensures_bookingFor (hmid : mid es) :
    Ensures mid (Returns fun b d' es' => d' = d ∧ es' = es ∧
        b = (bookingFor d refund).map Orm.ofRow)
      (bookingOf {} refund) d es := by
  unfold bookingOf bookingFor
  cases hb : refund.bookingId with
  | none => exact ⟨rfl, rfl, rfl⟩
  | some bid =>
    dsimp only
    rw [ensures_bind_queryForUpdate]
    exact ⟨hmid, rfl, rfl, rfl⟩

/-- A loaded payment, changed by `f` and written. -/
theorem ensures_changePayment {p : PaymentRow} {f : PaymentRow → PaymentRow} (hmid : mid es)
    (hp : Table.get d.payments p.id = some p) (hf : ∀ r, (f r).id = r.id) :
    Ensures mid (fun r d' es' => es' = es ∧ ∀ q, r = .ok q → d'.refunds = d.refunds ∧
        d'.bookings = d.bookings ∧
        ∃ a, Table.Replaces d.payments p.id ((f p).setAttribution a) d'.payments)
      (flushPayment ((Orm.ofRow p).set f)) d es := by
  refine (ensures_writePayment hmid).mono (fun _ h => h) ?_
  rintro r d' es' ⟨rfl, -, hok⟩
  refine ⟨rfl, fun q hq => ?_⟩
  obtain ⟨-, rfl⟩ := hok q hq
  obtain ⟨a, ha⟩ : ∃ a, a = ((Orm.ofRow p).set f).row.attribution := ⟨_, rfl⟩
  rw [← ha]
  have hid : ((Orm.ofRow p).set f).row.id = p.id := hf p
  refine ⟨rfl, rfl, a, ?_⟩
  rw [hid]
  exact Table.replaces_modify (f := fun r => (f r).setAttribution a) hp hf

/-- A loaded booking, changed by `f` and written. -/
theorem ensures_changeBooking {b : BookingRow} {f : BookingRow → BookingRow} (hmid : mid es)
    (hb : Table.get d.bookings b.id = some b) (hf : ∀ r, (f r).id = r.id) :
    Ensures mid (Returns fun _ d' es' => es' = es ∧ d'.refunds = d.refunds ∧
        d'.payments = d.payments ∧
        ∃ a, Table.Replaces d.bookings b.id ((f b).setAttribution a) d'.bookings)
      (flushBooking ((Orm.ofRow b).set f)) d es := by
  refine (ensures_writeBooking hmid).mono (fun _ h => h) ?_
  rintro (_ | o) d' es' h
  · exact h
  obtain ⟨rfl, -, rfl⟩ := h
  obtain ⟨a, ha⟩ : ∃ a, a = ((Orm.ofRow b).set f).row.attribution := ⟨_, rfl⟩
  rw [← ha]
  have hid : ((Orm.ofRow b).set f).row.id = b.id := hf b
  refine ⟨rfl, rfl, rfl, a, ?_⟩
  rw [hid]
  exact Table.replaces_modify (f := fun r => (f r).setAttribution a) hb hf

theorem completedSummary_id (total : Fils) (p : PaymentRow) :
    (completedSummary total p).id = p.id := rfl

theorem failedSummary_id (total : Fils) (wasCompleted : Bool) (refundNumber : String)
    (p : PaymentRow) : (failedSummary total wasCompleted refundNumber p).id = p.id := rfl

theorem completedBooking_id (loyalty fully hasPayment : Bool) (b : BookingRow) :
    (completedBooking loyalty fully hasPayment b).id = b.id := by
  unfold completedBooking
  split_ifs <;> rfl

theorem ensures_auditOnly {payment : PaymentRow} {reason source : String}
    {actorId providerReference : Option String} {oldStatus : Option PaymentStatus}
    (hmid : mid es) :
    Ensures mid (Returns fun _ d' es' => es' = es ∧ d'.refunds = d.refunds ∧
        d'.payments = d.payments ∧ d'.bookings = d.bookings)
      (audit payment reason refund source actorId providerReference oldStatus) d es := by
  unfold audit
  rw [ensures_update]
  exact ⟨hmid, rfl, rfl, rfl, rfl⟩

/-! ## complete -/

/-- What `completePayment` does, where the refund is completed already. -/
structure PaymentDone (d d' : Db) (r : RefundRow) (x : Option (Orm PaymentRow) × Bool) : Prop where
  refunds : d'.refunds = d.refunds
  bookings : d'.bookings = d.bookings
  hasPayment : x.1.isSome = (paymentFor d r).isSome
  absent : paymentFor d r = none → d'.payments = d.payments
  points : isLoyalty r.refundMethod → d'.payments = d.payments
  money : ∀ p, paymentFor d r = some p → ¬ isLoyalty r.refundMethod →
    x.2 = completeFully d p r ∧ ∃ a, Table.Replaces d.payments p.id
      ((completedSummary (completeTotal d p r) p).setAttribution a) d'.payments

theorem ensures_completePayment_done {source : String} {providerReference actorId : Option String}
    {payment : Option (Orm PaymentRow)} (hmid : mid es)
    (hp : payment = (paymentFor d refund).map Orm.ofRow) :
    Ensures mid (fun r d' es' => es' = es ∧ ∀ x, r = .ok x → PaymentDone d d' refund x)
      (completePayment refund source providerReference actorId payment) d es := by
  subst hp
  cases hfor : paymentFor d refund with
  | none =>
    refine ⟨rfl, fun x hx => ?_⟩
    cases hx
    exact ⟨rfl, rfl, by rw [hfor]; rfl, fun _ => rfl, fun _ => rfl, by simp [hfor]⟩
  | some p =>
    obtain ⟨-, hget⟩ := paymentFor_eq_some hfor
    rw [Option.map_some]
    unfold completePayment
    by_cases hloyal : isLoyalty refund.refundMethod = true
    · simp only [hloyal, if_true]
      refine (ensures_auditOnly hmid).bind_returns ?_
      rintro _ d' es ⟨rfl, hrows, hpayments, hbookings⟩
      refine ⟨rfl, fun x hx => ?_⟩
      cases hx
      exact ⟨hrows, hbookings, by rw [hfor]; rfl, fun _ => hpayments, fun _ => hpayments,
        fun _ _ hmoney => absurd hloyal hmoney⟩
    · simp only [hloyal, Bool.false_eq_true, if_false]
      unfold completedTotal retainedFee
      rw [ensures_bind_query]
      refine ⟨hmid, ?_⟩
      rw [ensures_bind_query]
      refine ⟨hmid, ?_⟩
      refine (ensures_changePayment hmid hget (completedSummary_id _)).bind ?_ ?_
      swap
      · rintro e d₁ es ⟨rfl, -⟩
        exact ⟨rfl, fun _ h => nomatch h⟩
      rintro q d₁ es ⟨rfl, h⟩
      obtain ⟨hrows₁, hbookings₁, a, hrep⟩ := h q rfl
      refine (ensures_auditOnly hmid).bind_returns ?_
      rintro _ d₂ es ⟨rfl, hrows₂, hpayments₂, hbookings₂⟩
      refine ⟨rfl, fun x hx => ?_⟩
      cases hx
      rw [← hpayments₂] at hrep
      refine ⟨hrows₂.trans hrows₁, hbookings₂.trans hbookings₁, by rw [hfor]; rfl, ?_, ?_, ?_⟩
      · rw [hfor]
        exact fun h => nomatch h
      · exact fun h => absurd h hloyal
      · intro p' hp' _
        rw [hfor] at hp'
        cases hp'
        refine ⟨?_, a, hrep⟩
        unfold completeFully
        rw [largestFee_none]
        rfl

theorem ensures_completeBooking_done {loyalty fully hasPayment : Bool}
    {booking : Option (Orm BookingRow)} (hmid : mid es)
    (hb : booking = (bookingFor d refund).map Orm.ofRow) :
    Ensures mid (Returns fun _ d' es' => es' = es ∧ d'.refunds = d.refunds ∧
        d'.payments = d.payments ∧ (bookingFor d refund = none → d'.bookings = d.bookings) ∧
        ∀ b, bookingFor d refund = some b → ∃ a, Table.Replaces d.bookings b.id
          ((completedBooking loyalty fully hasPayment b).setAttribution a) d'.bookings)
      (completeBooking loyalty fully hasPayment booking) d es := by
  subst hb
  cases hfor : bookingFor d refund with
  | none => exact ⟨rfl, rfl, rfl, fun _ => rfl, by simp⟩
  | some b =>
    obtain ⟨-, hget⟩ := bookingFor_eq_some hfor
    rw [Option.map_some]
    unfold completeBooking
    rw [ensures_map]
    refine (ensures_changeBooking hmid hget (completedBooking_id _ _ _)).mono (fun _ h => h) ?_
    rintro (_ | o) d' es' h
    · exact h
    obtain ⟨rfl, hrows, hpayments, hrep⟩ := h
    refine ⟨rfl, hrows, hpayments, fun h => (by cases h), fun b' hb' => ?_⟩
    cases hb'
    exact hrep

/-- The check before a refund is completed. -/
theorem ensures_checkPaidAmount_ok {payment : Option (Orm PaymentRow)} (hmid : mid es)
    (hp : payment = (paymentFor d refund).map Orm.ofRow) :
    Ensures mid (fun r d' es' => d' = d ∧ es' = es ∧ (r = .ok () → ∀ p, paymentFor d refund = some p →
        ¬ isLoyalty refund.refundMethod →
        ¬ exceeds (sumOf d p.id [.completed] (some refund.id) + refund.refundedAmount) p.totalAmount))
      (checkPaidAmount refund payment) d es := by
  subst hp
  unfold checkPaidAmount completedTotal
  rw [ensures_forSome]
  constructor
  · intro hnone
    refine ⟨rfl, rfl, fun _ p hp hmoney => ?_⟩
    rw [if_neg hmoney, hp] at hnone
    nomatch hnone
  · intro p hp
    rw [ensures_bind_query, ensures_raiseIf]
    refine ⟨hmid, fun _ => ⟨rfl, rfl, fun h => nomatch h⟩, fun hle => ⟨rfl, rfl, fun _ q hq hmoney => ?_⟩⟩
    rw [if_neg hmoney, hq] at hp
    cases hp
    exact hle

theorem completedColumns_key (now : Instant) (providerReference : Option String)
    (gatewayResponse : Option Json) (r : RefundRow) :
    Table.Keyed.key (completedColumns now providerReference gatewayResponse r) =
      Table.Keyed.key r := rfl

/-- A refund completed by `complete`, with its payment and its booking. -/
structure CompletedIn (d d' : Db) (r : RefundRow) : Prop where
  payment : PaymentCompleted d d' r
  booking : BookingCompleted d d' r

theorem ensures_complete_done {o : Orm RefundRow} {source : String}
    {providerReference : Option String} {gatewayResponse : Option Json} {actorId : Option String}
    {publishEvent : Bool} (hs : InStep o d.refunds) :
    Ensures (fun _ => True) (fun r d' _ => ∀ c, r = .ok c → o.row.status ≠ .completed →
        CompletedIn d d' o.row)
      (complete {} o source providerReference gatewayResponse actorId publishEvent) d es := by
  unfold complete
  by_cases hdone : o.row.status = .completed
  · rw [if_pos hdone]
    exact fun _ _ hne => absurd hdone hne
  rw [if_neg hdone, ensures_bind_raiseIf]
  refine ⟨fun _ _ h => (by cases h), fun _ => ?_⟩
  refine (ensures_paymentOf trivial (agrees_empty d)).bind_returns ?_
  rintro payment d es ⟨hpayment, rfl, rfl⟩
  refine (ensures_checkPaidAmount_ok trivial hpayment).bind ?_ ?_
  swap
  · exact fun _ _ _ _ _ h => (by cases h)
  rintro _ d es ⟨rfl, rfl, hcap⟩
  rw [ensures_bind_ask]
  refine ⟨trivial, fun a => ?_⟩
  have hs' := hs.set (completedColumns_key a.now providerReference gatewayResponse)
  refine (ensures_flushRefund trivial hs').bind ?_ ?_
  swap
  · exact fun _ _ _ _ _ h => (by cases h)
  rintro o₁ d₁ es ⟨rfl, rfl, -, hpayments₁, hbookings₁, -, -⟩
  -- the row as it is completed: same payment, booking, method and amount
  obtain ⟨r, hr⟩ : ∃ r, r = completedColumns a.now providerReference gatewayResponse o.row :=
    ⟨_, rfl⟩
  have hpid : r.paymentId = o.row.paymentId := by rw [hr]; rfl
  have hbid : r.bookingId = o.row.bookingId := by rw [hr]; rfl
  have hmethod : r.refundMethod = o.row.refundMethod := by rw [hr]; rfl
  have htotal : ∀ d p, completeTotal d p r = completeTotal d p o.row := by
    intro d p; rw [hr]; rfl
  have hfull : ∀ d p, completeFully d p r = completeFully d p o.row := by
    intro d p; rw [hr]; rfl
  rw [Orm.ofRow_row, Orm.set_row, ← hr]
  refine (ensures_bookingFor trivial).bind_returns ?_
  rintro booking d₁ es ⟨rfl, rfl, hbooking⟩
  have hfor : paymentFor d₁ r = paymentFor d o.row := paymentFor_congr hpayments₁ hpid
  refine (ensures_completePayment_done trivial (hpayment.trans
    (congrArg (Option.map Orm.ofRow) hfor.symm))).bind ?_ ?_
  swap
  · exact fun _ _ _ _ _ h => (by cases h)
  rintro ⟨payment', fully⟩ d₂ es ⟨rfl, h⟩
  have hpay := h _ rfl
  have hbook₂ : bookingFor d₂ r = bookingFor d₁ r := bookingFor_congr hpay.bookings rfl
  have hbook₁ : bookingFor d₁ r = bookingFor d o.row := bookingFor_congr hbookings₁ hbid
  rw [← hbook₂] at hbooking
  refine (ensures_completeBooking_done trivial hbooking).bind_returns ?_
  rintro booking' d₃ es ⟨rfl, hrows₃, hpayments₃, hnone₃, hsome₃⟩
  have hrows : d₃.refunds = d₁.refunds := hrows₃.trans hpay.refunds
  refine (ensures_publishCompletedEvent fun _ => trivial).bind_returns ?_
  rintro _ d₃ es' ⟨rfl, -⟩
  intro c _ _
  rw [hbook₂, hbook₁, hpay.bookings, hbookings₁] at hnone₃ hsome₃
  have hpayAbsent := hpay.absent
  have hpayPoints := hpay.points
  have hpayMoney := hpay.money
  rw [hfor, hpayments₁, ← hpayments₃] at hpayAbsent
  rw [hmethod, hpayments₁, ← hpayments₃] at hpayPoints
  simp only [hfor, hmethod, hpayments₁, ← hpayments₃, htotal, hfull,
    ← completeTotal_congr hrows, ← completeFully_congr hrows] at hpayMoney
  refine ⟨⟨hpayAbsent, hpayPoints, fun p hp hmoney => ?_⟩,
    ⟨hnone₃, fun b p hb hp hmoney => ?_, fun b hb hloyal => ?_, fun b hb => ?_⟩⟩
  · exact ⟨hcap rfl p hp hmoney, (hpayMoney p hp hmoney).2⟩
  · have hsome := hsome₃ b hb
    have hhas : payment'.isSome = true := by rw [hpay.hasPayment, hfor, hp]; rfl
    have hloyal : isLoyalty r.refundMethod = false := by
      rw [hmethod]
      simpa using hmoney
    rw [hhas, hloyal, (hpayMoney p hp hmoney).1] at hsome
    exact hsome
  · have hsome := hsome₃ b hb
    rw [hmethod, hloyal] at hsome
    exact hsome
  · obtain ⟨a, hrep⟩ := hsome₃ b hb
    exact ⟨_, hrep⟩

/-! ## fail -/

/-- What `failPayment` does, where the refund is failed already. -/
structure PaymentTakenBack (d d' : Db) (r : RefundRow) (wasCompleted : Bool) (total : Option Fils) :
    Prop where
  refunds : d'.refunds = d.refunds
  bookings : d'.bookings = d.bookings
  absent : paymentFor d r = none → d'.payments = d.payments ∧ total = none
  present : ∀ p, paymentFor d r = some p → total = some (sumOf d p.id [.completed] none) ∧
    ∃ a, Table.Replaces d.payments p.id ((failedSummary (sumOf d p.id [.completed] none)
      wasCompleted r.refundNumber p).setAttribution a) d'.payments

theorem ensures_failPayment_done {reason source : String} {wasCompleted : Bool}
    {providerReference actorId : Option String} {payment : Option (Orm PaymentRow)}
    (hmid : mid es) (hp : payment = (paymentFor d refund).map Orm.ofRow) :
    Ensures mid (fun r d' es' => es' = es ∧ ∀ x, r = .ok x →
        PaymentTakenBack d d' refund wasCompleted x)
      (failPayment refund reason source wasCompleted providerReference actorId payment) d es := by
  subst hp
  cases hfor : paymentFor d refund with
  | none =>
    refine ⟨rfl, fun x hx => ?_⟩
    cases hx
    exact ⟨rfl, rfl, fun _ => ⟨rfl, rfl⟩, by simp [hfor]⟩
  | some p =>
    obtain ⟨-, hget⟩ := paymentFor_eq_some hfor
    rw [Option.map_some]
    unfold failPayment completedTotal
    dsimp only
    rw [ensures_bind_query]
    refine ⟨hmid, ?_⟩
    refine (ensures_changePayment hmid hget (failedSummary_id _ _ _)).bind ?_ ?_
    swap
    · rintro e d₁ es ⟨rfl, -⟩
      exact ⟨rfl, fun _ h => nomatch h⟩
    rintro q d₁ es ⟨rfl, h⟩
    obtain ⟨hrows₁, hbookings₁, a, hrep⟩ := h q rfl
    refine (ensures_auditOnly hmid).bind_returns ?_
    rintro _ d₂ es ⟨rfl, hrows₂, hpayments₂, hbookings₂⟩
    refine ⟨rfl, fun x hx => ?_⟩
    cases hx
    rw [← hpayments₂] at hrep
    refine ⟨hrows₂.trans hrows₁, hbookings₂.trans hbookings₁, by simp [hfor], ?_⟩
    intro p' hp'
    rw [hfor] at hp'
    cases hp'
    exact ⟨rfl, a, hrep⟩

theorem ensures_failBooking_done {wasCompleted : Bool} {total : Option Fils} (hmid : mid es) :
    Ensures mid (Returns fun _ d' es' => es' = es ∧ d'.refunds = d.refunds ∧
        d'.payments = d.payments ∧
        (wasCompleted = false ∨ bookingFor d refund = none ∨ total = none →
          d'.bookings = d.bookings) ∧
        ∀ b t, wasCompleted = true → bookingFor d refund = some b → total = some t →
          ∃ a, Table.Replaces d.bookings b.id
            ((b.setPaymentStatus (if 0 < t then .partiallyRefunded else .success)).setAttribution a)
            d'.bookings)
      (failBooking {} refund wasCompleted total) d es := by
  unfold failBooking
  cases wasCompleted with
  | false => exact ⟨rfl, rfl, rfl, fun _ => rfl, by simp⟩
  | true =>
    rw [if_pos rfl]
    refine (ensures_bookingFor hmid).bind_returns ?_
    rintro booking d es ⟨rfl, rfl, rfl⟩
    cases hfor : bookingFor d refund with
    | none => exact ⟨rfl, rfl, rfl, fun _ => rfl, by simp⟩
    | some b =>
      cases total with
      | none => exact ⟨rfl, rfl, rfl, fun _ => rfl, by simp⟩
      | some t =>
        obtain ⟨-, hget⟩ := bookingFor_eq_some hfor
        refine (ensures_changeBooking
          (f := (·.setPaymentStatus (if 0 < t then .partiallyRefunded else .success))) hmid hget
          fun _ => rfl).bind_returns ?_
        rintro _ d' es ⟨rfl, hrows, hpayments, hrep⟩
        refine ⟨rfl, hrows, hpayments, by simp, ?_⟩
        rintro b' t' - ⟨⟩ ⟨⟩
        exact hrep

/-- A refund failed by `fail`, with its payment and its booking. -/
structure FailedIn (d d' : Db) (r : RefundRow) : Prop where
  payment : PaymentFailed d d' r
  booking : BookingFailed d d' r

theorem failedColumns_key (reason : String) (gatewayResponse : Option Json) (r : RefundRow) :
    Table.Keyed.key (failedColumns reason gatewayResponse r) = Table.Keyed.key r := rfl

theorem ensures_fail_done {o : Orm RefundRow} {reason source : String}
    {providerReference : Option String} {gatewayResponse : Option Json} {actorId : Option String}
    (hs : InStep o d.refunds) :
    Ensures (fun _ => True) (fun r d' _ => ∀ x, r = .ok x →
        ¬ (o.row.status = .failed ∨ o.row.status = .cancelled) → FailedIn d d' o.row)
      (fail {} o reason source providerReference gatewayResponse actorId) d es := by
  unfold fail
  by_cases hdone : o.row.status = .failed ∨ o.row.status = .cancelled
  · rw [if_pos hdone]
    exact fun _ _ hne => absurd hdone hne
  rw [if_neg hdone]
  dsimp only
  have hs' := hs.set (failedColumns_key reason gatewayResponse)
  refine (ensures_flushRefund trivial hs').bind ?_ ?_
  swap
  · exact fun _ _ _ _ _ h => (by cases h)
  rintro o₁ d₁ es ⟨rfl, rfl, -, hpayments₁, hbookings₁, -, -⟩
  -- the row as it is failed: same payment, booking and number
  obtain ⟨r, hr⟩ : ∃ r, r = failedColumns reason gatewayResponse o.row := ⟨_, rfl⟩
  have hpid : r.paymentId = o.row.paymentId := by rw [hr]; rfl
  have hbid : r.bookingId = o.row.bookingId := by rw [hr]; rfl
  have hnumber : r.refundNumber = o.row.refundNumber := by rw [hr]; rfl
  rw [Orm.ofRow_row, Orm.set_row, ← hr]
  refine (ensures_paymentOf trivial (agrees_empty d₁)).bind_returns ?_
  rintro payment d₁ es ⟨hpayment, rfl, rfl⟩
  have hfor : paymentFor d₁ r = paymentFor d o.row := paymentFor_congr hpayments₁ hpid
  refine (ensures_failPayment_done trivial hpayment).bind ?_ ?_
  swap
  · exact fun _ _ _ _ _ h => (by cases h)
  rintro total d₂ es ⟨rfl, h⟩
  have hback := h _ rfl
  refine (ensures_failBooking_done trivial).bind_returns ?_
  rintro _ d₃ es ⟨rfl, hrows₃, hpayments₃, hkept₃, hchanged₃⟩
  intro x _ _
  have hbook : bookingFor d₂ r = bookingFor d o.row :=
    (bookingFor_congr hback.bookings rfl).trans (bookingFor_congr hbookings₁ hbid)
  rw [hbook, hback.bookings, hbookings₁] at hkept₃ hchanged₃
  have hrows : d₃.refunds = d₁.refunds := hrows₃.trans hback.refunds
  have habsent := hback.absent
  have hpresent := hback.present
  rw [hfor, hpayments₁, ← hpayments₃] at habsent
  simp only [hfor, hnumber, hpayments₁, ← hpayments₃, ← sumOf_congr hrows] at hpresent
  refine ⟨⟨fun h => (habsent h).1, fun p hp => (hpresent p hp).2⟩, ⟨?_, ?_, ?_⟩⟩
  · intro hopen
    exact hkept₃ (.inl (by simpa using hopen))
  · rintro (h | h)
    · exact hkept₃ (.inr (.inl h))
    · exact hkept₃ (.inr (.inr (habsent h).2))
  · intro b p hb hp hcompleted
    exact hchanged₃ b _ (by simpa using hcompleted) hb (hpresent p hp).1

end Statements

/-! ## The payment `pid` after a refund was completed or failed -/

section Settled

variable {d d' : Db} {r : RefundRow} {pid : Uuid} {p' : PaymentRow}

/-- The payment of a completed money refund has a new summary. -/
theorem CompletedIn.payment_of (h : CompletedIn d d' r) (hpid : r.paymentId = some pid)
    (hmoney : ¬ isLoyalty r.refundMethod) (hp' : Table.get d'.payments pid = some p') :
    ∃ p a, Table.get d.payments pid = some p ∧ paymentFor d r = some p ∧
      ¬ exceeds (sumOf d pid [.completed] (some r.id) + r.refundedAmount) p.totalAmount ∧
      p' = (completedSummary (completeTotal d' p r) p).setAttribution a := by
  cases hfor : paymentFor d r with
  | none =>
    rw [h.payment.absent hfor] at hp'
    unfold paymentFor at hfor
    rw [hpid, Option.bind_some, hp'] at hfor
    cases hfor
  | some p =>
    obtain ⟨hp, hget⟩ := paymentFor_eq_some hfor
    obtain rfl : pid = p.id := Option.some.inj (hpid.symm.trans hp)
    obtain ⟨hcap, a, hrep⟩ := h.payment.money p hfor hmoney
    exact ⟨p, a, hget, rfl, hcap, Option.some.inj (hp'.symm.trans hrep.1)⟩

/-- The other payments stay. -/
theorem CompletedIn.payment_other (h : CompletedIn d d' r) (hpid : r.paymentId ≠ some pid) :
    Table.get d'.payments pid = Table.get d.payments pid := by
  cases hfor : paymentFor d r with
  | none => rw [h.payment.absent hfor]
  | some p =>
    by_cases hloyal : isLoyalty r.refundMethod = true
    · rw [h.payment.points hloyal]
    · obtain ⟨-, a, hrep⟩ := h.payment.money p hfor hloyal
      have hne : pid ≠ p.id := fun he => hpid (he ▸ (paymentFor_eq_some hfor).1)
      exact hrep.get_of_ne hne

/-- The payment of a failed refund has a new summary. -/
theorem FailedIn.payment_of (h : FailedIn d d' r) (hpid : r.paymentId = some pid)
    (hp' : Table.get d'.payments pid = some p') :
    ∃ p a, Table.get d.payments pid = some p ∧ paymentFor d r = some p ∧
      p' = (failedSummary (sumOf d' pid [.completed] none) (decide (r.status = .completed))
        r.refundNumber p).setAttribution a := by
  cases hfor : paymentFor d r with
  | none =>
    rw [h.payment.absent hfor] at hp'
    unfold paymentFor at hfor
    rw [hpid, Option.bind_some, hp'] at hfor
    cases hfor
  | some p =>
    obtain ⟨hp, hget⟩ := paymentFor_eq_some hfor
    obtain rfl : pid = p.id := Option.some.inj (hpid.symm.trans hp)
    obtain ⟨a, hrep⟩ := h.payment.present p hfor
    exact ⟨p, a, hget, rfl, Option.some.inj (hp'.symm.trans hrep.1)⟩

theorem FailedIn.payment_other (h : FailedIn d d' r) (hpid : r.paymentId ≠ some pid) :
    Table.get d'.payments pid = Table.get d.payments pid := by
  cases hfor : paymentFor d r with
  | none => rw [h.payment.absent hfor]
  | some p =>
    obtain ⟨a, hrep⟩ := h.payment.present p hfor
    have hne : pid ≠ p.id := fun he => hpid (he ▸ (paymentFor_eq_some hfor).1)
    exact hrep.get_of_ne hne

end Settled

/-! ## The other transitions -/

section Frames

variable {O : Type} {g : Db → O}

theorem keeps_load {R : Type} {message : String} {get : Db → Option R} :
    Keeps g (load message get) := by
  refine (keeps_query get).bind fun row => ?_
  cases row with
  | none => exact keeps_throw _
  | some r => exact keeps_pure r

theorem keeps_loadRefund {id : Uuid} : Keeps g (loadRefund id) := keeps_load.map _

theorem keeps_loadPayment {id : Option Uuid} : Keeps g (loadPayment id) := by
  cases id with
  | none => exact keeps_pure none
  | some id => exact keeps_load.map _

theorem keeps_paymentOf {known : Known} {refund : RefundRow} {forUpdate : Bool} :
    Keeps g (paymentOf known refund forUpdate) := by
  unfold paymentOf
  cases refund.paymentId with
  | none => exact keeps_pure none
  | some pid =>
    refine Keeps.ite ?_ ?_
    · exact (keeps_queryForUpdate _ _).bind fun _ => keeps_pure _
    · exact (keeps_query _).bind fun _ => keeps_pure _

theorem keeps_bookingOf {known : Known} {refund : RefundRow} : Keeps g (bookingOf known refund) := by
  unfold bookingOf
  cases refund.bookingId with
  | none => exact keeps_pure none
  | some bid => exact (keeps_queryForUpdate _ _).bind fun _ => keeps_pure _

theorem keeps_checkCap {payment : PaymentRow} {excludeId : Option Uuid} {net : Fils}
    {message : Fils → String} : Keeps g (checkCap payment excludeId net message) :=
  (keeps_query _).bind fun _ => keeps_raiseIf _ _

/-- The part `g` of the database has neither refunds nor payment history. -/
structure Apart (g : Db → O) : Prop where
  refunds : ∀ d rows, g { d with refunds := rows } = g d
  history : ∀ d rows, g { d with paymentStatusHistory := rows } = g d

theorem Apart.flushRefund (h : Apart g) {o : Orm RefundRow} : Keeps g (flushRefund o) :=
  (keeps_checkedUpdate _ _ fun d => h.refunds d _).bind fun _ => keeps_pure _

theorem Apart.audit (h : Apart g) {payment : PaymentRow} {reason source : String}
    {refund : RefundRow} {actorId providerReference : Option String}
    {oldStatus : Option PaymentStatus} :
    Keeps g (audit payment reason refund source actorId providerReference oldStatus) :=
  keeps_update _ fun d => h.history d _

theorem Apart.request (h : Apart g) {booking : BookingRow} {payment : Option PaymentRow}
    {refundAmount cancellationFee : ℚ} {refundType refundMethod : String}
    {reason notes idempotencyKey actorId : Option String} :
    Keeps g (request booking payment refundAmount cancellationFee refundType refundMethod reason
      notes idempotencyKey actorId) := by
  refine (keeps_query _).bind fun existing => ?_
  cases existing with
  | some row => exact keeps_pure _
  | none =>
    refine Keeps.bind ?_ fun _ => keeps_pure _
    refine (keeps_raiseIf _ _).bind fun _ => (keeps_raiseIf _ _).bind fun _ => ?_
    refine (keeps_forSome _ fun _ => keeps_checkCap).bind fun _ => ?_
    refine Keeps.bind ?_ fun _ => (keeps_ask _).bind fun _ => (keeps_ask _).bind fun _ => ?_
    · exact (keeps_ask _).bind fun _ => (keeps_queryForUpdate _ _).bind fun _ => keeps_query _
    refine Keeps.bind ?_ fun _ => (keeps_forSome _ fun _ => h.audit).bind fun _ => keeps_pure _
    exact (keeps_checkedUpdate _ _ fun d => h.refunds d _).bind fun _ => keeps_pure _

theorem Apart.reject (h : Apart g) {refund : Orm RefundRow} {reason actorId : Option String} :
    Keeps g (reject refund reason actorId) := by
  refine Keeps.ite (keeps_pure _) ?_
  exact (keeps_raiseIf _ _).bind fun _ => (keeps_ask _).bind fun _ => h.flushRefund

theorem Apart.markProcessing (h : Apart g) {known : Known} {refund : Orm RefundRow}
    {providerRefundId : Option String} {gatewayResponse : Option Json} {actorId : Option String} :
    Keeps g (markProcessing known refund providerRefundId gatewayResponse actorId) := by
  refine Keeps.ite (keeps_pure _) ?_
  refine (keeps_raiseIf _ _).bind fun _ => (keeps_ask _).bind fun _ => ?_
  refine keeps_paymentOf.bind fun _ => ?_
  exact (keeps_forSome _ fun _ => h.audit).bind fun _ => h.flushRefund

theorem keeps_updateRequestedAmounts {refund : Orm RefundRow} {payment : Option PaymentRow}
    {refundAmount cancellationFee : ℚ} :
    Keeps g (updateRequestedAmounts refund payment refundAmount cancellationFee) := by
  refine (keeps_raiseIf _ _).bind fun _ => (keeps_raiseIf _ _).bind fun _ => ?_
  exact (keeps_forSome _ fun _ => keeps_checkCap).bind fun _ => keeps_pure _

/-- An approval keeps what has no bookings either; a refund that is not approved as loyalty points
leaves the bookings alone. -/
theorem Apart.approve (h : Apart g) {known : Known} {refund : Orm RefundRow}
    {refundMethod : String} {approvedAmount : ℚ} {notes actorId : Option String}
    (hbookings : RefundMethod.normalise refundMethod = .loyaltyPoints →
      ∀ d rows, g { d with bookings := rows } = g d) :
    Keeps g (approve known refund refundMethod approvedAmount notes actorId) := by
  refine Keeps.ite (keeps_pure _) ?_
  refine (keeps_raiseIf _ _).bind fun _ => (keeps_raiseIf _ _).bind fun _ => ?_
  refine keeps_paymentOf.bind fun _ => (keeps_forSome _ fun _ => keeps_checkCap).bind fun _ => ?_
  refine (keeps_ask _).bind fun _ => ?_
  by_cases hloyal : RefundMethod.normalise refundMethod = .loyaltyPoints
  · refine (keeps_bookingOf.ite (keeps_pure _)).bind fun _ => ?_
    refine (keeps_forSome _ fun _ => ?_).bind fun _ => h.flushRefund
    refine Keeps.map ?_ _
    exact (keeps_update _ fun d => hbookings hloyal d _).bind fun _ => keeps_pure _
  · simp only [hloyal, if_false]
    exact h.flushRefund

end Frames

/-! ## One step -/

/-- The refund `k` is replaced as `P` says, and the payments stay. -/
def Moved (d : Db) (k : Uuid) (P : RefundRow → RefundRow → Prop) (d' : Db) : Prop :=
  d'.payments = d.payments ∧ ∃ r r', Table.get d.refunds k = some r ∧ P r r' ∧
    Table.Replaces d.refunds k r' d'.refunds

/-- A refund of the booking and the payment is added, within the cap. -/
def RequestedRow (d : Db) (bid : Uuid) (pid : Option Uuid) (net fee : Fils) (refundMethod : String)
    (rows : List RefundRow) : Prop :=
  ∃ r, Table.get d.refunds r.id = none ∧ rows = d.refunds ++ [r] ∧ r.bookingId = some bid ∧
    r.paymentId = pid ∧ r.status = .requested ∧ r.refundMethod = refundMethod ∧
    r.refundedAmount = net ∧ r.cancellationFee = fee ∧ 0 < net ∧
    ∀ p q, pid = some p → Table.get d.payments p = some q →
      sumOf d p committedStatuses none + net ≤ q.totalAmount

/-- What a transition has done when it has changed the database. -/
def Changed (d : Db) (op : LifecycleOp) (d' : Db) : Prop :=
  match op with
  | .request bookingId paymentId refundAmount cancellationFee _ refundMethod _ _ _ _ =>
    d'.payments = d.payments ∧ d'.bookings = d.bookings ∧
      RequestedRow d bookingId paymentId (dec refundAmount) (dec cancellationFee) refundMethod
        d'.refunds
  | .updateRequestedAmounts refundId _ refundAmount cancellationFee =>
    d'.bookings = d.bookings ∧ Moved d refundId (fun r r' => r.status = .requested ∧
      0 < dec refundAmount ∧ r' = requestedColumns (dec refundAmount) (dec cancellationFee) r) d'
  | .reject refundId reason actorId =>
    d'.bookings = d.bookings ∧ Moved d refundId (fun r r' => r.status = .requested ∧
      ∃ now, r' = rejectedColumns reason actorId now r) d'
  | .approve refundId refundMethod approvedAmount notes actorId =>
    (RefundMethod.normalise refundMethod ≠ .loyaltyPoints → d'.bookings = d.bookings) ∧
      Moved d refundId (fun r r' => r.status = .requested ∧ 0 < dec approvedAmount ∧
        ∃ now, r' = approvedColumns (RefundMethod.normalise refundMethod) (dec approvedAmount) notes
          actorId now r) d'
  | .markProcessing refundId providerRefundId gatewayResponse actorId =>
    d'.bookings = d.bookings ∧ Moved d refundId (fun r r' =>
      (r.status = .requested ∨ r.status = .approved) ∧
      ∃ now, r' = processingColumns providerRefundId gatewayResponse actorId now r) d'
  | .complete refundId _ providerReference gatewayResponse _ _ =>
    ∃ r r', Table.get d.refunds refundId = some r ∧ r.status ∈ OPEN_STATUSES ∧
      (∃ now, r' = completedColumns now providerReference gatewayResponse r) ∧
      Table.Replaces d.refunds refundId r' d'.refunds ∧ CompletedIn d d' r
  | .fail refundId reason _ _ gatewayResponse _ =>
    ∃ r r', Table.get d.refunds refundId = some r ∧ r.status ≠ .failed ∧ r.status ≠ .cancelled ∧
      r' = failedColumns reason gatewayResponse r ∧
      Table.Replaces d.refunds refundId r' d'.refunds ∧ FailedIn d d' r

theorem apart_payments : Apart (Db.payments) := ⟨fun _ _ => rfl, fun _ _ => rfl⟩

theorem apart_bookings : Apart (Db.bookings) := ⟨fun _ _ => rfl, fun _ _ => rfl⟩

section Step

variable {d : Db}

/-- The transitions that take a refund to its end at the provider. -/
def Settles : LifecycleOp → Prop
  | .complete .. | .fail .. => True
  | _ => False

/-- What a step leaves alone, whatever it does to the refunds. -/
theorem Apart.step {O : Type} {g : Db → O} (h : Apart g) (op : LifecycleOp)
    (hsettles : ¬ Settles op)
    (hbookings : ∀ refundId refundMethod approvedAmount notes actorId,
      op = .approve refundId refundMethod approvedAmount notes actorId →
      RefundMethod.normalise refundMethod = .loyaltyPoints →
        ∀ d rows, g { d with bookings := rows } = g d) : Keeps g (lifecycleCode op) := by
  cases op with
  | request =>
    refine keeps_load.bind fun _ => keeps_loadPayment.bind fun _ => ?_
    exact h.request.map _
  | updateRequestedAmounts =>
    refine keeps_loadRefund.bind fun _ => keeps_loadPayment.bind fun _ => ?_
    exact keeps_updateRequestedAmounts.bind fun _ => h.flushRefund.map _
  | reject => exact keeps_loadRefund.bind fun _ => h.reject.map _
  | approve =>
    refine keeps_loadRefund.bind fun _ => Keeps.map ?_ _
    exact h.approve (hbookings _ _ _ _ _ rfl)
  | markProcessing => exact keeps_loadRefund.bind fun _ => h.markProcessing.map _
  | complete => exact absurd trivial hsettles
  | fail => exact absurd trivial hsettles

/-- A step on a loaded refund. -/
theorem step_of_loaded {f : Orm RefundRow → Tx Unit} {k : Uuid} {P : RefundRow → Db → Prop}
    (env : ℕ → Env)
    (h : ∀ r, Table.get d.refunds k = some r → Ensures (fun _ => True)
      (OnCommit (fun d' => d' = d ∨ P r d') d) (f (.ofRow r)) d []) :
    atomically env (loadRefund k >>= f) d = d ∨ ∃ r, Table.get d.refunds k = some r ∧
      P r (atomically env (loadRefund k >>= f) d) := by
  refine Ensures.atomically (Q := fun d' => d' = d ∨ ∃ r, Table.get d.refunds k = some r ∧
    P r d') ?_ env
  refine ensures_bind_loadRefund trivial (fun r hr => ?_) fun _ _ => .inl rfl
  refine (h r hr).mono (fun _ h => h) ?_
  rintro (e | _) d' es hd
  · exact .inl rfl
  · rcases hd with rfl | hP
    · exact .inl rfl
    · exact .inr ⟨r, hr, hP⟩

theorem key_of_loaded {k : Uuid} {r : RefundRow} (h : Table.get d.refunds k = some r) :
    (Orm.ofRow r).row.id = k := (Table.get_some h).2

theorem changed_reject (k : Uuid) (reason actorId : Option String) (env : ℕ → Env) :
    lifecycleStep d (.reject k reason actorId, env) = d ∨
      Changed d (.reject k reason actorId) (lifecycleStep d (.reject k reason actorId, env)) := by
  have hpay := (apart_payments.step (.reject k reason actorId) not_false
    fun _ _ _ _ _ h => (by cases h)).atomically env d
  have hbook := (apart_bookings.step (.reject k reason actorId) not_false
    fun _ _ _ _ _ h => (by cases h)).atomically env d
  have hrow := step_of_loaded (d := d) (k := k)
    (f := fun refund => discard (reject refund reason actorId))
    (P := fun r d' => r.status = .requested ∧ ∃ now, Table.Replaces d.refunds k
      (rejectedColumns reason actorId now r) d'.refunds) env fun r hr => by
    refine (ensures_reject trivial (inStep_ofRow hr)).bind ?_ fun _ _ _ _ => .inl rfl
    rintro o d' es ⟨-, ho⟩
    rcases ho o rfl with ⟨-, rfl, -⟩ | ⟨hreq, -, now, rfl, hrep⟩
    · exact .inl rfl
    · rw [key_of_loaded hr] at hrep
      exact .inr ⟨hreq, now, hrep⟩
  rcases hrow with h | ⟨r, hr, hreq, now, hrep⟩
  · exact .inl h
  · exact .inr ⟨hbook, hpay, r, _, hr, ⟨hreq, now, rfl⟩, hrep⟩

theorem changed_markProcessing (k : Uuid) (providerRefundId : Option String)
    (gatewayResponse : Option Json) (actorId : Option String) (env : ℕ → Env) :
    lifecycleStep d (.markProcessing k providerRefundId gatewayResponse actorId, env) = d ∨
      Changed d (.markProcessing k providerRefundId gatewayResponse actorId)
        (lifecycleStep d (.markProcessing k providerRefundId gatewayResponse actorId, env)) := by
  have hpay := (apart_payments.step
    (.markProcessing k providerRefundId gatewayResponse actorId) not_false
    fun _ _ _ _ _ h => (by cases h)).atomically env d
  have hbook := (apart_bookings.step
    (.markProcessing k providerRefundId gatewayResponse actorId) not_false
    fun _ _ _ _ _ h => (by cases h)).atomically env d
  have hrow := step_of_loaded (d := d) (k := k)
    (f := fun refund => discard
      (markProcessing {} refund providerRefundId gatewayResponse actorId))
    (P := fun r d' => (r.status = .requested ∨ r.status = .approved) ∧ ∃ now,
      Table.Replaces d.refunds k
        (processingColumns providerRefundId gatewayResponse actorId now r) d'.refunds) env
    fun r hr => by
    refine (ensures_markProcessing trivial (inStep_ofRow hr)).bind ?_ fun _ _ _ _ => .inl rfl
    rintro o d' es ⟨-, ho⟩
    rcases ho o rfl with ⟨-, rfl, -⟩ | ⟨hreq, -, now, rfl, hrep⟩
    · exact .inl rfl
    · rw [key_of_loaded hr] at hrep
      exact .inr ⟨hreq, now, hrep⟩
  rcases hrow with h | ⟨r, hr, hreq, now, hrep⟩
  · exact .inl h
  · exact .inr ⟨hbook, hpay, r, _, hr, ⟨hreq, now, rfl⟩, hrep⟩

theorem changed_approve (k : Uuid) (refundMethod : String) (approvedAmount : ℚ)
    (notes actorId : Option String) (env : ℕ → Env) :
    lifecycleStep d (.approve k refundMethod approvedAmount notes actorId, env) = d ∨
      Changed d (.approve k refundMethod approvedAmount notes actorId)
        (lifecycleStep d (.approve k refundMethod approvedAmount notes actorId, env)) := by
  have hpay := (apart_payments.step
    (.approve k refundMethod approvedAmount notes actorId) not_false
    fun _ _ _ _ _ _ _ _ _ => rfl).atomically env d
  have hbook : RefundMethod.normalise refundMethod ≠ .loyaltyPoints →
      (lifecycleStep d (.approve k refundMethod approvedAmount notes actorId, env)).bookings =
        d.bookings := fun hmoney =>
    (apart_bookings.step (.approve k refundMethod approvedAmount notes actorId) not_false
      fun _ _ _ _ _ h hl => by cases h; exact absurd hl hmoney).atomically env d
  have hrow := step_of_loaded (d := d) (k := k)
    (f := fun refund => discard (approve {} refund refundMethod approvedAmount notes actorId))
    (P := fun r d' => r.status = .requested ∧ 0 < dec approvedAmount ∧ ∃ now,
      Table.Replaces d.refunds k (approvedColumns (RefundMethod.normalise refundMethod)
        (dec approvedAmount) notes actorId now r) d'.refunds) env fun r hr => by
    refine (ensures_approve trivial (agrees_empty d) (inStep_ofRow hr)).bind ?_
      fun _ _ _ _ => .inl rfl
    rintro o d' es ⟨-, ho⟩
    rcases ho with ⟨-, -, rfl⟩ | ⟨hreq, hnet, -, -, now, rfl, -, hrep⟩
    · exact .inl rfl
    · rw [key_of_loaded hr] at hrep
      exact .inr ⟨hreq, hnet, now, hrep⟩
  rcases hrow with h | ⟨r, hr, hreq, hnet, now, hrep⟩
  · exact .inl h
  · exact .inr ⟨hbook, hpay, r, _, hr, ⟨hreq, hnet, now, rfl⟩, hrep⟩

theorem changed_updateRequestedAmounts (k : Uuid) (paymentId : Option Uuid)
    (refundAmount cancellationFee : ℚ) (env : ℕ → Env) :
    lifecycleStep d (.updateRequestedAmounts k paymentId refundAmount cancellationFee, env) = d ∨
      Changed d (.updateRequestedAmounts k paymentId refundAmount cancellationFee)
        (lifecycleStep d
          (.updateRequestedAmounts k paymentId refundAmount cancellationFee, env)) := by
  have hpay := (apart_payments.step
    (.updateRequestedAmounts k paymentId refundAmount cancellationFee) not_false
    fun _ _ _ _ _ h => (by cases h)).atomically env d
  have hbook := (apart_bookings.step
    (.updateRequestedAmounts k paymentId refundAmount cancellationFee) not_false
    fun _ _ _ _ _ h => (by cases h)).atomically env d
  have hrow := step_of_loaded (d := d) (k := k)
    (f := fun refund => do
      let payment ← loadPayment paymentId
      let refund ← updateRequestedAmounts refund payment refundAmount cancellationFee
      discard (flushRefund refund))
    (P := fun r d' => r.status = .requested ∧ 0 < dec refundAmount ∧
      Table.Replaces d.refunds k (requestedColumns (dec refundAmount) (dec cancellationFee) r)
        d'.refunds) env fun r hr => by
    have hrun : ∀ p : Option PaymentRow, Ensures (fun _ => True)
        (OnCommit (fun d' => d' = d ∨ r.status = .requested ∧ 0 < dec refundAmount ∧
          Table.Replaces d.refunds k (requestedColumns (dec refundAmount) (dec cancellationFee) r)
            d'.refunds) d)
        (do
          let refund ← updateRequestedAmounts (.ofRow r) p refundAmount cancellationFee
          discard (flushRefund refund)) d [] := by
      intro p
      refine (ensures_updateRequestedAmounts trivial).bind ?_ fun _ _ _ _ => .inl rfl
      rintro o d es ⟨rfl, rfl, hok, ho⟩
      obtain rfl := ho o rfl
      simp only [reduceCtorEq, exists_false, false_iff, not_or, not_not, not_le] at hok
      obtain ⟨hreq, hnet, -⟩ := hok
      have hs := (inStep_ofRow hr).set
        (f := requestedColumns (dec refundAmount) (dec cancellationFee)) fun _ => rfl
      refine (ensures_flushRefund trivial hs).bind ?_ fun _ _ _ _ => .inl rfl
      rintro o d' es' ⟨rfl, rfl, -, -, -, hrep, -⟩
      have hid : (requestedColumns (dec refundAmount) (dec cancellationFee) r).id = k :=
        (Table.get_some hr).2
      rw [Orm.set_row, Orm.ofRow_row, hid] at hrep
      exact .inr ⟨hreq, hnet, hrep⟩
    exact ensures_bind_loadPayment trivial (fun _ => hrun none) (fun q p _ _ => hrun (some p))
      fun _ _ _ _ => .inl rfl
  rcases hrow with h | ⟨r, hr, hreq, hnet, hrep⟩
  · exact .inl h
  · exact .inr ⟨hbook, hpay, r, _, hr, ⟨hreq, hnet, rfl⟩, hrep⟩

/-- A step on a loaded refund, which raises or returns. -/
theorem raised_or_loaded {f : Orm RefundRow → Tx Unit} {k : Uuid} {P : RefundRow → Db → Prop}
    (env : ℕ → Env)
    (h : ∀ r, Table.get d.refunds k = some r → Ensures (fun _ => True)
      (fun res d' _ => ∀ a, res = .ok a → P r d') (f (.ofRow r)) d []) :
    (¬ (exec env (loadRefund k >>= f) d).1.isOk ∧ atomically env (loadRefund k >>= f) d = d) ∨
      ∃ r, Table.get d.refunds k = some r ∧ P r (atomically env (loadRefund k >>= f) d) := by
  refine Ensures.raised_or (Q := fun d' => ∃ r, Table.get d.refunds k = some r ∧ P r d') ?_ env
  refine ensures_bind_loadRefund trivial (fun r hr => ?_) fun _ _ _ h => (by cases h)
  refine (h r hr).mono (fun _ h => h) ?_
  exact fun res d' _ hP a ha => ⟨r, hr, hP a ha⟩

/-- `complete` raises, or returns a completed refund, or completes an open one. -/
theorem complete_cases (k : Uuid) (source : String) (providerReference : Option String)
    (gatewayResponse : Option Json) (actorId : Option String) (publishEvent : Bool)
    (env : ℕ → Env) {x : LifecycleOp × (ℕ → Env)}
    (hx : x = (.complete k source providerReference gatewayResponse actorId publishEvent, env)) :
    (lifecycleStep d x = d ∧
      (Succeeds d x → ∃ r, Table.get d.refunds k = some r ∧ r.status = .completed)) ∨
      Changed d x.1 (lifecycleStep d x) := by
  subst hx
  have hrow := raised_or_loaded (d := d) (k := k)
    (f := fun refund => discard
      (complete {} refund source providerReference gatewayResponse actorId publishEvent))
    (P := fun r d' => (r.status = .completed ∧ d' = d) ∨ (r.status ∈ OPEN_STATUSES ∧
      CompletedIn d d' r ∧ ∃ now, Table.Replaces d.refunds k
        (completedColumns now providerReference gatewayResponse r) d'.refunds)) env fun r hr => by
    refine ((ensures_complete trivial (fun _ => trivial) (inStep_ofRow hr)).and
      (ensures_complete_done (inStep_ofRow hr))).bind ?_ fun _ _ _ _ _ h => (by cases h)
    rintro c d' es' ⟨⟨-, hc⟩, hdone⟩ _ _
    rcases hc c rfl with ⟨hcompleted, rfl, -⟩ | ⟨hopen, -, -, now, hrow, hrep⟩
    · exact .inl ⟨hcompleted, rfl⟩
    · have hne : (Orm.ofRow r).row.status ≠ .completed := fun h => by
        rw [h] at hopen
        exact absurd hopen (by decide)
      rw [hrow, key_of_loaded hr] at hrep
      exact .inr ⟨hopen, hdone c rfl hne, now, hrep⟩
  rcases hrow with ⟨hraised, h⟩ | ⟨r, hr, ⟨hcompleted, h⟩ | ⟨hopen, hdone, now, hrep⟩⟩
  · exact .inl ⟨h, fun hok => absurd hok hraised⟩
  · exact .inl ⟨h, fun _ => ⟨r, hr, hcompleted⟩⟩
  · exact .inr ⟨r, _, hr, hopen, ⟨now, rfl⟩, hrep, hdone⟩

/-- `fail` raises, or returns a failed or cancelled refund, or fails any other one. -/
theorem fail_cases (k : Uuid) (reason source : String) (providerReference : Option String)
    (gatewayResponse : Option Json) (actorId : Option String) (env : ℕ → Env)
    {x : LifecycleOp × (ℕ → Env)}
    (hx : x = (.fail k reason source providerReference gatewayResponse actorId, env)) :
    (lifecycleStep d x = d ∧ (Succeeds d x → ∃ r, Table.get d.refunds k = some r ∧
      (r.status = .failed ∨ r.status = .cancelled))) ∨ Changed d x.1 (lifecycleStep d x) := by
  subst hx
  have hrow := raised_or_loaded (d := d) (k := k)
    (f := fun refund => discard
      (fail {} refund reason source providerReference gatewayResponse actorId))
    (P := fun r d' => ((r.status = .failed ∨ r.status = .cancelled) ∧ d' = d) ∨
      (r.status ≠ .failed ∧ r.status ≠ .cancelled ∧ FailedIn d d' r ∧
        Table.Replaces d.refunds k (failedColumns reason gatewayResponse r) d'.refunds)) env
    fun r hr => by
    refine ((ensures_fail trivial (inStep_ofRow hr)).and
      (ensures_fail_done (inStep_ofRow hr))).bind ?_ fun _ _ _ _ _ h => (by cases h)
    rintro o d' es' ⟨⟨-, ho⟩, hfailed⟩ _ _
    rcases ho o rfl with ⟨hdone, rfl, -⟩ | ⟨hopen, -, rfl, hrep⟩
    · exact .inl ⟨hdone, rfl⟩
    · obtain ⟨hne, hne'⟩ := not_or.mp hopen
      rw [key_of_loaded hr] at hrep
      exact .inr ⟨hne, hne', hfailed _ rfl hopen, hrep⟩
  rcases hrow with ⟨hraised, h⟩ | ⟨r, hr, ⟨hdone, h⟩ | ⟨hne, hne', hdone, hrep⟩⟩
  · exact .inl ⟨h, fun hok => absurd hok hraised⟩
  · exact .inl ⟨h, fun _ => ⟨r, hr, hdone⟩⟩
  · exact .inr ⟨r, _, hr, hne, hne', rfl, hrep, hdone⟩

theorem changed_request (bookingId : Uuid) (paymentId : Option Uuid)
    (refundAmount cancellationFee : ℚ) (refundType refundMethod : String)
    (reason notes idempotencyKey actorId : Option String) (env : ℕ → Env) :
    lifecycleStep d (.request bookingId paymentId refundAmount cancellationFee refundType
      refundMethod reason notes idempotencyKey actorId, env) = d ∨
      Changed d (.request bookingId paymentId refundAmount cancellationFee refundType refundMethod
        reason notes idempotencyKey actorId)
        (lifecycleStep d (.request bookingId paymentId refundAmount cancellationFee refundType
          refundMethod reason notes idempotencyKey actorId, env)) := by
  have hpay := (apart_payments.step (.request bookingId paymentId refundAmount cancellationFee
    refundType refundMethod reason notes idempotencyKey actorId) not_false
    fun _ _ _ _ _ h => (by cases h)).atomically env d
  have hbook := (apart_bookings.step (.request bookingId paymentId refundAmount
    cancellationFee refundType refundMethod reason notes idempotencyKey actorId) not_false
    fun _ _ _ _ _ h => (by cases h)).atomically env d
  have hcode : Ensures (fun _ => True) (OnCommit (fun d' => d' = d ∨ RequestedRow d bookingId paymentId
      (dec refundAmount) (dec cancellationFee) refundMethod d'.refunds) d)
      (lifecycleCode (.request bookingId paymentId refundAmount cancellationFee refundType
        refundMethod reason notes idempotencyKey actorId)) d [] := by
    unfold lifecycleCode load
    rw [ensures_bind, ensures_bind_query]
    refine ⟨trivial, ?_⟩
    cases hb : Table.get d.bookings bookingId with
    | none => exact .inl rfl
    | some booking =>
      have hbid : booking.id = bookingId := (Table.get_some hb).2
      refine ensures_bind_loadPayment trivial (fun hnone => ?_) (fun q p hq hp => ?_)
        fun _ _ _ _ => .inl rfl
      · refine (ensures_request trivial).bind ?_ fun _ _ _ _ => .inl rfl
        rintro ⟨o, created⟩ d' es' ⟨-, ho⟩
        rcases ho o created rfl with
          ⟨rfl, -⟩ | ⟨-, hnet, -, -, id, number, now, rfl, hrows, hnew, -⟩
        · exact .inl rfl
        · exact .inr ⟨_, hnew, hrows, congrArg some hbid, hnone.symm, rfl, rfl, rfl, rfl, hnet,
            fun p _ hp => (by rw [hnone] at hp; cases hp)⟩
      · have hpid : p.id = q := (Table.get_some hp).2
        refine (ensures_request trivial).bind ?_ fun _ _ _ _ => .inl rfl
        rintro ⟨o, created⟩ d' es' ⟨-, ho⟩
        rcases ho o created rfl with
          ⟨rfl, -⟩ | ⟨-, hnet, hcap, -, id, number, now, rfl, hrows, hnew, -⟩
        · exact .inl rfl
        · refine .inr ⟨_, hnew, hrows, congrArg some hbid, ?_, rfl, rfl, rfl, rfl, hnet, ?_⟩
          · rw [hq, ← hpid]
            rfl
          · intro p' q' hp' hq'
            obtain rfl : q = p' := Option.some.inj (hq.symm.trans hp')
            obtain rfl : p = q' := Option.some.inj (hp.symm.trans hq')
            have hle := hcap p rfl
            rw [exceeds_iff, not_lt, hpid] at hle
            exact hle
  rcases hcode.atomically env with h | h
  · exact .inl h
  · exact .inr ⟨hpay, hbook, h⟩

/-- A step changes nothing, or it changes what its transition changes. -/
theorem changed_of_step (d : Db) (x : LifecycleOp × (ℕ → Env)) :
    lifecycleStep d x = d ∨ Changed d x.1 (lifecycleStep d x) := by
  obtain ⟨op, env⟩ := x
  cases op with
  | request => exact changed_request ..
  | updateRequestedAmounts => exact changed_updateRequestedAmounts ..
  | reject => exact changed_reject ..
  | approve => exact changed_approve ..
  | markProcessing => exact changed_markProcessing ..
  | complete => exact (complete_cases _ _ _ _ _ _ _ rfl).imp_left And.left
  | fail => exact (fail_cases _ _ _ _ _ _ _ rfl).imp_left And.left

end Step

/-! ## Keys -/

section Keys

variable {d d' : Db} {r : RefundRow}

/-- The keys of refunds and payments. -/
structure UniqueIds (d : Db) : Prop where
  refunds : Table.Unique d.refunds
  payments : Table.Unique d.payments

theorem completedIn_unique (h : CompletedIn d d' r) (hu : Table.Unique d.payments) :
    Table.Unique d'.payments := by
  cases hp : paymentFor d r with
  | none =>
    rw [h.payment.absent hp]
    exact hu
  | some p =>
    by_cases hloyal : isLoyalty r.refundMethod = true
    · rw [h.payment.points hloyal]
      exact hu
    · obtain ⟨-, a, hrep⟩ := h.payment.money p hp hloyal
      exact hrep.unique hu

theorem failedIn_unique (h : FailedIn d d' r) (hu : Table.Unique d.payments) :
    Table.Unique d'.payments := by
  cases hp : paymentFor d r with
  | none =>
    rw [h.payment.absent hp]
    exact hu
  | some p =>
    obtain ⟨a, hrep⟩ := h.payment.present p hp
    exact hrep.unique hu

theorem UniqueIds.moved {k : Uuid} {P : RefundRow → RefundRow → Prop} (h : UniqueIds d)
    (hm : Moved d k P d') : UniqueIds d' := by
  obtain ⟨hpay, r, r', -, -, hrep⟩ := hm
  exact ⟨hrep.unique h.refunds, hpay ▸ h.payments⟩

theorem UniqueIds.lifecycle (h : UniqueIds d) (x : LifecycleOp × (ℕ → Env)) :
    UniqueIds (lifecycleStep d x) := by
  rcases changed_of_step d x with hsame | hchanged
  · rw [hsame]
    exact h
  obtain ⟨op, env⟩ := x
  cases op with
  | request =>
    obtain ⟨hpay, -, r, hnew, hrows, -⟩ := hchanged
    exact ⟨hrows ▸ Table.Unique.append h.refunds hnew, hpay ▸ h.payments⟩
  | updateRequestedAmounts => exact h.moved hchanged.2
  | reject => exact h.moved hchanged.2
  | approve => exact h.moved hchanged.2
  | markProcessing => exact h.moved hchanged.2
  | complete =>
    obtain ⟨r, r', -, -, -, hrep, hdone⟩ := hchanged
    exact ⟨hrep.unique h.refunds, completedIn_unique hdone h.payments⟩
  | fail =>
    obtain ⟨r, r', -, -, -, -, hrep, hdone⟩ := hchanged
    exact ⟨hrep.unique h.refunds, failedIn_unique hdone h.payments⟩

end Keys

end Payment
