import UshBookNPay.Payment.BookingStatusRuns
import UshBookNPay.Payment.Proofs.StatusSummaryProofs

/-!
# The status of a booking whose payment is refunded

`complete` is the only transition that writes the status of a booking. It writes the same status
whatever the booking was and however much is refunded.
-/

open Transactions (Prog Ensures Keeps)
open Transactions
open Booking (validTransitions nonBlockingBookingStatuses)

namespace Payment

variable {d d' : Db} {pid bid : Uuid} {r : RefundRow} {es : List Emission}

/-! ## The transitions that leave the status alone -/

def bookingStatus (bid : Uuid) (d : Db) : Option Booking.BookingStatus :=
  (Table.get d.bookings bid).map (·.status)

theorem bookingStatus_congr (h : d'.bookings = d.bookings) :
    bookingStatus bid d' = bookingStatus bid d := by
  unfold bookingStatus
  rw [h]

theorem keeps_status_flushBooking {o : Orm BookingRow} (hid : ∀ r, (o.changes r).id = r.id)
    (hstatus : ∀ r, (o.changes r).status = r.status) :
    Keeps (bookingStatus bid) (flushBooking o) := by
  unfold flushBooking
  refine (keeps_update _ fun d => ?_).bind fun _ => keeps_pure _
  generalize o.row.attribution = a
  have hkey : ∀ r, Table.Keyed.key ((o.changes r).setAttribution a) = Table.Keyed.key r := hid
  unfold bookingStatus
  by_cases hk : bid = o.row.id
  · subst hk
    rw [Table.get_modify_self (f := fun r => (o.changes r).setAttribution a) hkey]
    cases Table.get d.bookings o.row.id with
    | none => rfl
    | some b => exact congrArg some (hstatus b)
  · rw [Table.get_modify_of_ne (f := fun r => (o.changes r).setAttribution a) hkey hk]

/-- An approval writes the payment status of the booking at most. -/
theorem approve_bookingStatus (bid : Uuid) {refund : Orm RefundRow} {refundMethod : String} {approvedAmount : ℚ}
    {notes actorId : Option String} :
    Ensures (fun _ => True)
      (fun r d' _ => ∀ x, r = .ok x → bookingStatus bid d' = bookingStatus bid d)
      (approve {} refund refundMethod approvedAmount notes actorId) d es := by
  unfold approve
  split_ifs
  · exact fun _ _ => rfl
  refine ensures_bind_keeps (g := bookingStatus bid) (keeps_raiseIf _ _) fun _ d₁ _ h₁ => ?_
  refine ensures_bind_keeps (g := bookingStatus bid) (keeps_raiseIf _ _) fun _ d₂ _ h₂ => ?_
  refine ensures_bind_keeps (g := bookingStatus bid) keeps_paymentOf fun payment d₃ _ h₃ => ?_
  refine ensures_bind_keeps (g := bookingStatus bid) (keeps_forSome _ fun _ => keeps_checkCap)
    fun _ d₄ _ h₄ => ?_
  refine ensures_bind_keeps (g := bookingStatus bid) (keeps_ask _) fun now d₅ _ h₅ => ?_
  refine (ensures_ite_bookingOf trivial).bind_returns ?_
  rintro booking d₅ _ ⟨rfl, rfl, hchanges⟩
  have hbefore : bookingStatus bid d₅ = bookingStatus bid d :=
    h₅.trans (h₄.trans (h₃.trans (h₂.trans h₁)))
  rw [← hbefore]
  have hwritten : Keeps (bookingStatus bid) (Prog.forSome booking fun b =>
      discard (flushBooking (b.set (·.setPaymentStatus .refundedWithPoints)))) := by
    cases booking with
    | none => exact keeps_pure _
    | some b =>
      have hb := hchanges b rfl
      refine (keeps_status_flushBooking (fun r => ?_) fun r => ?_).map _
      · rw [Orm.set_changes, hb]
        rfl
      · rw [Orm.set_changes, hb]
        rfl
  refine ensures_bind_keeps hwritten fun _ d₆ _ h₆ => ?_
  refine ensures_keeps (g := bookingStatus bid) ?_ fun _ h => h.trans h₆
  unfold flushRefund
  refine (keeps_checkedUpdate _ _ fun d => ?_).bind fun _ => keeps_pure _
  rfl

/-! ## What a step does to the status -/

theorem approve_step_bookingStatus (k : Uuid) (refundMethod : String) (approvedAmount : ℚ)
    (notes actorId : Option String) (env : ℕ → Env) :
    bookingStatus bid (lifecycleStep d (.approve k refundMethod approvedAmount notes actorId, env)) =
      bookingStatus bid d := by
  refine Ensures.atomically (Q := fun d' => bookingStatus bid d' = bookingStatus bid d) ?_ env
  refine ensures_bind_loadRefund trivial (fun r _ => ?_) fun _ _ => rfl
  refine (approve_bookingStatus bid).bind ?_ fun _ _ _ _ => rfl
  exact fun o d' es' h => h o rfl

theorem statusLawful_of_status (h : bookingStatus bid d' = bookingStatus bid d) :
    StatusLawful pid bid d d' := by
  have hsame : ∀ b b', Table.get d.bookings bid = some b → Table.get d'.bookings bid = some b' →
      b'.status = b.status := by
    intro b b' hb hb'
    unfold bookingStatus at h
    rw [hb, hb'] at h
    exact Option.some.inj h
  constructor
  · exact fun b b' hb hb' => .inl (hsame b b' hb hb')
  · intro b b' hb hb' hslot hfree
    rw [hsame b b' hb hb'] at hfree
    exact absurd hfree hslot

theorem fail_bookingStatus (h : FailedIn d d' r) : bookingStatus bid d' = bookingStatus bid d := by
  by_cases hopen : r.status = .completed
  swap
  · exact bookingStatus_congr (h.booking.open_ hopen)
  cases hb : bookingFor d r with
  | none => exact bookingStatus_congr (h.booking.absent (.inl hb))
  | some b =>
    cases hp : paymentFor d r with
    | none => exact bookingStatus_congr (h.booking.absent (.inr hp))
    | some p =>
      obtain ⟨a, hrep⟩ := h.booking.present b p hb hp hopen
      unfold bookingStatus
      by_cases hk : bid = b.id
      · rw [hk, hrep.1, (bookingFor_eq_some hb).2]
        rfl
      · rw [hrep.get_of_ne hk]

/-! ## The completion of a refund of the booking -/

/-- The booking gives up its time slot. -/
theorem completedStatus_nonBlocking (r : RefundRow) (b : BookingRow) :
    completedStatus r b ∈ nonBlockingBookingStatuses := by
  unfold completedStatus completedBooking
  cases isLoyalty r.refundMethod
  · by_cases hcancelled : b.status = .cancelled
    · simp [hcancelled, nonBlockingBookingStatuses]
    · simp [hcancelled, nonBlockingBookingStatuses]
  · simp [nonBlockingBookingStatuses]

/-- The completed refund writes the status of its booking, whether or not the payment is refunded in
full. -/
theorem CompletedIn.booking_of (h : CompletedIn d d' r) (hpay : (paymentFor d r).isSome)
    {b : BookingRow} (hb : bookingFor d r = some b) :
    ∃ b', Table.get d'.bookings b.id = some b' ∧ b'.status = completedStatus r b := by
  unfold completedStatus
  by_cases hloyal : isLoyalty r.refundMethod = true
  · obtain ⟨a, hrep⟩ := h.booking.points b hb hloyal
    rw [hloyal]
    exact ⟨_, hrep.1, rfl⟩
  · obtain ⟨p, hp⟩ := Option.isSome_iff_exists.mp hpay
    obtain ⟨a, hrep⟩ := h.booking.money b p hb hp hloyal
    have hmoney : isLoyalty r.refundMethod = false := by simpa using hloyal
    rw [hmoney]
    exact ⟨_, hrep.1, rfl⟩

/-- The other bookings stay. -/
theorem CompletedIn.booking_other (h : CompletedIn d d' r) (hbid : r.bookingId ≠ some bid) :
    bookingStatus bid d' = bookingStatus bid d := by
  cases hb : bookingFor d r with
  | none => exact bookingStatus_congr (h.booking.absent hb)
  | some b =>
    have hne : bid ≠ b.id := fun he => hbid (he ▸ (bookingFor_eq_some hb).1)
    obtain ⟨b', hrep⟩ := h.booking.written b hb
    unfold bookingStatus
    rw [hrep.get_of_ne hne]

/-- The completed refunds of the payment, with the one that is completed. -/
theorem sumOf_completing {k : Uuid} {r' : RefundRow} (hu : Table.Unique d.refunds)
    (hrep : Table.Replaces d.refunds k r' d'.refunds) (hpid : r'.paymentId = some pid)
    (hstatus : r'.status = .completed) :
    sumOf d' pid [.completed] none = sumOf d pid [.completed] (some k) + r'.refundedAmount := by
  have hshare : completedShare pid r' = r'.refundedAmount := if_pos ⟨hpid, hstatus⟩
  have hothers : sumOf d pid [.completed] (some k) =
      Table.total (completedShare pid) (Table.erase d.refunds k) := by
    unfold sumOf Table.erase
    rw [total_filter_eq, total_filter_eq]
    refine Table.total_congr fun x _ => ?_
    have hkey : Table.Keyed.key x = x.id := rfl
    by_cases hk : x.id = k
    · simp [hkey, hk]
    · simp [hkey, hk, completedShare]
  rw [sumOf_completed, hrep.total hu, hshare, hothers]

theorem refundedUpToFee_iff {k : Uuid} {r' : RefundRow} {p : PaymentRow} (hu : UniqueIds d)
    (hr : Table.get d.refunds k = some r) (hopen : r.status ∈ OPEN_STATUSES)
    (hrep : Table.Replaces d.refunds k r' d'.refunds)
    (hcols : ∃ now ref res, r' = completedColumns now ref res r) (hin : CompletedIn d d' r)
    (hpid : r.paymentId = some pid) (hp : Table.get d.payments pid = some p) :
    RefundedUpToFee pid d' ↔ Covers (amountAfter d p r) (p.totalAmount - largestFee d pid none) := by
  obtain ⟨now, ref, res, rfl⟩ := hcols
  have hcommitted : r.status ∈ committedStatuses := List.mem_cons_of_mem _ hopen
  have hfee : largestFee d' pid none = largestFee d pid none := by
    refine largestFee_completed hu.refunds hr hrep ⟨?_, ?_⟩ rfl
    · rintro ⟨hp, -, hne⟩
      exact ⟨hp, hcommitted, hne⟩
    · rintro ⟨hp, -, hne⟩
      exact ⟨hp, List.mem_cons_self, hne⟩
  have hid : r.id = k := (Table.get_some hr).2
  have hpayId : p.id = pid := (Table.get_some hp).2
  have hfor : paymentFor d r = some p := by
    unfold paymentFor
    rw [hpid, Option.bind_some, hp]
  unfold RefundedUpToFee amountAfter
  rw [hfee]
  by_cases hloyal : isLoyalty r.refundMethod = true
  · rw [if_pos hloyal, hin.payment.points hloyal, hp]
    simp
  · obtain ⟨-, a, hpay⟩ := hin.payment.money p hfor hloyal
    rw [if_neg hloyal, hid]
    rw [hpayId] at hpay
    have htotal : completeTotal d' p r = max (sumOf d p.id [.completed] (some k) + r.refundedAmount)
        (p.amountRefunded + r.refundedAmount) := by
      unfold completeTotal
      rw [hpayId, sumOf_completing hu.refunds hrep hpid rfl]
      rfl
    rw [htotal] at hpay
    rw [hpay.1]
    simp only [Option.some.injEq, exists_eq_left', PaymentRow.setAttribution_amountRefunded,
      PaymentRow.setAttribution_totalAmount]
    rfl

/-- The completion of a refund of the booking is lawful exactly when it follows the table and refunds
the payment of a booking with a time slot up to the fee. -/
theorem statusLawful_completed_iff {k : Uuid} {r' : RefundRow} (hu : UniqueIds d)
    (hr : Table.get d.refunds k = some r) (hopen : r.status ∈ OPEN_STATUSES)
    (hrep : Table.Replaces d.refunds k r' d'.refunds)
    (hcols : ∃ now ref res, r' = completedColumns now ref res r) (hin : CompletedIn d d' r)
    (hpid : r.paymentId = some pid) (hpay : (Table.get d.payments pid).isSome)
    (hbid : r.bookingId = some bid) :
    StatusLawful pid bid d d' ↔ CompletesLawfully pid bid d r := by
  obtain ⟨p, hp⟩ := Option.isSome_iff_exists.mp hpay
  have hfor : (paymentFor d r).isSome := by
    unfold paymentFor
    rw [hpid, Option.bind_some]
    exact hpay
  have hafter : ∀ b, Table.get d.bookings bid = some b →
      ∃ b', Table.get d'.bookings bid = some b' ∧ b'.status = completedStatus r b := by
    intro b hb
    have hbook : bookingFor d r = some b := by
      unfold bookingFor
      rw [hbid, Option.bind_some, hb]
    have hid : b.id = bid := (Table.get_some hb).2
    rw [← hid]
    exact hin.booking_of hfor hbook
  have hfee := refundedUpToFee_iff hu hr hopen hrep hcols hin hpid hp
  constructor
  · intro h b hb q hq
    obtain rfl : p = q := Option.some.inj (hp.symm.trans hq)
    obtain ⟨b', hb', hstatus⟩ := hafter b hb
    rw [← hfee, ← hstatus]
    refine ⟨h.table b b' hb hb', fun hslot => h.slot b b' hb hb' hslot ?_⟩
    rw [hstatus]
    exact completedStatus_nonBlocking r b
  · intro h
    have hboth : ∀ b b', Table.get d.bookings bid = some b → Table.get d'.bookings bid = some b' →
        b'.status = completedStatus r b := by
      intro b b' hb hb'
      obtain ⟨c, hc, hstatus⟩ := hafter b hb
      obtain rfl : c = b' := Option.some.inj (hc.symm.trans hb')
      exact hstatus
    constructor
    · intro b b' hb hb'
      rw [hboth b b' hb hb']
      exact (h b hb p hp).1
    · intro b b' hb hb' hslot _
      exact hfee.mpr ((h b hb p hp).2 hslot)

/-! ## One step -/

/-- The payment stays there. -/
theorem payment_there_step (hpay : (Table.get d.payments pid).isSome)
    (x : LifecycleOp × (ℕ → Env)) :
    (Table.get (lifecycleStep d x).payments pid).isSome := by
  rcases changed_of_step d x with hsame | hchanged
  · rw [hsame]
    exact hpay
  have hcompleted : ∀ {r : RefundRow}, CompletedIn d (lifecycleStep d x) r →
      (Table.get (lifecycleStep d x).payments pid).isSome := by
    intro r hin
    cases hfor : paymentFor d r with
    | none => rwa [hin.payment.absent hfor]
    | some p =>
      by_cases hloyal : isLoyalty r.refundMethod = true
      · rwa [hin.payment.points hloyal]
      · obtain ⟨-, a, hrep⟩ := hin.payment.money p hfor hloyal
        by_cases hk : pid = p.id
        · rw [hk, hrep.1]
          rfl
        · rwa [hrep.get_of_ne hk]
  have hfailed : ∀ {r : RefundRow}, FailedIn d (lifecycleStep d x) r →
      (Table.get (lifecycleStep d x).payments pid).isSome := by
    intro r hin
    cases hfor : paymentFor d r with
    | none => rwa [hin.payment.absent hfor]
    | some p =>
      obtain ⟨a, hrep⟩ := hin.payment.present p hfor
      by_cases hk : pid = p.id
      · rw [hk, hrep.1]
        rfl
      · rwa [hrep.get_of_ne hk]
  obtain ⟨op, env⟩ := x
  cases op with
  | request => rwa [hchanged.1]
  | updateRequestedAmounts => rwa [hchanged.2.1]
  | reject => rwa [hchanged.2.1]
  | approve => rwa [hchanged.2.1]
  | markProcessing => rwa [hchanged.2.1]
  | complete =>
    obtain ⟨r, r', -, -, -, -, hin⟩ := hchanged
    exact hcompleted hin
  | fail =>
    obtain ⟨r, r', -, -, -, -, -, hin⟩ := hchanged
    exact hfailed hin

theorem statusLawful_step_iff (hu : UniqueIds d) (hpay : (Table.get d.payments pid).isSome)
    {x : LifecycleOp × (ℕ → Env)} (hok : Succeeds d x ∧ OfCompletion bid (OnPayment pid) d x) :
    StatusLawful pid bid d (lifecycleStep d x) ↔
      OfCompletion bid (CompletesLawfully pid bid) d x := by
  obtain ⟨hsucceeds, hours⟩ := hok
  obtain ⟨op, env⟩ := x
  have hkept : bookingStatus bid (lifecycleStep d (op, env)) = bookingStatus bid d →
      OfCompletion bid (CompletesLawfully pid bid) d (op, env) →
      (StatusLawful pid bid d (lifecycleStep d (op, env)) ↔
        OfCompletion bid (CompletesLawfully pid bid) d (op, env)) :=
    fun h hlawful => ⟨fun _ => hlawful, fun _ => statusLawful_of_status h⟩
  have hframe : (Changed d op (lifecycleStep d (op, env)) →
      (lifecycleStep d (op, env)).bookings = d.bookings) →
      bookingStatus bid (lifecycleStep d (op, env)) = bookingStatus bid d := by
    intro h
    rcases changed_of_step d (op, env) with hsame | hchanged
    · rw [hsame]
    · exact bookingStatus_congr (h hchanged)
  cases op with
  | complete k source providerReference gatewayResponse actorId publishEvent =>
    rcases complete_cases (d := d) k source providerReference gatewayResponse actorId publishEvent
      env rfl with ⟨hsame, hdone⟩ | hchanged
    · refine hkept (by rw [hsame]) fun r hr _ hopen => ?_
      obtain ⟨r', hr', hcompleted⟩ := hdone hsucceeds
      obtain rfl : r = r' := Option.some.inj (hr.symm.trans hr')
      rw [hcompleted] at hopen
      exact absurd hopen (by decide)
    · obtain ⟨r, r', hr, hopen, ⟨now, hcols⟩, hrep, hin⟩ := hchanged
      by_cases hbid : r.bookingId = some bid
      · rw [statusLawful_completed_iff hu hr hopen hrep ⟨now, _, _, hcols⟩ hin
          (hours r hr hbid hopen) hpay hbid]
        constructor
        · intro h q hq _ _
          obtain rfl : r = q := Option.some.inj (hr.symm.trans hq)
          exact h
        · exact fun h => h r hr hbid hopen
      · refine hkept (hin.booking_other hbid) fun q hq hqbid _ => ?_
        obtain rfl : r = q := Option.some.inj (hr.symm.trans hq)
        exact absurd hqbid hbid
  | fail =>
    refine hkept ?_ trivial
    rcases changed_of_step d (.fail .., env) with hsame | hchanged
    · rw [hsame]
    · obtain ⟨r, r', -, -, -, -, -, hin⟩ := hchanged
      exact fail_bookingStatus hin
  | approve => exact hkept (approve_step_bookingStatus ..) trivial
  | request => exact hkept (hframe fun h => h.2.1) trivial
  | updateRequestedAmounts => exact hkept (hframe fun h => h.1) trivial
  | reject => exact hkept (hframe fun h => h.1) trivial
  | markProcessing => exact hkept (hframe fun h => h.1) trivial

/-- The booking 7, confirmed and paid with 10.000. -/
def confirmedBooking (status : Booking.BookingStatus) : Db :=
  { paidBooking with bookings := paidBooking.bookings.map fun b => { b with status := status } }

/-- The refund of an amount is requested and approved in cash. -/
def approvedInCash (amount : ℚ) : List (LifecycleOp × (ℕ → Env)) :=
  [(.request 7 (some 1) amount 0 "manual" "other" none none none none, answers),
    (.approve 21 "cash" amount none none, answers)]

def completion : LifecycleOp × (ℕ → Env) :=
  (.complete 21 "ushdesk_manual_refund" none none none false, answers)

theorem StatusLawful.of_status (h : StatusLawful pid bid d d') {s t : Booking.BookingStatus}
    (hs : bookingStatus bid d = some s) (ht : bookingStatus bid d' = some t) :
    (t = s ∨ t ∈ validTransitions s) ∧
      (s ∉ nonBlockingBookingStatuses → t ∈ nonBlockingBookingStatuses → RefundedUpToFee pid d') := by
  obtain ⟨b, hb, rfl⟩ := Option.map_eq_some_iff.mp hs
  obtain ⟨b', hb', rfl⟩ := Option.map_eq_some_iff.mp ht
  exact ⟨h.table b b' hb hb', h.slot b b' hb hb'⟩

end Payment
