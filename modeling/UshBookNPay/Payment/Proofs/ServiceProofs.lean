import UshBookNPay.Payment.Proofs.TransitionProofs
import UshBookNPay.Payment.RefundCharges

/-!
# What the steps of the refund workflows do

Specifications of the pieces `RefundService` is made of: its lookups change nothing, a provider call
adds one emission where it is accepted, and a loyalty credit adds one transaction.
-/

open Transactions (Prog Ensures)
open Transactions

namespace Payment

/-! ## Emissions -/

theorem callsFor_append (k : Uuid) (es es' : List Emission) :
    callsFor k (es ++ es') = callsFor k es + callsFor k es' := by
  simp [callsFor, acceptedCalls]

theorem acceptedCalls_append_void {es es' : List Emission} (h : es'.all Emission.void) :
    acceptedCalls (es ++ es') = acceptedCalls es := by
  have hnil : acceptedCalls es' = [] := by
    unfold acceptedCalls
    rw [List.filterMap_eq_nil_iff]
    intro e he
    have := List.all_eq_true.mp h e he
    simpa [Emission.void] using this
  unfold acceptedCalls at hnil ⊢
  rw [List.filterMap_append, hnil, List.append_nil]

theorem OneEvent.acceptedCalls {es es' : List Emission} (h : OneEvent es es') :
    acceptedCalls es' = Payment.acceptedCalls es := by
  rcases h with rfl | ⟨ev, rfl⟩
  · rfl
  · exact acceptedCalls_append_void rfl

variable {mid : List Emission → Prop} {d : Db} {es : List Emission}

/-! ## Lookups -/

theorem mem_of_namedPayment {ref : Option PaymentRef} {x : PaymentRow}
    (h : namedPayment d ref = some x) : ∃ r, ref = some r ∧ x ∈ paymentsOf r d := by
  obtain ⟨r, rfl, hr⟩ := Option.bind_eq_some_iff.mp h
  split_ifs at hr
  exact ⟨r, rfl, List.mem_of_head? hr⟩

theorem ensures_findPayment {ref : Option PaymentRef} (hmid : mid es) :
    Ensures mid (Reads d es fun p => p = namedPayment d ref) (findPayment ref) d es := by
  unfold findPayment
  cases ref with
  | none => exact ⟨rfl, rfl, fun a h => (Except.ok.inj h).symm⟩
  | some ref =>
    dsimp only
    rw [ensures_bind_query]
    refine ⟨hmid, ?_⟩
    have hnamed : namedPayment d (some ref) =
        (if ref = .text "" then [] else paymentsOf ref d).head? := by
      unfold namedPayment
      rw [Option.bind_some]
      split_ifs <;> rfl
    rw [hnamed]
    exact ensures_scalarOneOrNone _

theorem ensures_getPaymentForBooking {booking : BookingRow} (hmid : mid es) :
    Ensures mid (Reads d es fun p => p = bookingPayment d booking)
      (getPaymentForBooking booking) d es := by
  unfold getPaymentForBooking bookingPayment
  rw [ensures_bind_query]
  refine ⟨hmid, ?_⟩
  cases bestPayment (d.payments.filter (·.bookingId = some booking.id)) with
  | some p => exact ⟨rfl, rfl, fun a h => (Except.ok.inj h).symm⟩
  | none => exact ensures_findPayment hmid

theorem ensures_loadRefunds {payment : Option PaymentRow} (hmid : mid es) :
    Ensures mid (Reads d es fun rows => ∀ r ∈ rows, r ∈ d.refunds) (loadRefunds payment) d es := by
  unfold loadRefunds
  cases payment with
  | none => exact ⟨rfl, rfl, fun a h r hr => by cases h; cases hr⟩
  | some p =>
    rw [ensures_query]
    exact ⟨hmid, rfl, rfl, fun a h r hr => by cases h; exact (List.mem_filter.mp hr).1⟩

theorem ensures_bookingOfRefund {refund : RefundRow} (hmid : mid es) :
    Ensures mid (Reads d es fun b => b = refund.bookingId.bind (Table.get d.bookings))
      (bookingOfRefund refund) d es := by
  unfold bookingOfRefund
  cases refund.bookingId with
  | none => exact ⟨rfl, rfl, fun a h => (Except.ok.inj h).symm⟩
  | some bid =>
    refine (ensures_map _ _ _ _).mpr ((ensures_load hmid).mono (fun _ h => h) ?_)
    rintro (e | b) d' es' ⟨rfl, rfl, hb⟩
    · exact ⟨rfl, rfl, fun _ h => nomatch h⟩
    · exact ⟨rfl, rfl, fun a h => (Except.ok.inj h).symm.trans (hb b rfl).symm⟩

theorem ensures_paymentOfBooking {booking : Option BookingRow} (hmid : mid es) :
    Ensures mid (Reads d es fun p => p = booking.bind (bookingPayment d))
      (paymentOfBooking booking) d es := by
  unfold paymentOfBooking
  cases booking with
  | none => exact ⟨rfl, rfl, fun a h => (Except.ok.inj h).symm⟩
  | some b => exact ensures_getPaymentForBooking hmid

/-! ## The provider -/

/-- A call is emitted exactly when the provider has accepted it. -/
theorem ensures_refundPayment {payment : PaymentRow} {ref : String} {refund : RefundRow}
    (hmid : mid es) (hmid' : mid (es ++ [refundCall payment ref refund])) :
    Ensures mid (fun r d' es' => d' = d ∧ ∃ res, r = .ok res ∧
        ((es' = es ∧ ∀ x, res = .ok x → ¬ x.isSuccessful) ∨
          (es' = es ++ [refundCall payment ref refund] ∧ ∃ x, res = .ok x ∧ x.isSuccessful)))
      (refundPayment payment ref refund) d es := by
  unfold refundPayment
  rw [ensures_call]
  intro a
  cases ha : a.refund with
  | error e =>
    rw [emitted, List.append_nil]
    exact ⟨hmid, rfl, _, rfl, .inl ⟨rfl, fun _ h => nomatch h⟩⟩
  | ok res =>
    by_cases hs : res.isSuccessful = true
    · rw [emitted, if_pos hs]
      exact ⟨hmid', rfl, _, rfl, .inr ⟨rfl, res, rfl, hs⟩⟩
    · rw [emitted, if_neg hs, List.append_nil]
      exact ⟨hmid, rfl, _, rfl, .inl ⟨rfl, fun x hx => by cases hx; exact hs⟩⟩

/-- The money branch of `process_refund` makes at most one call, for the amount of the refund and with
an identifier of the payment. -/
theorem ensures_executeRefund {refund : RefundRow} {payment : Option PaymentRow} {name : String}
    (hmid : mid es) (hmid' : ∀ p ref, mid (es ++ [refundCall p ref refund])) :
    Ensures mid (fun r d' es' => d' = d ∧
        ((es' = es ∧ (r = .ok none ∨ ∃ e, r = .error e)) ∨
          ∃ p ref x, es' = es ++ [refundCall p ref refund] ∧ r = .ok (some x) ∧
            payment = some p ∧ ref ≠ "" ∧ gatewayPaymentId name p = some ref))
      (executeRefund refund payment name) d es := by
  unfold executeRefund
  dsimp only
  split
  · exact ⟨rfl, .inl ⟨rfl, .inl rfl⟩⟩
  · rename_i p ref htarget
    obtain ⟨q, hq, htarget⟩ := Option.bind_eq_some_iff.mp htarget
    obtain ⟨ref', href, hpair⟩ := Option.map_eq_some_iff.mp htarget
    cases hpair
    have hid : gatewayPaymentId name p = some ref := by
      split_ifs at href
      exact href
    split_ifs with hempty
    · exact ⟨rfl, .inl ⟨rfl, .inl rfl⟩⟩
    refine (ensures_refundPayment hmid (hmid' p ref)).bind ?_ ?_
    · rintro res d es' ⟨rfl, _, hres, h⟩
      cases hres
      cases res with
      | error exc =>
        rcases h with ⟨rfl, -⟩ | ⟨-, _, hx, -⟩
        · exact ⟨rfl, .inl ⟨rfl, .inr ⟨_, rfl⟩⟩⟩
        · cases hx
      | ok res =>
        dsimp only
        rw [ensures_bind_raiseIf]
        rcases h with ⟨rfl, hno⟩ | ⟨rfl, x, hx, hs⟩
        · exact ⟨fun _ => ⟨rfl, .inl ⟨rfl, .inr ⟨_, rfl⟩⟩⟩, fun h => absurd (not_not.mp h) (hno res rfl)⟩
        · cases hx
          exact ⟨fun h => absurd hs h,
            fun _ => ⟨rfl, .inr ⟨p, ref, res, rfl, rfl, hq, hempty, hid⟩⟩⟩
    · rintro e d es' ⟨-, _, h, -⟩
      cases h

/-! ## Loyalty points -/

/-- The database with more accounts and transactions of the loyalty programme. -/
structure LoyaltyFrame (d d' : Db) : Prop where
  payments : d'.payments = d.payments
  refunds : d'.refunds = d.refunds
  bookings : d'.bookings = d.bookings

theorem ensures_getOrCreateAccount {customerId : Uuid} (hmid : mid es) :
    Ensures mid (fun _ d' es' => es' = es ∧ LoyaltyFrame d d' ∧
        d'.loyaltyTransactions = d.loyaltyTransactions)
      (Loyalty.getOrCreateAccount customerId) d es := by
  unfold Loyalty.getOrCreateAccount
  rw [ensures_bind_query]
  refine ⟨hmid, ?_⟩
  split
  · exact ⟨rfl, ⟨rfl, rfl, rfl⟩, rfl⟩
  · rw [ensures_bind_ask]
    refine ⟨hmid, fun a => ?_⟩
    unfold Loyalty.insertAccount
    rw [ensures_bind, ensures_checkedUpdate]
    refine ⟨hmid, ?_⟩
    split
    · exact ⟨rfl, ⟨rfl, rfl, rfl⟩, rfl⟩
    · exact ⟨rfl, ⟨rfl, rfl, rfl⟩, rfl⟩

/-- An adjustment that goes through writes one transaction with its description. -/
theorem ensures_adjustPoints {customerId : Uuid} {delta : ℤ} {description : String}
    {createdBy : Option String} (hdesc : description ≠ "") (hmid : mid es) :
    Ensures mid (fun r d' es' => es' = es ∧ ∀ u, r = .ok u → LoyaltyFrame d d' ∧ ∃ t,
        d'.loyaltyTransactions = d.loyaltyTransactions ++ [t] ∧ t.description = description)
      (Loyalty.adjustPoints customerId delta (some description) createdBy) d es := by
  unfold Loyalty.adjustPoints
  refine (ensures_getOrCreateAccount hmid).bind ?_ ?_
  · rintro account d₁ es ⟨rfl, hframe, htx⟩
    rw [ensures_bind_ask]
    refine ⟨hmid, fun a => ?_⟩
    rw [ensures_checkedUpdate]
    refine ⟨hmid, ?_⟩
    split
    · exact ⟨rfl, fun _ h => nomatch h⟩
    · refine ⟨rfl, fun _ _ => ⟨⟨hframe.payments, hframe.refunds, hframe.bookings⟩, ?_⟩⟩
      simp only [htx]
      exact ⟨_, rfl, by simp [Text.or, hdesc]⟩
  · rintro e d₁ es ⟨rfl, -⟩
    exact ⟨rfl, fun _ h => nomatch h⟩

theorem creditDescription_ne_empty (refundNumber : String) : creditDescription refundNumber ≠ "" := by
  intro h
  have := congrArg String.toList h
  simp [creditDescription] at this

/-- The credit of a refund adds at most one loyalty transaction of its description. -/
theorem ensures_creditLoyalty {refund : RefundRow} {actorId : String} (hmid : mid es) :
    Ensures mid (fun r d' es' => es' = es ∧ ∀ u, r = .ok u → LoyaltyFrame d d' ∧
        (d'.loyaltyTransactions = d.loyaltyTransactions ∨ ∃ t,
          d'.loyaltyTransactions = d.loyaltyTransactions ++ [t] ∧
            t.description = creditDescription refund.refundNumber))
      (creditLoyalty refund actorId) d es := by
  unfold creditLoyalty
  rw [ensures_forSome]
  refine ⟨fun _ => ⟨rfl, fun _ _ => ⟨⟨rfl, rfl, rfl⟩, .inl rfl⟩⟩, fun customerId _ => ?_⟩
  rw [ensures_tryCatch]
  refine (ensures_adjustPoints (creditDescription_ne_empty _) hmid).mono (fun _ h => h) ?_
  rintro (e | u) d' es' ⟨rfl, h⟩
  · exact ⟨rfl, fun _ h => nomatch h⟩
  · obtain ⟨hframe, t, ht, hdesc⟩ := h u rfl
    exact ⟨rfl, fun _ _ => ⟨hframe, .inr ⟨t, ht, hdesc⟩⟩⟩

/-- The statuses of the booking of a loyalty refund. -/
theorem ensures_loyaltyBooking {booking : Option BookingRow} {o : Option (Orm BookingRow)}
    (ho : ∀ b, o = some b → b.changes = id) (hmid : mid es) :
    Ensures mid (Returns fun _ d' es' => es' = es ∧ Frame d d' ∧ d'.refunds = d.refunds)
      (Prog.forSome booking fun b =>
        discard (flushBooking ((o.getD (.ofRow b)).set loyaltyBooking))) d es := by
  refine Ensures.forSome ⟨rfl, Frame.refl d, rfl⟩ fun b _ => ?_
  have hobj : (o.getD (.ofRow b)).changes = id := by
    cases hb : o with
    | none => rfl
    | some x => exact ho x hb
  have hfix : ∀ r, fixedBooking (loyaltyBooking r) = fixedBooking r := fun _ => rfl
  refine (ensures_flushBooking hmid (fixed_set hobj hfix)).bind_returns ?_
  rintro _ d' es' ⟨rfl, hframe, hrows, -⟩
  exact ⟨rfl, hframe, hrows⟩

end Payment
