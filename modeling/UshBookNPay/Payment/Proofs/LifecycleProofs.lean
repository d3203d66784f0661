import UshBookNPay.Core.Rules
import UshBookNPay.Payment.RefundLifecycle

/-!
# What the transitions of a refund do

One specification for each transition of `RefundLifecycle`, for a session whose objects agree with the
rows of the database: which row of `refunds` is replaced or added, when it raises, and that no other
column of the other tables changes but the summaries of the payment and the statuses of the booking.
-/

open Transactions (Prog Ensures)
open Transactions

namespace Payment

/-! ## Frames -/

/-- A payment less the columns the refund code writes. -/
def fixedPayment (p : PaymentRow) : PaymentRow :=
  { p with
    amountRefunded := 0, status := none, paymentData := none, paymentThrough := none,
    paymentProvider := none, paymentMethod := none, paymentGateway := none }

/-- A booking less the columns the refund code writes. -/
def fixedBooking (b : BookingRow) : BookingRow :=
  { b with
    status := .draft, paymentStatus := .notInitiated, internalNotes := none,
    paymentThrough := none, paymentProvider := none, paymentMethod := none,
    paymentGateway := none }

/-- The payments and bookings of `d'` are those of `d` up to the columns the refund code writes. -/
structure Frame (d d' : Db) : Prop where
  payments : d'.payments.map fixedPayment = d.payments.map fixedPayment
  bookings : d'.bookings.map fixedBooking = d.bookings.map fixedBooking
  loyaltyAccounts : d'.loyaltyAccounts = d.loyaltyAccounts
  loyaltyTransactions : d'.loyaltyTransactions = d.loyaltyTransactions

theorem Frame.refl (d : Db) : Frame d d := ⟨rfl, rfl, rfl, rfl⟩

theorem Frame.trans {d d' d'' : Db} (h : Frame d d') (h' : Frame d' d'') : Frame d d'' :=
  ⟨h'.payments.trans h.payments, h'.bookings.trans h.bookings,
    h'.loyaltyAccounts.trans h.loyaltyAccounts,
    h'.loyaltyTransactions.trans h.loyaltyTransactions⟩

theorem Frame.getPayment {d d' : Db} (h : Frame d d') (k : ℕ) :
    (Table.get d'.payments k).map fixedPayment = (Table.get d.payments k).map fixedPayment :=
  Table.get_map_eq (g := fixedPayment) (fun _ => rfl) h.payments k

/-! ## Objects in step with the database -/

/-- What the session has loaded before is what the database holds. -/
structure Agrees (known : Known) (d : Db) : Prop where
  payments : ∀ p ∈ known.payments, Table.get d.payments p.id = some p
  bookings : ∀ b ∈ known.bookings, Table.get d.bookings b.id = some b

theorem agrees_empty (d : Db) : Agrees {} d := ⟨by simp, by simp⟩

theorem Agrees.payment {known : Known} {d : Db} (h : Agrees known d) {k : ℕ} {p : PaymentRow}
    (hp : Table.get d.payments k = some p) : known.payment p = p := by
  unfold Known.payment
  cases hq : Table.get known.payments p.id with
  | none => rfl
  | some q =>
    obtain ⟨hmem, hid⟩ := Table.get_some hq
    have hget := h.payments q hmem
    rw [show q.id = k from hid.trans (Table.get_some hp).2, hp] at hget
    exact (Option.some.inj hget).symm

theorem Agrees.booking {known : Known} {d : Db} (h : Agrees known d) {k : ℕ} {b : BookingRow}
    (hb : Table.get d.bookings k = some b) : known.booking b = b := by
  unfold Known.booking
  cases hq : Table.get known.bookings b.id with
  | none => rfl
  | some q =>
    obtain ⟨hmem, hid⟩ := Table.get_some hq
    have hget := h.bookings q hmem
    rw [show q.id = k from hid.trans (Table.get_some hb).2, hb] at hget
    exact (Option.some.inj hget).symm

/-! ## The statements of the transitions -/

section Statements

variable {mid : List Emission → Prop} {d : Db} {es : List Emission} {known : Known}

theorem ensures_paymentOf {refund : RefundRow} {forUpdate : Bool} (hmid : mid es)
    (hk : Agrees known d) :
    Ensures mid (Returns fun p d' es' =>
        p = (refund.paymentId.bind (Table.get d.payments)).map Orm.ofRow ∧ d' = d ∧ es' = es)
      (paymentOf known refund forUpdate) d es := by
  unfold paymentOf
  cases hp : refund.paymentId with
  | none => exact ⟨rfl, rfl, rfl⟩
  | some pid =>
    have hrow : (Table.get d.payments pid).map (fun r => Orm.ofRow (known.payment r)) =
        (Table.get d.payments pid).map Orm.ofRow := by
      cases hq : Table.get d.payments pid with
      | none => rfl
      | some p => simp [hk.payment hq]
    cases forUpdate <;> simp [hmid, hrow, Returns]

theorem changes_of_map_ofRow {R S : Type} {row : Option R} {f : R → S} {o : Orm S}
    (h : row.map (fun r => Orm.ofRow (f r)) = some o) : o.changes = id := by
  obtain ⟨r, -, rfl⟩ := Option.map_eq_some_iff.mp h
  rfl

/-- Whatever the session has loaded before, the payment comes without pending assignments. -/
theorem ensures_paymentOf_changes {refund : RefundRow} {forUpdate : Bool} (hmid : mid es) :
    Ensures mid (Returns fun p d' es' => d' = d ∧ es' = es ∧ ∀ o, p = some o → o.changes = id)
      (paymentOf known refund forUpdate) d es := by
  unfold paymentOf
  cases hp : refund.paymentId with
  | none => exact ⟨rfl, rfl, fun _ h => nomatch h⟩
  | some pid =>
    have hchanges : ∀ o, (Table.get d.payments pid).map (fun r => Orm.ofRow (known.payment r)) =
        some o → o.changes = id := fun o ho => changes_of_map_ofRow ho
    cases forUpdate with
    | false =>
      simp only [Bool.false_eq_true, if_false]
      rw [ensures_bind_query]
      exact ⟨hmid, rfl, rfl, hchanges⟩
    | true =>
      simp only [if_true]
      rw [ensures_bind_queryForUpdate]
      exact ⟨hmid, rfl, rfl, hchanges⟩

theorem ensures_bookingOf {refund : RefundRow} (hmid : mid es) :
    Ensures mid (Returns fun b d' es' => d' = d ∧ es' = es ∧ ∀ o, b = some o → o.changes = id)
      (bookingOf known refund) d es := by
  unfold bookingOf
  cases hb : refund.bookingId with
  | none => exact ⟨rfl, rfl, fun _ h => nomatch h⟩
  | some bid =>
    dsimp only
    rw [ensures_bind_queryForUpdate]
    exact ⟨hmid, rfl, rfl, fun o ho => changes_of_map_ofRow ho⟩

/-- The cap check on the payment that is there raises exactly when the cap is exceeded. -/
theorem ensures_checkCap {α : Type} {o : Option α} {g : α → PaymentRow}
    {excludeId : Option Uuid} {net : Fils} {message : α → Fils → String} (hmid : mid es) :
    Ensures mid (fun r d' es' => d' = d ∧ es' = es ∧ ((∃ e, r = .error e) ↔ ∃ a, o = some a ∧
        exceeds (sumOf d (g a).id committedStatuses excludeId + net) (g a).totalAmount))
      (Prog.forSome o fun a => checkCap (g a) excludeId net (message a)) d es := by
  rw [ensures_forSome]
  refine ⟨fun hnone => ⟨rfl, rfl, by simp [hnone]⟩, fun a ha => ?_⟩
  unfold checkCap committedTotal
  rw [ensures_bind_query, ensures_raiseIf]
  refine ⟨hmid, fun h => ⟨rfl, rfl, ?_⟩, fun h => ⟨rfl, rfl, ?_⟩⟩
  · exact ⟨fun _ => ⟨a, ha, h⟩, fun _ => ⟨_, rfl⟩⟩
  · refine ⟨fun h' => by simp at h', ?_⟩
    rintro ⟨b, hb, hex⟩
    rw [ha] at hb
    cases hb
    exact absurd hex h

/-- Writing a refund object that is in step replaces its row. -/
theorem ensures_flushRefund {o : Orm RefundRow} (hmid : mid es) (hs : InStep o d.refunds) :
    Ensures mid (fun r d' es' => es' = es ∧ match r with
        | .ok o' => o' = .ofRow o.row ∧ Frame d d' ∧ d'.payments = d.payments ∧
            d'.bookings = d.bookings ∧ Table.Replaces d.refunds o.row.id o.row d'.refunds ∧
            fits o.row
        | .error _ => ¬ fits o.row)
      (flushRefund o) d es := by
  have hrep := hs.replaces
  unfold flushRefund
  by_cases hf : fits o.row = true
  · have hframe : Frame d { d with refunds := Table.modify d.refunds o.row.id o.changes } :=
      ⟨rfl, rfl, rfl, rfl⟩
    rw [ensures_bind, ensures_checkedUpdate, if_pos hf]
    exact ⟨hmid, rfl, rfl, hframe, rfl, rfl, hrep, hf⟩
  · rw [ensures_bind, ensures_checkedUpdate, if_neg hf]
    exact ⟨hmid, rfl, hf⟩

/-- Writing a refund object without assignments changes nothing. -/
theorem ensures_flushRefund_idle {o : Orm RefundRow} (hmid : mid es) (ho : o.changes = id) :
    Ensures mid (fun r d' es' => es' = es ∧ ∀ o', r = .ok o' → d' = d)
      (flushRefund o) d es := by
  have hsame : Table.modify d.refunds o.row.id o.changes = d.refunds := by
    rw [ho, Table.modify_id]
  unfold flushRefund
  by_cases hf : fits o.row = true
  · rw [ensures_bind, ensures_checkedUpdate, if_pos hf]
    refine ⟨hmid, rfl, fun _ _ => ?_⟩
    rw [hsame]
  · rw [ensures_bind, ensures_checkedUpdate, if_neg hf]
    exact ⟨hmid, rfl, fun _ h => nomatch h⟩

/-- Writing a payment object whose assignments keep the fixed columns is within the frame. -/
theorem ensures_flushPayment {o : Orm PaymentRow} (hmid : mid es)
    (hc : ∀ r, fixedPayment (o.changes r) = fixedPayment r) :
    Ensures mid (fun r d' es' => es' = es ∧ ∀ p, r = .ok p →
        Frame d d' ∧ d'.refunds = d.refunds ∧ d'.bookings = d.bookings)
      (flushPayment o) d es := by
  unfold flushPayment
  obtain ⟨a, ha⟩ : ∃ a, a = o.row.attribution := ⟨_, rfl⟩
  have hfix : ∀ r, fixedPayment ((o.changes r).setAttribution a) = fixedPayment r := hc
  have hframe : Frame d { d with
      payments := Table.modify d.payments o.row.id fun r => (o.changes r).setAttribution a } :=
    ⟨Table.map_modify_of_eq hfix d.payments o.row.id, rfl, rfl, rfl⟩
  rw [← ha]
  by_cases hf : fitsNumeric o.row.amountRefunded = true
  · rw [ensures_bind, ensures_checkedUpdate, if_pos hf]
    exact ⟨hmid, rfl, fun _ _ => ⟨hframe, rfl, rfl⟩⟩
  · rw [ensures_bind, ensures_checkedUpdate, if_neg hf]
    exact ⟨hmid, rfl, fun _ h => nomatch h⟩

theorem ensures_flushBooking {o : Orm BookingRow} (hmid : mid es)
    (hc : ∀ r, fixedBooking (o.changes r) = fixedBooking r) :
    Ensures mid (Returns fun b d' es' => es' = es ∧ Frame d d' ∧ d'.refunds = d.refunds ∧
        b.changes = id)
      (flushBooking o) d es := by
  unfold flushBooking
  obtain ⟨a, ha⟩ : ∃ a, a = o.row.attribution := ⟨_, rfl⟩
  have hfix : ∀ r, fixedBooking ((o.changes r).setAttribution a) = fixedBooking r := hc
  have hframe : Frame d { d with
      bookings := Table.modify d.bookings o.row.id fun r => (o.changes r).setAttribution a } :=
    ⟨rfl, Table.map_modify_of_eq hfix d.bookings o.row.id, rfl, rfl⟩
  rw [← ha, ensures_bind, ensures_update]
  exact ⟨hmid, rfl, hframe, rfl, rfl⟩

theorem ensures_audit {payment : PaymentRow} {reason source : String} {refund : RefundRow}
    {actorId providerReference : Option String} {oldStatus : Option PaymentStatus}
    (hmid : mid es) :
    Ensures mid (Returns fun _ d' es' => es' = es ∧ Frame d d' ∧ d'.refunds = d.refunds ∧
        d'.bookings = d.bookings)
      (audit payment reason refund source actorId providerReference oldStatus) d es := by
  unfold audit
  rw [ensures_update]
  exact ⟨hmid, rfl, ⟨rfl, rfl, rfl, rfl⟩, rfl, rfl⟩

/-- The audit row of the payment that is there. -/
theorem ensures_forSome_audit {α : Type} {o : Option α} {g : α → PaymentRow}
    {reason source : String} {refund : RefundRow} {actorId providerReference : Option String}
    {oldStatus : Option PaymentStatus} (hmid : mid es) :
    Ensures mid (Returns fun _ d' es' => es' = es ∧ Frame d d' ∧ d'.refunds = d.refunds)
      (Prog.forSome o fun a =>
        audit (g a) reason refund source actorId providerReference oldStatus) d es := by
  refine Ensures.forSome ⟨rfl, Frame.refl d, rfl⟩ fun a _ => ?_
  unfold audit
  rw [ensures_update]
  exact ⟨hmid, rfl, ⟨rfl, rfl, rfl, rfl⟩, rfl⟩

/-- An update of the booking that keeps its fixed columns, where there is a booking. -/
theorem ensures_forSome_flushBooking {o : Option (Orm BookingRow)} {f : BookingRow → BookingRow}
    (hmid : mid es) (ho : ∀ b, o = some b → b.changes = id)
    (hf : ∀ r, fixedBooking (f r) = fixedBooking r) :
    Ensures mid (Returns fun _ d' es' => es' = es ∧ Frame d d' ∧ d'.refunds = d.refunds)
      (Prog.forSome o fun b => discard (flushBooking (b.set f))) d es := by
  refine Ensures.forSome ⟨rfl, Frame.refl d, rfl⟩ fun b hb => ?_
  have hc : ∀ r, fixedBooking ((b.set f).changes r) = fixedBooking r := by
    intro r
    simp [ho b hb, hf]
  refine (ensures_flushBooking hmid hc).bind_returns ?_
  rintro _ _ _ ⟨rfl, hframe, href, -⟩
  exact ⟨rfl, hframe, href⟩

end Statements

end Payment
