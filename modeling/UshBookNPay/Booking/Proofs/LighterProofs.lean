import Mathlib.Data.List.Pairwise
import UshBookNPay.Booking.Proofs.StatusRunProofs

/-!
# The calendar of the therapists

What holds of the bookings of all therapists when the writers are called one after the other, and the
calls that change nothing but the status of a booking that holds its slots.
-/

open Transactions
open Transactions.Prog (query queryForUpdate update checkedUpdate raiseIf ask emit forSome savepoint)

namespace Booking

variable {d d' : Db} {b b' row : BookingRow} {t k : Uuid} {w : Instant × Instant} {es : List Emission}

/-! ## What others hold -/

/-- A booking other than `k` holds the therapist in the window. -/
def BookedByOthers (k t : Uuid) (w : Instant × Instant) (d : Db) : Prop :=
  ∃ b ∈ d.bookings, b.id ≠ k ∧ Blocks b.status ∧ OverlapsPerSession t w.1 w.2 b

theorem findTherapistOverlap_others (hinside : SessionsInside d) :
    findTherapistOverlap t w.1 w.2 (some k) d = none ↔ ¬ BookedByOthers k t w d := by
  unfold findTherapistOverlap BookedByOthers
  rw [List.find?_eq_none]
  constructor
  · rintro h ⟨b, hb, hne, hblocks, hover⟩
    have hnot := h b hb
    simp only [decide_eq_true_eq] at hnot
    refine hnot ⟨found_of_overlap hinside hb hblocks hover, ?_, hover⟩
    intro heq
    exact hne (Option.some.inj heq).symm
  · intro h b hb hfound
    simp only [decide_eq_true_eq] at hfound
    obtain ⟨hfilter, hother, hover⟩ := hfound
    exact h ⟨b, hb, fun heq => hother (congrArg some heq.symm), hfilter.2.2.2, hover⟩

theorem DoubleBooked.symm (h : DoubleBooked b b') : DoubleBooked b' b := by
  obtain ⟨hb, hb', t, w, hw, w', hw', hlt, hgt⟩ := h
  exact ⟨hb', hb, t, w', hw', w, hw, hgt, hlt⟩

theorem NoDoubleBooking.apart (h : NoDoubleBooking d) (hb : b ∈ d.bookings) (hb' : b' ∈ d.bookings)
    (hne : b ≠ b') : ¬ DoubleBooked b b' := by
  have hsymm : Std.Symm fun b b' => ¬ DoubleBooked b b' := ⟨fun _ _ h h' => h h'.symm⟩
  exact List.Pairwise.forall h hb hb' hne

/-- A part of a window that a booking holds is held by no other. -/
theorem free_of_held (hd : NoDoubleBooking d) (hrow : row ∈ d.bookings)
    (hblocks : Blocks row.status) {w₀ : Instant × Instant} (hw₀ : w₀ ∈ therapistBusyWindows row t)
    (hstart : w₀.1 ≤ w.1) (hend : w.2 ≤ w₀.2) : ¬ BookedByOthers row.id t w d := by
  rintro ⟨b, hb, hne, hb', w', hw', hlt, hgt⟩
  refine hd.apart hb hrow (fun heq => hne (congrArg (·.id) heq)) ⟨hb', hblocks, t, w', hw', ?_⟩
  exact ⟨w₀, hw₀, hstart.trans_lt hgt, hlt.trans_le hend⟩

/-! ## What a call does to the calendar -/

/-- The columns of the therapists are those of the first stored session. -/
def Led (b : BookingRow) : Prop :=
  ∀ s ∈ b.sessions.head?, s.therapistId = some b.therapistId ∧
    s.secondaryTherapistId = b.secondaryTherapistId

/-- The invariant of the calls. -/
structure Calendar (d : Db) : Prop where
  unique : Table.Unique d.bookings
  span : EveryBooking SpanKept d
  led : EveryBooking Led d
  single : NoDoubleBooking d

theorem Calendar.inside (h : Calendar d) : SessionsInside d := fun b hb _ hs => (h.span b hb).inside hs

theorem ofSchedule_led : OfSchedule Led := by
  intro b b' hsame h
  unfold Led
  rw [hsame.sessions, hsame.therapistId, hsame.secondaryTherapistId]
  exact h

theorem windows_of_sameSchedule (h : SameSchedule b b') (t : Uuid) :
    therapistBusyWindows b' t = therapistBusyWindows b t := by
  unfold therapistBusyWindows
  rw [h.sessions, h.therapistId, h.secondaryTherapistId, h.appointmentStart, h.appointmentEnd]

theorem doubleBooked_of_sameSchedule {c c' : BookingRow} (h : SameSchedule b b')
    (hc : SameSchedule c c') (hb : Blocks b'.status → Blocks b.status)
    (hc' : Blocks c'.status → Blocks c.status) (hdouble : DoubleBooked b' c') : DoubleBooked b c := by
  obtain ⟨hblocks, hblocks', t, w, hw, w', hw', hover⟩ := hdouble
  rw [windows_of_sameSchedule h] at hw
  rw [windows_of_sameSchedule hc] at hw'
  exact ⟨hb hblocks, hc' hblocks', t, w, hw, w', hw', hover⟩

/-! ### Lighter bookings -/

/-- The booking with the schedule it had, which takes no slot that it had given up. -/
structure Lighter (b b' : BookingRow) : Prop where
  id : b'.id = b.id
  schedule : SameSchedule b b'
  blocks : Blocks b'.status → Blocks b.status

/-- Every booking is lighter, and none is added or removed. -/
def Lightens (d d' : Db) : Prop :=
  ∃ f : BookingRow → BookingRow, d'.bookings = d.bookings.map f ∧ ∀ b ∈ d.bookings, Lighter b (f b)

theorem SameSchedule.refl (b : BookingRow) : SameSchedule b b := by
  constructor <;> rfl

theorem SameSchedule.trans {b'' : BookingRow} (h : SameSchedule b b') (h' : SameSchedule b' b'') :
    SameSchedule b b'' where
  sessions := h'.sessions.trans h.sessions
  services := h'.services.trans h.services
  therapistId := h'.therapistId.trans h.therapistId
  secondaryTherapistId := h'.secondaryTherapistId.trans h.secondaryTherapistId
  addons := h'.addons.trans h.addons
  appointmentDate := h'.appointmentDate.trans h.appointmentDate
  appointmentStart := h'.appointmentStart.trans h.appointmentStart
  appointmentEnd := h'.appointmentEnd.trans h.appointmentEnd
  durationMinutes := h'.durationMinutes.trans h.durationMinutes
  extraMinutes := h'.extraMinutes.trans h.extraMinutes
  addonsDuration := h'.addonsDuration.trans h.addonsDuration
  totalDuration := h'.totalDuration.trans h.totalDuration

theorem Lighter.refl (b : BookingRow) : Lighter b b := ⟨rfl, .refl b, fun h => h⟩

theorem Lighter.trans {b'' : BookingRow} (h : Lighter b b') (h' : Lighter b' b'') : Lighter b b'' :=
  ⟨h'.id.trans h.id, h.schedule.trans h'.schedule, fun hb => h.blocks (h'.blocks hb)⟩

theorem lightens_of_same (h : d'.bookings = d.bookings) : Lightens d d' :=
  ⟨id, by rw [h, List.map_id], fun b _ => .refl b⟩

theorem Lightens.trans {d'' : Db} (h : Lightens d d') (h' : Lightens d' d'') : Lightens d d'' := by
  obtain ⟨f, hf, hlight⟩ := h
  obtain ⟨g, hg, hlight'⟩ := h'
  refine ⟨g ∘ f, by rw [hg, hf, List.map_map], fun b hb => (hlight b hb).trans (hlight' _ ?_)⟩
  rw [hf]
  exact List.mem_map_of_mem hb

theorem Calendar.lightens (h : Calendar d) (hd : Lightens d d') : Calendar d' := by
  obtain ⟨f, hf, hlight⟩ := hd
  have hevery : ∀ {P : BookingRow → Prop}, OfSchedule P → EveryBooking P d → EveryBooking P d' := by
    intro P hP hall b hb
    rw [hf] at hb
    obtain ⟨b₀, hb₀, rfl⟩ := List.mem_map.mp hb
    exact hP b₀ _ (hlight b₀ hb₀).schedule (hall b₀ hb₀)
  refine ⟨?_, hevery ofSchedule_spanKept h.span, hevery ofSchedule_led h.led, ?_⟩
  · have hkeys : d'.bookings.map Table.Keyed.key = d.bookings.map Table.Keyed.key := by
      rw [hf, List.map_map]
      exact List.map_congr_left fun b hb => (hlight b hb).id
    unfold Table.Unique
    rw [hkeys]
    exact h.unique
  · unfold NoDoubleBooking
    rw [hf, List.pairwise_map]
    refine h.single.imp_of_mem fun {b c} hb hc hnot hdouble => hnot ?_
    exact doubleBooked_of_sameSchedule (hlight b hb).schedule (hlight c hc).schedule
      (hlight b hb).blocks (hlight c hc).blocks hdouble

/-! ### One booking replaced -/

/-- A booking that is written anew holds no slot of another one, where none of its own windows is held
by another. -/
theorem noDoubleBooking_replaced (hu : Table.Unique d.bookings) (hd : NoDoubleBooking d)
    (hrep : Table.Replaces d.bookings k b' d'.bookings)
    (hfree : Blocks b'.status → ∀ t, ∀ w ∈ therapistBusyWindows b' t, ¬ BookedByOthers k t w d) :
    NoDoubleBooking d' := by
  have hnew : ∀ b ∈ d.bookings, b.id ≠ k → ¬ DoubleBooked b b' := by
    rintro b hb hne ⟨hblocks, hblocks', t, w, hw, w', hw', hlt, hgt⟩
    exact hfree hblocks' t w' hw' ⟨b, hb, hne, hblocks, w, hw, hgt, hlt⟩
  have hnodup : d'.bookings.Nodup := (hrep.unique hu).of_map _
  refine hnodup.pairwise_of_forall_ne fun a ha c hc hne => ?_
  rcases hrep.mem hu ha with rfl | ⟨ha, hak⟩
  · rcases hrep.mem hu hc with rfl | ⟨hc, hck⟩
    · exact absurd rfl hne
    · exact fun h => hnew c hc hck h.symm
  · rcases hrep.mem hu hc with rfl | ⟨hc, -⟩
    · exact hnew a ha hak
    · exact hd.apart ha hc hne

/-! ## Calls that lighten the calendar -/

section Lightening

variable {α β : Type}

theorem lightens_bind {p : Tx α} {f : α → Tx β} (hp : Leads Lightens p)
    (hf : ∀ a, Leads Lightens (f a)) : Leads Lightens (p >>= f) :=
  hp.bind (fun _ _ _ h h' => h.trans h') hf

theorem lightens_of_keeps {p : Tx α} (h : Keeps Db.bookings p) : Leads Lightens p :=
  h.leads fun _ _ heq => lightens_of_same heq

theorem lightens_of_audited {p : Tx α} (h : Spares Db.audited p) : Leads Lightens p :=
  lightens_of_keeps (h.comp fun x => x.1.1).keeps

theorem lightens_of_tables {p : Tx α} (h : Spares Db.bookingTables p) : Leads Lightens p :=
  lightens_of_keeps (h.comp Prod.fst).keeps

theorem lightens_pure (a : α) : Leads Lightens (pure a : Tx α) := lightens_of_keeps (keeps_pure a)

theorem lightens_discard {p : Tx α} (h : Leads Lightens p) : Leads Lightens (discard p) :=
  lightens_bind h fun _ => lightens_pure _

theorem lightens_attempt {caught : Error → Bool} {p : Tx α} (h : Leads Lightens p) :
    Leads Lightens (attempt caught p) := by
  constructor
  intro d es
  refine (h.ensures d es).attempt ?_ ?_ ?_
  · exact fun _ _ _ h => h
  · exact fun _ _ _ _ h => h
  · exact fun _ _ _ _ h => h

/-- What follows a change goes on from the calendar it leaves. -/
theorem lightens_after {p : Tx α} (h : Lightens d d') (hp : Leads Lightens p) :
    Ensures (fun _ => True) (fun _ d'' _ => Lightens d d'') p d' es :=
  (hp.ensures d' es).mono (fun _ h => h) fun _ _ _ h' => h.trans h'

theorem lighter_setAttribution (b : BookingRow) (a : PaymentAttribution.Attribution) :
    Lighter b (b.setAttribution a) :=
  ⟨rfl, sameSchedule_written b a, fun h => h⟩

/-- A booking is written lighter than the one stored. -/
theorem ensures_flushLighter {o : Orm BookingRow}
    (h : ∀ b ∈ d.bookings, b.id = o.row.id → Lighter b (o.changes b)) :
    Ensures (fun _ => True) (Returns fun _ d' _ => Lightens d d') (flushBooking o) d es := by
  refine (ensures_writeBooking trivial).mono (fun _ h => h) ?_
  intro r d' es' hr
  cases r with
  | error e => exact hr
  | ok written =>
    obtain ⟨-, -, rfl⟩ := hr
    refine ⟨_, rfl, fun b hb => ?_⟩
    split_ifs with hid
    · exact (h b hb hid).trans (lighter_setAttribution _ _)
    · exact .refl b

theorem lightens_flushBooking {o : Orm BookingRow} (h : ∀ b, Lighter b (o.changes b)) :
    Leads Lightens (flushBooking o) := by
  constructor
  intro d es
  refine (ensures_flushLighter fun b _ _ => h b).mono (fun _ h => h) ?_
  intro r d' es' hr
  cases r with
  | error e => exact hr.elim
  | ok written => exact hr

theorem keeps_getById (bookingId : Uuid) : Keeps Db.bookings (getById bookingId) := by
  refine (keeps_queryForUpdate _ _).bind fun row => ?_
  cases row with
  | none => exact keeps_throw _
  | some b => exact keeps_pure b

/-! ### Columns -/

theorem lighter_mergePaymentData (data : Option (List (String × Json))) (b : BookingRow) :
    Lighter b (mergePaymentData data b) := by
  cases data with
  | none => exact .refl b
  | some fields => exact ⟨rfl, by constructor <;> rfl, fun h => h⟩

theorem lighter_paidColumns (data : Option (List (String × Json))) (b : BookingRow) :
    Lighter b (paidColumns data b) := by
  unfold paidColumns
  cases data with
  | none => exact .refl b
  | some fields =>
    refine Lighter.trans ?_ (lighter_mergePaymentData _ _)
    exact ⟨rfl, by constructor <;> rfl, fun h => h⟩

theorem lighter_confirmedColumns {data : Option (List (String × Json))} (hb : Blocks b.status) :
    Lighter b (confirmedColumns data b) := by
  refine Lighter.trans ?_ (lighter_mergePaymentData _ _)
  exact ⟨rfl, by constructor <;> rfl, fun _ => hb⟩

theorem lighter_confirmedStatus (b : BookingRow) : Lighter b (PaymentLinks.confirmedStatus b) := by
  unfold PaymentLinks.confirmedStatus
  split_ifs with hstatus
  · refine ⟨rfl, by constructor <;> rfl, fun _ => ?_⟩
    have hopen : ∀ s ∈ ([.requested, .paymentPending, .draft] : List BookingStatus), Blocks s := by
      decide
    exact hopen _ hstatus
  · exact .refl b

/-! ### confirm_booking and request_reschedule -/

theorem lightens_ensureBookingInvoice (b : BookingRow) : Leads Lightens (ensureBookingInvoice b) := by
  unfold ensureBookingInvoice
  split_ifs
  · exact lightens_pure _
  · exact lightens_bind (lightens_of_audited (spares_setPaymentInvoices _ _)) fun _ => lightens_pure _
  · refine lightens_bind (lightens_of_keeps (keeps_ask _)) fun found => ?_
    rcases found with _ | ⟨id, name⟩
    · exact lightens_pure _
    · dsimp only
      split_ifs
      · exact lightens_pure _
      · refine lightens_bind (lightens_flushBooking fun b => ?_) fun _ => ?_
        · exact ⟨rfl, by constructor <;> rfl, fun h => h⟩
        · refine lightens_bind (lightens_of_audited (spares_setPaymentInvoices _ _)) fun _ => ?_
          exact lightens_pure _

/-- The statuses that the state machine lets a call confirm hold their slots, except of a parked
booking. -/
theorem blocks_of_confirmable {s : BookingStatus} (h : .confirmed ∈ validTransitions s)
    (hs : s ≠ .parked) : Blocks s := by
  revert h hs
  cases s <;> decide

/-- The stored booking of an id is the one that has been loaded. -/
theorem eq_of_loaded (hu : Table.Unique d.bookings) (hrow : Table.get d.bookings k = some row)
    (hb : b ∈ d.bookings) (hid : b.id = row.id) : b = row :=
  Table.eq_of_key_eq hu hb (Table.get_some hrow).1 hid

theorem lightens_confirmBooking {bookingId : Uuid} {paymentData : Option (List (String × Json))}
    {source : String} (hu : Table.Unique d.bookings)
    (hparked : ∀ row, Table.get d.bookings bookingId = some row → row.status ≠ .parked) :
    Ensures (fun _ => True) (fun _ d' _ => Lightens d d')
      (confirmBooking bookingId paymentData source) d es := by
  refine ensures_getById.bind_reads ?_ fun _ => lightens_of_same rfl
  intro row hrow
  by_cases hconfirmed : row.status = .confirmed
  · rw [if_pos hconfirmed]
    refine (ensures_flushLighter fun b _ _ => lighter_paidColumns _ b).bind_returns ?_
    exact fun _ _ _ h => lightens_after h (lightens_ensureBookingInvoice _)
  · rw [if_neg hconfirmed]
    unfold transitionTo
    rw [ensures_bind_raiseIf]
    refine ⟨fun _ => lightens_of_same rfl, fun hvalid => ?_⟩
    have hblocks : Blocks row.status := blocks_of_confirmable (not_not.mp hvalid) (hparked row hrow)
    refine (ensures_flushLighter fun b hb hid => ?_).bind_returns ?_
    · have hrowid : ((Orm.ofRow row).set (confirmedColumns paymentData)).row.id = row.id :=
        mergePaymentData_id _ paymentData
      obtain rfl := eq_of_loaded hu hrow hb (hid.trans hrowid)
      exact lighter_confirmedColumns hblocks
    · intro written d₁ es₁ h
      refine lightens_after h (lightens_bind (lightens_of_keeps (keeps_addBookingHistory _)) fun _ => ?_)
      refine lightens_bind (lightens_ensureBookingInvoice _) fun _ => ?_
      exact lightens_bind (lightens_of_keeps (keeps_emit _)) fun _ => lightens_pure _

theorem lightens_requestReschedule {bookingId customerId : Uuid} {newStart newEnd : Instant}
    {source : String} (hu : Table.Unique d.bookings) :
    Ensures (fun _ => True) (fun _ d' _ => Lightens d d')
      (requestReschedule bookingId newStart newEnd customerId source) d es := by
  refine ensures_getById.bind_reads ?_ fun _ => lightens_of_same rfl
  intro row hrow
  rw [ensures_bind_raiseIf]
  refine ⟨fun _ => lightens_of_same rfl, fun _ => ?_⟩
  unfold assertBookingIsReschedulable
  rw [ensures_bind_raiseIf]
  refine ⟨fun _ => lightens_of_same rfl, fun hconfirmed => ?_⟩
  have hblocks : Blocks row.status := by
    rw [not_not.mp hconfirmed]
    decide
  have hwindow : Keeps id (assertRescheduleWindow row.appointmentStart) :=
    (keeps_ask _).bind fun _ => keeps_raiseIf _ _
  refine (hwindow d es).bind ?_ fun _ _ _ h => lightens_of_same (congrArg Db.bookings h)
  intro _ d₁ es₁ h₁
  obtain rfl : d₁ = d := h₁
  unfold transitionTo
  rw [ensures_bind_raiseIf]
  refine ⟨fun _ => lightens_of_same rfl, fun _ => ?_⟩
  refine (ensures_flushLighter fun b hb hid => ?_).bind_returns ?_
  · obtain rfl := eq_of_loaded hu hrow hb hid
    exact ⟨rfl, by constructor <;> rfl, fun _ => hblocks⟩
  · intro written d₁ es₁ h
    refine lightens_after h (lightens_bind (lightens_of_keeps (keeps_addBookingHistory _)) fun _ => ?_)
    exact lightens_pure _

/-! ### cancel_booking -/

theorem lightens_cancelPayment (args : CancelArgs) (b : BookingRow) :
    Leads Lightens (cancelPayment args b) := by
  unfold cancelPayment
  split_ifs
  · refine lightens_bind (lightens_of_audited ?_) fun _ => lightens_pure _
    exact (spares_ensureCancellationRefund args b).attempt
  · refine lightens_bind (lightens_flushBooking fun b => ?_) fun written => ?_
    · exact ⟨rfl, by constructor <;> rfl, fun h => h⟩
    · refine lightens_bind (lightens_of_audited ?_) fun _ => lightens_pure _
      exact (spares_syncBookingPaymentStatus _ _ _).savepoint.attempt.discard
  · exact lightens_pure _

theorem lightens_cancelAndDeleteLinks (s : PaymentLinks.PaymentLinkService) (bookingId : Uuid) :
    Leads Lightens (PaymentLinks.cancelAndDeleteLinksForTarget s .booking bookingId) := by
  refine lightens_bind (lightens_of_keeps (keeps_queryForUpdate _ _)) fun links => ?_
  refine lightens_bind (lightens_of_tables (PaymentLinks.spares_cancelAndDelete s links)) fun _ => ?_
  rw [if_pos rfl]
  refine lightens_bind (lightens_of_keeps (keeps_queryForUpdate _ _)) fun row => ?_
  cases row with
  | none => exact lightens_pure _
  | some b =>
    dsimp only
    cases PaymentLinks.listed (b.paymentData.bind (·.field? "cancelled_invoice_ids")) with
    | error exc => exact lightens_of_keeps (keeps_throw _)
    | ok listed =>
      refine lightens_bind (lightens_of_keeps (PaymentLinks.spares_cancelAtGateway _ _).keeps) ?_
      intro _
      refine lightens_bind (lightens_of_keeps (keeps_ask _)) fun _ => ?_
      refine lightens_bind (lightens_discard (lightens_flushBooking fun b => ?_)) fun _ => ?_
      · exact ⟨rfl, by constructor <;> rfl, fun h => h⟩
      · exact lightens_pure _

theorem lightens_cancelBookingPaymentLinks (settings : PaymentLinks.LinkSettings) (b : BookingRow) :
    Leads Lightens (cancelBookingPaymentLinks settings b) := by
  refine lightens_bind (lightens_attempt ?_) fun _ => lightens_pure _
  refine lightens_bind (lightens_of_keeps (PaymentLinks.spares_getGateway _ _).keeps) fun gateway => ?_
  refine lightens_bind (lightens_discard (lightens_cancelAndDeleteLinks _ _)) fun _ => ?_
  refine lightens_bind (lightens_of_keeps (keeps_query _)) fun row => ?_
  refine lightens_bind (lightens_flushBooking fun b => ?_) fun _ => lightens_pure _
  exact ⟨rfl, by constructor <;> rfl, fun h => h⟩

theorem lightens_cancelBooking (settings : PaymentLinks.LinkSettings) (bookingId : Uuid)
    (args : CancelArgs) : Leads Lightens (cancelBooking settings bookingId args) := by
  refine lightens_bind (lightens_of_keeps (keeps_getById _)) fun row => ?_
  refine lightens_bind (lightens_of_keeps (keeps_raiseIf _ _)) fun _ => ?_
  refine lightens_bind (lightens_of_keeps (keeps_raiseIf _ _)) fun _ => ?_
  refine lightens_bind (lightens_flushBooking fun b => ?_) fun written => ?_
  · refine ⟨rfl, by constructor <;> rfl, fun h => absurd ?_ h⟩
    show BookingStatus.cancelled ∈ nonBlockingBookingStatuses
    decide
  refine lightens_bind (lightens_of_keeps (keeps_deleteHold _)) fun _ => ?_
  refine lightens_bind (lightens_of_keeps (keeps_addBookingHistory _)) fun _ => ?_
  refine lightens_bind (lightens_cancelPayment _ _) fun paid => ?_
  refine lightens_bind (lightens_of_keeps (keeps_emit _)) fun _ => ?_
  exact lightens_cancelBookingPaymentLinks _ _

/-! ### Settling -/

theorem lightens_settleBooking (link : Orm PaymentLinkRow) (paidAt : Instant) :
    Leads Lightens (PaymentLinks.settleBooking link paidAt) := by
  refine lightens_bind (lightens_of_keeps (keeps_queryForUpdate _ _)) fun row => ?_
  cases row with
  | none => exact lightens_of_keeps (keeps_throw _)
  | some b =>
    refine lightens_bind (lightens_of_keeps (keeps_raiseIf _ _)) fun _ => ?_
    refine lightens_bind ?_ fun booking => ?_
    · refine lightens_bind (lightens_flushBooking fun b => ?_) fun written => ?_
      · refine (lighter_confirmedStatus b).trans ?_
        exact ⟨rfl, by constructor <;> rfl, fun h => h⟩
      · refine lightens_bind (lightens_of_keeps ?_) fun _ => lightens_pure _
        exact keeps_forSome _ fun _ => keeps_addBookingHistory _
    · refine lightens_bind (lightens_of_audited (PaymentLinks.spares_settlePayment _ _ _ _)) fun _ => ?_
      exact lightens_bind (lightens_of_keeps (keeps_emit _)) fun _ => lightens_pure _

theorem lightens_settleTarget (link : Orm PaymentLinkRow) (paidAt : Instant) :
    Leads Lightens (PaymentLinks.settleTarget link paidAt) := by
  unfold PaymentLinks.settleTarget
  cases link.row.targetType with
  | booking =>
    refine lightens_bind (lightens_attempt (lightens_settleBooking link paidAt)) fun r => ?_
    cases r with
    | ok link => exact lightens_pure _
    | error exc => exact lightens_pure _
  | giftVoucher =>
    refine lightens_bind (lightens_of_audited (PaymentLinks.spares_payVoucher _ _).attempt) fun r => ?_
    cases r with
    | error exc => exact lightens_pure _
    | ok paid =>
      refine lightens_bind
        (lightens_of_audited (PaymentLinks.spares_activateVoucher _ _ _ _).attempt) fun r => ?_
      cases r with
      | ok _ => exact lightens_pure _
      | error exc => exact lightens_pure _
  | product => exact lightens_pure _

theorem lightens_apply (row : PaymentLinkRow) (state : PaymentLinks.GatewayPaymentState)
    (source : String) : Leads Lightens (PaymentLinks.apply (.ofRow row) state source) := by
  unfold PaymentLinks.apply
  cases state.status with
  | paid =>
    show Leads Lightens (PaymentLinks.applyPaid (.ofRow row) state source)
    unfold PaymentLinks.applyPaid
    split_ifs
    · exact lightens_pure _
    · exact lightens_pure _
    · refine lightens_bind (lightens_of_keeps (keeps_ask _)) fun now => ?_
      refine lightens_bind (lightens_of_tables (spares_flushLink _)) fun link => ?_
      refine lightens_bind (lightens_settleTarget link now) fun x => ?_
      rcases x with ⟨link, failure⟩
      cases failure with
      | some exc => exact lightens_of_tables (PaymentLinks.spares_refundNotActivatable _ _ _)
      | none => exact lightens_bind (lightens_of_tables (spares_flushLink _)) fun _ => lightens_pure _
  | failed =>
    show Leads Lightens (PaymentLinks.recordFailure (.ofRow row) state source)
    unfold PaymentLinks.recordFailure
    split_ifs
    · exact lightens_pure _
    · refine lightens_bind (lightens_of_keeps (keeps_ask _)) fun _ => ?_
      exact lightens_bind (lightens_of_keeps (keeps_call _ _)) fun _ => lightens_pure _
  | expired => exact lightens_pure _
  | canceled => exact lightens_pure _
  | pending => exact lightens_pure _

theorem lightens_applyTo (linkId : Uuid) (state : PaymentLinks.GatewayPaymentState) (source : String) :
    Leads Lightens (PaymentLinks.applyTo linkId state source) := by
  refine lightens_bind (lightens_of_keeps (Spares.keeps (PaymentLinks.spares_getLockedLink _))) fun row => ?_
  cases row with
  | none => exact lightens_pure _
  | some row =>
    refine lightens_bind (lightens_apply row state source) fun x => ?_
    exact lightens_bind (lightens_of_tables (spares_flushLink x.2).discard) fun _ => lightens_pure _

end Lightening

end Booking
