import UshBookNPay.Booking.SessionRuns
import UshBookNPay.Core.Rules

/-!
# What the session writers leave

`create_booking` adds one booking, `update_booking` and `change_session_therapist` write one, and what
they ask and check before leaves the bookings alone. So a property of the schedule of a booking is kept
by every call that keeps it of the one booking it writes.
-/

open Transactions
open Transactions.Prog (query update raiseIf ask emit forSome)

namespace Booking

/-! ## Schedules -/

/-- The bookings agree in what concerns their sessions. -/
structure SameSchedule (b b' : BookingRow) : Prop where
  sessions : b'.sessions = b.sessions
  services : b'.services = b.services
  therapistId : b'.therapistId = b.therapistId
  secondaryTherapistId : b'.secondaryTherapistId = b.secondaryTherapistId
  addons : b'.addons = b.addons
  appointmentDate : b'.appointmentDate = b.appointmentDate
  appointmentStart : b'.appointmentStart = b.appointmentStart
  appointmentEnd : b'.appointmentEnd = b.appointmentEnd
  durationMinutes : b'.durationMinutes = b.durationMinutes
  extraMinutes : b'.extraMinutes = b.extraMinutes
  addonsDuration : b'.addonsDuration = b.addonsDuration
  totalDuration : b'.totalDuration = b.totalDuration

theorem sameSchedule_assign (u b : BookingRow) (a : PaymentAttribution.Attribution) :
    SameSchedule u ((assignUpdated u b).setAttribution a) := by
  constructor <;> rfl

theorem sameSchedule_status (args : UpdateArgs) (status : BookingStatus) (now : Instant)
    (u b : BookingRow) (a : PaymentAttribution.Attribution) :
    SameSchedule u ((assignUpdated (applyStatus args status now u) b).setAttribution a) := by
  constructor <;> rfl

theorem sameSchedule_written (b : BookingRow) (a : PaymentAttribution.Attribution) :
    SameSchedule b (b.setAttribution a) := by
  constructor <;> rfl

/-- `P` is a property of the schedule. -/
def OfSchedule (P : BookingRow → Prop) : Prop := ∀ b b', SameSchedule b b' → P b → P b'

/-! ## What leaves the bookings alone -/

theorem keeps_checkTherapistOverlap {O : Type} {g : Db → O} (therapistId : Uuid)
    (start finish : Instant) (excludeId : Option Uuid) :
    Keeps g (checkTherapistOverlap therapistId start finish excludeId) :=
  keeps_query _

theorem keeps_checkFree {O : Type} {g : Db → O} (bookingId : Uuid) (start finish : Instant)
    (message : String) (t : Uuid) : Keeps g (checkFree bookingId start finish message t) :=
  (keeps_checkTherapistOverlap _ _ _ _).bind fun _ => keeps_raiseIf _ _

theorem keeps_checkSlot (start finish : Instant) (t : Uuid) :
    Keeps Db.bookings (checkSlot start finish t) :=
  (keeps_checkTherapistOverlap _ _ _ _).bind fun _ => keeps_raiseIf _ _

theorem keeps_checkSessionSlots (sessions : List Session) :
    Keeps Db.bookings (checkSessionSlots sessions) := by
  induction sessions with
  | nil => exact keeps_pure ()
  | cons s rest ih =>
    refine (keeps_forSome _ fun t => keeps_checkSlot _ _ t).bind fun _ => ?_
    exact (keeps_forSome _ fun t => keeps_checkSlot _ _ t).bind fun _ => ih

theorem keeps_checkSessionTherapist (bookingId : Uuid) (s : Session) (t : Uuid) :
    Keeps Db.bookings (checkSessionTherapist bookingId s t) := by
  refine (keeps_checkTherapistOverlap _ _ _ _).bind fun busy => ?_
  refine Keeps.ite ?_ (keeps_pure ())
  exact (keeps_query _).bind fun _ => keeps_throw _

theorem keeps_checkSessionsFree (bookingId : Uuid) (sessions : List Session) :
    Keeps Db.bookings (checkSessionsFree bookingId sessions) := by
  induction sessions with
  | nil => exact keeps_pure ()
  | cons s rest ih =>
    refine (keeps_forSome _ fun t => keeps_checkSessionTherapist _ s t).bind fun _ => ?_
    exact (keeps_forSome _ fun t => keeps_checkSessionTherapist _ s t).bind fun _ => ih

theorem keeps_checkReplacement (args : UpdateArgs) (row : BookingRow) :
    Keeps Db.bookings (checkReplacement args row) := by
  refine keeps_forSome _ fun sessions => ?_
  refine (keeps_raiseIf _ _).bind fun _ => ?_
  split_ifs
  · exact (keeps_pure ()).bind fun _ => keeps_raiseIf _ _
  · exact (keeps_checkSessionsFree _ _).bind fun _ => keeps_raiseIf _ _

theorem keeps_checkServices (args : UpdateArgs) : Keeps Db.bookings (checkServices args) :=
  keeps_forSome _ fun _ => keeps_raiseIf _ _

theorem keeps_checkTherapists (args : UpdateArgs) (parked : Bool) (b : BookingRow) :
    Keeps Db.bookings (checkTherapists args parked b) := by
  refine (keeps_raiseIf _ _).bind fun _ => ?_
  refine Keeps.ite ?_ (keeps_pure ())
  refine (keeps_checkFree _ _ _ _ _).bind fun _ => ?_
  exact keeps_forSome _ fun t => keeps_checkFree _ _ _ _ t

theorem keeps_checkParking (status old : BookingStatus) (b : BookingRow) :
    Keeps Db.bookings (checkParking status old b) :=
  (keeps_raiseIf _ _).bind fun _ => keeps_raiseIf _ _

theorem keeps_deleteHold (bookingId : Uuid) : Keeps Db.bookings (deleteHold bookingId) :=
  keeps_update _ fun _ => rfl

theorem keeps_holdSlot (bookingId therapistId arrangementId : Uuid) (start finish : Instant) :
    Keeps Db.bookings (holdSlot bookingId therapistId arrangementId start finish) := by
  refine (keeps_ask _).bind fun now => (keeps_ask _).bind fun id => ?_
  exact keeps_checkedUpdate _ _ fun _ => rfl

theorem keeps_holdSessions (bookingId : Uuid) (sessions : List Session) :
    Keeps Db.bookings (holdSessions bookingId sessions) := by
  induction sessions with
  | nil => exact keeps_pure ()
  | cons s rest ih =>
    exact (keeps_forSome _ fun _ => keeps_holdSlot _ _ _ _ _).bind fun _ => ih

theorem keeps_holdBooking (b : BookingRow) : Keeps Db.bookings (holdBooking b) := by
  refine Keeps.ite (keeps_pure ()) (Keeps.ite (keeps_holdSessions _ _) ?_)
  exact keeps_forSome _ fun _ => keeps_holdSlot _ _ _ _ _

theorem keeps_addBookingHistory (row : BookingStatusHistoryRow) :
    Keeps Db.bookings (addBookingHistory row) :=
  keeps_update _ fun _ => rfl

theorem keeps_emit (e : Emission) : Keeps Db.bookings (emit e : Tx Unit) := keeps_call _ _

theorem keeps_dispatchStatusEvent (b : BookingRow) (status : BookingStatus) :
    Keeps Db.bookings (dispatchStatusEvent b status) :=
  Keeps.ite (keeps_emit _) (Keeps.ite (keeps_emit _) (keeps_pure ()))

theorem keeps_generateBookingNumber (start : Instant) :
    Keeps Db.bookings (generateBookingNumber start) :=
  (keeps_queryForUpdate _ _).bind fun _ => keeps_query _

theorem keeps_checkNewTherapist {O : Type} {g : Db → O} (bookingId : Uuid) (target : Session)
    (t : Uuid) : Keeps g (checkNewTherapist bookingId target t) :=
  Keeps.ite (keeps_pure ()) (keeps_checkFree _ _ _ _ _)

theorem keeps_moveHold (bookingId : Uuid) (target : Session) (t : Uuid) :
    Keeps Db.bookings (moveHold bookingId target t) :=
  keeps_update _ fun _ => rfl

/-! ## What is written -/

section Writes

variable {P : BookingRow → Prop} {d : Db} {es : List Emission}

/-- `P` of every booking, however the program ends. -/
abbrev Leaves (P : BookingRow → Prop) {α : Type} (p : Tx α) (d : Db) (es : List Emission) : Prop :=
  Ensures (fun _ => True) (fun _ d' _ => EveryBooking P d') p d es

theorem leaves_of_keeps {α : Type} {p : Tx α} (hp : Keeps Db.bookings p) (hd : EveryBooking P d) :
    Leaves P p d es := by
  refine (hp d es).mono (fun _ h => h) ?_
  intro r d' es' heq b hb
  rw [heq] at hb
  exact hd b hb

/-- What comes after a program that leaves the bookings alone. -/
theorem leaves_bind_keeps {α β : Type} {p : Tx α} {f : α → Tx β} (hp : Keeps Db.bookings p)
    (hd : EveryBooking P d)
    (hf : ∀ a d' es', d'.bookings = d.bookings → EveryBooking P d' → Leaves P (f a) d' es') :
    Leaves P (p >>= f) d es := by
  have hevery : ∀ d' : Db, d'.bookings = d.bookings → EveryBooking P d' := by
    intro d' heq b hb
    rw [heq] at hb
    exact hd b hb
  refine (hp d es).bind ?_ ?_
  · exact fun a d' es' heq => hf a d' es' heq (hevery d' heq)
  · exact fun _ d' _ heq => hevery d' heq

theorem leaves_bind {α β : Type} {p : Tx α} {f : α → Tx β} (hp : Leaves P p d es)
    (hf : ∀ a d' es', EveryBooking P d' → Leaves P (f a) d' es') : Leaves P (p >>= f) d es :=
  Ensures.bind hp hf fun _ _ _ h => h

/-- A booking is written with the schedule of `u`. -/
theorem leaves_flushBooking {row u : BookingRow} {f : BookingRow → BookingRow} (hP : OfSchedule P)
    (hu : P u) (hsame : ∀ b a, SameSchedule u ((f b).setAttribution a)) (hd : EveryBooking P d) :
    Leaves P (flushBooking ((Orm.ofRow row).set f)) d es := by
  refine (ensures_writeBooking trivial).mono (fun _ h => h) ?_
  intro r d' es' h
  cases r with
  | error e => exact h.elim
  | ok w =>
    obtain ⟨-, -, rfl⟩ := h
    intro b hb
    obtain ⟨hb, -⟩ | ⟨b₀, -, -, rfl⟩ := Table.mem_modify.mp hb
    · exact hd b hb
    · exact hP u _ (hsame b₀ _) hu

theorem leaves_insertBooking {b : BookingRow} (hP : OfSchedule P) (hb : P b)
    (hd : EveryBooking P d) : Leaves P (insertBooking b) d es := by
  unfold insertBooking
  rw [Leaves, ensures_bind, ensures_checkedUpdate]
  refine ⟨trivial, ?_⟩
  cases bookingConflict d b.beforeWrite with
  | some e => exact hd
  | none =>
    intro b' hb'
    rcases List.mem_append.mp hb' with hb' | hb'
    · exact hd b' hb'
    · rw [List.mem_singleton.mp hb']
      exact hP b _ (sameSchedule_written b _) hb

theorem leaves_createBooking {args : CreateArgs} (hP : OfSchedule P)
    (hnew : ∀ id bookingNumber, P (newBooking args id bookingNumber)) (hd : EveryBooking P d) :
    Leaves P (createBooking args) d es := by
  refine leaves_bind_keeps (keeps_raiseIf _ _) hd fun _ d₁ es₁ _ hd₁ => ?_
  refine leaves_bind_keeps (keeps_raiseIf _ _) hd₁ fun _ d₂ es₂ _ hd₂ => ?_
  refine leaves_bind_keeps (keeps_query _) hd₂ fun existing d₃ es₃ _ hd₃ => ?_
  cases existing with
  | some booking => exact hd₃
  | none =>
    refine leaves_bind_keeps (keeps_raiseIf _ _) hd₃ fun _ d₄ es₄ _ hd₄ => ?_
    have hinsert : ∀ (d : Db) (es : List Emission), EveryBooking P d → Leaves P
        (do
          let bookingNumber ← generateBookingNumber args.appointmentStart
          let id ← ask Env.uuid
          let booking ← insertBooking (newBooking args id bookingNumber)
          holdBooking booking
          addBookingHistory { bookingId := booking.id, oldStatus := none, newStatus := booking.status,
                              source := args.source, reason := "" }
          if booking.status = .confirmed then emit (.bookingConfirmed booking.id) else pure ()
          pure booking) d es := by
      intro d es hd
      refine leaves_bind_keeps (keeps_generateBookingNumber _) hd fun number d₅ es₅ _ hd₅ => ?_
      refine leaves_bind_keeps (keeps_ask _) hd₅ fun id d₆ es₆ _ hd₆ => ?_
      refine leaves_bind (leaves_insertBooking hP (hnew id number) hd₆) fun booking d₇ es₇ hd₇ => ?_
      refine leaves_of_keeps ?_ hd₇
      refine (keeps_holdBooking _).bind fun _ => (keeps_addBookingHistory _).bind fun _ => ?_
      split_ifs
      · exact (keeps_emit _).bind fun _ => keeps_pure _
      · exact (keeps_pure _).bind fun _ => keeps_pure _
    split_ifs
    · exact leaves_bind_keeps (keeps_checkSessionSlots _) hd₄ fun _ d₅ es₅ _ hd₅ => hinsert _ _ hd₅
    · refine leaves_bind_keeps (keeps_checkSlot _ _ _) hd₄ fun _ d₅ es₅ _ hd₅ => ?_
      refine leaves_bind_keeps (keeps_forSome _ fun _ => keeps_checkSlot _ _ _) hd₅ ?_
      exact fun _ d₆ es₆ _ hd₆ => hinsert _ _ hd₆

theorem ensures_getById {bookingId : Uuid} :
    Ensures (fun _ => True) (Reads d es fun row => Table.get d.bookings bookingId = some row)
      (getById bookingId) d es := by
  unfold getById
  rw [ensures_bind_queryForUpdate]
  refine ⟨trivial, ?_⟩
  cases hrow : Table.get d.bookings bookingId with
  | none => exact ⟨rfl, rfl, fun _ h => (by cases h)⟩
  | some row => exact ⟨rfl, rfl, fun b h => (by cases h; rfl)⟩

theorem leaves_updateBooking {bookingId : Uuid} {args : UpdateArgs} (hP : OfSchedule P)
    (hupdate : ∀ row, Table.get d.bookings bookingId = some row → P (updatedColumns args row))
    (hd : EveryBooking P d) : Leaves P (updateBooking bookingId args) d es := by
  refine ensures_getById.bind_reads ?_ fun _ => hd
  intro row hrow
  have hu : P (updatedColumns args row) := hupdate row hrow
  refine leaves_bind_keeps (keeps_checkReplacement _ _) hd fun _ d₁ es₁ _ hd₁ => ?_
  refine leaves_bind_keeps (keeps_checkServices _) hd₁ fun _ d₂ es₂ _ hd₂ => ?_
  refine leaves_bind_keeps (keeps_checkTherapists _ _ _) hd₂ fun _ d₃ es₃ _ hd₃ => ?_
  dsimp only
  by_cases hstatus : args.status.getD row.status ≠ row.status
  · rw [if_pos hstatus]
    refine leaves_bind_keeps (keeps_checkParking _ _ _) hd₃ fun _ d₄ es₄ _ hd₄ => ?_
    refine leaves_bind_keeps (keeps_ask _) hd₄ fun now d₅ es₅ _ hd₅ => ?_
    have hwrite : ∀ (d : Db) (es : List Emission), EveryBooking P d → Leaves P
        (do
          let written ← flushBooking ((Orm.ofRow row).set (assignUpdated
            (applyStatus args (args.status.getD row.status) now (updatedColumns args row))))
          addBookingHistory { bookingId := bookingId, oldStatus := some row.status,
                              newStatus := args.status.getD row.status,
                              source := args.source, reason := Text.orEmpty args.reason }
          if internalSource args.source then pure ()
          else dispatchStatusEvent written.row (args.status.getD row.status)
          pure written.row) d es := by
      intro d es hd
      refine leaves_bind (leaves_flushBooking hP hu (sameSchedule_status _ _ _ _) hd) ?_
      intro written d₆ es₆ hd₆
      refine leaves_of_keeps ?_ hd₆
      refine (keeps_addBookingHistory _).bind fun _ => ?_
      split_ifs
      · exact (keeps_pure _).bind fun _ => keeps_pure _
      · exact (keeps_dispatchStatusEvent _ _).bind fun _ => keeps_pure _
    by_cases hrelease : releasesHold (args.status.getD row.status)
    · rw [if_pos hrelease]
      exact leaves_bind_keeps (keeps_deleteHold _) hd₅ fun _ d₆ es₆ _ hd₆ => hwrite _ _ hd₆
    · rw [if_neg hrelease]
      exact hwrite _ _ hd₅
  · rw [if_neg hstatus]
    refine leaves_bind (leaves_flushBooking hP hu (sameSchedule_assign _) hd₃) ?_
    intro written d₄ es₄ hd₄
    refine leaves_of_keeps ?_ hd₄
    split_ifs
    · exact (keeps_emit _).bind fun _ => keeps_pure _
    · exact (keeps_pure _).bind fun _ => keeps_pure _

theorem leaves_changeSessionTherapist {bookingId sessionId : Uuid} {args : ChangeArgs}
    (hP : OfSchedule P)
    (hchange : ∀ row, Table.get d.bookings bookingId = some row →
      P (changedColumns sessionId args row))
    (hd : EveryBooking P d) : Leaves P (changeSessionTherapist bookingId sessionId args) d es := by
  refine ensures_getById.bind_reads ?_ fun _ => hd
  intro row hrow
  have hu : P (changedColumns sessionId args row) := hchange row hrow
  cases (getBookingSessions row).find? (·.sessionId = sessionId) with
  | none => exact hd
  | some target =>
    refine leaves_bind_keeps (keeps_raiseIf _ _) hd fun _ d₁ es₁ _ hd₁ => ?_
    refine leaves_bind_keeps (keeps_forSome _ fun _ => keeps_checkNewTherapist _ _ _) hd₁ ?_
    intro _ d₂ es₂ _ hd₂
    refine leaves_bind_keeps (keeps_forSome _ fun _ => keeps_checkNewTherapist _ _ _) hd₂ ?_
    intro _ d₃ es₃ _ hd₃
    refine leaves_bind_keeps (keeps_raiseIf _ _) hd₃ fun _ d₄ es₄ _ hd₄ => ?_
    have hwrite : ∀ (d : Db) (es : List Emission), EveryBooking P d → Leaves P
        (do
          let written ← flushBooking ((Orm.ofRow row).set
            (assignUpdated (changedColumns sessionId args row)))
          pure written.row) d es := by
      intro d es hd
      refine leaves_bind (leaves_flushBooking hP hu (sameSchedule_assign _) hd) ?_
      exact fun _ _ _ h => h
    split_ifs
    · refine leaves_bind_keeps (keeps_forSome _ fun _ => keeps_moveHold _ _ _) hd₄ ?_
      exact fun _ d₅ es₅ _ hd₅ => hwrite _ _ hd₅
    · exact hwrite _ _ hd₄

end Writes

/-! ## Steps -/

/-- A property of the schedule is kept by every call that meets the conditions, where they keep it of
the booking the call writes. -/
theorem everyBooking_step {P : BookingRow → Prop} {k : Conditions} (hP : OfSchedule P)
    (hnew : ∀ plan args full, createArgs plan args = .ok full → k.C full →
      ∀ id bookingNumber, P (newBooking full id bookingNumber))
    (hupdate : ∀ plan args full row, updateArgs plan args = .ok full → P row → k.U full row →
      P (updatedColumns full row))
    (hchange : ∀ sessionId args row, P row → k.T row → P (changedColumns sessionId args row))
    {d : Db} {x : BookingOp × (ℕ → Env)} (hd : EveryBooking P d) (hx : k.Meets d x) :
    EveryBooking P (bookingStep d x) := by
  have hcommit : ∀ {p : Tx Unit}, Leaves P p d [] →
      EveryBooking P (Transactions.atomically x.2 p d) := by
    intro p hp
    refine Ensures.atomically ?_ x.2
    refine hp.mono (fun _ h => h) ?_
    intro r d' es' hd'
    cases r with
    | ok a => exact hd'
    | error e => exact hd
  have hdiscard : ∀ {α : Type} {p : Tx α}, Leaves P p d [] → Leaves P (discard p) d [] :=
    fun hp => leaves_bind hp fun _ _ _ h => h
  obtain ⟨op, env⟩ := x
  have hrow : ∀ {bookingId : Uuid} {row : BookingRow},
      Table.get d.bookings bookingId = some row → P row :=
    fun hget => hd _ (Table.get_some hget).1
  refine hcommit ?_
  cases op with
  | createBooking plan args =>
    show Leaves P (withArgs (createArgs plan args) createBooking) d []
    cases hfull : createArgs plan args with
    | error e => exact hd
    | ok full =>
      exact hdiscard (leaves_createBooking hP (hnew plan args full hfull (hx full hfull)) hd)
  | updateBooking bookingId plan args =>
    show Leaves P (withArgs (updateArgs plan args) (updateBooking bookingId)) d []
    cases hfull : updateArgs plan args with
    | error e => exact hd
    | ok full =>
      refine hdiscard (leaves_updateBooking hP (fun row hget => ?_) hd)
      exact hupdate plan args full row hfull (hrow hget) (hx full hfull row hget)
  | changeSessionTherapist bookingId sessionId args =>
    refine hdiscard (leaves_changeSessionTherapist hP (fun row hget => ?_) hd)
    exact hchange sessionId args row (hrow hget) (hx row hget)

end Booking
