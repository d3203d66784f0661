import UshBookNPay.Booking.Proofs.TherapistChangeProofs
import UshBookNPay.Booking.Proofs.SessionPlanProofs

/-!
# The holds of a new booking

`create_booking` holds the slot of each session that has an arrangement, and the table of the holds
takes one for each booking.
-/

open Transactions
open Transactions.Prog (query update raiseIf ask emit forSome)

namespace Booking

variable {args : CreateArgs} {l P : List Session} {s : Session} {bookingId : Uuid} {b : BookingRow}
  {d : Db} {es : List Emission} {mid : List Emission → Prop}

/-! ## What is to be held -/

/-- The sessions that have an arrangement. -/
def arranged (sessions : List Session) : List Session :=
  sessions.filter fun s => s.serviceArrangementId ≠ none

/-- The hold of a session of the booking: its first therapist, its arrangement and its window. -/
structure HoldFor (bookingId : Uuid) (s : Session) (h : TemporaryHoldRow) : Prop where
  booking : h.bookingId = bookingId
  therapist : some h.therapistId = s.therapistId
  arrangement : some h.serviceArrangementId = s.serviceArrangementId
  start : h.appointmentStart = s.appointmentStart
  finish : h.appointmentEnd = s.appointmentEnd

/-- One hold has come for each session that has an arrangement, and no other. -/
def HoldsPlaced (bookingId : Uuid) (sessions : List Session) (d d' : Db) : Prop :=
  ∃ holds, d'.temporaryHolds = d.temporaryHolds ++ holds ∧
    List.Forall₂ (HoldFor bookingId) (arranged sessions) holds

/-- A constraint of the schema refuses a statement. -/
def ViolatesConstraint (e : Error) : Prop := ∃ constraint, e = .integrity constraint

/-- No constraint is violated, and the slots of a new booking are held. -/
structure HeldPerSession (sessions : List Session) (d : Db)
    (result : Except Error BookingRow × Db × List Emission) : Prop where
  lawful : ∀ e, result.1 = .error e → ¬ ViolatesConstraint e
  placed : ∀ b, result.1 = .ok b → b ∉ d.bookings → HoldsPlaced b.id sessions d result.2.1

/-- The key of the call is that of a booking. -/
def KeyKnown (args : CreateArgs) (d : Db) : Prop :=
  Text.truthy args.idempotencyKey ∧ ∃ b ∈ d.bookings, b.idempotencyKey = args.idempotencyKey

/-- A therapist of the session is taken in its window. -/
def SlotTaken (d : Db) (s : Session) : Prop :=
  ∃ t, Serves s t ∧ (findTherapistOverlap t s.appointmentStart s.appointmentEnd none d).isSome

/-- The checks of `create_booking` let the call through. -/
structure Admitted (args : CreateArgs) (d : Db) : Prop where
  services : args.services ≠ []
  few : args.services.length ≤ MAX_SERVICES_PER_BOOKING
  distinct : args.secondaryTherapistId ≠ some args.therapistId
  free : ∀ s ∈ args.sessions, ¬ SlotTaken d s

/-- The number of the next booking in the month of the appointment. -/
def nextBookingNumber (start : Instant) (d : Db) : String :=
  nextNumber ("BOK/" ++ pad 4 (civilDate (localDay start)).1 ++ "/" ++
    pad 2 (civilDate (localDay start)).2.1 ++ "/") (d.bookings.filterMap (·.bookingNumber))

/-- The constraints have room for the booking: its number and an empty key are not in use, and it
needs one hold at most. -/
structure RoomFor (args : CreateArgs) (d : Db) : Prop where
  number : ∀ b ∈ d.bookings, b.bookingNumber ≠ some (nextBookingNumber args.appointmentStart d)
  key : args.idempotencyKey = some "" → ∀ b ∈ d.bookings, b.idempotencyKey ≠ some ""
  holds : (arranged args.sessions).length ≤ 1

/-! ## The checks -/

theorem ensures_checkSlot (start finish : Instant) (t : Uuid) (hmid : mid es) :
    Ensures mid (fun r d' es' => d' = d ∧ es' = es ∧
        ((findTherapistOverlap t start finish none d).isSome ∧
            (∃ m, r = .error (.doubleBooking m)) ∨
          ¬ (findTherapistOverlap t start finish none d).isSome ∧ r = .ok ()))
      (checkSlot start finish t) d es := by
  unfold checkSlot checkTherapistOverlap
  rw [ensures_bind_query, ensures_raiseIf]
  exact ⟨hmid, fun h => ⟨rfl, rfl, .inl ⟨h, _, rfl⟩⟩, fun h => ⟨rfl, rfl, .inr ⟨h, rfl⟩⟩⟩

/-- The slot of a therapist that a session may have. -/
theorem ensures_forSome_checkSlot (o : Option Uuid) (start finish : Instant) (hmid : mid es) :
    Ensures mid (fun r d' es' => d' = d ∧ es' = es ∧
        ((∃ t ∈ o, (findTherapistOverlap t start finish none d).isSome) ∧
            (∃ m, r = .error (.doubleBooking m)) ∨
          ¬ (∃ t ∈ o, (findTherapistOverlap t start finish none d).isSome) ∧ r = .ok ()))
      (forSome o (checkSlot start finish)) d es := by
  rw [ensures_forSome]
  constructor
  · rintro rfl
    refine ⟨rfl, rfl, .inr ⟨?_, rfl⟩⟩
    rintro ⟨t, ht, -⟩
    cases ht
  · rintro t rfl
    refine (ensures_checkSlot start finish t hmid).mono (fun _ h => h) ?_
    rintro r d' es' ⟨rfl, rfl, ⟨htaken, hr⟩ | ⟨hfree, hr⟩⟩
    · exact ⟨rfl, rfl, .inl ⟨⟨t, rfl, htaken⟩, hr⟩⟩
    · refine ⟨rfl, rfl, .inr ⟨?_, hr⟩⟩
      rintro ⟨t', ht', htaken⟩
      cases ht'
      exact hfree htaken

/-- The slots of the sessions, one after the other: the first that is taken ends the call. -/
theorem ensures_checkSessionSlots (hmid : mid es) :
    Ensures mid (fun r d' es' => d' = d ∧ es' = es ∧
        ((∃ s ∈ l, SlotTaken d s) ∧ (∃ m, r = .error (.doubleBooking m)) ∨
          (∀ s ∈ l, ¬ SlotTaken d s) ∧ r = .ok ()))
      (checkSessionSlots l) d es := by
  induction l with
  | nil => exact ⟨rfl, rfl, .inr ⟨by simp, rfl⟩⟩
  | cons s rest ih =>
    unfold checkSessionSlots
    refine (ensures_forSome_checkSlot s.therapistId _ _ hmid).bind ?_ ?_
    · rintro ⟨⟩ d₁ es₁ ⟨rfl, rfl, ⟨-, m, h⟩ | ⟨hprimary, -⟩⟩
      · cases h
      refine (ensures_forSome_checkSlot s.secondaryTherapistId _ _ hmid).bind ?_ ?_
      · rintro ⟨⟩ d₂ es₂ ⟨rfl, rfl, ⟨-, m, h⟩ | ⟨hsecondary, -⟩⟩
        · cases h
        have hfree : ¬ SlotTaken d₂ s := by
          rintro ⟨t, hserves | hserves, htaken⟩
          · exact hprimary ⟨t, hserves, htaken⟩
          · exact hsecondary ⟨t, hserves, htaken⟩
        refine ih.mono (fun _ h => h) ?_
        rintro r d' es' ⟨rfl, rfl, ⟨⟨s', hs', htaken⟩, hr⟩ | ⟨hrest, hr⟩⟩
        · exact ⟨rfl, rfl, .inl ⟨⟨s', List.mem_cons_of_mem _ hs', htaken⟩, hr⟩⟩
        · refine ⟨rfl, rfl, .inr ⟨fun s' hs' => ?_, hr⟩⟩
          rcases List.mem_cons.mp hs' with rfl | hs'
          · exact hfree
          · exact hrest s' hs'
      · rintro e d₂ es₂ ⟨rfl, rfl, ⟨⟨t, ht, htaken⟩, m, he⟩ | ⟨-, h⟩⟩
        · have htake : ∃ s' ∈ s :: rest, SlotTaken d₂ s' :=
            ⟨s, List.mem_cons_self, t, .inr ht, htaken⟩
          exact ⟨rfl, rfl, .inl ⟨htake, m, by rw [Except.error.inj he]⟩⟩
        · cases h
    · rintro e d₁ es₁ ⟨rfl, rfl, ⟨⟨t, ht, htaken⟩, m, he⟩ | ⟨-, h⟩⟩
      · have htake : ∃ s' ∈ s :: rest, SlotTaken d₁ s' :=
          ⟨s, List.mem_cons_self, t, .inl ht, htaken⟩
        exact ⟨rfl, rfl, .inl ⟨htake, m, by rw [Except.error.inj he]⟩⟩
      · cases h

/-! ## The holds -/

/-- A hold is taken where the booking has none, and refused where it has one. -/
theorem ensures_holdSlot {therapistId arrangementId : Uuid} {start finish : Instant}
    (hmid : mid es) :
    Ensures mid (fun r d' es' => es' = es ∧
        ((∃ h ∈ d.temporaryHolds, h.bookingId = bookingId) ∧ (∃ c, r = .error (.integrity c)) ∨
          (¬ ∃ h ∈ d.temporaryHolds, h.bookingId = bookingId) ∧ r = .ok () ∧
            ∃ h : TemporaryHoldRow, d' = { d with temporaryHolds := d.temporaryHolds ++ [h] } ∧
              h.bookingId = bookingId ∧ h.therapistId = therapistId ∧
              h.serviceArrangementId = arrangementId ∧ h.appointmentStart = start ∧
              h.appointmentEnd = finish))
      (holdSlot bookingId therapistId arrangementId start finish) d es := by
  unfold holdSlot createHold
  rw [ensures_bind_ask]
  refine ⟨hmid, fun now => ?_⟩
  rw [ensures_bind_ask]
  refine ⟨hmid, fun id => ?_⟩
  rw [ensures_checkedUpdate]
  refine ⟨hmid, ?_⟩
  by_cases hheld : ∃ h ∈ d.temporaryHolds, h.bookingId = bookingId
  · have hany : d.temporaryHolds.any (·.bookingId = bookingId) := by simpa using hheld
    dsimp only
    rw [if_pos hany]
    exact ⟨rfl, .inl ⟨hheld, _, rfl⟩⟩
  · have hany : ¬ d.temporaryHolds.any (·.bookingId = bookingId) := by simpa using hheld
    dsimp only
    rw [if_neg hany]
    exact ⟨rfl, .inr ⟨hheld, rfl, _, rfl, rfl, rfl, rfl, rfl, rfl⟩⟩

/-- What is held for the sessions: one hold at most, where the booking has none. -/
theorem ensures_holdSessions (hmid : mid es) (htherapist : ∀ s ∈ l, s.therapistId ≠ none) :
    Ensures mid (fun r d' es' => es' = es ∧
        ((¬ (∃ h ∈ d.temporaryHolds, h.bookingId = bookingId) ∨ arranged l = []) ∧
            (arranged l).length ≤ 1 ∧ r = .ok () ∧
            (∃ holds, d' = { d with temporaryHolds := d.temporaryHolds ++ holds } ∧
              List.Forall₂ (HoldFor bookingId) (arranged l) holds) ∨
          ¬ ((¬ (∃ h ∈ d.temporaryHolds, h.bookingId = bookingId) ∨ arranged l = []) ∧
            (arranged l).length ≤ 1) ∧ ∃ c, r = .error (.integrity c)))
      (holdSessions bookingId l) d es := by
  induction l generalizing d with
  | nil =>
    refine ⟨rfl, .inl ⟨.inr rfl, by simp [arranged], rfl, [], ?_, .nil⟩⟩
    rw [List.append_nil]
  | cons s rest ih =>
    have hrest : ∀ s' ∈ rest, s'.therapistId ≠ none := fun s' hs' =>
      htherapist s' (List.mem_cons_of_mem _ hs')
    unfold holdSessions
    cases harrangement : s.serviceArrangementId with
    | none =>
      have hskip : arranged (s :: rest) = arranged rest := by simp [arranged, harrangement]
      rw [hskip]
      exact ih hrest
    | some arrangementId =>
      have htake : arranged (s :: rest) = s :: arranged rest := by simp [arranged, harrangement]
      obtain ⟨t, ht⟩ := Option.ne_none_iff_exists'.mp (htherapist s List.mem_cons_self)
      rw [htake]
      refine (ensures_holdSlot hmid).bind ?_ ?_
      · rintro ⟨⟩ d₁ es₁ ⟨rfl, ⟨-, c, h⟩ | ⟨hfree, -, h, rfl, hheld⟩⟩
        · cases h
        obtain ⟨hbooking, htherapist', harr, hstart, hend⟩ := hheld
        have hfor : HoldFor bookingId s h := by
          refine ⟨hbooking, ?_, ?_, hstart, hend⟩
          · rw [htherapist', ht]
            rfl
          · rw [harr, harrangement]
        have hheld : ∃ h' ∈ d.temporaryHolds ++ [h], h'.bookingId = bookingId :=
          ⟨h, List.mem_append_right _ (List.mem_singleton_self h), hbooking⟩
        refine (ih hrest).mono (fun _ h => h) ?_
        rintro r d' es' ⟨rfl, ⟨hone, -, hr, holds, rfl, hholds⟩ | ⟨hmany, c, hr⟩⟩
        · have hnone : arranged rest = [] := hone.resolve_left fun hnot => hnot hheld
          rw [hnone] at hholds ⊢
          obtain rfl := List.forall₂_nil_left_iff.mp hholds
          refine ⟨rfl, .inl ⟨.inl hfree, by simp, hr, [h], ?_, .cons hfor .nil⟩⟩
          rw [List.append_nil]
        · refine ⟨rfl, .inr ⟨?_, c, hr⟩⟩
          rintro ⟨-, hlen⟩
          have hnone : arranged rest = [] := by
            apply List.length_eq_zero_iff.mp
            rw [List.length_cons] at hlen
            omega
          exact hmany ⟨.inr hnone, by simp [hnone]⟩
      · rintro e d₁ es₁ ⟨rfl, ⟨hheld, c, he⟩ | ⟨-, h, -⟩⟩
        · refine ⟨rfl, .inr ⟨?_, c, by rw [Except.error.inj he]⟩⟩
          rintro ⟨hnot | hnil, -⟩
          · exact hnot hheld
          · cases hnil
        · cases h

/-! ## The new row -/

theorem ensures_generateBookingNumber (start : Instant) (hmid : mid es) :
    Ensures mid
      (Returns fun number d' es' => number = nextBookingNumber start d ∧ d' = d ∧ es' = es)
      (generateBookingNumber start) d es := by
  unfold generateBookingNumber nextBookingNumber
  rcases civilDate (localDay start) with ⟨year, month, day⟩
  dsimp only
  rw [ensures_bind_queryForUpdate, ensures_query]
  exact ⟨hmid, hmid, rfl, rfl, rfl⟩

theorem beforeWrite_newBooking (args : CreateArgs) (id : Uuid) (number : String) :
    ((newBooking args id number).beforeWrite).id = id ∧
      ((newBooking args id number).beforeWrite).bookingNumber = some number ∧
      ((newBooking args id number).beforeWrite).idempotencyKey = args.idempotencyKey ∧
      ((newBooking args id number).beforeWrite).services = args.services ∧
      ((newBooking args id number).beforeWrite).sessions = args.sessions ∧
      ((newBooking args id number).beforeWrite).status = args.status := by
  unfold BookingRow.beforeWrite
  generalize (newBooking args id number).attribution = a
  unfold newBooking
  cases args.services <;> exact ⟨rfl, rfl, rfl, rfl, rfl, rfl⟩

/-- What the database has against the new row, its id and a key that is not empty being new. -/
theorem bookingConflict_newBooking {id : Uuid} (number : String) (hadmitted : Admitted args d)
    (hkey : ¬ KeyKnown args d) (hid : Table.get d.bookings id = none) :
    ((∀ b ∈ d.bookings, b.bookingNumber ≠ some number) ∧
        (args.idempotencyKey = some "" → ∀ b ∈ d.bookings, b.idempotencyKey ≠ some "") ∧
        bookingConflict d (newBooking args id number).beforeWrite = none) ∨
      (¬ ((∀ b ∈ d.bookings, b.bookingNumber ≠ some number) ∧
        (args.idempotencyKey = some "" → ∀ b ∈ d.bookings, b.idempotencyKey ≠ some "")) ∧
        ∃ c, bookingConflict d (newBooking args id number).beforeWrite = some (.integrity c)) := by
  obtain ⟨hid', hnumber', hkey', hservices', -, -⟩ := beforeWrite_newBooking args id number
  have hcount : 1 ≤ args.services.length ∧ args.services.length ≤ 10 :=
    ⟨List.length_pos_iff.mpr hadmitted.services, hadmitted.few⟩
  unfold bookingConflict
  rw [hid', hnumber', hkey', hservices', hid]
  rw [if_neg (by simp)]
  by_cases hnumber : ∃ b ∈ d.bookings, b.bookingNumber = some number
  · right
    constructor
    · rintro ⟨hfree, -⟩
      obtain ⟨b, hb, heq⟩ := hnumber
      exact hfree b hb heq
    · rw [if_pos ⟨rfl, by simpa using hnumber⟩]
      exact ⟨_, rfl⟩
  · have hfree : ∀ b ∈ d.bookings, b.bookingNumber ≠ some number :=
      fun b hb heq => hnumber ⟨b, hb, heq⟩
    rw [if_neg (by simpa using fun b hb heq => hfree b hb heq)]
    by_cases hused : args.idempotencyKey.isSome ∧
        ∃ b ∈ d.bookings, b.idempotencyKey = args.idempotencyKey
    · right
      have hempty : args.idempotencyKey = some "" := by
        by_contra hne
        apply hkey
        refine ⟨?_, hused.2⟩
        have hsome : args.idempotencyKey ≠ none := Option.isSome_iff_ne_none.mp hused.1
        simp [Text.truthy, hsome, hne]
      constructor
      · rintro ⟨-, hunused⟩
        obtain ⟨b, hb, heq⟩ := hused.2
        exact hunused hempty b hb (heq.trans hempty)
      · rw [if_pos ⟨hused.1, by simpa using hused.2⟩]
        exact ⟨_, rfl⟩
    · left
      refine ⟨hfree, ?_, ?_⟩
      · intro hempty b hb heq
        exact hused ⟨by rw [hempty]; rfl, b, hb, heq.trans hempty.symm⟩
      · rw [if_neg (by simpa using hused), if_neg (not_not.mpr hcount)]

/-! ## The program -/

/-- How a call ends: it is refused or finds its key, or it creates the booking with its holds, or a
constraint has no room for it. -/
def Outcome (args : CreateArgs) (d : Db) (r : Except Error BookingRow) (d' : Db) : Prop :=
  ((¬ Admitted args d ∨ KeyKnown args d) ∧
      ((∃ e, r = .error e ∧ ¬ ViolatesConstraint e) ∨ ∃ b ∈ d.bookings, r = .ok b)) ∨
    (RoomFor args d ∧ ∃ b, r = .ok b ∧ HoldsPlaced b.id args.sessions d d') ∨
    (Admitted args d ∧ ¬ KeyKnown args d ∧ ¬ RoomFor args d ∧ ∃ c, r = .error (.integrity c))

theorem outcome_refused {r : Except Error BookingRow} {d' : Db} {e : Error}
    (hnot : ¬ Admitted args d)
    (hr : r = .error e) (he : ¬ ViolatesConstraint e) : Outcome args d r d' :=
  .inl ⟨.inl hnot, .inl ⟨e, hr, he⟩⟩

theorem not_violates_validation (m : String) : ¬ ViolatesConstraint (.validation m) := by
  rintro ⟨c, hc⟩
  cases hc

theorem not_violates_doubleBooking (m : String) : ¬ ViolatesConstraint (.doubleBooking m) := by
  rintro ⟨c, hc⟩
  cases hc

/-- Holds taken for the sessions of a row that has none. -/
theorem ensures_holdBooking (hmid : mid es) (hstatus : b.status ≠ .confirmed ∧ b.status ≠ .draft)
    (hsessions : b.sessions ≠ []) (htherapist : ∀ s ∈ b.sessions, s.therapistId ≠ none)
    (hnone : ∀ h ∈ d.temporaryHolds, h.bookingId ≠ b.id) :
    Ensures mid (fun r d' _ =>
        ((arranged b.sessions).length ≤ 1 ∧ r = .ok () ∧ HoldsPlaced b.id b.sessions d d') ∨
          ¬ (arranged b.sessions).length ≤ 1 ∧ ∃ c, r = .error (.integrity c))
      (holdBooking b) d es := by
  have hunconfirmed : ¬ (b.status = .confirmed ∨ b.status = .draft) := by
    rintro (h | h)
    · exact hstatus.1 h
    · exact hstatus.2 h
  have hfree : ¬ ∃ h ∈ d.temporaryHolds, h.bookingId = b.id := by
    rintro ⟨h, hh, heq⟩
    exact hnone h hh heq
  unfold holdBooking
  rw [if_neg hunconfirmed, if_pos hsessions]
  refine (ensures_holdSessions hmid htherapist).mono (fun _ h => h) ?_
  rintro r d' es' ⟨-, ⟨-, hlen, hr, holds, rfl, hholds⟩ | ⟨hmany, c, hr⟩⟩
  · exact .inl ⟨hlen, hr, holds, rfl, hholds⟩
  · exact .inr ⟨fun hlen => hmany ⟨.inl hfree, hlen⟩, c, hr⟩

/-- What follows the insert of a row that needs its holds. -/
theorem ensures_afterInsert (hstatus : b.status ≠ .confirmed ∧ b.status ≠ .draft)
    (hsessions : b.sessions ≠ []) (htherapist : ∀ s ∈ b.sessions, s.therapistId ≠ none)
    (hnone : ∀ h ∈ d.temporaryHolds, h.bookingId ≠ b.id) (source : String) :
    Ensures (fun _ => True) (fun r d' _ =>
        ((arranged b.sessions).length ≤ 1 ∧ r = .ok b ∧ HoldsPlaced b.id b.sessions d d') ∨
          ¬ (arranged b.sessions).length ≤ 1 ∧ ∃ c, r = .error (.integrity c))
      (do
        holdBooking b
        addBookingHistory { bookingId := b.id, oldStatus := none, newStatus := b.status,
                            source := source, reason := "" }
        if b.status = .confirmed then emit (.bookingConfirmed b.id) else pure ()
        pure b) d es := by
  refine (ensures_holdBooking trivial hstatus hsessions htherapist hnone).bind ?_ ?_
  · rintro ⟨⟩ d₁ es₁ (⟨hlen, -, hplaced⟩ | ⟨-, c, h⟩)
    · unfold addBookingHistory
      rw [ensures_bind, ensures_update]
      dsimp only
      rw [if_neg hstatus.1]
      exact ⟨trivial, .inl ⟨hlen, rfl, hplaced⟩⟩
    · cases h
  · rintro e d₁ es₁ (⟨-, h, -⟩ | ⟨hmany, c, he⟩)
    · cases h
    · exact .inr ⟨hmany, c, by rw [Except.error.inj he]⟩

/-- The insert of a row, refused where the database has something against it. -/
theorem ensures_insertBooking (row : BookingRow) (d : Db) (es : List Emission) :
    Ensures (fun _ => True) (fun r d' es' => es' = es ∧
        (bookingConflict d row.beforeWrite = none ∧ r = .ok row.beforeWrite ∧
            d' = { d with bookings := d.bookings ++ [row.beforeWrite] } ∨
          ∃ e, bookingConflict d row.beforeWrite = some e ∧ r = .error e))
      (insertBooking row) d es := by
  unfold insertBooking
  generalize row.beforeWrite = b
  dsimp only
  rw [ensures_bind, ensures_checkedUpdate]
  refine ⟨trivial, ?_⟩
  cases bookingConflict d b with
  | some e => exact ⟨rfl, .inr ⟨e, rfl, rfl⟩⟩
  | none => exact ⟨rfl, .inl ⟨rfl, rfl, rfl⟩⟩

/-- The new row and what follows it. -/
theorem outcome_insert {id : Uuid} {number : String}
    (hnumber : number = nextBookingNumber args.appointmentStart d)
    (hadmitted : Admitted args d) (hkey : ¬ KeyKnown args d)
    (hstatus : args.status ≠ .confirmed ∧ args.status ≠ .draft) (hsessions : args.sessions ≠ [])
    (htherapist : ∀ s ∈ args.sessions, s.therapistId ≠ none)
    (hbelong : ∀ h ∈ d.temporaryHolds, Table.get d.bookings h.bookingId ≠ none)
    (hid : Table.get d.bookings id = none) :
    Ensures (fun _ => True) (fun r d' _ => Outcome args d r d')
      (do
        let booking ← insertBooking (newBooking args id number)
        holdBooking booking
        addBookingHistory { bookingId := booking.id, oldStatus := none, newStatus := booking.status,
                            source := args.source, reason := "" }
        if booking.status = .confirmed then emit (.bookingConfirmed booking.id) else pure ()
        pure booking) d es := by
  have hconflict := bookingConflict_newBooking number hadmitted hkey hid
  obtain ⟨hrow, -, -, -, hrowSessions, hrowStatus⟩ := beforeWrite_newBooking args id number
  have hinsert := ensures_insertBooking (newBooking args id number) d es
  generalize (newBooking args id number).beforeWrite = b
    at hconflict hrow hrowSessions hrowStatus hinsert
  have hviolated : ∀ {r : Except Error BookingRow} {d' : Db}, ¬ RoomFor args d →
      (∃ c, r = .error (.integrity c)) → Outcome args d r d' :=
    fun hroom hr => .inr (.inr ⟨hadmitted, hkey, hroom, hr⟩)
  refine hinsert.bind ?_ ?_
  · rintro b' d₁ es₁ ⟨-, ⟨hfree, hb', rfl⟩ | ⟨e, -, h⟩⟩
    · obtain rfl := Except.ok.inj hb'
      rcases hconflict with ⟨hnumberFree, hkeyFree, -⟩ | ⟨-, c, hc⟩
      · have hnone : ∀ h ∈ d.temporaryHolds, h.bookingId ≠ b'.id := by
          intro h hh heq
          apply hbelong h hh
          rw [heq, hrow]
          exact hid
        refine (ensures_afterInsert (d := { d with bookings := d.bookings ++ [b'] })
          (hrowStatus ▸ hstatus) (hrowSessions ▸ hsessions) (hrowSessions ▸ htherapist) hnone
          args.source).mono (fun _ h => h) ?_
        rw [hrowSessions]
        rintro r d' es' (⟨hlen, hr, hplaced⟩ | ⟨hmany, hr⟩)
        · exact .inr (.inl ⟨⟨hnumber ▸ hnumberFree, hkeyFree, hlen⟩, b', hr, hplaced⟩)
        · exact hviolated (fun hroom => hmany hroom.holds) hr
      · rw [hfree] at hc
        cases hc
    · cases h
  · rintro e d₁ es₁ ⟨-, ⟨-, h, -⟩ | ⟨e', he', he⟩⟩
    · cases h
    · obtain rfl := Except.error.inj he
      rcases hconflict with ⟨-, -, hnone⟩ | ⟨hroom, c, hc⟩
      · rw [hnone] at he'
        cases he'
      · rw [hc] at he'
        obtain rfl := Option.some.inj he'
        exact hviolated (fun h => hroom ⟨hnumber ▸ h.number, h.key⟩) ⟨c, rfl⟩

/-- How a call of `create_booking` ends for sessions that are to be held. -/
theorem outcome_createBooking (es : List Emission)
    (hstatus : args.status ≠ .confirmed ∧ args.status ≠ .draft)
    (hsessions : args.sessions ≠ []) (htherapist : ∀ s ∈ args.sessions, s.therapistId ≠ none)
    (hbelong : ∀ h ∈ d.temporaryHolds, Table.get d.bookings h.bookingId ≠ none) :
    EnsuresUnder (fun a => Table.get d.bookings a.uuid = none) (fun r d' _ => Outcome args d r d')
      (createBooking args) d es := by
  unfold createBooking
  rw [ensuresUnder_bind_raiseIf]
  constructor
  · intro hnone
    exact outcome_refused (fun h => h.services hnone) rfl (not_violates_validation _)
  intro hservices
  rw [ensuresUnder_bind_raiseIf]
  constructor
  · intro hmany
    exact outcome_refused (fun h => absurd h.few (not_le.mpr hmany)) rfl (not_violates_validation _)
  intro hfew
  apply ensuresUnder_bind_query
  cases hexisting : (if Text.truthy args.idempotencyKey then
      d.bookings.find? (·.idempotencyKey = args.idempotencyKey) else none) with
  | some b =>
    have hknown : KeyKnown args d ∧ b ∈ d.bookings := by
      split_ifs at hexisting with hkey
      have hb := List.mem_of_find?_eq_some hexisting
      have heq := List.find?_some hexisting
      exact ⟨⟨hkey, b, hb, by simpa using heq⟩, hb⟩
    exact .inl ⟨.inr hknown.1, .inr ⟨b, hknown.2, rfl⟩⟩
  | none =>
    have hunknown : ¬ KeyKnown args d := by
      rintro ⟨hkey, b, hb, heq⟩
      rw [if_pos hkey] at hexisting
      exact List.find?_eq_none.mp hexisting b hb (by simpa using heq)
    dsimp only
    unfold createNew
    rw [ensuresUnder_bind_raiseIf]
    constructor
    · intro hsame
      exact outcome_refused (fun h => h.distinct hsame) rfl (not_violates_validation _)
    intro hdistinct
    rw [if_pos hsessions]
    have hslots : Ensures (fun _ => True) _ (checkSessionSlots args.sessions) d es :=
      ensures_checkSessionSlots trivial
    refine hslots.under.bind ?_ ?_
    · rintro ⟨⟩ d₁ es₁ ⟨rfl, rfl, ⟨-, m, h⟩ | ⟨hfree, -⟩⟩
      · cases h
      have hadmitted : Admitted args d₁ := ⟨hservices, not_lt.mp hfew, hdistinct, hfree⟩
      have hnumber : EnsuresUnder (fun a => Table.get d₁.bookings a.uuid = none)
          (Returns fun number d' es' =>
            number = nextBookingNumber args.appointmentStart d₁ ∧ d' = d₁ ∧ es' = es₁)
          (generateBookingNumber args.appointmentStart) d₁ es₁ := by
        have hany : Ensures (fun _ => True) _ (generateBookingNumber args.appointmentStart) d₁
            es₁ := ensures_generateBookingNumber _ trivial
        exact hany.under
      refine hnumber.bind_returns ?_
      rintro number d₂ es₂ ⟨hnext, rfl, rfl⟩
      rw [ensuresUnder_bind_ask]
      intro a ha
      exact (outcome_insert hnext hadmitted hunknown hstatus hsessions htherapist hbelong ha).under
    · rintro e d₁ es₁ ⟨rfl, rfl, ⟨⟨s, hs, htaken⟩, m, he⟩ | ⟨-, h⟩⟩
      · obtain rfl := Except.error.inj he
        exact outcome_refused (fun h => h.free s hs htaken) rfl (not_violates_doubleBooking m)
      · cases h

/-! ## The sessions of a plan -/

/-- There are sessions in a plan, and each has a therapist. -/
theorem planAnswered_sessions {up : Records} {req : SessionsRequest}
    {answers : List AvailabilityAnswer} (h : planAnswered up req answers = .ok P) :
    P ≠ [] ∧ ∀ s ∈ P, s.therapistId ≠ none := by
  obtain ⟨ctx, -, h⟩ := Fallible.bind_eq_ok.mp h
  obtain ⟨built, -, h⟩ := Fallible.bind_eq_ok.mp h
  obtain ⟨⟨⟩, -, h⟩ := Fallible.bind_eq_ok.mp h
  obtain ⟨sessions, hsessions, h⟩ := Fallible.bind_eq_ok.mp h
  have hvalid := valid_of_validateSessions hsessions
  split_ifs at h
  · obtain ⟨hwork, htherapist⟩ := checkAll_work h hvalid.therapist
    refine ⟨?_, htherapist⟩
    rintro rfl
    have hlen : sessions.length = 0 := by
      have heq := congrArg List.length hwork
      simpa using heq.symm
    exact hvalid.nonempty (List.length_eq_zero_iff.mp hlen)
  · obtain rfl := Fallible.pure_eq_ok.mp h
    exact ⟨hvalid.nonempty, hvalid.therapist⟩

theorem plannedArgs_of_ne_nil (h : P ≠ []) (args : CreateArgs) :
    (plannedArgs P args).sessions = P ∧ (plannedArgs P args).status = args.status := by
  cases P with
  | nil => exact absurd rfl h
  | cons first rest => exact ⟨rfl, rfl⟩

/-- A session in a single room, from ten o'clock on or from noon on. -/
def roomSession (sessionId : Uuid) (start : Instant) : SentSession :=
  { item :=
      { sessionId := sessionId
        therapistId := 5
        serviceArrangementId := some 3
        arrangementType := some "single_room"
        services := [{ serviceId := some 1 }]
        start := start }
    therapist := { name := some "Mary" } }

/-- A call for some of the sessions. -/
def roomCall (sent : List SentSession) : PlanCall :=
  { sent := sent, day := 0, checkAvailability := false }

/-- The sessions of the plan. -/
def roomSessions (sent : List SentSession) : List Session := (planOf (roomCall sent)).sessions

def morning : SentSession := roomSession 10 25200000000

def noon : SentSession := roomSession 11 32400000000

/-- The fields of a booking that is requested. -/
def roomArgs : CreateArgs := { customerId := 4, therapistId := 5 }

/-- The run that creates the booking. -/
def roomRun (sent : List SentSession) : Except Error BookingRow × Db × List Emission :=
  exec (fun _ => { uuid := 1 }) (createBooking (plannedArgs (roomSessions sent) roomArgs)) {}

theorem roomSessions_eq {sent : List SentSession}
    (h : (planCall (fun _ => none) exampleUshauth.toRecords (roomCall sent)).toOption.isSome) :
    planAnswered exampleUshauth.toRecords ((roomCall sent).request fun _ => none) [] =
      .ok (roomSessions sent) := by
  obtain ⟨P, hP, h⟩ := Fallible.bind_eq_ok.mp (planOf_eq h)
  have hsessions : roomSessions sent = P := by
    cases hmirror : mirrorOf P with
    | none =>
      rw [hmirror] at h
      cases h
    | some mirror =>
      rw [hmirror] at h
      have hplan := Fallible.pure_eq_ok.mp h
      unfold roomSessions
      rw [← hplan]
  rw [hsessions]
  exact hP

end Booking
