import UshBookNPay.Booking.Sessions
import UshBookNPay.Core.Flush

/-!
# BookingRepository

The queries for overlapping bookings, the numbers of the bookings and the temporary holds.
-/

open Transactions.Prog (query queryForUpdate update checkedUpdate ask)

namespace Booking

/-! ## Overlaps -/

/-- The ids in the stored text of a session, which `LIKE` searches. -/
def mentionedIds (s : Session) : List Uuid :=
  s.sessionId :: (s.therapistId.toList ++ s.secondaryTherapistId.toList ++
    s.serviceArrangementId.toList ++
    s.services.flatMap fun e => e.serviceId.toList ++ e.serviceArrangementId.toList)

/-- `_therapist_involved`: the booking mentions the therapist in its columns or its sessions. -/
def TherapistInvolved (b : BookingRow) (therapistId : Uuid) : Prop :=
  b.therapistId = therapistId ∨ b.secondaryTherapistId = some therapistId ∨
    ∃ s ∈ b.sessions, therapistId ∈ mentionedIds s

instance (b : BookingRow) (therapistId : Uuid) : Decidable (TherapistInvolved b therapistId) :=
  inferInstanceAs (Decidable (_ ∨ _ ∨ _))

/-- The filter of the overlap queries: a blocking booking of the therapist whose window overlaps
`[start, finish)`. -/
def PreFilter (therapistId : Uuid) (start finish : Instant) (b : BookingRow) : Prop :=
  TherapistInvolved b therapistId ∧ b.appointmentStart < finish ∧ start < b.appointmentEnd ∧
    b.status ∉ nonBlockingBookingStatuses

instance (therapistId : Uuid) (start finish : Instant) :
    DecidablePred (PreFilter therapistId start finish) := fun _ =>
  inferInstanceAs (Decidable (_ ∧ _ ∧ _ ∧ _))

/-- `_overlaps_per_session` -/
def OverlapsPerSession (therapistId : Uuid) (start finish : Instant) (b : BookingRow) : Prop :=
  ∃ w ∈ therapistBusyWindows b therapistId, w.1 < finish ∧ start < w.2

instance (therapistId : Uuid) (start finish : Instant) :
    DecidablePred (OverlapsPerSession therapistId start finish) := fun _ =>
  inferInstanceAs (Decidable (∃ w ∈ _, _))

/-- `find_therapist_overlap` -/
def findTherapistOverlap (therapistId : Uuid) (start finish : Instant) (excludeId : Option Uuid)
    (d : Db) : Option BookingRow :=
  d.bookings.find? fun b => PreFilter therapistId start finish b ∧ excludeId ≠ some b.id ∧
    OverlapsPerSession therapistId start finish b

/-- `check_therapist_overlap` -/
def checkTherapistOverlap (therapistId : Uuid) (start finish : Instant) (excludeId : Option Uuid) :
    Tx Bool :=
  query fun d => (findTherapistOverlap therapistId start finish excludeId d).isSome

/-- The filter of the queries for several therapists. -/
def PreFilterAny (therapistIds : List Uuid) (start finish : Instant) (b : BookingRow) : Prop :=
  (∃ t ∈ therapistIds, TherapistInvolved b t) ∧ b.appointmentStart < finish ∧
    start < b.appointmentEnd ∧ b.status ∉ nonBlockingBookingStatuses

instance (therapistIds : List Uuid) (start finish : Instant) :
    DecidablePred (PreFilterAny therapistIds start finish) := fun _ =>
  inferInstanceAs (Decidable (_ ∧ _ ∧ _ ∧ _))

/-- `get_active_bookings_for_therapists_in_range` -/
def getActiveBookingsForTherapistsInRange (therapistIds : List Uuid) (start finish : Instant)
    (d : Db) : List BookingRow :=
  d.bookings.filter (PreFilterAny therapistIds start finish ·)

/-- The hold is unexpired and overlaps `[start, finish)`. -/
def HoldInRange (start finish now : Instant) (h : TemporaryHoldRow) : Prop :=
  h.appointmentStart < finish ∧ start < h.appointmentEnd ∧ now < h.expiresAt

instance (start finish now : Instant) : DecidablePred (HoldInRange start finish now) := fun _ =>
  inferInstanceAs (Decidable (_ ∧ _ ∧ _))

/-- `get_active_holds_for_therapist_in_range` -/
def getActiveHoldsForTherapistInRange (therapistId : Uuid) (start finish now : Instant) (d : Db) :
    List TemporaryHoldRow :=
  d.temporaryHolds.filter fun h => h.therapistId = therapistId ∧ HoldInRange start finish now h

/-- `get_busy_therapist_ids_in_range`: therapists with an overlapping booking or unexpired hold. -/
def getBusyTherapistIdsInRange (therapistIds : List Uuid) (start finish now : Instant) (d : Db) :
    List Uuid :=
  therapistIds.filter fun t =>
    (∃ b ∈ d.bookings, PreFilterAny therapistIds start finish b ∧
        OverlapsPerSession t start finish b) ∨
      ∃ h ∈ d.temporaryHolds, h.therapistId = t ∧ HoldInRange start finish now h

/-! ## What the overlaps say -/

/-- A blocking booking has the therapist busy in `[start, finish)`. -/
def BookedIn (therapistId : Uuid) (start finish : Instant) (d : Db) : Prop :=
  ∃ b ∈ d.bookings, b.status ∉ nonBlockingBookingStatuses ∧
    OverlapsPerSession therapistId start finish b

/-- An unexpired hold has the therapist in `[start, finish)`. -/
def HeldIn (therapistId : Uuid) (start finish now : Instant) (d : Db) : Prop :=
  ∃ h ∈ d.temporaryHolds, h.therapistId = therapistId ∧ HoldInRange start finish now h

/-- The sessions of the stored bookings lie in the window of their booking. -/
def SessionsInside (d : Db) : Prop :=
  ∀ b ∈ d.bookings, ∀ s ∈ b.sessions,
    b.appointmentStart ≤ s.appointmentStart ∧ s.appointmentEnd ≤ b.appointmentEnd

/-! ## Writing -/

/-- `generate_booking_number` -/
def generateBookingNumber (appointmentStart : Instant) : Tx String := do
  let (year, month, _) := civilDate (localDay appointmentStart)
  let datePrefix := "BOK/" ++ pad 4 year ++ "/" ++ pad 2 month ++ "/"
  queryForUpdate (fun _ => [.advisory "booking_number"]) fun _ => ()
  query fun d => nextNumber datePrefix (d.bookings.filterMap (·.bookingNumber))

/-- What the database has against an insert of the booking. -/
def bookingConflict (d : Db) (b : BookingRow) : Option Error :=
  if (Table.get d.bookings b.id).isSome then some (.integrity "bookings_pkey")
  else if b.bookingNumber.isSome ∧ d.bookings.any (·.bookingNumber = b.bookingNumber) then
    some (.integrity "bookings_booking_number_key")
  else if b.idempotencyKey.isSome ∧ d.bookings.any (·.idempotencyKey = b.idempotencyKey) then
    some (.integrity "uq_bookings_idempotency_key")
  else if ¬ (1 ≤ b.services.length ∧ b.services.length ≤ 10) then
    some (.integrity "ck_bookings_services_array")
  else none

/-- `create` -/
def insertBooking (b : BookingRow) : Tx BookingRow := do
  let b := b.beforeWrite
  checkedUpdate (bookingConflict · b) [.row "bookings" b.id]
    fun d => { d with bookings := d.bookings ++ [b] }
  pure b

/-- `create_hold`: the holds are unique in their booking. -/
def createHold (h : TemporaryHoldRow) : Tx Unit :=
  checkedUpdate
    (fun d => if d.temporaryHolds.any (·.bookingId = h.bookingId) then
      some (.integrity "temporary_holds_booking_id_key") else none)
    [.index "temporary_holds_booking_id_key" (uuidStr h.bookingId)]
    fun d => { d with temporaryHolds := d.temporaryHolds ++ [h] }

/-- `delete_hold` -/
def deleteHold (bookingId : Uuid) : Tx Unit :=
  update [] fun d => { d with
    temporaryHolds := d.temporaryHolds.filter (·.bookingId ≠ bookingId) }

end Booking
