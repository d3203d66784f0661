import UshBookNPay.Booking.Cancellation
import UshBookNPay.Booking.CreateBooking
import UshBookNPay.Booking.SessionRuns
import UshBookNPay.Lib.Lists
import UshBookNPay.Lib.LockedParts
import UshBookNPay.PaymentLinks.Settlement

/-!
# The calls of BookingService

The calls one after the other, and interleaved a statement at a time. The one lock `create_booking`
takes, in `generate_booking_number`, comes after the overlap check, and the schema has no exclusion
constraint. The calls that set the status of a booking lock its row.
-/

open Transactions (System Event Parts)
open scoped Fallible

namespace Booking

/-! ## Creating bookings -/

/-- The arguments of a call. The sessions come from the planner. -/
structure CreateCall where
  args : CreateArgs
  planned : ∃ plan given, createArgs plan given = .ok args

def createCode (call : CreateCall) : Tx BookingRow := createBooking call.args

abbrev CreateSystem := System Db LockKey Emission Env Error BookingRow CreateCall

abbrev CreateSession := Transactions.Session Db LockKey Emission Env Error BookingRow CreateCall

/-! ### Double bookings -/

/-- Both bookings block a therapist, in windows that overlap. -/
def DoubleBooked (b b' : BookingRow) : Prop :=
  b.status ∉ nonBlockingBookingStatuses ∧ b'.status ∉ nonBlockingBookingStatuses ∧
    ∃ t, ∃ w ∈ therapistBusyWindows b t, OverlapsPerSession t w.1 w.2 b'

/-- No therapist is booked twice. -/
def NoDoubleBooking (d : Db) : Prop := d.bookings.Pairwise fun b b' => ¬ DoubleBooked b b'

/-! ### When a booking may commit -/

/-- The new booking is to block the therapist in the window. -/
def CreateCall.Wants (call : CreateCall) (t : Uuid) (w : Instant × Instant) : Prop :=
  call.args.status ∉ nonBlockingBookingStatuses ∧ w ∈ therapistBusyWindows (newBooking call.args 0 "") t

/-- The two calls want a therapist in windows that overlap. -/
def Clash (call call' : CreateCall) : Prop :=
  ∃ t w w', call.Wants t w ∧ call'.Wants t w' ∧ w.1 < w'.2 ∧ w'.1 < w.2

/-- The transaction has not begun to look for overlaps. -/
def Unchecked (t : CreateSession) : Prop :=
  t.writes = id ∧ (t.prog = createBooking t.op.args ∨ t.prog = createNew t.op.args)

/-- A transaction commits before any other that clashes with it looks for overlaps. -/
def CommitsFirst (s : CreateSystem) : Event CreateCall Env → Prop
  | .finish sid => ∀ t, Table.get s.sessions sid = some t → t.committing →
      ∀ u ∈ s.sessions, u.sid ≠ sid → Clash t.op u.op → Unchecked u
  | _ => True

/-! ## Setting the status -/

/-- A call, with its arguments. -/
inductive StatusOp where
  | createBooking (args : CreateArgs)
  | updateBooking (bookingId : Uuid) (args : UpdateArgs)
  | changeSessionTherapist (bookingId sessionId : Uuid) (args : ChangeArgs)
  | confirmBooking (bookingId : Uuid) (paymentData : Option (List (String × Json))) (source : String)
  | cancelBooking (bookingId : Uuid) (args : CancelArgs)
  | requestReschedule (bookingId : Uuid) (newStart newEnd : Instant) (customerId : Uuid)
      (source : String)
  | settleLink (linkId : Uuid) (state : PaymentLinks.GatewayPaymentState) (source : String)

def statusCode (settings : PaymentLinks.LinkSettings) : StatusOp → Tx Unit
  | .createBooking args => discard (Booking.createBooking args)
  | .updateBooking bookingId args => discard (Booking.updateBooking bookingId args)
  | .changeSessionTherapist bookingId sessionId args =>
    discard (Booking.changeSessionTherapist bookingId sessionId args)
  | .confirmBooking bookingId paymentData source =>
    discard (Booking.confirmBooking bookingId paymentData source)
  | .cancelBooking bookingId args => discard (Booking.cancelBooking settings bookingId args)
  | .requestReschedule bookingId newStart newEnd customerId source =>
    discard (Booking.requestReschedule bookingId newStart newEnd customerId source)
  | .settleLink linkId state source => discard (PaymentLinks.applyTo linkId state source)

abbrev StatusSystem := System Db LockKey Emission Env Error Unit StatusOp

/-! ### Histories -/

/-- The status of a booking, where it is there. -/
def statusOf (bookingId : Uuid) (d : Db) : Option BookingStatus :=
  (Table.get d.bookings bookingId).map (·.status)

/-- The history of a booking, oldest first. -/
def historyOf (bookingId : Uuid) (d : Db) : List BookingStatusHistoryRow :=
  d.bookingStatusHistory.filter (·.bookingId = bookingId)

/-- The entries lead a booking from one status to the other; without a status it is not there. -/
def Explains (entries : List BookingStatusHistoryRow) (s s' : Option BookingStatus) : Prop :=
  Trail (·.oldStatus) (fun r => some r.newStatus) s entries s'

/-- One step of `BookingStateMachine`. -/
def Allowed (s s' : BookingStatus) : Prop := s' ∈ validTransitions s

/-- The state machine allows the entry; the first one of a booking it does not concern. -/
def Lawful (old : Option BookingStatus) (new : BookingStatus) : Prop := ∀ s, old = some s → Allowed s new

/-- The call leaves the choice of the status to the state machine. -/
def LeavesStatus : StatusOp → Prop
  | .updateBooking _ args => args.status = none
  | _ => True

/-- The status and the history of each booking, under the lock of its row. -/
def statusParts : Parts Db LockKey Uuid (Option BookingStatus × List BookingStatusHistoryRow) where
  lock bookingId := .row "bookings" bookingId
  part bookingId d := (statusOf bookingId d, historyOf bookingId d)

/-- The history of a booking has grown by entries that explain the status, and each satisfies `L`. -/
def Grows (L : Option BookingStatus → BookingStatus → Prop)
    (v v' : Option BookingStatus × List BookingStatusHistoryRow) : Prop :=
  ∃ new, v'.2 = v.2 ++ new ∧ Explains new v.1 v'.1 ∧ ∀ r ∈ new, L r.oldStatus r.newStatus

/-- Whatever a session has emitted, it makes histories grow. -/
def growing (L : Option BookingStatus → BookingStatus → Prop) (_ : List Emission) (_ : Uuid) :
    Option BookingStatus × List BookingStatusHistoryRow →
      Option BookingStatus × List BookingStatusHistoryRow → Prop := Grows L

/-! ## One call after the other -/

/-- A call that writes a booking, with the request its sessions are planned from. -/
inductive CalendarOp where
  | planned (op : BookingOp)
  | confirmBooking (bookingId : Uuid) (paymentData : Option (List (String × Json))) (source : String)
  | cancelBooking (bookingId : Uuid) (args : CancelArgs)
  | requestReschedule (bookingId : Uuid) (newStart newEnd : Instant) (customerId : Uuid)
      (source : String)
  | settleLink (linkId : Uuid) (state : PaymentLinks.GatewayPaymentState) (source : String)

def calendarCode (settings : PaymentLinks.LinkSettings) : CalendarOp → Tx Unit
  | .planned op => bookingCode op
  | .confirmBooking bookingId paymentData source =>
    discard (Booking.confirmBooking bookingId paymentData source)
  | .cancelBooking bookingId args => discard (Booking.cancelBooking settings bookingId args)
  | .requestReschedule bookingId newStart newEnd customerId source =>
    discard (Booking.requestReschedule bookingId newStart newEnd customerId source)
  | .settleLink linkId state source => discard (PaymentLinks.applyTo linkId state source)

def calendarStep (settings : PaymentLinks.LinkSettings) (d : Db) (x : CalendarOp × (ℕ → Env)) : Db :=
  Transactions.atomically x.2 (calendarCode settings x.1) d

/-- A booking of this status holds its slots. -/
def Blocks (status : BookingStatus) : Prop := status ∉ nonBlockingBookingStatuses

instance : DecidablePred Blocks := fun _ => inferInstanceAs (Decidable (_ ∉ _))

/-- The therapist is one that an update without sessions looks up. -/
def LooksFor (args : UpdateArgs) (b : BookingRow) (therapistId : Uuid) : Prop :=
  therapistId = targetTherapistId args b ∨ (secondaryUpdate args b).therapistId = some therapistId

instance (args : UpdateArgs) (b : BookingRow) (therapistId : Uuid) :
    Decidable (LooksFor args b therapistId) := inferInstanceAs (Decidable (_ ∨ _))

/-- The update leaves a booking that holds its slots where it is, and no longer than it is. -/
def StaysPut (args : UpdateArgs) (row : BookingRow) : Prop :=
  Blocks row.status ∧ args.appointmentStart.getD row.appointmentStart = row.appointmentStart ∧
    extraDiff args row ≤ 0

instance (args : UpdateArgs) (row : BookingRow) : Decidable (StaysPut args row) :=
  inferInstanceAs (Decidable (_ ∧ _ ∧ _))

/-- The condition under which an update that leaves the booking its slots has looked them up: sessions
come with the therapists of the first one, a booking gets its slots back by naming its therapists or
times, and where several sessions are moved together, none of the later ones has a therapist of its own
that the update does not look up. -/
structure UpdatesCarefully (args : UpdateArgs) (row : BookingRow) : Prop where
  span : KeepsSpan args row
  sent : ∀ sessions, args.sessions = some sessions → ∀ first rest, sessions = first :: rest →
    NamesTherapists args (legacyMirror first rest)
  revived : args.sessions = none → ¬ Blocks row.status → Blocks (args.status.getD row.status) →
    TouchesTiming args (replacedRow args row)
  later : args.sessions = none → Blocks (args.status.getD row.status) →
    TouchesTiming args (replacedRow args row) → StaysPut args row ∨
      ∀ s ∈ row.sessions.tail, ∀ t ∈ s.therapistId.toList ++ s.secondaryTherapistId.toList,
        LooksFor args (replacedRow args row) t

instance (args : UpdateArgs) (m : Mirror) : Decidable (NamesTherapists args m) :=
  decidable_of_iff (_ ∧ _ ∧ _) ⟨fun ⟨h1, h2, h3⟩ => ⟨h1, h2, h3⟩, fun ⟨h1, h2, h3⟩ => ⟨h1, h2, h3⟩⟩

instance (args : UpdateArgs) : DecidablePred (UpdatesCarefully args) := fun _ =>
  decidable_of_iff (_ ∧ _ ∧ _ ∧ _)
    ⟨fun ⟨h1, h2, h3, h4⟩ => ⟨h1, h2, h3, h4⟩, fun ⟨h1, h2, h3, h4⟩ => ⟨h1, h2, h3, h4⟩⟩

abbrev calendarConditions : Conditions := { U := UpdatesCarefully }

/-- Updates are careful, and a parked booking is not confirmed without one. -/
def Careful (d : Db) (x : CalendarOp × (ℕ → Env)) : Prop :=
  match x.1 with
  | .planned op => calendarConditions.Meets d (op, x.2)
  | .confirmBooking bookingId _ _ =>
    ∀ row, Table.get d.bookings bookingId = some row → row.status ≠ .parked
  | _ => True

instance (d : Db) : DecidablePred (Careful d)
  | (.planned op, env) => inferInstanceAs (Decidable (calendarConditions.Meets d (op, env)))
  | (.confirmBooking bookingId _ _, _) => inferInstanceAs (Decidable
      (∀ row, Table.get d.bookings bookingId = some row → row.status ≠ .parked))
  | (.cancelBooking _ _, _) => .isTrue trivial
  | (.requestReschedule _ _ _ _ _, _) => .isTrue trivial
  | (.settleLink _ _ _, _) => .isTrue trivial

end Booking
