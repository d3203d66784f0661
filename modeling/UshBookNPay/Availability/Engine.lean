import UshBookNPay.Availability.IntervalEngine
import Mathlib.Data.Int.ConditionallyCompleteOrder
import Mathlib.Order.CompletePartialOrder

/-!
# The availability engine

What is left of the working time of a therapist in the hours of the branch, in blocks of one slot each.
-/

namespace Availability

structure TherapistScheduleInput where
  workingHours : List (Interval Instant)
  leaves : List (Interval Instant)
  extraHours : List (Interval Instant)
  existingBookings : List (Interval Instant)
  homeBookings : List (Interval Instant)
  temporaryHolds : List (Interval Instant)

structure DayAvailability where
  blocks : List TimeBlock
  isClosed : Bool

/-- `AppointmentAvailabilityEngine` -/
structure Engine where
  serviceDurationMinutes : ℕ
  slotMinutes : ℕ := 30

/-- `_filter_for_day` -/
def filterForDay (window : Interval Instant) (ivs : List (Interval Instant)) :
    List (Interval Instant) :=
  ivs.filter fun iv => overlaps iv window

/-- The working time of a day: regular and extra hours, in the hours of the branch, without leaves. -/
def effectiveWorking (t : TherapistScheduleInput) (window : Interval Instant) :
    List (Interval Instant) :=
  let baseWorking := mergeIntervals
    (filterForDay window t.workingHours ++ filterForDay window t.extraHours)
  subtractIntervals (intersectWithWindow baseWorking window)
    (mergeIntervals (filterForDay window t.leaves))

/-- What blocks the working time of a day. -/
def allBlocked (t : TherapistScheduleInput) (window : Interval Instant) : List (Interval Instant) :=
  mergeIntervals (filterForDay window t.existingBookings ++ filterForDay window t.homeBookings ++
    filterForDay window t.temporaryHolds)

def freeIntervals (t : TherapistScheduleInput) (window : Interval Instant) :
    List (Interval Instant) :=
  subtractIntervals (effectiveWorking t window) (allBlocked t window)

/-- The availability of one day, whose branch hours are `window`. -/
def Engine.computeDay (engine : Engine) (t : TherapistScheduleInput) (window : Interval Instant) :
    DayAvailability where
  blocks :=
    if effectiveWorking t window = [] then generateClosedBlocks engine.slotMinutes window
    else generateBlocks (freeIntervals t window) engine.slotMinutes window
      engine.serviceDurationMinutes
  isClosed := effectiveWorking t window = []

/-- The branch hours of a day; `midnight` is the instant its local day begins. -/
def branchWindow (midnight : ℤ → Instant) (opening closing : Instant) (date : ℤ) :
    Interval Instant :=
  ⟨midnight date + opening, midnight date + closing⟩

def Engine.computeTherapistAvailability (engine : Engine) (t : TherapistScheduleInput)
    (dates : List ℤ) (midnight : ℤ → Instant) (opening closing : Instant) :
    List (ℤ × DayAvailability) :=
  dates.map fun d => (d, engine.computeDay t (branchWindow midnight opening closing d))

/-! ## What the blocks are to say -/

/-- The whole of `[s, s + d)` is working time in the hours of the branch that nothing blocks. -/
structure Bookable (t : TherapistScheduleInput) (window : Interval Instant) (s d : Instant) :
    Prop where
  window : Set.Ico s (s + d) ⊆ Intervals.points window
  working : Set.Ico s (s + d) ⊆ Intervals.covered (t.workingHours ++ t.extraHours)
  unblocked : ∀ iv ∈ t.leaves ++ t.existingBookings ++ t.homeBookings ++ t.temporaryHolds,
    Disjoint (Set.Ico s (s + d)) (Intervals.points iv)

/-- What blocks working time takes some time. -/
def TherapistScheduleInput.Proper (t : TherapistScheduleInput) : Prop :=
  ∀ iv ∈ t.leaves ++ t.existingBookings ++ t.homeBookings ++ t.temporaryHolds, iv.start < iv.stop

/-- A block the engine offers can be booked for the whole of the service. -/
def Engine.Sound (engine : Engine) : Prop :=
  ∀ (t : TherapistScheduleInput) (dates : List ℤ) (midnight : ℤ → Instant)
    (opening closing : Instant), t.Proper →
    ∀ day ∈ engine.computeTherapistAvailability t dates midnight opening closing,
      ∀ block ∈ day.2.blocks, block.available →
        Bookable t (branchWindow midnight opening closing day.1) block.start
          (minutes engine.serviceDurationMinutes)

/-- Where the service takes whole slots, a slot of the grid that can be booked is offered. -/
def Engine.Complete (engine : Engine) : Prop :=
  engine.slotMinutes ∣ engine.serviceDurationMinutes →
    ∀ (t : TherapistScheduleInput) (dates : List ℤ) (midnight : ℤ → Instant)
      (opening closing : Instant), t.Proper →
      ∀ day ∈ engine.computeTherapistAvailability t dates midnight opening closing,
        ∀ k : ℕ, Bookable t (branchWindow midnight opening closing day.1)
            ((branchWindow midnight opening closing day.1).start + k * minutes engine.slotMinutes)
            (minutes engine.serviceDurationMinutes) →
          ∃ block ∈ day.2.blocks, block.available ∧ block.start =
            (branchWindow midnight opening closing day.1).start + k * minutes engine.slotMinutes

end Availability
