import UshBookNPay.Common.Values
import UshBookNPay.Lib.Intervals
import Mathlib.Data.List.Sort

/-!
# Interval arithmetic of the availability engine

Merging, subtraction and clipping of lists of intervals, and the blocks of a day.
-/

namespace Availability

abbrev Interval (α : Type) := HalfOpen α

section Intervals

variable {α : Type} [LinearOrder α]

/-- The sweep of `merge_intervals`; `last` is the interval that may still be extended. -/
def mergeLoop (last : Interval α) : List (Interval α) → List (Interval α)
  | [] => [last]
  | current :: rest =>
    if current.start ≤ last.stop then mergeLoop ⟨last.start, max last.stop current.stop⟩ rest
    else last :: mergeLoop current rest

def mergeIntervals (intervals : List (Interval α)) : List (Interval α) :=
  match intervals.insertionSort fun a b => a.start ≤ b.start with
  | [] => []
  | first :: rest => mergeLoop first rest

/-- What the inner loop of `subtract_intervals` leaves: the gaps it has found, the point up to which the
working interval is done, and the blocked intervals from the cursor on. -/
structure Cut (α : Type) where
  gaps : List (Interval α)
  current : α
  blocked : List (Interval α)

/-- The inner loop of `subtract_intervals`, over the blocked intervals from the cursor on. -/
def cutLoop (w : Interval α) (current : α) : List (Interval α) → Cut α
  | [] => ⟨[], current, []⟩
  | b :: blocked =>
    if w.stop ≤ b.start then ⟨[], current, b :: blocked⟩
    else if b.stop ≤ current then cutLoop w current blocked
    else
      let gap := if current < b.start then [⟨current, min b.start w.stop⟩] else []
      let next := max current b.stop
      if w.stop ≤ next then ⟨gap, next, b :: blocked⟩
      else if w.stop < b.stop then ⟨gap, next, b :: blocked⟩
      else
        let cut := cutLoop w next blocked
        ⟨gap ++ cut.gaps, cut.current, cut.blocked⟩

/-- The outer loop of `subtract_intervals`. -/
def subtractLoop : List (Interval α) → List (Interval α) → List (Interval α)
  | [], _ => []
  | w :: working, blocked =>
    let cut := cutLoop w w.start blocked
    cut.gaps ++ (if cut.current < w.stop then [⟨cut.current, w.stop⟩] else []) ++
      subtractLoop working cut.blocked

def subtractIntervals (working blocked : List (Interval α)) : List (Interval α) :=
  if blocked = [] then working else subtractLoop working blocked

/-- The two-pointer loop of `intersect_intervals`; the lists are what the pointers have not passed. -/
def intersectIntervals (a b : List (Interval α)) : List (Interval α) :=
  match a, b with
  | [], _ => []
  | _ :: _, [] => []
  | x :: a, y :: b =>
    let start := max x.start y.start
    let stop := min x.stop y.stop
    (if start < stop then [⟨start, stop⟩] else []) ++
      if x.stop < y.stop then intersectIntervals a (y :: b) else intersectIntervals (x :: a) b
termination_by a.length + b.length

def overlaps (iv other : Interval α) : Prop := iv.start < other.stop ∧ other.start < iv.stop

instance (iv other : Interval α) : Decidable (overlaps iv other) :=
  inferInstanceAs (Decidable (_ ∧ _))

/-- `_intersect_with_window` -/
def intersectWithWindow (intervals : List (Interval α)) (window : Interval α) :
    List (Interval α) :=
  intervals.filterMap fun iv =>
    let start := max iv.start window.start
    let stop := min iv.stop window.stop
    if start < stop then some ⟨start, stop⟩ else none

end Intervals

example : subtractIntervals [⟨9, 12⟩, ⟨12, 18⟩] [⟨8, 10⟩, ⟨11, 13⟩, ⟨15, 15⟩, ⟨17, 20⟩] =
    [⟨10, 11⟩, ⟨13, 15⟩, ⟨15, (17 : ℕ)⟩] := by decide

/-! ## Blocks -/

inductive BlockType where
  | available
  | booking
  | homeBooking
  | leave
  | outsideWorkingHours
  | outsideBranchHours
  | temporaryHold
  deriving DecidableEq

structure TimeBlock where
  start : Instant
  stop : Instant
  available : Bool
  blockingType : BlockType := .available
  deriving DecidableEq

/-- `while slot_start + slot <= branch_close`; `n` bounds the number of slots. -/
def slotsFrom (slot close : Instant) : ℕ → Instant → List Instant
  | 0, _ => []
  | n + 1, slotStart =>
    if slotStart + slot ≤ close then slotStart :: slotsFrom slot close n (slotStart + slot) else []

/-- The starts of the slots of a window. -/
def slotStarts (slot : Instant) (window : Interval Instant) : List Instant :=
  slotsFrom slot window.stop ((window.stop - window.start) / slot).toNat window.start

/-- `_classify_blocking_reason` -/
def classifyBlockingReason (slotStart slotEnd : Instant) (window : Interval Instant) : BlockType :=
  if slotStart < window.start ∨ window.stop < slotEnd then .outsideBranchHours else .booking

/-- The indices of the slots that lie in a free interval. -/
def freeSet (freeIntervals : List (Interval Instant)) (slot : Instant) (starts : List Instant) :
    List ℕ :=
  (List.range starts.length).filter fun idx => ∃ ss ∈ starts[idx]?,
    ∃ iv ∈ freeIntervals, iv.start ≤ ss ∧ ss + slot ≤ iv.stop

def slotsNeeded (serviceDurationMinutes slotMinutes : ℕ) : ℕ :=
  max 1 (serviceDurationMinutes / slotMinutes)

def generateBlocks (freeIntervals : List (Interval Instant)) (slotMinutes : ℕ)
    (window : Interval Instant) (serviceDurationMinutes : ℕ) : List TimeBlock :=
  let slot := minutes slotMinutes
  let starts := slotStarts slot window
  let free := freeSet freeIntervals slot starts
  let needed := slotsNeeded serviceDurationMinutes slotMinutes
  starts.mapIdx fun idx ss =>
    if ∀ k < needed, idx + k ∈ free then
      { start := ss, stop := ss + slot, available := true }
    else
      { start := ss, stop := ss + slot, available := false,
        blockingType := classifyBlockingReason ss (ss + slot) window }

/-- `_generate_closed_blocks` -/
def generateClosedBlocks (slotMinutes : ℕ) (window : Interval Instant) : List TimeBlock :=
  (slotStarts (minutes slotMinutes) window).map fun current =>
    { start := current, stop := current + minutes slotMinutes, available := false,
      blockingType := .outsideWorkingHours }

end Availability
