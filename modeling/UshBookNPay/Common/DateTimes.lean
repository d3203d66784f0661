import UshBookNPay.Common.Json

/-!
# Dates with a clock

Python's `datetime`, naive or aware, and its time in Asia/Kuwait.
-/

/-- A `datetime`: its clock in microseconds, and the offset from UTC of an aware one. -/
structure DateTime where
  clock : ℤ
  offset : Option ℤ := none
  deriving DecidableEq

namespace DateTime

/-- The first clock time there is, the first microsecond of the year 1. -/
def minClock : ℤ := daysFromEpoch 1 1 1 * 86400000000

/-- `datetime.max`, the last microsecond of the year 9999 -/
def maxClock : ℤ := daysFromEpoch 10000 1 1 * 86400000000 - 1

/-- The offset of Asia/Kuwait. -/
def kuwaitOffset : ℤ := 10800000000

/-- `to_local_tz`, as an instant: a naive time is one in Kuwait, an aware one is converted; `none` is an
`OverflowError`, where the time in UTC or in Kuwait is none of a year from 1 to 9999. -/
def toLocalTz (dt : DateTime) : Option Instant :=
  match dt.offset with
  | none => some (dt.clock - kuwaitOffset)
  | some offset =>
    let utc := dt.clock - offset
    if minClock ≤ utc ∧ utc + kuwaitOffset ≤ maxClock then some utc else none

/-- `datetime.fromisoformat`, of a date in the extended format; `none` is a `ValueError`. -/
def fromisoformat (text : String) : Option DateTime := do
  let (year, cs) ← parseDigits 4 text.toList
  let (month, cs) ← if cs.head? = some '-' then parseDigits 2 cs.tail else none
  let (day, cs) ← if cs.head? = some '-' then parseDigits 2 cs.tail else none
  let (clock, cs) ← if cs = [] then some (0, []) else parseClock cs.tail
  let offset ← if cs = [] then some none else (parseOffset cs).map some
  if 1 ≤ year ∧ 1 ≤ month ∧ month ≤ 12 ∧ 1 ≤ day ∧ day ≤ daysInMonth year month then
    pure { clock := daysFromEpoch year month day * 86400000000 + clock, offset := offset }
  else none

example : (fromisoformat "2026-03-01T12:30:00").bind toLocalTz =
    (fromisoformat "2026-03-01T09:30:00+00:00").bind toLocalTz := by
  decide +kernel

end DateTime
