import UshBookNPay.Lib.FixedPoint
import UshBookNPay.Common.Text
import Mathlib.Algebra.Order.Ring.Unbundled.Rat

/-!
# Values of the columns

Keys are UUIDs, here natural numbers. An amount of a `Numeric(·, 3)` column is its integer number of
thousandths (`Fils`), an instant the integer number of microseconds since the epoch.
-/

abbrev Uuid := ℕ

abbrev Instant := ℤ

/-- An amount in thousandths of the currency. -/
abbrev Fils := ℤ

/-- The decimal number a column of three decimals stands for. -/
def toDecimal (x : Fils) : ℚ := x / 1000

/-- A number written with at least `width` digits. -/
def pad (width : ℕ) (n : ℕ) : String :=
  let digits := Nat.toDigits 10 n
  String.ofList (List.replicate (width - digits.length) '0' ++ digits)

/-- `str` of a `Decimal` of the given number of decimals. -/
def decimalStr (unscaled : ℤ) (decimals : ℕ) : String :=
  let n := unscaled.natAbs
  (if unscaled < 0 then "-" else "") ++ pad 1 (n / 10 ^ decimals) ++
    (if decimals = 0 then "" else "." ++ pad decimals (n % 10 ^ decimals))

/-- An amount as it stands in a message. -/
def str (x : Fils) : String := decimalStr x 3

/-- A `Decimal` that is not from a column: an integer and its number of decimals. -/
structure Decimal where
  unscaled : ℤ
  decimals : ℕ := 0
  deriving DecidableEq

def Decimal.value (x : Decimal) : ℚ := x.unscaled / 10 ^ x.decimals

/-- The amount of a column of three decimals as a `Decimal`. -/
def Decimal.ofFils (x : Fils) : Decimal := { unscaled := x, decimals := 3 }

/-- A positive amount as a column of three decimals stores it: half a unit goes up. -/
def Decimal.toFils (x : Decimal) : Fils :=
  (2 * x.unscaled * 1000 + 10 ^ x.decimals) / (2 * 10 ^ x.decimals)

theorem Decimal.toFils_ofFils (x : Fils) : (Decimal.ofFils x).toFils = x := by
  have h : ∀ n : ℤ, (2 * n * 1000 + 10 ^ 3) / (2 * 10 ^ 3) = n := by
    intro n
    omega
  exact h x

/-- An amount as a column of three decimals stores it: half a unit goes away from zero. -/
def Decimal.quantize (x : Decimal) : Fils :=
  if 0 ≤ x.unscaled then x.toFils else -({ x with unscaled := -x.unscaled } : Decimal).toFils

/-- The number a list of digits stands for. -/
def digitsValue (cs : List Char) : ℕ := cs.foldl (fun n c => n * 10 + (c.toNat - '0'.toNat)) 0

/-- The exponent of a number in scientific notation. -/
def parseExponent (cs : List Char) : Option ℤ :=
  let digits := fun cs : List Char =>
    if cs ≠ [] ∧ cs.all Char.isDigit then some (digitsValue cs : ℤ) else none
  match cs with
  | [] => some 0
  | e :: '-' :: ds => if e = 'e' ∨ e = 'E' then (digits ds).map (- ·) else none
  | e :: '+' :: ds => if e = 'e' ∨ e = 'E' then digits ds else none
  | e :: ds => if e = 'e' ∨ e = 'E' then digits ds else none

/-- `Decimal(text)`; `none` where it is not a finite number. -/
def parseDecimal (text : String) : Option Decimal :=
  let cs := (Text.strip text).toList.filter (· ≠ '_')
  let negative := cs.head? = some '-'
  let cs := if cs.head? = some '-' ∨ cs.head? = some '+' then cs.tail else cs
  let (int, cs) := cs.span Char.isDigit
  let (frac, cs) := if cs.head? = some '.' then cs.tail.span Char.isDigit else ([], cs)
  if int = [] ∧ frac = [] then none
  else (parseExponent cs).map fun e =>
    let n : ℤ := digitsValue (int ++ frac)
    let n := if negative then -n else n
    let decimals : ℤ := frac.length - e
    { unscaled := n * 10 ^ (-decimals).toNat, decimals := decimals.toNat }

/-! ## Instants -/

/-- `datetime.isoformat`, here of the number -/
def isoformat (t : Instant) : String := toString t

/-- The days from the epoch to a date. -/
def daysFromEpoch (year month day : ℕ) : ℤ :=
  let y : ℤ := if month ≤ 2 then year - 1 else year
  let m : ℤ := if month ≤ 2 then month + 9 else month - 3
  let yearOfEra := y % 400
  let dayOfYear := (153 * m + 2) / 5 + day - 1
  y / 400 * 146097 + yearOfEra * 365 + yearOfEra / 4 - yearOfEra / 100 + dayOfYear - 719468

def daysInMonth (year month : ℕ) : ℕ :=
  if month = 2 then if year % 4 = 0 ∧ (year % 100 ≠ 0 ∨ year % 400 = 0) then 29 else 28
  else if month ∈ [4, 6, 9, 11] then 30 else 31

/-- A number of exactly `width` digits at the start of a text. -/
def parseDigits (width : ℕ) (cs : List Char) : Option (ℕ × List Char) :=
  let ds := cs.take width
  if ds.length = width ∧ ds.all Char.isDigit then some (digitsValue ds, cs.drop width) else none

/-- `HH[:MM[:SS[.f]]]` in microseconds, and what follows it -/
def parseClock (cs : List Char) : Option (ℤ × List Char) := do
  let (h, cs) ← parseDigits 2 cs
  let (m, cs) ← if cs.head? = some ':' then parseDigits 2 cs.tail else some (0, cs)
  let (s, cs) ← if cs.head? = some ':' then parseDigits 2 cs.tail else some (0, cs)
  let (frac, cs) := if cs.head? = some '.' then cs.tail.span Char.isDigit else ([], cs)
  let micros := digitsValue ((frac ++ List.replicate 6 '0').take 6)
  if h < 24 ∧ m < 60 ∧ s < 60 then
    pure ((((h * 60 + m) * 60 + s) * 1000000 + micros : ℕ), cs)
  else none

/-- The offset from UTC at the end of a text; a text without one is taken to be in UTC. -/
def parseOffset (cs : List Char) : Option ℤ :=
  match cs with
  | [] => some 0
  | ['Z'] => some 0
  | '+' :: rest => match parseClock rest with
    | some (t, []) => some t
    | _ => none
  | '-' :: rest => match parseClock rest with
    | some (t, []) => some (-t)
    | _ => none
  | _ => none

/-- `datetime.fromisoformat`, of a date in the extended format; `none` is a `ValueError`. -/
def parseDatetime (text : String) : Option Instant := do
  let (year, cs) ← parseDigits 4 text.toList
  let (month, cs) ← if cs.head? = some '-' then parseDigits 2 cs.tail else none
  let (day, cs) ← if cs.head? = some '-' then parseDigits 2 cs.tail else none
  let (clock, cs) ← if cs = [] then some (0, []) else parseClock cs.tail
  let offset ← parseOffset cs
  if 1 ≤ year ∧ 1 ≤ month ∧ month ≤ 12 ∧ 1 ≤ day ∧ day ≤ daysInMonth year month then
    pure (daysFromEpoch year month day * 86400000000 + clock - offset)
  else none

example : parseDatetime "2026-03-01T12:30:00.5+03:00" = some 1772357400500000 := by
  decide +kernel

/-- `timedelta(minutes=n)` -/
def minutes (n : ℤ) : Instant := n * 60000000

/-- The day of an instant in Asia/Kuwait, three hours ahead of UTC, counted from the epoch. -/
def localDay (t : Instant) : ℤ := (t + 10800000000) / 86400000000

/-- `local_midnight`: the start of the local day of an instant. -/
def localMidnight (t : Instant) : Instant := localDay t * 86400000000 - 10800000000

/-- The time of day in Asia/Kuwait, as `%H:%M`. -/
def localClock (t : Instant) : String :=
  let minute := ((t + 10800000000) % 86400000000 / 60000000).toNat
  pad 2 (minute / 60) ++ ":" ++ pad 2 (minute % 60)

/-- The year, month and day of a day counted from the epoch. -/
def civilDate (day : ℤ) : ℕ × ℕ × ℕ :=
  let z := day + 719468
  let dayOfEra := z % 146097
  let yearOfEra := (dayOfEra - dayOfEra / 1460 + dayOfEra / 36524 - dayOfEra / 146096) / 365
  let dayOfYear := dayOfEra - (365 * yearOfEra + yearOfEra / 4 - yearOfEra / 100)
  let m := (5 * dayOfYear + 2) / 153
  let month := if m < 10 then m + 3 else m - 9
  let year := yearOfEra + z / 146097 * 400 + (if month ≤ 2 then 1 else 0)
  (year.toNat, month.toNat, (dayOfYear - (153 * m + 2) / 5 + 1).toNat)

/-- `date.isoformat` -/
def dateStr (day : ℤ) : String :=
  let (year, month, dayOfMonth) := civilDate day
  pad 4 year ++ "-" ++ pad 2 month ++ "-" ++ pad 2 dayOfMonth

example : (parseDatetime "2028-02-28T21:30:00+00:00").map (dateStr ∘ localDay) =
    some "2028-02-29" := by
  decide +kernel

/-! ## UUIDs -/

/-- `str(uuid)`: 32 hexadecimal digits in five groups. -/
def uuidStr (id : Uuid) : String :=
  let digits := Nat.toDigits 16 id
  let hex := List.replicate (32 - digits.length) '0' ++ digits
  String.ofList (hex.take 8 ++ '-' :: (hex.drop 8).take 4 ++ '-' :: (hex.drop 12).take 4 ++
    '-' :: (hex.drop 16).take 4 ++ '-' :: hex.drop 20)

def hexDigit (c : Char) : Option ℕ :=
  if '0' ≤ c ∧ c ≤ '9' then some (c.toNat - '0'.toNat)
  else if 'a' ≤ c ∧ c ≤ 'f' then some (c.toNat - 'a'.toNat + 10)
  else if 'A' ≤ c ∧ c ≤ 'F' then some (c.toNat - 'A'.toNat + 10)
  else none

/-- `uuid.UUID(text)`: the words `urn:` and `uuid:`, braces around the digits and hyphens are dropped,
and 32 hexadecimal digits have to be left. -/
def parseUuid (text : String) : Option Uuid :=
  let bare := Text.removeAll "uuid:".toList (Text.removeAll "urn:".toList text.toList)
  let brace := fun c : Char => c = '{' ∨ c = '}'
  let stripped := ((bare.dropWhile brace).reverse.dropWhile brace).reverse
  let hex := stripped.filter (· ≠ '-')
  if hex.length ≠ 32 then none
  else hex.foldlM (fun n c => (hexDigit c).map (n * 16 + ·)) 0
