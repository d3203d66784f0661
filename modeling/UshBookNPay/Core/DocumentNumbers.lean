import UshBookNPay.Core.Environment
import UshBookNPay.Lib.Runs

/-!
# The numbers of documents

Bookings, payments, refunds, gift vouchers and shop orders carry a number of the form
`BOK/2026/10/000001`, unique in its column. Runs of creations and deletions on the numbers a column
holds, one transaction at a time.
-/

namespace DocumentNumbers

inductive Document where
  | booking
  | payment
  | refund
  | giftVoucher
  | shopOrder
  deriving DecidableEq

def Document.code : Document → String
  | .booking => "BOK/"
  | .payment => "PMT/"
  | .refund => "REF/"
  | .giftVoucher => "VOU/"
  | .shopOrder => "ORD/"

structure Month where
  year : ℕ
  month : ℕ
  deriving DecidableEq

/-- `strftime('%Y/%m')` -/
def Month.text (m : Month) : String := pad 4 m.year ++ "/" ++ pad 2 m.month

def datePrefix (doc : Document) (m : Month) : String := doc.code ++ m.text ++ "/"

/-- The number of sequence `n` of a month. -/
def numbered (doc : Document) (m : Month) (n : ℕ) : String := datePrefix doc m ++ pad 6 n

/-- `next_order_number`, which counts the numbers of the month. -/
def nextCounted (doc : Document) (m : Month) (stored : List String) : String :=
  numbered doc m ((stored.filter (Text.startsWith (datePrefix doc m))).length + 1)

/-- The number the generator of a document issues, by the numbers that are stored. -/
def issue (doc : Document) (m : Month) (stored : List String) : String :=
  match doc with
  | .shopOrder => nextCounted doc m stored
  | .booking | .payment | .refund | .giftVoucher => nextNumber (datePrefix doc m) stored

/-! ## Runs -/

/-- What can happen to the numbers of a column. Only payments and gift vouchers are deleted, and only a
payment may come with a number of its client; to change the number of a payment is to delete it and to
supply another one. -/
inductive Step : Document → Type where
  | create {doc : Document} (m : Month) : Step doc
  | supply (number : String) : Step .payment
  | deletePayment (number : String) : Step .payment
  | deleteVoucher (number : String) : Step .giftVoucher

/-- An insert; the unique constraint of the column refuses a number that is stored. -/
def insert (number : String) (stored : List String) : List String :=
  if number ∈ stored then stored else number :: stored

def step {doc : Document} (stored : List String) : Step doc → List String
  | .create m => insert (issue doc m stored) stored
  | .supply number => insert number stored
  | .deletePayment number => stored.filter (· ≠ number)
  | .deleteVoucher number => stored.filter (· ≠ number)

/-- The number a creation is given is not stored. -/
def IssuesFresh {doc : Document} (stored : List String) : Step doc → Prop
  | .create m => issue doc m stored ∉ stored
  | .supply _ | .deletePayment _ | .deleteVoucher _ => True

/-! ## Where the generators fall behind -/

/-- The greatest of the stored numbers of a month, as strings. -/
structure Greatest (doc : Document) (m : Month) (stored : List String) (number : String) : Prop where
  mem : number ∈ stored
  ofMonth : Text.startsWith (datePrefix doc m) number = true
  greatest : ∀ other ∈ stored, Text.startsWith (datePrefix doc m) other = true → other ≤ number

/-- The last number of so many digits: `999999`, `9999999` and so on. -/
def RollsOver (doc : Document) (m : Month) (number : String) : Prop :=
  ∃ digits, 6 ≤ digits ∧ number = numbered doc m (10 ^ digits - 1)

/-- A number no generator has issued. -/
def Foreign (doc : Document) (m : Month) (number : String) : Prop := ∀ n, number ≠ numbered doc m n

/-- A creation has room for its number: if the greatest number of the month is the last one of so many
digits, or is foreign, then the number after it is not stored. The orders of the shop are counted and
always have room. -/
def HasRoom {doc : Document} (stored : List String) : Step doc → Prop
  | .create m => doc ≠ .shopOrder → ∀ number, Greatest doc m stored number →
      RollsOver doc m number ∨ Foreign doc m number →
      numbered doc m (extractSequence (some number) + 1) ∉ stored
  | .supply _ | .deletePayment _ | .deleteVoucher _ => True

end DocumentNumbers
