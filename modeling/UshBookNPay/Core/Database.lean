import UshBookNPay.Lib.Transactions
import UshBookNPay.Booking.Models
import UshBookNPay.Loyalty.Models
import UshBookNPay.PaymentLinks.Models
import UshBookNPay.Voucher.Models

/-!
# The database and its sessions

The tables the modelled code works on, the exceptions it raises and the objects of an ORM session.
The sessions are made with `autoflush=False` and `expire_on_commit=False`: a changed object is
written when the code flushes, and a row loaded twice in one session keeps the values of its first
load.
-/

structure Db where
  payments : List PaymentRow := []
  refunds : List RefundRow := []
  paymentStatusHistory : List PaymentStatusHistoryRow := []
  bookings : List BookingRow := []
  loyaltyAccounts : List LoyaltyAccountRow := []
  loyaltyTransactions : List LoyaltyTransactionRow := []
  paymentLinks : List PaymentLinkRow := []
  paymentWebhookEvents : List PaymentWebhookEventRow := []
  giftVouchers : List GiftVoucherRow := []
  bookingStatusHistory : List BookingStatusHistoryRow := []
  temporaryHolds : List Booking.TemporaryHoldRow := []

/-- What a statement may wait for: a row, an entry of a unique index, an advisory lock. -/
inductive LockKey where
  | row (table : String) (id : Uuid)
  | index (name key : String)
  | advisory (name : String)
  deriving DecidableEq

inductive Error where
  | notFound (message : String)
  | validation (message : String)
  | bookingState (message : String)
  | doubleBooking (message : String)
  | conflict (message : String)
  | authentication (message : String)
  | paymentProvider (message : String)
  | valueError (message : String)
  /-- a unique constraint refuses an insert -/
  | integrity (constraint : String)
  /-- a value does not fit its `Numeric` column -/
  | numericOverflow
  /-- `scalar_one_or_none` on several rows -/
  | multipleResults
  /-- a name that is not imported -/
  | nameError (name : String)
  /-- an attribute the value of this type does not have -/
  | attributeError (name : String)
  /-- a text that is no decimal number -/
  | invalidOperation
  /-- a value of a type the call does not take -/
  | typeError
  /-- `HTTPException` -/
  | http (status : ℕ) (detail : String)
  deriving DecidableEq

/-- `str` of an exception. The texts of the database driver are stand-ins. -/
def Error.message : Error → String
  | .notFound m | .validation m | .bookingState m | .doubleBooking m | .conflict m
  | .authentication m | .paymentProvider m | .valueError m => m
  | .integrity constraint => constraint
  | .numericOverflow => "numeric field overflow"
  | .multipleResults => "Multiple rows were found when one or none was required"
  | .nameError name => "name '" ++ name ++ "' is not defined"
  | .attributeError name => "object has no attribute '" ++ name ++ "'"
  | .invalidOperation => "[<class 'decimal.ConversionSyntax'>]"
  | .typeError => "object is not iterable"
  | .http status detail => toString status ++ ": " ++ detail

/-- An object of a session: the values it has now and the assignments not written yet. -/
structure Orm (R : Type) where
  row : R
  changes : R → R := id

namespace Orm

variable {R : Type}

/-- The object of a row that has just been loaded or written. -/
def ofRow (r : R) : Orm R := { row := r }

@[simp] theorem ofRow_row (r : R) : (ofRow r).row = r := rfl

@[simp] theorem ofRow_changes (r : R) : (ofRow r).changes = id := rfl

/-- Assign columns. A column that is assigned the value it was loaded with is written as well. -/
def set (o : Orm R) (f : R → R) : Orm R := { row := f o.row, changes := f ∘ o.changes }

@[simp] theorem set_row (o : Orm R) (f : R → R) : (o.set f).row = f o.row := rfl

@[simp] theorem set_changes (o : Orm R) (f : R → R) : (o.set f).changes = f ∘ o.changes := rfl

end Orm

/-- Rows a session has loaded before: a later query of one of them returns the loaded values. -/
structure Known where
  payments : List PaymentRow := []
  bookings : List BookingRow := []

def Known.payment (known : Known) (row : PaymentRow) : PaymentRow :=
  (Table.get known.payments row.id).getD row

def Known.booking (known : Known) (row : BookingRow) : BookingRow :=
  (Table.get known.bookings row.id).getD row

/-- Whether an amount fits a column `Numeric(10, 3)`. -/
def fitsNumeric (x : Fils) : Bool := |x| < 10 ^ 10
