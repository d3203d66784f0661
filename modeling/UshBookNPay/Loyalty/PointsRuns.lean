import UshBookNPay.Lib.Sessions
import UshBookNPay.Loyalty.Ledger

/-!
# Interleaved calls of one customer

Any number of credits, redemptions and reversals of one customer, each in a session of its own, and
what has to hold of the account and of one booking after each of their statements.
-/

open Transactions (System Event)

namespace Loyalty

/-- A call for the customer at hand. -/
inductive PointsCall where
  | creditPoints (loyaltyPoints : ℤ) (arrangementLoyaltyPoints : Option ℤ)
      (bookingId : Option Uuid) (bookingNumber createdBy : Option String)
  | redeemPoints (costInPoints : ℤ) (bookingId : Option Uuid)
      (bookingNumber createdBy : Option String)
  | cancelBookingPoints (points : ℤ) (bookingId : Option Uuid)
      (bookingNumber createdBy : Option String)

def PointsCall.op (customerId : Uuid) : PointsCall → LoyaltyOp
  | .creditPoints loyaltyPoints arrangementLoyaltyPoints bookingId bookingNumber createdBy =>
    .creditPoints customerId loyaltyPoints arrangementLoyaltyPoints bookingId bookingNumber createdBy
  | .redeemPoints costInPoints bookingId bookingNumber createdBy =>
    .redeemPoints customerId costInPoints bookingId bookingNumber createdBy
  | .cancelBookingPoints points bookingId bookingNumber createdBy =>
    .cancelBookingPoints customerId points bookingId bookingNumber createdBy

abbrev PointsSystem := System Db LockKey Emission Env Error Unit PointsCall

def pointsStep (expiryDays : ExpiryDays) (customerId : Uuid) :
    PointsSystem → Event PointsCall Env → PointsSystem :=
  System.step fun call => loyaltyCode expiryDays (call.op customerId)

/-! ## What the ledger says -/

/-- The points of the transactions of one type. -/
def pointsOf (type : TransactionType) (rows : List LoyaltyTransactionRow) : ℤ :=
  Table.total (fun t => if t.transactionType = type then t.points else 0) rows

/-- The transactions of one type for a booking. -/
def rowsFor (type : TransactionType) (bookingId : Uuid) (rows : List LoyaltyTransactionRow) :
    List LoyaltyTransactionRow :=
  rows.filter fun t => t.transactionType = type ∧ t.bookingId = some bookingId

/-- The booking is credited at most once and its points are reversed at most once and by no more than
it earned; no more points are redeemed than were earned; and the balance is the replay of the ledger,
so that no transaction is lost. -/
structure PointsKept (customerId bookingId : Uuid) (d : Db) : Prop where
  credited_once : (rowsFor .earn bookingId (ledgerOf d customerId)).length ≤ 1
  reversed_once : (rowsFor .cancel bookingId (ledgerOf d customerId)).length ≤ 1
  reversed_within : pointsOf .cancel (rowsFor .cancel bookingId (ledgerOf d customerId)) ≤
    pointsOf .earn (rowsFor .earn bookingId (ledgerOf d customerId))
  redeemed_within : pointsOf .redeem (ledgerOf d customerId) ≤
    pointsOf .earn (ledgerOf d customerId)
  replayed : balanceOf d customerId = (ledgerOf d customerId).foldl (afterEntry false) 0

instance (customerId bookingId : Uuid) (d : Db) : Decidable (PointsKept customerId bookingId d) :=
  decidable_of_iff
    ((rowsFor .earn bookingId (ledgerOf d customerId)).length ≤ 1 ∧
      (rowsFor .cancel bookingId (ledgerOf d customerId)).length ≤ 1 ∧
      pointsOf .cancel (rowsFor .cancel bookingId (ledgerOf d customerId)) ≤
        pointsOf .earn (rowsFor .earn bookingId (ledgerOf d customerId)) ∧
      pointsOf .redeem (ledgerOf d customerId) ≤ pointsOf .earn (ledgerOf d customerId) ∧
      balanceOf d customerId = (ledgerOf d customerId).foldl (afterEntry false) 0)
    ⟨fun ⟨h1, h2, h3, h4, h5⟩ => ⟨h1, h2, h3, h4, h5⟩, fun h => ⟨h.1, h.2, h.3, h.4, h.5⟩⟩

/-- A reversal for the booking is its first, of no more points than the booking earned. -/
def ReversesOnce (customerId bookingId : Uuid) (d : Db) : PointsCall → Prop
  | .cancelBookingPoints points booking _ _ => booking = some bookingId → 0 < points →
      rowsFor .cancel bookingId (ledgerOf d customerId) = [] ∧
        points ≤ pointsOf .earn (rowsFor .earn bookingId (ledgerOf d customerId))
  | _ => True

instance (customerId bookingId : Uuid) (d : Db) (call : PointsCall) :
    Decidable (ReversesOnce customerId bookingId d call) :=
  match call with
  | .cancelBookingPoints .. => inferInstanceAs (Decidable (_ → _ → _ ∧ _))
  | .creditPoints .. | .redeemPoints .. => .isTrue trivial

/-- The calls of the customer follow one another, and each reversal for the booking is its first. -/
abbrev PointsOneAtATime (customerId bookingId : Uuid) :
    PointsSystem → Event PointsCall Env → Prop :=
  Transactions.Serial (ReversesOnce customerId bookingId) fun _ => true

end Loyalty
