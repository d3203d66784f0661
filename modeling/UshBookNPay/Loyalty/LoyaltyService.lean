import UshBookNPay.Lib.Runs
import UshBookNPay.Loyalty.Repository

/-!
# LoyaltyService

The use cases of the loyalty programme, and their runs. A session that has loaded an account before
keeps its first values, so that `redeem_points` debits the account its expiry check has looked at.
-/

open Transactions.Prog (query raiseIf)

namespace Loyalty

/-- The account with a lazy expiry check. -/
def getAccount (customerId : Uuid) : Tx (Option LoyaltyAccountRow) := do
  let account ← getAccountByCustomer customerId
  match account with
  | none => pure none
  | some account => do
    let (account, _) ← expireAccountIfNeeded account (some "system")
    pure (some account)

/-- `(bk.loyalty_data or {}).get(key)`, as a truth value; a value that is no dict has no `get`. -/
def loyaltyField (b : BookingRow) (key : String) : Except Error Bool :=
  match b.loyaltyData with
  | none => .ok false
  | some data =>
    if ¬ data.truthy then .ok false
    else match data with
      | .obj fields => .ok ((fields.lookup key).any Json.truthy)
      | _ => .error (.attributeError "get")

/-- Whether a booking was paid by a redemption. -/
def isLoyaltyBooking (b : BookingRow) : Except Error Bool := do
  if b.bookingType = "loyalty" ∨ b.paymentType = "rewarded" ∨
      b.paymentStatus = .rewarded ∨ b.rewardId.isSome then pure true
  else if ← loyaltyField b "points_cost" then pure true
  else loyaltyField b "reward_id"

/-- The check of `credit_points` on its booking. What it raises is logged only. -/
def paidByRedemption (d : Db) (bookingId : Option Uuid) : Bool :=
  match bookingId.bind (Table.get d.bookings) with
  | none => false
  | some b => match isLoyaltyBooking b with
    | .ok answer => answer
    | .error _ => false

/-- An earn transaction for the booking is in the ledger of the customer. -/
def alreadyCredited (d : Db) (customerId : Uuid) (bookingId : Option Uuid) : Bool :=
  match bookingId with
  | none => false
  | some id => d.loyaltyTransactions.any fun t =>
      t.customerId = customerId ∧ t.bookingId = some id ∧ t.transactionType = .earn

/-- Award points after a confirmed booking. -/
def LoyaltyService.creditPoints (expiryDays : ExpiryDays) (customerId : Uuid) (loyaltyPoints : ℤ)
    (arrangementLoyaltyPoints : Option ℤ) (bookingId : Option Uuid)
    (bookingNumber createdBy : Option String) : Tx LoyaltyAccountRow := do
  let redemption ← query fun d => paidByRedemption d bookingId
  if redemption then getOrCreateAccount customerId
  else do
    let points := resolveEarnPoints loyaltyPoints arrangementLoyaltyPoints
    if points ≤ 0 then getOrCreateAccount customerId
    else do
      let already ← query fun d => alreadyCredited d customerId bookingId
      if already then getOrCreateAccount customerId
      else do
        let now ← Transactions.Prog.ask Env.now
        Loyalty.creditPoints customerId points (computeExpiry now expiryDays) bookingId
          bookingNumber none createdBy

/-- Spend points: an expired account has none left. -/
def LoyaltyService.redeemPoints (customerId : Uuid) (costInPoints : ℤ) (bookingId : Option Uuid)
    (bookingNumber createdBy : Option String) : Tx LoyaltyAccountRow := do
  let account ← getAccount customerId
  match account with
  | none => throw (.valueError ("No loyalty account found for customer " ++ uuidStr customerId ++ "."))
  | some account =>
    debitPoints account costInPoints bookingId bookingNumber
      (some ("Points redeemed for booking " ++ bookingReference bookingId bookingNumber)) createdBy

/-- Reverse the points of a cancelled booking. -/
def LoyaltyService.cancelBookingPoints (customerId : Uuid) (points : ℤ) (bookingId : Option Uuid)
    (bookingNumber createdBy : Option String) : Tx (Option LoyaltyAccountRow) :=
  if points ≤ 0 then pure none
  else cancelPoints customerId points bookingId bookingNumber
    (some ("Points reversed for cancelled booking " ++ bookingReference bookingId bookingNumber))
    createdBy

/-! ## Runs -/

/-- A call of the loyalty programme with its arguments. -/
inductive LoyaltyOp where
  | creditPoints (customerId : Uuid) (loyaltyPoints : ℤ) (arrangementLoyaltyPoints : Option ℤ)
      (bookingId : Option Uuid) (bookingNumber createdBy : Option String)
  | redeemPoints (customerId : Uuid) (costInPoints : ℤ) (bookingId : Option Uuid)
      (bookingNumber createdBy : Option String)
  | cancelBookingPoints (customerId : Uuid) (points : ℤ) (bookingId : Option Uuid)
      (bookingNumber createdBy : Option String)
  | adjustPoints (customerId : Uuid) (delta : ℤ) (description createdBy : Option String)
  | getAccount (customerId : Uuid)
  /-- the other parts of the application leave these bookings -/
  | bookings (rows : List BookingRow)
  deriving DecidableEq

/-- The customer of a call. -/
def LoyaltyOp.customer : LoyaltyOp → Option Uuid
  | .creditPoints customerId .. | .redeemPoints customerId .. | .cancelBookingPoints customerId ..
  | .adjustPoints customerId .. | .getAccount customerId => some customerId
  | .bookings _ => none

def loyaltyCode (expiryDays : ExpiryDays) : LoyaltyOp → Tx Unit
  | .creditPoints customerId loyaltyPoints arrangementLoyaltyPoints bookingId bookingNumber
      createdBy =>
    discard (LoyaltyService.creditPoints expiryDays customerId loyaltyPoints
      arrangementLoyaltyPoints bookingId bookingNumber createdBy)
  | .redeemPoints customerId costInPoints bookingId bookingNumber createdBy =>
    discard (LoyaltyService.redeemPoints customerId costInPoints bookingId bookingNumber createdBy)
  | .cancelBookingPoints customerId points bookingId bookingNumber createdBy =>
    discard (LoyaltyService.cancelBookingPoints customerId points bookingId bookingNumber createdBy)
  | .adjustPoints customerId delta description createdBy =>
    adjustPoints customerId delta description createdBy
  | .getAccount customerId => discard (getAccount customerId)
  | .bookings rows => Transactions.Prog.update [] fun d => { d with bookings := rows }

end Loyalty
