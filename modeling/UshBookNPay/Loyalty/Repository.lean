import UshBookNPay.Loyalty.Rules

/-!
# LoyaltyRepository

The account of a customer and its ledger. The repository never commits: its writes belong to the
transaction of the caller. No query locks the account, and a write sets the columns to values computed
from the account as it was loaded.
-/

open Transactions.Prog (query checkedUpdate ask raiseIf)

namespace Loyalty

/-- Whether a number of points fits its `BigInteger` column. -/
def fitsBigInteger (n : ℤ) : Bool := -2 ^ 63 ≤ n ∧ n < 2 ^ 63

def getAccountByCustomer (customerId : Uuid) : Tx (Option LoyaltyAccountRow) :=
  query fun d => d.loyaltyAccounts.find? (·.customerId = customerId)

def insertAccount (account : LoyaltyAccountRow) : Tx LoyaltyAccountRow := do
  checkedUpdate
    (fun d =>
      if (Table.get d.loyaltyAccounts account.id).isSome then
        some (.integrity "loyalty_account_pkey")
      else if d.loyaltyAccounts.any (·.customerId = account.customerId) then
        some (.integrity "loyalty_account_customer_id_key")
      else none)
    [.row "loyalty_account" account.id, .index "customer_id" (uuidStr account.customerId)]
    fun d => { d with loyaltyAccounts := d.loyaltyAccounts ++ [account] }
  pure account

def getOrCreateAccount (customerId : Uuid) : Tx LoyaltyAccountRow := do
  let account ← query fun d => d.loyaltyAccounts.find? (·.customerId = customerId)
  match account with
  | some account => pure account
  | none => do
    let id ← ask Env.uuid
    insertAccount { id := id, customerId := customerId }

/-- What the database has against a changed account and the transaction added with it. -/
def ledgerConflict (d : Db) (account : LoyaltyAccountRow) (txn : LoyaltyTransactionRow) :
    Option Error :=
  if ¬ (fitsBigInteger account.balancePoints ∧ fitsBigInteger account.totalEarned ∧
      fitsBigInteger account.totalRedeemed ∧ fitsBigInteger txn.points) then
    some .numericOverflow
  else match txn.bookingId with
    | none => none
    | some bookingId => if (Table.get d.bookings bookingId).isSome then none else
        some (.integrity "loyalty_transaction_booking_id_fkey")

/-- Write the changed columns of an account, `set`, and add a transaction to the ledger. -/
def writeLedger (account : LoyaltyAccountRow) (set : LoyaltyAccountRow → LoyaltyAccountRow)
    (txn : LoyaltyTransactionRow) : Tx LoyaltyAccountRow := do
  checkedUpdate (ledgerConflict · (set account) txn) [.row "loyalty_account" account.id]
    fun d => { d with
      loyaltyAccounts := Table.modify d.loyaltyAccounts account.id set
      loyaltyTransactions := d.loyaltyTransactions ++ [txn] }
  pure (set account)

/-- `booking_number or booking_id` in a description. -/
def bookingReference (bookingId : Option Uuid) (bookingNumber : Option String) : String :=
  (Text.or bookingNumber (bookingId.map uuidStr)).getD "None"

/-! ## Writes -/

/-- Add points and reset the expiry window. -/
def creditPoints (customerId : Uuid) (points : ℤ) (expiry : Instant) (bookingId : Option Uuid)
    (bookingNumber description createdBy : Option String) : Tx LoyaltyAccountRow := do
  raiseIf (points ≤ 0)
    (.valueError ("Points to credit must be > 0, got " ++ toString points ++ "."))
  let account ← getOrCreateAccount customerId
  let now ← ask Env.now
  writeLedger account
    (fun r => { r with
      balancePoints := account.balancePoints + points
      totalEarned := account.totalEarned + points
      pointsExpireAt := some expiry
      updatedAt := some now })
    { accountId := account.id
      customerId := customerId
      transactionType := .earn
      points := points
      bookingId := bookingId
      bookingNumber := bookingNumber
      description := (Text.or description
        (some ("Points earned from booking " ++ bookingReference bookingId bookingNumber))).getD ""
      createdBy := createdBy }

/-- Deduct points. `account` is the account of the customer as the session has it: a session that
has loaded it before keeps the values of the first load. -/
def debitPoints (account : LoyaltyAccountRow) (points : ℤ) (bookingId : Option Uuid)
    (bookingNumber description createdBy : Option String) : Tx LoyaltyAccountRow := do
  assertSufficientBalance account.balancePoints points
  let now ← ask Env.now
  writeLedger account
    (fun r => { r with
      balancePoints := account.balancePoints - points
      totalRedeemed := account.totalRedeemed + points
      updatedAt := some now })
    { accountId := account.id
      customerId := account.customerId
      transactionType := .redeem
      points := points
      bookingId := bookingId
      bookingNumber := bookingNumber
      description := (Text.or description
        (some ("Points redeemed for booking " ++ bookingReference bookingId bookingNumber))).getD ""
      createdBy := createdBy }

/-- The points a reversal takes: the balance never goes below zero. -/
def cancelDeduction (account : LoyaltyAccountRow) (points : ℤ) : ℤ :=
  min points account.balancePoints

/-- Reverse earned points. The transaction records the original points. -/
def cancelPoints (customerId : Uuid) (points : ℤ) (bookingId : Option Uuid)
    (bookingNumber description createdBy : Option String) : Tx (Option LoyaltyAccountRow) := do
  let account ← getAccountByCustomer customerId
  match account with
  | none => pure none
  | some account => do
    let now ← ask Env.now
    let deduct := cancelDeduction account points
    some <$> writeLedger account
      (fun r => if 0 < deduct then
          { r with balancePoints := account.balancePoints - deduct, updatedAt := some now }
        else r)
      { accountId := account.id
        customerId := customerId
        transactionType := .cancel
        points := points
        bookingId := bookingId
        bookingNumber := bookingNumber
        description := (Text.or description
          (some ("Points reversed for cancelled booking " ++
            bookingReference bookingId bookingNumber))).getD ""
        createdBy := createdBy }

/-- Zero the balance of an account whose points have expired; the flag says whether they have. -/
def expireAccountIfNeeded (account : LoyaltyAccountRow) (createdBy : Option String) :
    Tx (LoyaltyAccountRow × Bool) := do
  let now ← ask Env.now
  if ¬ isAccountExpired now account.pointsExpireAt then pure (account, false)
  else if 0 < account.balancePoints then do
    let now ← ask Env.now
    let account ← writeLedger account
      (fun r => { r with balancePoints := 0, updatedAt := some now })
      { accountId := account.id
        customerId := account.customerId
        transactionType := .expire
        points := account.balancePoints
        description := "Points expired due to inactivity."
        createdBy := createdBy }
    pure (account, true)
  else pure (account, true)

/-- The points an adjustment really moves: a deduction stops at a balance of zero. -/
def adjustment (account : LoyaltyAccountRow) (delta : ℤ) : ℤ :=
  if 0 < delta then delta else -(min |delta| account.balancePoints)

def adjustedAccount (account : LoyaltyAccountRow) (delta : ℤ) (now : Instant) :
    LoyaltyAccountRow :=
  { account with
    balancePoints := account.balancePoints + adjustment account delta
    totalEarned := account.totalEarned + max delta 0
    updatedAt := some now }

/-- Manual adjustment: positive adds points, negative takes them. The columns are written with the
values computed from the account as it was loaded. -/
def adjustPoints (customerId : Uuid) (delta : ℤ) (description createdBy : Option String) :
    Tx Unit := do
  let account ← getOrCreateAccount customerId
  let now ← ask Env.now
  let adjusted := adjustedAccount account delta now
  checkedUpdate
    (fun _ => if fitsBigInteger adjusted.balancePoints ∧ fitsBigInteger adjusted.totalEarned then
      none else some .numericOverflow)
    [.row "loyalty_account" account.id]
    fun d => { d with
      loyaltyAccounts := Table.modify d.loyaltyAccounts account.id fun r =>
        { r with
          balancePoints := adjusted.balancePoints
          totalEarned := adjusted.totalEarned
          updatedAt := adjusted.updatedAt }
      loyaltyTransactions := d.loyaltyTransactions ++ [
        { accountId := account.id
          customerId := customerId
          transactionType := .adjust
          points := |adjustment account delta|
          description := (Text.or description (some "Manual adjustment.")).getD ""
          createdBy := createdBy }] }

end Loyalty
