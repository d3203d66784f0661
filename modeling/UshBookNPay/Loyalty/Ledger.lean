import UshBookNPay.Loyalty.LoyaltyService

/-!
# The ledger of a customer

What one call does to the account and the ledger of its customer, and how a ledger is replayed.
-/

namespace Loyalty

/-- The account of the customer. -/
def accountOf (d : Db) (customerId : Uuid) : Option LoyaltyAccountRow :=
  d.loyaltyAccounts.find? (·.customerId = customerId)

/-- The balance of the customer, 0 without an account. -/
def balanceOf (d : Db) (customerId : Uuid) : ℤ := ((accountOf d customerId).map (·.balancePoints)).getD 0

/-- The transactions of the customer in their order. -/
def ledgerOf (d : Db) (customerId : Uuid) : List LoyaltyTransactionRow :=
  d.loyaltyTransactions.filter (·.customerId = customerId)

/-- The unique keys of `loyalty_account`. -/
structure WellFormed (d : Db) : Prop where
  ids : Table.Unique d.loyaltyAccounts
  customers : (d.loyaltyAccounts.map (·.customerId)).Nodup

/-- The calls a `credit_points` awards points for. -/
def Awards (d : Db) (customerId : Uuid) (points : ℤ) (bookingId : Option Uuid) : Prop :=
  paidByRedemption d bookingId = false ∧ 0 < points ∧
    alreadyCredited d customerId bookingId = false

instance (d : Db) (customerId : Uuid) (points : ℤ) (bookingId : Option Uuid) :
    Decidable (Awards d customerId points bookingId) :=
  inferInstanceAs (Decidable (_ ∧ _))

/-! ## The effect of a call -/

/-- The call opens an account without a transaction. -/
structure Opened (d d' : Db) (account : LoyaltyAccountRow) : Prop where
  fresh : accountOf d account.customerId = none
  empty : account = { id := account.id, customerId := account.customerId }
  stored : accountOf d' account.customerId = some account
  others : ∀ c, c ≠ account.customerId → accountOf d' c = accountOf d c
  ledger : d'.loyaltyTransactions = d.loyaltyTransactions
  bookings : d'.bookings = d.bookings

/-- The call makes `after` of the account `before`, found or opened, and adds one transaction. -/
structure Posted (d d' : Db) (before after : LoyaltyAccountRow) (txn : LoyaltyTransactionRow) :
    Prop where
  found : accountOf d before.customerId = some before ∨
    (accountOf d before.customerId = none ∧
      before = { id := before.id, customerId := before.customerId })
  stored : accountOf d' before.customerId = some after
  others : ∀ c, c ≠ before.customerId → accountOf d' c = accountOf d c
  ledger : d'.loyaltyTransactions = d.loyaltyTransactions ++ [txn]
  customer : txn.customerId = before.customerId
  bookings : d'.bookings = d.bookings

/-- The account and the transaction a call posts, at an instant of the clock. -/
def Entry (expiryDays : ExpiryDays) (clock : Instant → Prop) (d : Db) (before after : LoyaltyAccountRow)
    (txn : LoyaltyTransactionRow) : LoyaltyOp → Prop
  | .creditPoints customerId loyaltyPoints arrangementLoyaltyPoints bookingId _ _ =>
    let points := resolveEarnPoints loyaltyPoints arrangementLoyaltyPoints
    before.customerId = customerId ∧ Awards d customerId points bookingId ∧
      txn.transactionType = .earn ∧ txn.points = points ∧ txn.bookingId = bookingId ∧
      after.balancePoints = before.balancePoints + points ∧
      ∃ now, clock now ∧ after.pointsExpireAt = some (computeExpiry now expiryDays)
  | .redeemPoints customerId costInPoints bookingId _ _ =>
    before.customerId = customerId ∧ accountOf d customerId = some before ∧
      0 < costInPoints ∧ costInPoints ≤ before.balancePoints ∧
      (∃ now, clock now ∧ isAccountExpired now before.pointsExpireAt = false) ∧
      txn.transactionType = .redeem ∧ txn.points = costInPoints ∧ txn.bookingId = bookingId ∧
      after.balancePoints = before.balancePoints - costInPoints ∧
      after.pointsExpireAt = before.pointsExpireAt
  | .cancelBookingPoints customerId points bookingId _ _ =>
    before.customerId = customerId ∧ accountOf d customerId = some before ∧ 0 < points ∧
      txn.transactionType = .cancel ∧ txn.points = points ∧ txn.bookingId = bookingId ∧
      after.balancePoints = before.balancePoints - max 0 (cancelDeduction before points) ∧
      after.pointsExpireAt = before.pointsExpireAt
  | .adjustPoints customerId delta _ _ =>
    before.customerId = customerId ∧ txn.transactionType = .adjust ∧
      txn.points = |adjustment before delta| ∧ txn.bookingId = none ∧
      after.balancePoints = before.balancePoints + adjustment before delta ∧
      after.pointsExpireAt = before.pointsExpireAt
  | .getAccount customerId =>
    before.customerId = customerId ∧ accountOf d customerId = some before ∧
      0 < before.balancePoints ∧ (∃ now, clock now ∧ isAccountExpired now before.pointsExpireAt) ∧
      txn.transactionType = .expire ∧ txn.points = before.balancePoints ∧ txn.bookingId = none ∧
      after.balancePoints = 0 ∧ after.pointsExpireAt = before.pointsExpireAt
  | .bookings _ => False

/-- What a call leaves of the database `d`. -/
inductive Effect (expiryDays : ExpiryDays) (clock : Instant → Prop) (d : Db) (op : LoyaltyOp) :
    Db → Prop
  /-- an exception, or nothing to do -/
  | kept : Effect expiryDays clock d op d
  | opened (d' : Db) (account : LoyaltyAccountRow) : op.customer = some account.customerId →
      Opened d d' account → Effect expiryDays clock d op d'
  | posted (d' : Db) (before after : LoyaltyAccountRow) (txn : LoyaltyTransactionRow) :
      Posted d d' before after txn → Entry expiryDays clock d before after txn op →
      Effect expiryDays clock d op d'
  | bookings (rows : List BookingRow) : op = .bookings rows →
      Effect expiryDays clock d op { d with bookings := rows }

/-! ## Replaying a ledger -/

/-- One step of a run: a call, with what the environment answers to its statements. -/
def loyaltyStep (expiryDays : ExpiryDays) (d : Db) (x : LoyaltyOp × (ℕ → Env)) : Db :=
  Transactions.atomically x.2 (loyaltyCode expiryDays x.1) d

/-- A database without accounts. -/
def withoutAccounts (d : Db) : Db := { d with loyaltyAccounts := [], loyaltyTransactions := [] }

/-- The call takes points by an adjustment. Its transaction does not say so. -/
def LoyaltyOp.takesPoints : LoyaltyOp → Bool
  | .adjustPoints _ delta _ _ => delta < 0
  | _ => false

/-- The balance after one more transaction: a reversal takes what is there at most. -/
def afterEntry (takes : Bool) (balance : ℤ) (t : LoyaltyTransactionRow) : ℤ :=
  match t.transactionType with
  | .earn => balance + t.points
  | .adjust => if takes then balance - t.points else balance + t.points
  | .redeem | .expire => balance - t.points
  | .cancel => max 0 (balance - t.points)

/-- The balance after one more transaction where a reversal takes all of its points. -/
def afterWholeEntry (takes : Bool) (balance : ℤ) (t : LoyaltyTransactionRow) : ℤ :=
  if t.transactionType = .cancel then balance - t.points else afterEntry takes balance t

/-- The transactions a run adds to the ledger of the customer, each with the call that added it. -/
def entries (expiryDays : ExpiryDays) (customerId : Uuid) :
    Db → List (LoyaltyOp × (ℕ → Env)) → List (LoyaltyOp × LoyaltyTransactionRow)
  | _, [] => []
  | d, x :: xs =>
    let d' := loyaltyStep expiryDays d x
    ((ledgerOf d' customerId).drop (ledgerOf d customerId).length).map (x.1, ·) ++
      entries expiryDays customerId d' xs

end Loyalty
