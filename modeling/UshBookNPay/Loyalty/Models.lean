import UshBookNPay.Payment.Models

/-!
# Rows of the loyalty domain
-/

/-- A row of `loyalty_account`. -/
structure LoyaltyAccountRow where
  id : Uuid
  customerId : Uuid
  balancePoints : ℤ := 0
  totalEarned : ℤ := 0
  totalRedeemed : ℤ := 0
  pointsExpireAt : Option Instant := none
  updatedAt : Option Instant := none
  deriving DecidableEq

instance : Table.Keyed LoyaltyAccountRow := ⟨LoyaltyAccountRow.id⟩

inductive TransactionType where
  | earn | redeem | expire | adjust | cancel
  deriving DecidableEq, Repr

/-- A row of `loyalty_transaction`. -/
structure LoyaltyTransactionRow where
  accountId : Uuid
  customerId : Uuid
  transactionType : TransactionType
  points : ℤ
  bookingId : Option Uuid := none
  bookingNumber : Option String := none
  description : String
  createdBy : Option String
  deriving DecidableEq
