import UshBookNPay.Core.Environment

/-!
# Business rules of the loyalty programme
-/

open Transactions.Prog (raiseIf)

namespace Loyalty

/-- `LOYALTY_POINTS_EXPIRY_DAYS`, within the bounds of the settings. -/
structure ExpiryDays where
  days : ℕ := 180
  ge : 1 ≤ days := by decide
  le : days ≤ 3650 := by decide

def microsecondsPerDay : ℤ := 24 * 3600 * 10 ^ 6

/-- The points of a confirmed booking: those of the arrangement where it has any. -/
def resolveEarnPoints (loyaltyPoints : ℤ) (arrangementLoyaltyPoints : Option ℤ) : ℤ :=
  match arrangementLoyaltyPoints with
  | some points => if 0 < points then points else max 0 loyaltyPoints
  | none => max 0 loyaltyPoints

def computeExpiry (now : Instant) (expiry : ExpiryDays) : Instant :=
  now + expiry.days * microsecondsPerDay

theorem lt_computeExpiry (now : Instant) (expiry : ExpiryDays) :
    now < computeExpiry now expiry := by
  have hdays : (1 : ℤ) ≤ expiry.days := by exact_mod_cast expiry.ge
  unfold computeExpiry microsecondsPerDay
  nlinarith

/-- An account that has never earned points does not expire. -/
def isAccountExpired (now : Instant) (pointsExpireAt : Option Instant) : Bool :=
  match pointsExpireAt with
  | none => false
  | some deadline => deadline ≤ now

def assertSufficientBalance (balancePoints costInPoints : ℤ) : Tx Unit := do
  raiseIf (costInPoints ≤ 0) (.valueError "Redemption cost must be greater than zero.")
  raiseIf (balancePoints < costInPoints)
    (.valueError ("Insufficient loyalty points. Balance: " ++ toString balancePoints ++
      ", required: " ++ toString costInPoints ++ "."))

end Loyalty
