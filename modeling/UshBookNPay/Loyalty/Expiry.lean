import UshBookNPay.Loyalty.Ledger

/-!
# Points and their expiry

A timed run of the loyalty programme, seen from one customer. Beside the database it keeps how many of
the points on the account were there when `points_expire_at` passed and how many came later.
-/

namespace Loyalty

/-- The database at an instant, and the points on the account of a customer: those that were there
when `points_expire_at` passed, and the others. -/
structure Timed where
  db : Db
  now : Instant
  expired : ℤ := 0
  live : ℤ := 0

/-- A call, the time since the call before it and what the environment answers to its statements. -/
structure TimedCall where
  op : LoyaltyOp
  elapsed : ℕ
  env : ℕ → Env

/-- The expiry of the account of the customer. -/
def deadlineOf (d : Db) (customerId : Uuid) : Option Instant :=
  (accountOf d customerId).bind (·.pointsExpireAt)

/-- Whether `points_expire_at` has passed. -/
def Timed.passed (customerId : Uuid) (s : Timed) : Bool :=
  isAccountExpired s.now (deadlineOf s.db customerId)

/-- Time goes on to the next call: where it passes `points_expire_at`, all points expire. -/
def Timed.wait (customerId : Uuid) (s : Timed) (elapsed : ℕ) : Timed :=
  let later := { s with now := s.now + elapsed }
  if ¬ s.passed customerId ∧ later.passed customerId then
    { later with expired := s.expired + s.live, live := 0 }
  else later

/-- The call has left the database `d'`. Added points are live; a redemption takes live points, every
other deduction expired ones first. -/
def Timed.record (customerId : Uuid) (s : Timed) (op : LoyaltyOp) (d' : Db) : Timed :=
  let change := balanceOf d' customerId - balanceOf s.db customerId
  match op with
  | .redeemPoints .. => { s with db := d', live := s.live + change }
  | _ =>
    if 0 ≤ change then { s with db := d', live := s.live + change }
    else
      let fromExpired := min s.expired (-change)
      { s with
        db := d', expired := s.expired - fromExpired, live := s.live + change + fromExpired }

/-- The database the call leaves, all of it happening now. -/
def Timed.after (expiryDays : ExpiryDays) (s : Timed) (x : TimedCall) : Db :=
  loyaltyStep expiryDays s.db (x.op, fun n => { x.env n with now := s.now })

def timedStep (expiryDays : ExpiryDays) (customerId : Uuid) (s : Timed) (x : TimedCall) : Timed :=
  let s := s.wait customerId x.elapsed
  s.record customerId x.op (s.after expiryDays x)

/-- The call that leaves `d'` spends live points only, if it is a redemption, and no live point
expires. -/
def SpendsLive (customerId : Uuid) (s : Timed) (op : LoyaltyOp) (d' : Db) : Prop :=
  match op with
  | .redeemPoints .. => balanceOf s.db customerId - balanceOf d' customerId ≤ s.live
  | .getAccount _ => s.live ≤ balanceOf d' customerId
  | _ => True

instance (customerId : Uuid) (s : Timed) (op : LoyaltyOp) (d' : Db) :
    Decidable (SpendsLive customerId s op d') :=
  match op with
  | .redeemPoints .. => inferInstanceAs (Decidable (_ ≤ _))
  | .getAccount _ => inferInstanceAs (Decidable (_ ≤ _))
  | .creditPoints .. | .cancelBookingPoints .. | .adjustPoints .. | .bookings _ => .isTrue trivial

def CallSpendsLive (expiryDays : ExpiryDays) (customerId : Uuid) (s : Timed) (x : TimedCall) :
    Prop :=
  let s := s.wait customerId x.elapsed
  SpendsLive customerId s x.op (s.after expiryDays x)

instance (expiryDays : ExpiryDays) (customerId : Uuid) (s : Timed) (x : TimedCall) :
    Decidable (CallSpendsLive expiryDays customerId s x) :=
  inferInstanceAs (Decidable (SpendsLive _ _ _ _))

/-- Points are added to the account of the customer before `points_expire_at` passes, or, by
`credit_points`, when it has none left. -/
def AddsInTime (customerId : Uuid) (s : Timed) : LoyaltyOp → Prop
  | .creditPoints c loyaltyPoints arrangementLoyaltyPoints bookingId _ _ =>
    c = customerId →
      Awards s.db c (resolveEarnPoints loyaltyPoints arrangementLoyaltyPoints) bookingId →
      s.passed customerId → balanceOf s.db customerId = 0
  | .adjustPoints c delta _ _ => c = customerId → 0 < delta → ¬ s.passed customerId
  | _ => True

instance (customerId : Uuid) (s : Timed) (op : LoyaltyOp) :
    Decidable (AddsInTime customerId s op) :=
  match op with
  | .creditPoints .. => inferInstanceAs (Decidable (_ → _ → _ → _))
  | .adjustPoints .. => inferInstanceAs (Decidable (_ → _ → ¬ _))
  | .redeemPoints .. | .cancelBookingPoints .. | .getAccount _ | .bookings _ => .isTrue trivial

def CallAddsInTime (customerId : Uuid) (s : Timed) (x : TimedCall) : Prop :=
  AddsInTime customerId (s.wait customerId x.elapsed) x.op

instance (customerId : Uuid) (s : Timed) (x : TimedCall) :
    Decidable (CallAddsInTime customerId s x) :=
  inferInstanceAs (Decidable (AddsInTime _ _ _))

end Loyalty
