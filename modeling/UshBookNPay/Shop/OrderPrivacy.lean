import UshBookNPay.Lib.Noninterference
import UshBookNPay.Shop.Router

/-!
# What a customer reaches

The orders of the other customers as a customer can change and read them, and what the other customers
see of a run.
-/

open Security (TokenPayload)
open Runs (run AllSteps)
open Noninterference (trace)

namespace Shop

/-! ## Customers -/

/-- Who a token names: the UUID it has as `sub`, or the text where that is none. -/
abbrev Identity := Uuid ⊕ String

def identity (sub : String) : Identity := (parseUuid sub).elim (.inr sub) .inl

/-- The order of somebody else. -/
def Foreign (who : Identity) (order : ShopOrderRow) : Prop := who ≠ .inl order.customerId

instance (who : Identity) (order : ShopOrderRow) : Decidable (Foreign who order) :=
  inferInstanceAs (Decidable (_ ≠ _))

/-- The request comes with a token of the customer. -/
def ShopCall.IsBy (who : Identity) (call : ShopCall) : Prop :=
  match call.request with
  | .user user _ => identity user.sub = who
  | .anyone _ => False

instance (who : Identity) (call : ShopCall) : Decidable (call.IsBy who) := by
  unfold ShopCall.IsBy
  cases call.request <;> exact inferInstance

/-- The request comes with a token of the staff. -/
def ShopCall.isStaff (call : ShopCall) : Bool :=
  match call.request with
  | .user user _ => isStaffUser user
  | .anyone _ => false

/-! ## One request -/

/-- The orders of the others, with their histories. -/
def othersPart (who : Identity) (d : ShopDb) :
    List (ShopOrderRow × List ShopOrderStatusHistoryRow) :=
  (d.orders.filter (Foreign who)).map fun order => (order, historyOf d order.id)

/-- The answer shows an order of somebody else. A tracking response is what the public token of its order
is for. -/
def ShopAnswer.discloses (who : Identity) : ShopAnswer → Bool
  | .detail response => Foreign who response.order
  | .list _ _ _ results => results.any fun item => who ≠ .inl item.customerId
  | .tracking _ | .refused _ _ | .raised _ | .valueError | .unrefreshed => false

/-- A request of the customer neither changes nor discloses an order of somebody else. -/
def Discreet (who : Identity) (d : ShopDb) (call : ShopCall) : Prop :=
  call.IsBy who → othersPart who (serve d call) = othersPart who d ∧
    ¬ (respond d call).1.discloses who

instance (who : Identity) (d : ShopDb) (call : ShopCall) : Decidable (Discreet who d call) :=
  inferInstanceAs (Decidable (call.IsBy who → _ ∧ ¬ _))

/-- The order whose payment the request updates. -/
def ShopCall.pays (call : ShopCall) : Option Uuid :=
  match call.request with
  | .user _ (.updatePaymentStatus orderId _) => some orderId
  | _ => none

/-- A customer's request updates the payment of an order of their own, if of any. -/
def PaysOwn (d : ShopDb) (call : ShopCall) : Prop :=
  ∀ orderId ∈ call.pays, ¬ call.isStaff →
    ∀ order ∈ Table.get d.orders orderId, call.IsBy (.inl order.customerId)

instance (d : ShopDb) (call : ShopCall) : Decidable (PaysOwn d call) :=
  inferInstanceAs (Decidable (∀ orderId ∈ call.pays, ¬ _ →
    ∀ order ∈ Table.get d.orders orderId, call.IsBy (.inl order.customerId)))

/-! ## Two runs -/

def ShopCall.places (call : ShopCall) : Bool :=
  match call.request with
  | .user _ (.createOrder _) => true
  | _ => false

/-- The request is somebody else's, or places an order. -/
def ShopCall.kept (who : Identity) (call : ShopCall) : Bool := ¬ call.IsBy who ∨ call.places

def PublicRequest.publicToken : PublicRequest → String
  | .trackOrder publicToken => publicToken
  | .confirmReceived publicToken _ => publicToken

/-- The public token of the request. -/
def ShopCall.publicToken (call : ShopCall) : Option String :=
  match call.request with
  | .anyone request => some request.publicToken
  | .user _ _ => none

/-- What the other customers see of a request: what they are answered themselves, and what is answered to
whoever has the public token of an order that is not the customer's. -/
def sees (who : Identity) (d : ShopDb) (call : ShopCall) : Option ShopAnswer :=
  if call.IsBy who ∨ call.isStaff ∨ ∃ token ∈ call.publicToken,
      ∃ order ∈ d.orders, order.publicToken = token ∧ ¬ Foreign who order then none
  else some (respond d call).1

/-- The others find the same orders and are answered the same where the customer sends no request but to
place an order. -/
structure Unaffected (who : Identity) (d : ShopDb) (calls : List ShopCall) : Prop where
  orders : othersPart who (run serve d calls) = othersPart who (run serve d (calls.filter (·.kept who)))
  answers : trace serve (sees who) d calls = trace serve (sees who) d (calls.filter (·.kept who))

/-- What the database promises of the orders: their primary keys, and that a column of customers holds
UUIDs. -/
structure Stored (d : ShopDb) : Prop where
  unique : Table.Unique d.orders
  uuids : ∀ order ∈ d.orders, order.customerId < 2 ^ 128

end Shop
