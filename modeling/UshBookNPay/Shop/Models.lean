import UshBookNPay.Common.PaymentAttribution
import UshBookNPay.Core.Database

/-!
# Shop orders

The rows of the shop, the delivery state machine and what a session of the shop asks of the world
outside its database.
-/

namespace Shop

/-! ## Statuses -/

inductive DeliveryStatus where
  | ordered
  | readyToGo
  | onTheWay
  | delivered
  | received
  deriving DecidableEq

/-- How the status is written in a text. -/
def DeliveryStatus.text : DeliveryStatus → String
  | .ordered => "DeliveryStatus.ORDERED"
  | .readyToGo => "DeliveryStatus.READY_TO_GO"
  | .onTheWay => "DeliveryStatus.ON_THE_WAY"
  | .delivered => "DeliveryStatus.DELIVERED"
  | .received => "DeliveryStatus.RECEIVED"

def DeliveryStatus.value : DeliveryStatus → String
  | .ordered => "ordered"
  | .readyToGo => "ready_to_go"
  | .onTheWay => "on_the_way"
  | .delivered => "delivered"
  | .received => "received"

inductive OrderPaymentStatus where
  | notInitiated
  | pending
  | success
  | failed
  | refunded
  deriving DecidableEq

def OrderPaymentStatus.value : OrderPaymentStatus → String
  | .notInitiated => "not_initiated"
  | .pending => "pending"
  | .success => "success"
  | .failed => "failed"
  | .refunded => "refunded"

def OrderPaymentStatus.all : List OrderPaymentStatus :=
  [.notInitiated, .pending, .success, .failed, .refunded]

/-- `OrderPaymentStatus(value)` -/
def OrderPaymentStatus.parse (value : String) : Option OrderPaymentStatus :=
  all.find? (·.value = value)

/-- The mapping of `ShopPaymentThrough.normalise` -/
def THROUGH : List (String × String) :=
  [("ushspa", "ushspa"), ("app", "ushspa"), ("mobile", "ushspa"), ("ushweb", "ushweb"),
    ("web", "ushweb"), ("ushdesk", "ushdesk"), ("desk", "ushdesk"), ("pos", "ushdesk"),
    ("counter", "ushdesk"), ("other", "other")]

/-- `ShopPaymentThrough.normalise` -/
def normaliseThrough (value : Option String) : Option String :=
  match value with
  | none => none
  | some "" => none
  | some v => some ((THROUGH.lookup (Text.lower (Text.strip v))).getD "other")

/-! ## Delivery state machine -/

def TRANSITIONS : DeliveryStatus → List DeliveryStatus
  | .ordered => [.readyToGo]
  | .readyToGo => [.onTheWay]
  | .onTheWay => [.delivered]
  | .delivered => [.received]
  | .received => []

/-- Empty, as the staff can mark an order as received too. -/
def CUSTOMER_ONLY_TRANSITIONS : List (DeliveryStatus × DeliveryStatus) := []

/-- What a customer can do with the tracking code. -/
def CUSTOMER_ALLOWED_TRANSITIONS : List (DeliveryStatus × DeliveryStatus) :=
  [(.delivered, .received)]

/-- `can_transition` -/
def canTransition (current target : DeliveryStatus) : Bool := target ∈ TRANSITIONS current

/-- `assert_can_transition`; the error is the text of `InvalidDeliveryTransitionError`. -/
def assertCanTransition (current target : DeliveryStatus) : Except String Unit :=
  if canTransition current target then .ok ()
  else .error ("Cannot transition from '" ++ current.text ++ "' to '" ++ target.text ++ "'.")

/-- `assert_staff_can_transition` -/
def assertStaffCanTransition (current target : DeliveryStatus) : Except String Unit := do
  assertCanTransition current target
  if (current, target) ∈ CUSTOMER_ONLY_TRANSITIONS then
    throw ("Transition '" ++ current.text ++ "' → '" ++ target.text ++
      "' can only be done by the customer using their secret tracking code.")

/-- `assert_customer_can_transition` -/
def assertCustomerCanTransition (current target : DeliveryStatus) : Except String Unit := do
  assertCanTransition current target
  if (current, target) ∉ CUSTOMER_ALLOWED_TRANSITIONS then
    throw ("Transition '" ++ current.text ++ "' → '" ++ target.text ++
      "' is not available to customers.")

/-! ## Rows -/

/-- The structured delivery address. -/
structure DeliveryAddress where
  area : String := ""
  block : String := ""
  street : String := ""
  buildingNo : String := ""
  floor : Option String := none
  apartment : Option String := none
  city : Option String := none
  deriving DecidableEq

structure ShopOrderItem where
  id : Uuid
  productId : Uuid
  productName : String
  productNameAr : String
  productImageUrl : Option String
  unitPrice : Fils
  quantity : ℕ
  lineTotal : Fils
  deriving DecidableEq

structure ShopOrderRow where
  id : Uuid
  orderNumber : String
  customerId : Uuid
  customerName : String := ""
  customerPhone : String := ""
  contactNumber : String := ""
  orderRequestedByUser : Option Uuid := none
  orderRequestedByUserData : Option Json := none
  address : DeliveryAddress := {}
  deliveryNotes : Option String := none
  deliveryStatus : DeliveryStatus := .ordered
  trackingCode : String
  publicToken : String
  tokenExpiresAt : Option Instant := none
  subtotal : Fils := 0
  discount : Fils := 0
  totalAmount : Fils := 0
  paymentStatus : OrderPaymentStatus := .notInitiated
  paymentMethod : Option String := none
  paymentThrough : Option String := none
  paymentProvider : Option String := none
  paymentUrl : Option String := none
  paymentData : Option Json := none
  internalNotes : Option String := none
  items : List ShopOrderItem := []
  deriving DecidableEq

instance : Table.Keyed ShopOrderRow := ⟨ShopOrderRow.id⟩

structure ShopOrderStatusHistoryRow where
  orderId : Uuid
  fromStatus : DeliveryStatus
  toStatus : DeliveryStatus
  changedBy : String := "system"
  note : Option String := none
  deriving DecidableEq

/-- The rows in the order of their creation. -/
structure ShopDb where
  orders : List ShopOrderRow := []
  statusHistory : List ShopOrderStatusHistoryRow := []
  deriving DecidableEq

/-- The status history of an order. -/
def historyOf (d : ShopDb) (orderId : Uuid) : List ShopOrderStatusHistoryRow :=
  d.statusHistory.filter (·.orderId = orderId)

/-- `apply_attribution` of an order, before it is written. -/
def ShopOrderRow.beforeWrite (o : ShopOrderRow) : ShopOrderRow :=
  let a := PaymentAttribution.applyAttribution
    { paymentThrough := o.paymentThrough
      paymentProvider := o.paymentProvider
      paymentMethod := o.paymentMethod }
    o.paymentData (PaymentAttribution.isPaid [some o.paymentStatus.value])
  { o with
    paymentThrough := a.paymentThrough
    paymentProvider := a.paymentProvider
    paymentMethod := a.paymentMethod }

/-! ## The world outside -/

inductive ShopError where
  | notFound (message : String)
  | validation (message : String)
  | authorization (message : String)
  /-- a unique constraint refuses an insert -/
  | integrity (constraint : String)
  /-- a value does not fit its `Numeric` column -/
  | numericOverflow
  /-- `scalar_one_or_none` on several rows -/
  | multipleResults
  /-- an update that matches no row -/
  | staleData
  /-- a text that is no decimal number -/
  | invalidOperation
  /-- `compare_digest` of a text that is not ASCII -/
  | typeError
  /-- `HTTPException` -/
  | http (status : ℕ) (detail : String)
  deriving DecidableEq

/-- What the world outside answers to a statement. -/
structure ShopEnv where
  /-- `datetime.now` -/
  now : Instant := 0
  /-- the year and month of the local date, as `%Y/%m` -/
  month : String := "2026/10"
  /-- `uuid.uuid4` -/
  uuid : Uuid := 0
  /-- the answer of `get_product`: an exception, or the product -/
  product : Except String (List (String × Json)) := .error ""
  /-- a six-digit PIN -/
  trackingCode : String := "100000"
  /-- `secrets.token_urlsafe` -/
  publicToken : String := ""

instance : Nonempty ShopEnv := ⟨{}⟩

/-- A program of the shop. Nothing outside is acted on before it commits. -/
abbrev ShopTx := Transactions.Prog ShopDb LockKey Unit ShopEnv ShopError

end Shop
