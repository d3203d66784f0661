import UshBookNPay.Core.Security
import UshBookNPay.Shop.ShopOrderService

/-!
# The shop API

The routes of the shop that read or write orders. Each request is one transaction; what it answers is
made from the rows it has loaded or refreshed.
-/

open Security (TokenPayload)
open Transactions (exec)

namespace Shop

/-! ## Callers -/

/-- `_is_staff_user` -/
def isStaffUser (user : TokenPayload) : Bool :=
  Text.lower (Text.strip (user.userType.getD "")) ∈ ["staff", "admin", "superuser", "employee"] ||
    user.isStaff.getD false || user.isSuperuser.getD false

/-! ## Requests -/

/-- The filters of the list of the staff. -/
structure OrderFilters where
  deliveryStatus : Option String := none
  paymentStatus : Option String := none
  paymentThrough : Option String := none
  /-- whether an order was created between `from_date` and `to_date` -/
  created : Uuid → Bool := fun _ => true
  search : Option String := none

structure UpdateDeliveryStatusRequest where
  status : DeliveryStatus
  note : Option String := none

structure UpdatePaymentStatusRequest where
  paymentStatus : OrderPaymentStatus
  paymentMethod : Option String := none
  paymentThrough : Option String := none
  paymentType : Option String := none
  paymentProvider : Option String := none
  paymentUrl : Option String := none
  paymentData : Option (List (String × Json)) := none

/-- A request that comes with a token. -/
inductive UserRequest where
  | listOrders (filters : OrderFilters) (limit offset : ℕ)
  | getOrder (orderId : Uuid)
  | updateDeliveryStatus (orderId : Uuid) (body : UpdateDeliveryStatusRequest)
  | updatePaymentStatus (orderId : Uuid) (body : UpdatePaymentStatusRequest)
  | createOrder (body : CreateShopOrderRequest)
  | listMyOrders (limit offset : ℕ)
  | getMyOrder (orderId : Uuid)

/-- A request that needs none. -/
inductive PublicRequest where
  | trackOrder (publicToken : String)
  | confirmReceived (publicToken trackingCode : String)

inductive ShopRequest where
  | user (currentUser : TokenPayload) (request : UserRequest)
  | anyone (request : PublicRequest)

/-! ## Responses -/

/-- `str(pay_data["invoiceId"]) if pay_data and pay_data.get("invoiceId") else None` -/
def paymentInvoiceId (payData : Option Json) : Option String :=
  ((payData.bind (·.field? "invoiceId")).filter Json.truthy).map Json.text

structure ShopOrderListItem where
  id : Uuid
  orderNumber : String
  customerId : Uuid
  customerName : String
  customerPhone : String
  contactNumber : String
  address : DeliveryAddress
  totalAmount : Fils
  deliveryStatus : DeliveryStatus
  paymentStatus : OrderPaymentStatus
  paymentMethod : Option String
  paymentThrough : Option String
  paymentProvider : Option String
  paymentInvoiceId : Option String
  paymentUrl : Option String
  paymentData : Option Json
  orderRequestedByUser : Option Uuid
  orderRequestedByUserData : Option Json
  itemsCount : ℕ
  trackingCode : String
  publicToken : String
  tokenExpiresAt : Option Instant
  deriving DecidableEq

/-- `order_to_list_item` -/
def orderToListItem (order : ShopOrderRow) : ShopOrderListItem where
  id := order.id
  orderNumber := order.orderNumber
  customerId := order.customerId
  customerName := order.customerName
  customerPhone := order.customerPhone
  contactNumber := order.contactNumber
  address := order.address
  totalAmount := order.totalAmount
  deliveryStatus := order.deliveryStatus
  paymentStatus := order.paymentStatus
  paymentMethod := order.paymentMethod
  paymentThrough := order.paymentThrough
  paymentProvider := order.paymentProvider
  paymentInvoiceId := paymentInvoiceId order.paymentData
  paymentUrl := order.paymentUrl
  paymentData := order.paymentData
  orderRequestedByUser := order.orderRequestedByUser
  orderRequestedByUserData := order.orderRequestedByUserData
  itemsCount := order.items.length
  trackingCode := order.trackingCode
  publicToken := order.publicToken
  tokenExpiresAt := order.tokenExpiresAt

/-- The columns of the order, with what comes from them and its status history. -/
structure ShopOrderDetailResponse where
  order : ShopOrderRow
  paymentInvoiceId : Option String
  statusHistory : List ShopOrderStatusHistoryRow
  deriving DecidableEq

/-- `order_to_detail` -/
def orderToDetail (d : ShopDb) (order : ShopOrderRow) : ShopOrderDetailResponse where
  order := order
  paymentInvoiceId := paymentInvoiceId order.paymentData
  statusHistory := historyOf d order.id

structure PublicOrderTrackingResponse where
  orderNumber : String
  trackingCode : String
  deliveryStatus : DeliveryStatus
  paymentStatus : OrderPaymentStatus
  tokenExpiresAt : Option Instant
  items : List ShopOrderItem
  statusHistory : List ShopOrderStatusHistoryRow
  deriving DecidableEq

/-- `order_to_public_tracking` -/
def orderToPublicTracking (d : ShopDb) (order : ShopOrderRow) : PublicOrderTrackingResponse where
  orderNumber := order.orderNumber
  trackingCode := order.trackingCode
  deliveryStatus := order.deliveryStatus
  paymentStatus := order.paymentStatus
  tokenExpiresAt := order.tokenExpiresAt
  items := order.items
  statusHistory := historyOf d order.id

inductive ShopAnswer where
  | detail (response : ShopOrderDetailResponse)
  /-- `ShopOrderListResponse` -/
  | list (total limit offset : ℕ) (results : List ShopOrderListItem)
  | tracking (response : PublicOrderTrackingResponse)
  /-- `HTTPException` -/
  | refused (status : ℕ) (detail : String)
  /-- an exception no route catches -/
  | raised (e : ShopError)
  /-- the `ValueError` of `uuid.UUID` -/
  | valueError
  /-- the refresh of an order that is gone -/
  | unrefreshed
  deriving DecidableEq

/-! ## Lists -/

/-- `LIKE`, with `\` before a character that stands for itself. -/
def likeChars : List Char → List Char → Bool
  | [], s => s.isEmpty
  | '%' :: pattern, s => s.tails.any (likeChars pattern ·)
  | '\\' :: c :: pattern, s =>
    match s with
    | x :: rest => x = c && likeChars pattern rest
    | [] => false
  | c :: pattern, s =>
    match s with
    | x :: rest => (c = '_' || x = c) && likeChars pattern rest
    | [] => false

/-- `column.ilike(f"%{search}%")` -/
def ilike (column search : String) : Bool :=
  likeChars ('%' :: (Text.lower search).toList ++ ['%']) (Text.lower column).toList

/-- A filter that is given holds of the value. -/
def given (filter : Option String) (holds : String → Bool) : Bool :=
  ((Text.or filter none).map holds).getD true

def OrderFilters.selects (filters : OrderFilters) (order : ShopOrderRow) : Bool :=
  given filters.deliveryStatus (order.deliveryStatus.value = ·) &&
    given filters.paymentStatus (order.paymentStatus.value = ·) &&
    given filters.paymentThrough (order.paymentThrough = some ·) &&
    filters.created order.id &&
    given filters.search fun s =>
      ilike order.orderNumber s || ilike order.customerName s || ilike order.customerPhone s

/-- `ShopOrderRepository.list_orders`, the newest order first, as the response. -/
def listOrders (d : ShopDb) (selects : ShopOrderRow → Bool) (limit offset : ℕ) : ShopAnswer :=
  let selected := (d.orders.filter selects).reverse
  .list selected.length limit offset (((selected.drop offset).take limit).map orderToListItem)

/-! ## Routes -/

/-- What a route makes of a use case: the refreshed order, or what it answers to an exception. -/
def answer (d : ShopDb) (outcome : Except ShopError Done × ShopDb × List Unit)
    (response : ShopDb → ShopOrderRow → ShopAnswer) (caught : ShopError → ShopAnswer) :
    ShopAnswer × ShopDb :=
  match outcome.1 with
  | .error e => (caught e, d)
  | .ok done =>
    (((Table.get outcome.2.1.orders done.orderId).map (response outcome.2.1)).getD .unrefreshed,
      outcome.2.1)

def detailOf (d : ShopDb) (order : ShopOrderRow) : ShopAnswer := .detail (orderToDetail d order)

def trackingOf (d : ShopDb) (order : ShopOrderRow) : ShopAnswer :=
  .tracking (orderToPublicTracking d order)

/-- `except (NotFoundError, ShopOrderNotFoundError)` -/
def catchNotFound : ShopError → ShopAnswer
  | .notFound message => .refused 404 message
  | e => .raised e

/-- `except ValidationError` -/
def catchValidation : ShopError → ShopAnswer
  | .validation message => .refused 422 message
  | e => .raised e

/-- Both, for the delivery status. -/
def catchDelivery : ShopError → ShopAnswer
  | .notFound message => .refused 404 message
  | .validation message => .refused 422 message
  | e => .raised e

/-- The exceptions of `confirm_received`. -/
def catchReceipt : ShopError → ShopAnswer
  | .notFound _ => .refused 404 "Order not found."
  | .authorization message => .refused 403 message
  | .validation message => .refused 422 message
  | e => .raised e

/-- What `get_order` and `get_my_order` make of the order they load. -/
def loaded (outcome : Except ShopError ShopOrderRow × ShopDb × List Unit)
    (found : ShopOrderRow → ShopAnswer) : ShopAnswer :=
  match outcome.1 with
  | .error e => catchNotFound e
  | .ok order => found order

/-- The arguments of `update_payment_status`. -/
def paymentArgs (user : TokenPayload) (body : UpdatePaymentStatusRequest) : PaymentArgs where
  paymentMethod := body.paymentMethod
  paymentThrough := Text.or (Text.or body.paymentThrough body.paymentType)
    (some (if isStaffUser user then "ushdesk" else "ushspa"))
  paymentProvider := body.paymentProvider
  paymentUrl := body.paymentUrl
  paymentData := body.paymentData

/-- The texts that are not empty. -/
def texts (values : List (Option String)) : List String := values.filterMap (Text.or · none)

/-- The data of the user who has requested an order. -/
def requestedByData (user : TokenPayload) (requestedBy : Uuid) (name phone : String) :
    List (String × Json) :=
  [("id", .str (uuidStr requestedBy)), ("name", .str name),
    ("first_name", .str (Text.orEmpty user.firstName)),
    ("last_name", .str (Text.orEmpty user.lastName)), ("phone", .str phone),
    ("email", .str (Text.orEmpty user.email)), ("image", .str (Text.orEmpty user.avatar))]

/-- The arguments of `create_order`. -/
def createArgs (user : TokenPayload) (customerId : Uuid) (body : CreateShopOrderRequest) :
    CreateOrderArgs :=
  let customerName := Text.join " " (texts [user.firstName, user.lastName])
  let customerPhone := Text.orEmpty (Text.or user.phoneNumber body.contactNumber)
  let requestedBy := body.orderRequestedByUser.getD customerId
  let through := Text.or body.paymentThrough body.paymentType
  { customerId := customerId
    customerName := customerName
    customerPhone := customerPhone
    orderRequestedByUser := some requestedBy
    orderRequestedByUserData :=
      some (body.orderRequestedByUserData.getD
        (requestedByData user requestedBy customerName customerPhone))
    paymentThrough :=
      if ¬ Text.truthy through ∧ user.userType = some "customer" then some "ushspa" else through
    paymentStatus := body.paymentStatus
    paymentMethod := body.paymentMethod
    paymentProvider := body.paymentProvider
    paymentInvoiceId := body.paymentInvoiceId
    paymentUrl := body.paymentUrl
    paymentData := body.paymentData }

/-- A request that comes with a token. -/
def respondUser (env : ℕ → ShopEnv) (d : ShopDb) (user : TokenPayload) :
    UserRequest → ShopAnswer × ShopDb
  | .listOrders filters limit offset =>
    if isStaffUser user then (listOrders d filters.selects limit offset, d)
    else (.refused 403 "Staff access required.", d)
  | .getOrder orderId =>
    (loaded (exec env (getById orderId) d) fun order =>
      if ¬ isStaffUser user ∧ uuidStr order.customerId ≠ user.sub then
        .refused 403 "You do not have permission to view this order."
      else detailOf d order, d)
  | .updateDeliveryStatus orderId body =>
    if isStaffUser user then
      answer d (exec env (updateDeliveryStatus orderId body.status ("staff:" ++ user.sub) body.note) d)
        detailOf catchDelivery
    else (.refused 403 "Staff access required.", d)
  | .updatePaymentStatus orderId body =>
    answer d (exec env (updatePaymentStatus orderId body.paymentStatus (paymentArgs user body)) d)
      detailOf catchNotFound
  | .createOrder body =>
    match parseUuid user.sub with
    | none => (.valueError, d)
    | some customerId =>
      answer d (exec env (createOrder body (createArgs user customerId body)) d) detailOf
        catchValidation
  | .listMyOrders limit offset =>
    match parseUuid user.sub with
    | none => (.valueError, d)
    | some customerId => (listOrders d (·.customerId = customerId) limit offset, d)
  | .getMyOrder orderId =>
    match parseUuid user.sub with
    | none => (.valueError, d)
    | some customerId =>
      (loaded (exec env (getById orderId) d) fun order =>
        if order.customerId ≠ customerId then .refused 404 "Order not found."
        else detailOf d order, d)

/-- A request that needs no token. -/
def respondAnyone (env : ℕ → ShopEnv) (d : ShopDb) : PublicRequest → ShopAnswer × ShopDb
  | .trackOrder publicToken =>
    (match (exec env (getByPublicToken publicToken) d).1 with
      | .error (.notFound _) => .refused 404 "Order not found."
      | .error e => .raised e
      | .ok order =>
        if order.tokenExpiresAt.any (· < (env 1).now) then
          .refused 410 "This tracking link has expired."
        else trackingOf d order, d)
  | .confirmReceived publicToken trackingCode =>
    answer d (exec env (confirmReceived publicToken trackingCode) d) trackingOf catchReceipt

/-- A request and what the world outside answers to it. -/
structure ShopCall where
  request : ShopRequest
  env : ℕ → ShopEnv

def respond (d : ShopDb) (call : ShopCall) : ShopAnswer × ShopDb :=
  match call.request with
  | .user user request => respondUser call.env d user request
  | .anyone request => respondAnyone call.env d request

/-- One request of a run. -/
def serve (d : ShopDb) (call : ShopCall) : ShopDb := (respond d call).2

end Shop
