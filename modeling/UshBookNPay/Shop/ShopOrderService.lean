import UshBookNPay.Shop.Models

/-!
# The shop order service

The use cases of a shop order, up to their commit, and what follows it.
-/

open Transactions.Prog (query update checkedUpdate ask raiseIf)

namespace Shop

/-! ## Requests -/

structure OrderItemIn where
  productId : Uuid
  quantity : ℕ
  deriving DecidableEq

structure CreateShopOrderRequest where
  address : DeliveryAddress := {}
  deliveryNotes : Option String := none
  contactNumber : Option String := none
  items : List OrderItemIn
  internalNotes : Option String := none
  orderRequestedByUser : Option Uuid := none
  orderRequestedByUserData : Option (List (String × Json)) := none
  paymentThrough : Option String := none
  paymentType : Option String := none
  paymentStatus : Option String := none
  paymentMethod : Option String := none
  paymentProvider : Option String := none
  paymentInvoiceId : Option String := none
  paymentUrl : Option String := none
  paymentData : Option (List (String × Json)) := none
  deriving DecidableEq

/-- The other arguments of `create_order`. -/
structure CreateOrderArgs where
  customerId : Uuid
  customerName : String := ""
  customerPhone : String := ""
  orderRequestedByUser : Option Uuid := none
  orderRequestedByUserData : Option (List (String × Json)) := none
  paymentThrough : Option String := none
  paymentStatus : Option String := none
  paymentMethod : Option String := none
  paymentProvider : Option String := none
  paymentInvoiceId : Option String := none
  paymentUrl : Option String := none
  paymentData : Option (List (String × Json)) := none
  deriving DecidableEq

/-- The classification of a payment in `update_payment_status`. -/
structure PaymentArgs where
  paymentMethod : Option String := none
  paymentThrough : Option String := none
  paymentProvider : Option String := none
  paymentType : Option String := none
  paymentUrl : Option String := none
  paymentData : Option (List (String × Json)) := none
  deriving DecidableEq

/-! ## Repository -/

/-- `get_by_id` -/
def getById (orderId : Uuid) : ShopTx ShopOrderRow := do
  match ← query fun d => Table.get d.orders orderId with
  | some order => pure order
  | none => throw (.notFound ("ShopOrder id=" ++ uuidStr orderId ++ " not found."))

/-- `scalar_one_or_none` -/
def scalarOneOrNone : List ShopOrderRow → Except ShopError (Option ShopOrderRow)
  | [] => .ok none
  | [order] => .ok (some order)
  | _ :: _ :: _ => .error .multipleResults

/-- `get_by_public_token` -/
def getByPublicToken (publicToken : String) : ShopTx ShopOrderRow := do
  match scalarOneOrNone (← query fun d => d.orders.filter (·.publicToken = publicToken)) with
  | .ok (some order) => pure order
  | .ok none => throw (.notFound "ShopOrder public_token=*** not found.")
  | .error e => throw e

/-- What a flush writes into the row: the columns of the object that are not as they were loaded. -/
def writeColumns (loaded object row : ShopOrderRow) : ShopOrderRow :=
  { row with
    deliveryStatus :=
      if object.deliveryStatus = loaded.deliveryStatus then row.deliveryStatus
      else object.deliveryStatus
    paymentStatus :=
      if object.paymentStatus = loaded.paymentStatus then row.paymentStatus
      else object.paymentStatus
    paymentMethod :=
      if object.paymentMethod = loaded.paymentMethod then row.paymentMethod
      else object.paymentMethod
    paymentThrough :=
      if object.paymentThrough = loaded.paymentThrough then row.paymentThrough
      else object.paymentThrough
    paymentProvider :=
      if object.paymentProvider = loaded.paymentProvider then row.paymentProvider
      else object.paymentProvider
    paymentUrl :=
      if object.paymentUrl = loaded.paymentUrl then row.paymentUrl else object.paymentUrl
    paymentData :=
      if object.paymentData = loaded.paymentData then row.paymentData else object.paymentData }

/-- `update`: the flush of a changed order. Nothing is written where no column has changed. -/
def updateOrder (loaded object : ShopOrderRow) : ShopTx Unit :=
  if object.beforeWrite = loaded then pure ()
  else checkedUpdate
    (fun d => if (Table.get d.orders loaded.id).isSome then none else some .staleData)
    [.row "shop_orders" loaded.id]
    fun d => { d with
      orders := Table.modify d.orders loaded.id (writeColumns loaded object.beforeWrite) }

/-- `add_status_history` -/
def addStatusHistory (entry : ShopOrderStatusHistoryRow) : ShopTx Unit :=
  update [] fun d => { d with statusHistory := d.statusHistory ++ [entry] }

/-- What the database has against an insert of the order. -/
def orderConflict (order : ShopOrderRow) (d : ShopDb) : Option ShopError :=
  if (Table.get d.orders order.id).isSome then some (.integrity "shop_orders_pkey")
  else if d.orders.any (·.orderNumber = order.orderNumber) then
    some (.integrity "ix_shop_orders_order_number")
  else if d.orders.any (·.trackingCode = order.trackingCode) then
    some (.integrity "ix_shop_orders_tracking_code")
  else if d.orders.any (·.publicToken = order.publicToken) then
    some (.integrity "ix_shop_orders_public_token")
  else if fitsNumeric order.subtotal ∧ fitsNumeric order.totalAmount ∧
      order.items.all (fun i => fitsNumeric i.unitPrice ∧ fitsNumeric i.lineTotal) then none
  else some .numericOverflow

/-- `create` -/
def create (order : ShopOrderRow) : ShopTx Unit :=
  checkedUpdate (orderConflict order)
    [.row "shop_orders" order.id, .index "order_number" order.orderNumber,
      .index "tracking_code" order.trackingCode, .index "public_token" order.publicToken]
    fun d => { d with orders := d.orders ++ [order] }

/-- The number of orders of a month, by the beginning of their numbers. -/
def countOf (datePrefix : String) (d : ShopDb) : ℕ :=
  (d.orders.filter fun o => Text.startsWith datePrefix o.orderNumber).length

/-- `next_order_number` -/
def nextOrderNumber : ShopTx String := do
  let month ← ask ShopEnv.month
  let datePrefix := "ORD/" ++ month ++ "/"
  let existingCount ← query (countOf datePrefix)
  pure (datePrefix ++ pad 6 (existingCount + 1))

/-! ## What follows a commit -/

/-- A use case that has committed. -/
inductive Done where
  | created (orderId : Uuid) (paymentStatus : OrderPaymentStatus)
  | paid (orderId : Uuid) (newPaymentStatus : OrderPaymentStatus)
  | moved (orderId : Uuid)
  deriving DecidableEq

def Done.orderId : Done → Uuid
  | .created orderId _ => orderId
  | .paid orderId _ => orderId
  | .moved orderId => orderId

/-- `ShopOrderCreatedEvent`, here the order it is made from. -/
structure ShopOrderCreatedEvent where
  order : ShopOrderRow
  deriving DecidableEq

/-- The refresh of the order, and the event that is enqueued then. A new order asks the refreshed row
whether it is paid, an update of the payment its own argument. -/
def enqueued (d : ShopDb) (done : Done) : List ShopOrderCreatedEvent :=
  match Table.get d.orders done.orderId with
  | none => []
  | some order =>
    match done with
    | .created _ _ => if order.paymentStatus = .success then [⟨order⟩] else []
    | .paid _ newPaymentStatus => if newPaymentStatus = .success then [⟨order⟩] else []
    | .moved _ => []

/-! ## Create order -/

/-- The text of the first value that is truthy. -/
def firstText (values : List (Option Json)) : Option String :=
  ((values.filterMap id).find? Json.truthy).map Json.text

/-- `product_map`: the products of the request, in its order. -/
def getProducts : List OrderItemIn → ShopTx (List (OrderItemIn × List (String × Json)))
  | [] => pure []
  | item :: rest => do
    match ← ask ShopEnv.product with
    | .error exc => throw (.validation ("Product " ++ uuidStr item.productId ++
        " not found or unavailable: " ++ exc))
    | .ok product =>
      let others ← getProducts rest
      pure ((item, product) :: others)

/-- A line of the order: the price is the one of the catalogue. -/
def orderItem (id : Uuid) (item : OrderItemIn) (product : List (String × Json)) :
    Except ShopError ShopOrderItem :=
  match parseDecimal ((product.lookup "price").getD (.str "0")).text with
  | none => .error .invalidOperation
  | some unitPrice => .ok
    { id := id
      productId := item.productId
      productName := (firstText [product.lookup "name", product.lookup "name_en"]).getD ""
      productNameAr := (firstText [product.lookup "name_ar"]).getD ""
      productImageUrl := firstText [product.lookup "image1", product.lookup "image"]
      unitPrice := unitPrice.quantize
      quantity := item.quantity
      lineTotal := FixedPoint.roundHalfEven (unitPrice.value * item.quantity * 1000) }

def orderItems : List (OrderItemIn × List (String × Json)) → ShopTx (List ShopOrderItem)
  | [] => pure []
  | (item, product) :: rest => do
    let id ← ask ShopEnv.uuid
    match orderItem id item product with
    | .error e => throw e
    | .ok line =>
      let others ← orderItems rest
      pure (line :: others)

/-- A dict that is not empty, or another one. -/
def orDict (a b : Option (List (String × Json))) : Option (List (String × Json)) :=
  match a with
  | some (kv :: rest) => some (kv :: rest)
  | _ => b

/-- The payment status of a new order. -/
def initialPaymentStatus (raw : Option String) : OrderPaymentStatus :=
  ((Text.or raw none).bind OrderPaymentStatus.parse).getD .notInitiated

/-- The invoice id goes into the payment data. -/
def withInvoice (invoiceId : Option String) (data : Option (List (String × Json))) :
    Option (List (String × Json)) :=
  if Text.truthy invoiceId then
    some (Json.setField (data.getD []) "invoiceId" (Json.ofText invoiceId))
  else data

/-- The row of a new order. -/
def newOrder (body : CreateShopOrderRequest) (args : CreateOrderArgs) (id : Uuid)
    (orderNumber trackingCode publicToken : String) (expiry : Instant) (items : List ShopOrderItem) :
    ShopOrderRow :=
  let through := Text.or args.paymentThrough (Text.or body.paymentThrough body.paymentType)
  let subtotal := (items.map (·.lineTotal)).sum
  { id := id
    orderNumber := orderNumber
    customerId := args.customerId
    customerName := args.customerName
    customerPhone := args.customerPhone
    contactNumber := Text.orEmpty (Text.or body.contactNumber (some args.customerPhone))
    orderRequestedByUser := args.orderRequestedByUser.or body.orderRequestedByUser
    orderRequestedByUserData :=
      (orDict args.orderRequestedByUserData body.orderRequestedByUserData).map .obj
    address := body.address
    deliveryNotes := body.deliveryNotes
    deliveryStatus := .ordered
    trackingCode := trackingCode
    publicToken := publicToken
    tokenExpiresAt := some expiry
    subtotal := subtotal
    totalAmount := subtotal
    paymentStatus := initialPaymentStatus (Text.or args.paymentStatus body.paymentStatus)
    paymentMethod := Text.or args.paymentMethod body.paymentMethod
    paymentThrough := normaliseThrough through
    paymentProvider := Text.or args.paymentProvider body.paymentProvider
    paymentUrl := Text.or args.paymentUrl body.paymentUrl
    paymentData := (withInvoice (Text.or args.paymentInvoiceId body.paymentInvoiceId)
      (orDict args.paymentData body.paymentData)).map .obj
    internalNotes := body.internalNotes
    items := items }

/-- A week in microseconds. -/
def WEEK : Instant := minutes (7 * 24 * 60)

/-- `create_order` -/
def createOrder (body : CreateShopOrderRequest) (args : CreateOrderArgs) : ShopTx Done := do
  let products ← getProducts body.items
  let items ← orderItems products
  let orderNumber ← nextOrderNumber
  let trackingCode ← ask ShopEnv.trackingCode
  let publicToken ← ask ShopEnv.publicToken
  let now ← ask ShopEnv.now
  let id ← ask ShopEnv.uuid
  let order := (newOrder body args id orderNumber trackingCode publicToken (now + WEEK) items).beforeWrite
  create order
  addStatusHistory
    { orderId := order.id
      fromStatus := .ordered
      toStatus := .ordered
      note := some "Order placed" }
  pure (.created order.id order.paymentStatus)

/-! ## Updates -/

/-- The transition of an order that has been checked: it is written, and recorded. -/
def moveOrder (order : ShopOrderRow) (newStatus : DeliveryStatus) (changedBy : String)
    (note : Option String) : ShopTx Done := do
  updateOrder order { order with deliveryStatus := newStatus }
  addStatusHistory
    { orderId := order.id
      fromStatus := order.deliveryStatus
      toStatus := newStatus
      changedBy := changedBy
      note := note }
  pure (.moved order.id)

/-- `update_delivery_status` -/
def updateDeliveryStatus (orderId : Uuid) (newStatus : DeliveryStatus) (changedBy : String)
    (note : Option String) : ShopTx Done := do
  let order ← getById orderId
  match assertStaffCanTransition order.deliveryStatus newStatus with
  | .error exc => throw (.validation exc)
  | .ok () => moveOrder order newStatus changedBy note

/-- The columns `update_payment_status` assigns. -/
def paymentColumns (newPaymentStatus : OrderPaymentStatus) (args : PaymentArgs)
    (order : ShopOrderRow) : ShopOrderRow :=
  { order with
    paymentStatus := newPaymentStatus
    paymentThrough := match Text.or args.paymentThrough args.paymentType with
      | some through => normaliseThrough (some through)
      | none => order.paymentThrough
    paymentMethod := args.paymentMethod.or order.paymentMethod
    paymentProvider := args.paymentProvider.or order.paymentProvider
    paymentUrl := args.paymentUrl.or order.paymentUrl
    paymentData := (args.paymentData.map .obj).or order.paymentData }

/-- `update_payment_status` -/
def updatePaymentStatus (orderId : Uuid) (newPaymentStatus : OrderPaymentStatus) (args : PaymentArgs) :
    ShopTx Done := do
  let order ← getById orderId
  updateOrder order (paymentColumns newPaymentStatus args order)
  pure (.paid order.id newPaymentStatus)

/-- `hmac.compare_digest` of two texts -/
def compareDigest (a b : String) : Except ShopError Bool :=
  if a.toList.all (·.toNat < 128) ∧ b.toList.all (·.toNat < 128) then .ok (a = b)
  else .error .typeError

/-- `confirm_received` -/
def confirmReceived (publicToken trackingCode : String) : ShopTx Done := do
  let order ← getByPublicToken publicToken
  let now ← ask ShopEnv.now
  raiseIf (order.tokenExpiresAt.any (· < now)) (.authorization "Tracking link has expired.")
  match compareDigest order.trackingCode trackingCode with
  | .error e => throw e
  | .ok false => throw (.authorization "Invalid tracking code.")
  | .ok true =>
    match assertCustomerCanTransition order.deliveryStatus .received with
    | .error exc => throw (.validation exc)
    | .ok () =>
      moveOrder order .received "customer" (some "Customer confirmed receipt via tracking URL")

end Shop
