import UshBookNPay.Common.Proofs.UuidProofs
import UshBookNPay.Shop.OrderPrivacy
import UshBookNPay.Shop.Proofs.OrderProofs

/-!
# What a request makes of the orders

The database each use case leaves when it runs alone, and the answer to each request.
-/

open Transactions (exec Ensures exec_bind_query exec_bind_ask exec_bind_update
  exec_bind_checkedUpdate ensures_bind ensures_bind_ask ensures_checkedUpdate)
open Transactions.Prog (query ask raiseIf update checkedUpdate)
open Security (TokenPayload)

namespace Shop

variable {d : ShopDb} {env : ℕ → ShopEnv} {order object : ShopOrderRow}

/-! ## Loading -/

section Loading

variable {β : Type} {k : Uuid} {token : String} (f : ShopOrderRow → ShopTx β)

theorem exec_bind_getById (h : Table.get d.orders k = some order) :
    exec env (getById k >>= f) d = exec (fun n => env (n + 1)) (f order) d := by
  show exec (fun n => env (n + 1)) (Transactions.Prog.bind _ f) d = _
  dsimp only
  rw [h]
  rfl

theorem exec_bind_getById_none (h : Table.get d.orders k = none) :
    exec env (getById k >>= f) d =
      (.error (.notFound ("ShopOrder id=" ++ uuidStr k ++ " not found.")), d, []) := by
  show exec (fun n => env (n + 1)) (Transactions.Prog.bind _ f) d = _
  dsimp only
  rw [h]
  rfl

theorem exec_getById (h : Table.get d.orders k = some order) :
    exec env (getById k) d = (.ok order, d, []) := by
  show exec (fun n => env (n + 1)) _ d = _
  dsimp only
  rw [h]
  rfl

theorem exec_getById_none (h : Table.get d.orders k = none) :
    exec env (getById k) d =
      (.error (.notFound ("ShopOrder id=" ++ uuidStr k ++ " not found.")), d, []) := by
  show exec (fun n => env (n + 1)) _ d = _
  dsimp only
  rw [h]
  rfl

/-- The row of a public token. -/
def tokenRow (d : ShopDb) (token : String) : Except ShopError ShopOrderRow :=
  match scalarOneOrNone (d.orders.filter (·.publicToken = token)) with
  | .ok (some order) => .ok order
  | .ok none => .error (.notFound "ShopOrder public_token=*** not found.")
  | .error e => .error e

theorem exec_getByPublicToken (token : String) :
    (exec env (getByPublicToken token) d).1 = tokenRow d token := by
  show (exec (fun n => env (n + 1)) (Transactions.Prog.bind _ _) d).1 = _
  dsimp only [Transactions.Prog.bind]
  unfold tokenRow
  cases scalarOneOrNone (d.orders.filter (·.publicToken = token)) with
  | error e => rfl
  | ok found =>
    cases found with
    | none => rfl
    | some order => rfl

theorem exec_bind_getByPublicToken (h : tokenRow d token = .ok order) :
    exec env (getByPublicToken token >>= f) d = exec (fun n => env (n + 1)) (f order) d := by
  unfold tokenRow at h
  show exec (fun n => env (n + 1)) (Transactions.Prog.bind _ f) d = _
  dsimp only [Transactions.Prog.bind]
  generalize scalarOneOrNone (d.orders.filter (·.publicToken = token)) = found at h ⊢
  rcases found with e | (_ | found)
  · cases h
  · cases h
  · cases h
    rfl

theorem exec_bind_getByPublicToken_error {e : ShopError} (h : tokenRow d token = .error e) :
    exec env (getByPublicToken token >>= f) d = (.error e, d, []) := by
  unfold tokenRow at h
  show exec (fun n => env (n + 1)) (Transactions.Prog.bind _ f) d = _
  dsimp only [Transactions.Prog.bind]
  generalize scalarOneOrNone (d.orders.filter (·.publicToken = token)) = found at h ⊢
  rcases found with e | (_ | found)
  · cases h
    rfl
  · cases h
    rfl
  · cases h

end Loading

/-! ## Writing -/

theorem writeColumns_self (loaded row : ShopOrderRow) : writeColumns loaded loaded row = row := by
  unfold writeColumns
  simp

theorem beforeWrite_deliveryStatus (order : ShopOrderRow) :
    order.beforeWrite.deliveryStatus = order.deliveryStatus := by
  unfold ShopOrderRow.beforeWrite
  dsimp only

theorem key_writeColumns (loaded object row : ShopOrderRow) :
    Table.Keyed.key (writeColumns loaded object row) = Table.Keyed.key row := rfl

/-- The database with the object written over the order it was loaded from. -/
def written (d : ShopDb) (order object : ShopOrderRow) : ShopDb :=
  { d with orders := Table.modify d.orders order.id (writeColumns order object.beforeWrite) }

theorem exec_bind_updateOrder {β : Type} {f : Unit → ShopTx β}
    {result : Except ShopError β × ShopDb × List Unit} (h : Table.get d.orders order.id = some order)
    (hf : ∀ env, exec env (f ()) (written d order object) = result) :
    exec env (updateOrder order object >>= f) d = result := by
  unfold updateOrder
  split_ifs with hsame
  · have hid : Table.modify d.orders order.id (writeColumns order order) = d.orders := by
      rw [show writeColumns order order = id from funext fun r => writeColumns_self order r,
        Table.modify_id]
    have hwritten : written d order object = d := by
      unfold written
      rw [hsame, hid]
    rw [hwritten] at hf
    exact hf env
  · refine (exec_bind_checkedUpdate env _ _ f ?_).trans (hf _)
    rw [h]
    rfl

theorem get_written (h : Table.get d.orders order.id = some order) :
    Table.get (written d order object).orders order.id =
      some (writeColumns order object.beforeWrite order) := by
  show Table.get (Table.modify d.orders order.id _) order.id = _
  rw [Table.get_modify_self (key_writeColumns order object.beforeWrite), h]
  rfl

/-- The entry of a transition. -/
def moveEntry (order : ShopOrderRow) (newStatus : DeliveryStatus) (changedBy : String)
    (note : Option String) : ShopOrderStatusHistoryRow where
  orderId := order.id
  fromStatus := order.deliveryStatus
  toStatus := newStatus
  changedBy := changedBy
  note := note

/-- The database after a transition. -/
def moved (d : ShopDb) (order : ShopOrderRow) (entry : ShopOrderStatusHistoryRow) : ShopDb :=
  { written d order { order with deliveryStatus := entry.toStatus } with
    statusHistory := d.statusHistory ++ [entry] }

theorem exec_moveOrder (newStatus : DeliveryStatus) (changedBy : String) (note : Option String)
    (h : Table.get d.orders order.id = some order) :
    exec env (moveOrder order newStatus changedBy note) d =
      (.ok (.moved order.id), moved d order (moveEntry order newStatus changedBy note), []) := by
  unfold moveOrder
  exact exec_bind_updateOrder h fun _ => rfl

theorem exec_updateDeliveryStatus {k : Uuid} {newStatus : DeliveryStatus} (changedBy : String)
    (note : Option String) (h : Table.get d.orders k = some order)
    (hcan : assertStaffCanTransition order.deliveryStatus newStatus = .ok ()) :
    exec env (updateDeliveryStatus k newStatus changedBy note) d =
      (.ok (.moved order.id), moved d order (moveEntry order newStatus changedBy note), []) := by
  have hkey : order.id = k := (Table.get_some h).2
  unfold updateDeliveryStatus
  rw [exec_bind_getById _ h, hcan]
  exact exec_moveOrder newStatus changedBy note (by rw [hkey, h])

theorem exec_updateDeliveryStatus_error {k : Uuid} {newStatus : DeliveryStatus} {e : String}
    (changedBy : String) (note : Option String) (h : Table.get d.orders k = some order)
    (hcan : assertStaffCanTransition order.deliveryStatus newStatus = .error e) :
    exec env (updateDeliveryStatus k newStatus changedBy note) d = (.error (.validation e), d, []) := by
  unfold updateDeliveryStatus
  rw [exec_bind_getById _ h, hcan]
  rfl

theorem exec_updatePaymentStatus {k : Uuid} (newPaymentStatus : OrderPaymentStatus)
    (args : PaymentArgs) (h : Table.get d.orders k = some order) :
    exec env (updatePaymentStatus k newPaymentStatus args) d = (.ok (.paid order.id newPaymentStatus),
      written d order (paymentColumns newPaymentStatus args order), []) := by
  have hkey : order.id = k := (Table.get_some h).2
  unfold updatePaymentStatus
  rw [exec_bind_getById _ h]
  exact exec_bind_updateOrder (by rw [hkey, h]) fun _ => rfl

/-! ## Receipts -/

/-- The checks of `confirm_received`. -/
def checkReceipt (order : ShopOrderRow) (now : Instant) (trackingCode : String) :
    Except ShopError Unit :=
  if order.tokenExpiresAt.any (· < now) then .error (.authorization "Tracking link has expired.")
  else
    match compareDigest order.trackingCode trackingCode with
    | .error e => .error e
    | .ok false => .error (.authorization "Invalid tracking code.")
    | .ok true =>
      match assertCustomerCanTransition order.deliveryStatus .received with
      | .error e => .error (.validation e)
      | .ok () => .ok ()

/-- The entry of a receipt. -/
def receiptEntry (order : ShopOrderRow) : ShopOrderStatusHistoryRow :=
  moveEntry order .received "customer" (some "Customer confirmed receipt via tracking URL")

theorem exec_confirmReceived {token : String} (trackingCode : String)
    (hrow : tokenRow d token = .ok order) (h : Table.get d.orders order.id = some order) :
    (checkReceipt order (env 1).now trackingCode = .ok () ∧
        exec env (confirmReceived token trackingCode) d =
          (.ok (.moved order.id), moved d order (receiptEntry order), [])) ∨
      ∃ e, checkReceipt order (env 1).now trackingCode = .error e ∧
        (exec env (confirmReceived token trackingCode) d).1 = .error e := by
  unfold confirmReceived
  rw [exec_bind_getByPublicToken _ hrow, exec_bind_ask]
  unfold checkReceipt raiseIf
  by_cases hexpired : order.tokenExpiresAt.any (· < (env 1).now)
  · rw [if_pos hexpired, if_pos hexpired]
    exact .inr ⟨_, rfl, rfl⟩
  · rw [if_neg hexpired, if_neg hexpired]
    cases compareDigest order.trackingCode trackingCode with
    | error e => exact .inr ⟨_, rfl, rfl⟩
    | ok same =>
      cases same with
      | false => exact .inr ⟨_, rfl, rfl⟩
      | true =>
        dsimp only
        cases assertCustomerCanTransition order.deliveryStatus .received with
        | error e => exact .inr ⟨_, rfl, rfl⟩
        | ok _ => exact .inl ⟨rfl, exec_moveOrder _ _ _ h⟩

theorem mem_of_tokenRow {token : String} (h : tokenRow d token = .ok order) :
    order ∈ d.orders ∧ order.publicToken = token := by
  unfold tokenRow at h
  cases hrows : d.orders.filter (·.publicToken = token) with
  | nil =>
    rw [hrows] at h
    cases h
  | cons row rest =>
    have hmem : row ∈ d.orders.filter (·.publicToken = token) := by
      rw [hrows]
      exact List.mem_cons_self
    rw [hrows] at h
    cases rest with
    | nil =>
      cases h
      exact ⟨(List.mem_filter.mp hmem).1, of_decide_eq_true (List.mem_filter.mp hmem).2⟩
    | cons _ _ => cases h

/-! ## New orders -/

/-- The transaction has placed an order of the customer. -/
def Placed (customerId : Uuid) (d d' : ShopDb) (done : Done) : Prop :=
  ∃ order entry, Table.get d.orders order.id = none ∧ order.customerId = customerId ∧
    done.orderId = order.id ∧ entry.orderId = order.id ∧
    d' = { orders := d.orders ++ [order], statusHistory := d.statusHistory ++ [entry] }

theorem keeps_getProducts (items : List OrderItemIn) :
    Transactions.Keeps (fun d => d) (getProducts items) := by
  induction items with
  | nil => exact Transactions.keeps_pure _
  | cons item rest ih =>
    unfold getProducts
    refine (Transactions.keeps_ask _).bind fun product => ?_
    cases product with
    | error exc => exact Transactions.keeps_throw _
    | ok product => exact ih.bind fun _ => Transactions.keeps_pure _

theorem keeps_orderItems (products : List (OrderItemIn × List (String × Json))) :
    Transactions.Keeps (fun d => d) (orderItems products) := by
  induction products with
  | nil => exact Transactions.keeps_pure _
  | cons product rest ih =>
    unfold orderItems
    refine (Transactions.keeps_ask _).bind fun id => ?_
    cases orderItem id product.1 product.2 with
    | error e => exact Transactions.keeps_throw e
    | ok line => exact ih.bind fun _ => Transactions.keeps_pure _

theorem keeps_nextOrderNumber : Transactions.Keeps (fun d => d) nextOrderNumber :=
  (Transactions.keeps_ask _).bind fun _ =>
    (Transactions.keeps_query _).bind fun _ => Transactions.keeps_pure _

theorem get_none_of_orderConflict (h : orderConflict order d = none) :
    Table.get d.orders order.id = none := by
  unfold orderConflict at h
  split_ifs at h with hthere
  exact Option.not_isSome_iff_eq_none.mp hthere

theorem ensures_insert {customerId : Uuid} {order : ShopOrderRow} {entry : ShopOrderStatusHistoryRow}
    (hcustomer : order.customerId = customerId) (hentry : entry.orderId = order.id) (d : ShopDb)
    (es : List Unit) :
    Ensures (fun _ => True) (fun r d' _ => ∀ done, r = .ok done → Placed customerId d d' done) (do
        create order
        addStatusHistory entry
        pure (.created order.id order.paymentStatus)) d es := by
  unfold create
  rw [ensures_bind, ensures_checkedUpdate]
  refine ⟨trivial, ?_⟩
  cases hconflict : orderConflict order d with
  | some e =>
    intro done h
    cases h
  | none =>
    refine fun _ => ⟨trivial, fun done hdone => ?_⟩
    cases hdone
    exact ⟨order, entry, get_none_of_orderConflict hconflict, hcustomer, rfl, hentry, rfl⟩

theorem ensures_createOrder (body : CreateShopOrderRequest) (args : CreateOrderArgs) (d : ShopDb) :
    Ensures (fun _ => True) (fun r d' _ => ∀ done, r = .ok done → Placed args.customerId d d' done)
      (createOrder body args) d [] := by
  unfold createOrder
  refine (keeps_getProducts _ d []).bind ?_ fun _ _ _ _ _ h => (by cases h)
  intro products d₁ es₁ h₁
  refine (keeps_orderItems products d₁ es₁).bind ?_ fun _ _ _ _ _ h => (by cases h)
  intro items d₂ es₂ h₂
  refine (keeps_nextOrderNumber d₂ es₂).bind ?_ fun _ _ _ _ _ h => (by cases h)
  intro orderNumber d₃ es₃ h₃
  have hd : d₃ = d := h₃.trans (h₂.trans h₁)
  subst hd
  refine (ensures_bind_ask _ _).mpr ⟨trivial, fun code => ?_⟩
  refine (ensures_bind_ask _ _).mpr ⟨trivial, fun token => ?_⟩
  refine (ensures_bind_ask _ _).mpr ⟨trivial, fun now => ?_⟩
  refine (ensures_bind_ask _ _).mpr ⟨trivial, fun id => ?_⟩
  refine ensures_insert ?_ ?_ _ _
  · rfl
  · rfl

/-! ## Answers -/

section Answers

variable {user : TokenPayload} {k : Uuid}

theorem answer_ok {outcome : Except ShopError Done × ShopDb × List Unit} {done : Done}
    {response : ShopDb → ShopOrderRow → ShopAnswer} {caught : ShopError → ShopAnswer}
    (hok : outcome.1 = .ok done) (hget : Table.get outcome.2.1.orders done.orderId = some order) :
    answer d outcome response caught = (response outcome.2.1 order, outcome.2.1) := by
  unfold answer
  rw [hok]
  dsimp only
  rw [hget]
  rfl

theorem answer_error {outcome : Except ShopError Done × ShopDb × List Unit} {e : ShopError}
    {response : ShopDb → ShopOrderRow → ShopAnswer} {caught : ShopError → ShopAnswer}
    (herror : outcome.1 = .error e) : answer d outcome response caught = (caught e, d) := by
  unfold answer
  rw [herror]

/-! ### Requests that only read -/

theorem respond_listOrders (filters : OrderFilters) (limit offset : ℕ) (h : ¬ isStaffUser user) :
    respondUser env d user (.listOrders filters limit offset) =
      (.refused 403 "Staff access required.", d) := by
  unfold respondUser
  dsimp only
  rw [if_neg h]

theorem respond_listOrders_db (filters : OrderFilters) (limit offset : ℕ) :
    (respondUser env d user (.listOrders filters limit offset)).2 = d := by
  unfold respondUser
  split_ifs
  · rfl
  · rfl

theorem respond_listMyOrders_none (limit offset : ℕ) (h : parseUuid user.sub = none) :
    respondUser env d user (.listMyOrders limit offset) = (.valueError, d) := by
  unfold respondUser
  dsimp only
  rw [h]

theorem respond_listMyOrders {customerId : Uuid} (limit offset : ℕ)
    (h : parseUuid user.sub = some customerId) :
    respondUser env d user (.listMyOrders limit offset) =
      (listOrders d (·.customerId = customerId) limit offset, d) := by
  unfold respondUser
  dsimp only
  rw [h]

theorem respond_getMyOrder_none (k : Uuid) (h : parseUuid user.sub = none) :
    respondUser env d user (.getMyOrder k) = (.valueError, d) := by
  unfold respondUser
  dsimp only
  rw [h]

theorem respond_getMyOrder {customerId : Uuid} (k : Uuid) (h : parseUuid user.sub = some customerId) :
    respondUser env d user (.getMyOrder k) =
      (loaded (exec env (getById k) d) fun order =>
        if order.customerId ≠ customerId then .refused 404 "Order not found."
        else detailOf d order, d) := by
  unfold respondUser
  dsimp only
  rw [h]

/-! ### Requests that write -/

theorem respond_pay (body : UpdatePaymentStatusRequest) (h : Table.get d.orders k = some order) :
    respondUser env d user (.updatePaymentStatus k body) =
      (detailOf (written d order (paymentColumns body.paymentStatus (paymentArgs user body) order))
        (writeColumns order
          (paymentColumns body.paymentStatus (paymentArgs user body) order).beforeWrite order),
        written d order (paymentColumns body.paymentStatus (paymentArgs user body) order)) := by
  have hkey : order.id = k := (Table.get_some h).2
  show answer d _ detailOf catchNotFound = _
  rw [exec_updatePaymentStatus body.paymentStatus (paymentArgs user body) h]
  refine answer_ok rfl (get_written ?_)
  rw [hkey, h]

theorem respond_pay_none (body : UpdatePaymentStatusRequest) (h : Table.get d.orders k = none) :
    respondUser env d user (.updatePaymentStatus k body) =
      (.refused 404 ("ShopOrder id=" ++ uuidStr k ++ " not found."), d) := by
  show answer d (exec env (updatePaymentStatus k _ _) d) detailOf catchNotFound = _
  unfold updatePaymentStatus
  rw [exec_bind_getById_none _ h]
  rfl

theorem get_moved (h : Table.get d.orders order.id = some order)
    (entry : ShopOrderStatusHistoryRow) :
    Table.get (moved d order entry).orders order.id = some (writeColumns order
      ({ order with deliveryStatus := entry.toStatus } : ShopOrderRow).beforeWrite order) :=
  get_written h

theorem respond_deliver_refused (body : UpdateDeliveryStatusRequest) (h : ¬ isStaffUser user) :
    respondUser env d user (.updateDeliveryStatus k body) =
      (.refused 403 "Staff access required.", d) := by
  unfold respondUser
  dsimp only
  rw [if_neg h]

theorem respond_deliver (body : UpdateDeliveryStatusRequest) (hstaff : isStaffUser user) :
    respondUser env d user (.updateDeliveryStatus k body) =
      answer d (exec env (updateDeliveryStatus k body.status ("staff:" ++ user.sub) body.note) d)
        detailOf catchDelivery := by
  unfold respondUser
  dsimp only
  rw [if_pos hstaff]

/-- The staff moves an order. -/
theorem respond_deliver_ok {body : UpdateDeliveryStatusRequest} (hstaff : isStaffUser user)
    (h : Table.get d.orders k = some order)
    (hcan : assertStaffCanTransition order.deliveryStatus body.status = .ok ()) :
    (respondUser env d user (.updateDeliveryStatus k body)).2 =
      moved d order (moveEntry order body.status ("staff:" ++ user.sub) body.note) := by
  have hkey : order.id = k := (Table.get_some h).2
  rw [respond_deliver body hstaff, exec_updateDeliveryStatus _ _ h hcan]
  rw [answer_ok rfl (get_moved (by rw [hkey, h]) _)]

theorem respond_deliver_error {body : UpdateDeliveryStatusRequest} {e : String}
    (hstaff : isStaffUser user) (h : Table.get d.orders k = some order)
    (hcan : assertStaffCanTransition order.deliveryStatus body.status = .error e) :
    (respondUser env d user (.updateDeliveryStatus k body)).2 = d := by
  rw [respond_deliver body hstaff, exec_updateDeliveryStatus_error _ _ h hcan]
  rfl

theorem respond_deliver_none (body : UpdateDeliveryStatusRequest) (hstaff : isStaffUser user)
    (h : Table.get d.orders k = none) :
    (respondUser env d user (.updateDeliveryStatus k body)).2 = d := by
  rw [respond_deliver body hstaff]
  unfold updateDeliveryStatus
  rw [exec_bind_getById_none _ h]
  rfl

theorem respond_place_none (body : CreateShopOrderRequest) (h : parseUuid user.sub = none) :
    respondUser env d user (.createOrder body) = (.valueError, d) := by
  unfold respondUser
  dsimp only
  rw [h]

theorem respond_place {customerId : Uuid} (body : CreateShopOrderRequest)
    (hparse : parseUuid user.sub = some customerId) :
    respondUser env d user (.createOrder body) =
      answer d (exec env (createOrder body (createArgs user customerId body)) d) detailOf
        catchValidation := by
  unfold respondUser
  dsimp only
  rw [hparse]

theorem Placed.get {customerId : Uuid} {d' : ShopDb} {done : Done} (h : Placed customerId d d' done) :
    ∃ order, Table.get d.orders order.id = none ∧ Table.get d'.orders done.orderId = some order ∧
      order.customerId = customerId := by
  obtain ⟨order, entry, hnone, hcustomer, hdone, -, rfl⟩ := h
  refine ⟨order, hnone, ?_, hcustomer⟩
  rw [hdone]
  exact Table.get_append_new hnone

/-- What placing an order comes to. -/
theorem respond_place_cases {customerId : Uuid} (env : ℕ → ShopEnv) (d : ShopDb)
    (body : CreateShopOrderRequest) (hparse : parseUuid user.sub = some customerId) :
    (∃ e, respondUser env d user (.createOrder body) = (catchValidation e, d)) ∨
      ∃ d' done order, Placed customerId d d' done ∧ Table.get d'.orders done.orderId = some order ∧
        order.customerId = customerId ∧
        respondUser env d user (.createOrder body) = (detailOf d' order, d') := by
  have hplaced := (ensures_createOrder body (createArgs user customerId body) d).exec env
  rw [respond_place body hparse]
  generalize exec env (createOrder body (createArgs user customerId body)) d = outcome at hplaced ⊢
  cases hresult : outcome.1 with
  | error e => exact .inl ⟨e, answer_error hresult⟩
  | ok done =>
    right
    have hdone : Placed customerId d outcome.2.1 done := hplaced done hresult
    obtain ⟨order, -, hget, hcustomer⟩ := hdone.get
    exact ⟨outcome.2.1, done, order, hdone, hget, hcustomer, answer_ok hresult hget⟩

/-! ### Requests without a token -/

theorem respond_confirm_error {token : String} {e : ShopError} (code : String)
    (h : tokenRow d token = .error e) :
    respondAnyone env d (.confirmReceived token code) = (catchReceipt e, d) := by
  show answer d (exec env (confirmReceived token code) d) trackingOf catchReceipt = _
  unfold confirmReceived
  rw [exec_bind_getByPublicToken_error _ h]
  rfl

theorem respond_confirm_refused {token code : String} {e : ShopError} (hrow : tokenRow d token = .ok order)
    (hget : Table.get d.orders order.id = some order)
    (hcheck : checkReceipt order (env 1).now code = .error e) :
    respondAnyone env d (.confirmReceived token code) = (catchReceipt e, d) := by
  rcases exec_confirmReceived code hrow hget with ⟨hok, -⟩ | ⟨e', herror, hresult⟩
  · rw [hcheck] at hok
    cases hok
  · rw [hcheck] at herror
    cases herror
    exact answer_error hresult

theorem respond_confirm_ok {token code : String} (hrow : tokenRow d token = .ok order)
    (hget : Table.get d.orders order.id = some order)
    (hcheck : checkReceipt order (env 1).now code = .ok ()) :
    respondAnyone env d (.confirmReceived token code) =
      (trackingOf (moved d order (receiptEntry order)) (writeColumns order
        ({ order with deliveryStatus := .received } : ShopOrderRow).beforeWrite order),
        moved d order (receiptEntry order)) := by
  rcases exec_confirmReceived code hrow hget with ⟨-, hexec⟩ | ⟨e, herror, -⟩
  · show answer d (exec env (confirmReceived token code) d) trackingOf catchReceipt = _
    rw [hexec]
    exact answer_ok rfl (get_moved hget _)
  · rw [hcheck] at herror
    cases herror

end Answers

theorem serve_user (d : ShopDb) (user : TokenPayload) (request : UserRequest) (env : ℕ → ShopEnv) :
    serve d ⟨.user user request, env⟩ = (respondUser env d user request).2 := rfl

theorem serve_anyone (d : ShopDb) (request : PublicRequest) (env : ℕ → ShopEnv) :
    serve d ⟨.anyone request, env⟩ = (respondAnyone env d request).2 := rfl

theorem respond_user (d : ShopDb) (user : TokenPayload) (request : UserRequest) (env : ℕ → ShopEnv) :
    respond d ⟨.user user request, env⟩ = respondUser env d user request := rfl

theorem respond_anyone (d : ShopDb) (request : PublicRequest) (env : ℕ → ShopEnv) :
    respond d ⟨.anyone request, env⟩ = respondAnyone env d request := rfl

end Shop
