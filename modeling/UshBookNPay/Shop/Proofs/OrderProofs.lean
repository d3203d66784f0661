import UshBookNPay.Shop.OrderRuns
import Mathlib.Data.List.Nodup
import Mathlib.Tactic.SplitIfs

/-!
# What a use case makes of an order

The use cases load an order without a lock and write it without looking at it again. A use case that
finds the order where it has to makes of its row and its history what it tells of them.
-/

open Transactions (System Session Event Effect Effect.Quiet Calm UntilUnder Protected quiet_empty
  calm_pure calm_throw calm_raiseIf calm_bind_query calm_ask calm_update calm_checkedUpdate
  untilUnder_bind_query untilUnder_bind_checkedUpdate)
open Transactions.Prog (query ask raiseIf update checkedUpdate)

namespace Shop

variable {orderId : Uuid} {d : ShopDb}

/-! ## Paths -/

/-- A transition leads away from a status, and there is one predecessor. -/
theorem canTransition_ne {source target : DeliveryStatus} (h : canTransition source target) :
    target ≠ source := by
  cases source <;> cases target <;> simp [canTransition, TRANSITIONS] at h ⊢

theorem canTransition_unique {source source' target : DeliveryStatus}
    (h : canTransition source target) (h' : canTransition source' target) : source = source' := by
  cases source <;> cases source' <;> cases target <;> simp [canTransition, TRANSITIONS] at h h' ⊢

theorem Path.snoc {start current next : DeliveryStatus}
    {steps : List (DeliveryStatus × DeliveryStatus)} (h : Path start steps current)
    (hnext : canTransition current next) : Path start (steps ++ [(current, next)]) next := by
  induction steps generalizing start with
  | nil =>
    have hstart : start = current := h
    subst hstart
    exact ⟨rfl, hnext, rfl⟩
  | cons step rest ih => exact ⟨h.1, h.2.1, ih h.2.2⟩

/-- How far the delivery has come. -/
def DeliveryStatus.rank : DeliveryStatus → ℕ
  | .ordered => 0
  | .readyToGo => 1
  | .onTheWay => 2
  | .delivered => 3
  | .received => 4

theorem rank_of_canTransition {source target : DeliveryStatus} (h : canTransition source target) :
    target.rank = source.rank + 1 := by
  cases source <;> cases target <;> simp [canTransition, TRANSITIONS, DeliveryStatus.rank] at h ⊢

/-- The steps of a path lie between its ends. -/
theorem Path.rank {start current : DeliveryStatus} {steps : List (DeliveryStatus × DeliveryStatus)}
    (h : Path start steps current) :
    start.rank ≤ current.rank ∧
      ∀ step ∈ steps, start.rank ≤ step.1.rank ∧ step.1.rank < current.rank := by
  induction steps generalizing start with
  | nil =>
    have hstart : start = current := h
    subst hstart
    exact ⟨le_refl _, fun step hstep => (by cases hstep)⟩
  | cons step rest ih =>
    obtain ⟨hsource, hcan, hrest⟩ := h
    have hrank := rank_of_canTransition hcan
    obtain ⟨hle, hsteps⟩ := ih hrest
    refine ⟨by omega, fun s hs => ?_⟩
    rcases List.mem_cons.mp hs with rfl | hs
    · rw [hsource]
      omega
    · obtain ⟨h1, h2⟩ := hsteps s hs
      omega

/-- A path makes no step twice. -/
theorem Path.nodup {start current : DeliveryStatus} {steps : List (DeliveryStatus × DeliveryStatus)}
    (h : Path start steps current) : steps.Nodup := by
  induction steps generalizing start with
  | nil => exact List.nodup_nil
  | cons step rest ih =>
    obtain ⟨hsource, hcan, hrest⟩ := h
    refine List.nodup_cons.mpr ⟨fun hmem => ?_, ih hrest⟩
    have hrank := rank_of_canTransition hcan
    have hlow := (hrest.rank.2 step hmem).1
    rw [hsource] at hlow
    omega

/-! ## The order -/

/-- The row of an order and the steps of its history. -/
abbrev OrderPart := Option ShopOrderRow × List (DeliveryStatus × DeliveryStatus)

def orderPart (orderId : Uuid) (d : ShopDb) : OrderPart :=
  (Table.get d.orders orderId, stepsOf d orderId)

/-- The lock of the row of the order. Nothing is emitted before a commit. -/
def orderRow (orderId : Uuid) : Protected ShopDb LockKey Unit OrderPart where
  lock := .row "shop_orders" orderId
  part := orderPart orderId
  loud := ()
  valid _ := True

def OrderPart.isPaid (p : OrderPart) : Bool := p.1.any (·.paymentStatus = .success)

/-- `Recorded` of a row and its history. -/
def OrderPart.Recorded (p : OrderPart) : Prop :=
  (p.1.isNone → p.2 = []) ∧ ∀ order ∈ p.1, p.2.head? = some (.ordered, .ordered) ∧
    Path .ordered p.2.tail order.deliveryStatus ∧ p.2.tail.Nodup

/-- A commit that makes `p'` of `p` tells what it has done. -/
structure Good (orderId : Uuid) (p p' : OrderPart) (done : Done) : Prop where
  paid : (p'.isPaid ∧ ¬ p.isPaid) ↔ done.owes orderId
  recorded : p.Recorded → p'.Recorded
  kept : p.1.isSome → p'.1.isSome

/-- The program, whose transaction has made `g p` of the committed `p` so far, commits what is good. -/
def Completes (orderId : Uuid) (p : OrderPart) : (OrderPart → OrderPart) → ShopTx Done → Prop
  | g, .ret done => Good orderId p (g p) done
  | _, .raise _ => True
  | g, .stmt eff next => ∀ a d, ∃ g' : OrderPart → OrderPart,
      (eff a d).emits = [] ∧
      (∀ d', orderPart orderId ((eff a d).write d') = g' (orderPart orderId d')) ∧
      Completes orderId p (g' ∘ g) (next a d)

/-- The statement changes the order, and the program completes the change. -/
structure Changes (orderId : Uuid) (d : ShopDb) (e : Effect ShopDb LockKey Unit) (rest : ShopTx Done) :
    Prop where
  locked : (orderRow orderId).lock ∈ e.locks
  silent : e.emits = []
  completes : ∃ g : OrderPart → OrderPart,
    (∀ d', orderPart orderId (e.write d') = g (orderPart orderId d')) ∧
    Completes orderId (orderPart orderId d) g rest

/-- What the statements of the operation find, and what it returns where it has left the order alone. -/
abbrev Obeys (orderId : Uuid) (op : ShopOp) : ShopTx Done → Prop :=
  UntilUnder (orderRow orderId) (fun e d => Finds orderId op e.locks d) (Changes orderId)
    fun done => ¬ done.owes orderId

/-! ## Statements -/

theorem stepsOf_append (d : ShopDb) (entry : ShopOrderStatusHistoryRow) :
    stepsOf { d with statusHistory := d.statusHistory ++ [entry] } orderId = stepsOf d orderId ++
      if entry.orderId = orderId then [(entry.fromStatus, entry.toStatus)] else [] := by
  unfold stepsOf historyOf
  rw [List.filter_append, List.map_append]
  by_cases h : entry.orderId = orderId
  · simp [h]
  · simp [h]

/-- An entry for another order. -/
theorem calm_addStatusHistory {entry : ShopOrderStatusHistoryRow} (h : entry.orderId ≠ orderId) :
    Calm (orderRow orderId) (addStatusHistory entry) := by
  unfold addStatusHistory
  refine calm_update (by simp) (fun d => ?_) fun _ h => h
  show (_, _) = (_, _)
  rw [stepsOf_append, if_neg h, List.append_nil]

/-- The entry of a change, and its commit. -/
theorem completes_addStatusHistory {p : OrderPart} {g : OrderPart → OrderPart}
    {entry : ShopOrderStatusHistoryRow} {done : Done} (hentry : entry.orderId = orderId)
    (h : Good orderId p ((g p).1, (g p).2 ++ [(entry.fromStatus, entry.toStatus)]) done) :
    Completes orderId p g (addStatusHistory entry >>= fun _ => pure done) := by
  intro a d
  refine ⟨fun p => (p.1, p.2 ++ [(entry.fromStatus, entry.toStatus)]), rfl, fun d' => ?_, h⟩
  show (_, _) = (_, _)
  rw [stepsOf_append, if_pos hentry]
  rfl

theorem lock_ne {k : Uuid} (h : k ≠ orderId) : (orderRow orderId).lock ≠ .row "shop_orders" k := by
  intro heq
  injection heq with _ hk
  exact h hk.symm

theorem writeColumns_id (loaded object row : ShopOrderRow) :
    (writeColumns loaded object row).id = row.id := rfl

/-- An update of another order. -/
theorem calm_updateOrder {loaded object : ShopOrderRow} (h : loaded.id ≠ orderId) :
    Calm (orderRow orderId) (updateOrder loaded object) := by
  unfold updateOrder
  split_ifs
  · exact calm_pure _
  · refine calm_checkedUpdate ?_ (fun d => ?_) fun _ h => h
    · intro hmem
      exact lock_ne h (List.mem_singleton.mp hmem)
    · have hget : Table.get (Table.modify d.orders loaded.id
          (writeColumns loaded object.beforeWrite)) orderId = Table.get d.orders orderId :=
        Table.get_modify_of_ne (writeColumns_id loaded object.beforeWrite) (Ne.symm h)
      exact Prod.ext hget rfl

/-- What a flush makes of the order. -/
theorem orderPart_modify {f : ShopOrderRow → ShopOrderRow} (hf : ∀ r, (f r).id = r.id) (d : ShopDb) :
    orderPart orderId { d with orders := Table.modify d.orders orderId f } =
      ((orderPart orderId d).1.map f, (orderPart orderId d).2) := by
  show (_, _) = (_, _)
  rw [Table.get_modify_self hf]
  rfl

/-- An update of the order that changes a column. -/
theorem obeys_bind_updateOrder {op : ShopOp} {loaded object : ShopOrderRow}
    {f : Unit → ShopTx Done} (hid : loaded.id = orderId) (hne : object.beforeWrite ≠ loaded)
    (hf : ∀ d row, Table.get d.orders orderId = some row →
      Finds orderId op [(orderRow orderId).lock] d →
      Completes orderId (orderPart orderId d)
        (fun p => (p.1.map (writeColumns loaded object.beforeWrite), p.2)) (f ())) :
    Obeys orderId op (updateOrder loaded object >>= f) := by
  subst hid
  unfold updateOrder
  rw [if_neg hne]
  refine untilUnder_bind_checkedUpdate fun d _ hcheck hfinds => ⟨?_, rfl, ?_⟩
  · exact List.mem_singleton_self _
  · cases hrow : Table.get d.orders loaded.id with
    | none =>
      rw [hrow] at hcheck
      cases hcheck
    | some row => exact ⟨_, orderPart_modify (writeColumns_id _ _), hf d row hrow hfinds⟩

/-! ## Deliveries -/

/-- A history that is continued by a transition of the order. -/
theorem recorded_snoc {p : OrderPart} {row row' : ShopOrderRow} {newStatus : DeliveryStatus}
    (hrow : p.1 = some row) (hstatus : row'.deliveryStatus = newStatus)
    (hcan : canTransition row.deliveryStatus newStatus) (h : p.Recorded) :
    OrderPart.Recorded (some row', p.2 ++ [(row.deliveryStatus, newStatus)]) := by
  obtain ⟨hhead, hpath, -⟩ := h.2 row hrow
  obtain ⟨rest, hsteps⟩ := List.head?_eq_some_iff.mp hhead
  rw [hsteps] at hpath ⊢
  have hpath' : Path .ordered (rest ++ [(row.deliveryStatus, newStatus)]) newStatus := hpath.snoc hcan
  refine ⟨fun hnone => (by cases hnone), fun order horder => ?_⟩
  cases horder
  rw [hstatus]
  exact ⟨rfl, hpath', hpath'.nodup⟩

/-- The transition of the order: it is made from where the order stands. -/
theorem good_move {order row object : ShopOrderRow} {newStatus : DeliveryStatus} {done : Done}
    (hrow : Table.get d.orders orderId = some row)
    (hobject : object = { order with deliveryStatus := newStatus })
    (hloaded : canTransition order.deliveryStatus newStatus)
    (hfound : canTransition row.deliveryStatus newStatus) (hdone : done.owes orderId = false) :
    Good orderId (orderPart orderId d)
      ((orderPart orderId d).1.map (writeColumns order object.beforeWrite),
        (orderPart orderId d).2 ++ [(order.deliveryStatus, newStatus)]) done := by
  subst hobject
  have hpart : (orderPart orderId d).1 = some row := hrow
  have hne : newStatus ≠ order.deliveryStatus := canTransition_ne hloaded
  have hstatus : (writeColumns order
      ({ order with deliveryStatus := newStatus } : ShopOrderRow).beforeWrite row).deliveryStatus =
      newStatus := if_neg hne
  have hpayment : (writeColumns order
      ({ order with deliveryStatus := newStatus } : ShopOrderRow).beforeWrite row).paymentStatus =
      row.paymentStatus := if_pos rfl
  rw [hpart, Option.map_some]
  constructor
  · rw [hdone]
    unfold OrderPart.isPaid
    rw [hpart]
    dsimp only [Option.any_some]
    rw [hpayment]
    simp
  · intro h
    rw [canTransition_unique hloaded hfound]
    exact recorded_snoc hpart hstatus hfound h
  · exact fun _ => rfl

theorem obeys_moveOrder {op : ShopOp} {order : ShopOrderRow} {newStatus : DeliveryStatus}
    {changedBy : String} {note : Option String} (htarget : op.target = some newStatus)
    (hcan : canTransition order.deliveryStatus newStatus) :
    Obeys orderId op (moveOrder order newStatus changedBy note) := by
  unfold moveOrder
  by_cases hid : order.id = orderId
  · have hne : ({ order with deliveryStatus := newStatus } : ShopOrderRow).beforeWrite ≠ order :=
      fun h => canTransition_ne hcan (congrArg (·.deliveryStatus) h)
    refine obeys_bind_updateOrder hid hne fun d row hrow hfinds => ?_
    have hfound := hfinds.2 newStatus htarget (List.mem_singleton_self _) row hrow
    exact completes_addStatusHistory hid (good_move hrow rfl hcan hfound rfl)
  · refine (calm_updateOrder hid).bind_untilUnder fun _ => ?_
    refine (calm_addStatusHistory hid).bind_untilUnder fun _ => ?_
    intro h
    cases h

theorem canTransition_of_staff {current target : DeliveryStatus}
    (h : assertStaffCanTransition current target = .ok ()) : canTransition current target := by
  unfold assertStaffCanTransition assertCanTransition at h
  by_contra hnot
  rw [if_neg hnot] at h
  cases h

theorem canTransition_of_customer {current target : DeliveryStatus}
    (h : assertCustomerCanTransition current target = .ok ()) : canTransition current target := by
  unfold assertCustomerCanTransition assertCanTransition at h
  by_contra hnot
  rw [if_neg hnot] at h
  cases h

/-- An order is loaded first. -/
theorem obeys_bind_getById {op : ShopOp} {k : Uuid} {f : ShopOrderRow → ShopTx Done}
    (h : ∀ d order, Table.get d.orders k = some order → Finds orderId op [] d →
      Obeys orderId op (f order)) : Obeys orderId op (getById k >>= f) := by
  intro a d _ hfinds
  left
  refine ⟨quiet_empty, ?_⟩
  dsimp only
  cases hget : Table.get d.orders k with
  | none => trivial
  | some order => exact h d order hget hfinds

theorem obeys_updateDeliveryStatus (k : Uuid) (newStatus : DeliveryStatus) (changedBy : String)
    (note : Option String) :
    Obeys orderId (.deliver k newStatus changedBy note)
      (updateDeliveryStatus k newStatus changedBy note) := by
  unfold updateDeliveryStatus
  refine obeys_bind_getById fun d order _ _ => ?_
  cases hcan : assertStaffCanTransition order.deliveryStatus newStatus with
  | error exc => trivial
  | ok done => exact obeys_moveOrder rfl (canTransition_of_staff hcan)

theorem obeys_bind_getByPublicToken {op : ShopOp} {publicToken : String}
    {f : ShopOrderRow → ShopTx Done} (h : ∀ order, Obeys orderId op (f order)) :
    Obeys orderId op (getByPublicToken publicToken >>= f) := by
  intro a d _ _
  left
  refine ⟨quiet_empty, ?_⟩
  dsimp only [Transactions.Prog.bind]
  cases scalarOneOrNone (d.orders.filter (·.publicToken = publicToken)) with
  | error e => trivial
  | ok found =>
    cases found with
    | none => trivial
    | some order => exact h order

theorem obeys_confirmReceived (publicToken trackingCode : String) :
    Obeys orderId (.confirm publicToken trackingCode) (confirmReceived publicToken trackingCode) := by
  unfold confirmReceived
  refine obeys_bind_getByPublicToken fun order => ?_
  refine (calm_ask _).bind_untilUnder fun now => ?_
  refine (calm_raiseIf _ _).bind_untilUnder fun _ => ?_
  cases compareDigest order.trackingCode trackingCode with
  | error e => trivial
  | ok same =>
    cases same with
    | false => trivial
    | true =>
      dsimp only
      cases hcan : assertCustomerCanTransition order.deliveryStatus .received with
      | error exc => trivial
      | ok done => exact obeys_moveOrder rfl (canTransition_of_customer hcan)

/-! ## Payments -/

/-- The payment of the order: one that marks it as paid finds that it is not. -/
theorem good_pay {order row object : ShopOrderRow} {newPaymentStatus : OrderPaymentStatus}
    (hrow : Table.get d.orders orderId = some row) (hid : order.id = orderId)
    (hstatus : object.deliveryStatus = order.deliveryStatus)
    (hobject : object.paymentStatus = newPaymentStatus)
    (hloaded : newPaymentStatus = .success → order.paymentStatus ≠ .success)
    (hfound : newPaymentStatus = .success → row.paymentStatus ≠ .success) :
    Good orderId (orderPart orderId d)
      ((orderPart orderId d).1.map (writeColumns order object), (orderPart orderId d).2)
      (.paid order.id newPaymentStatus) := by
  have hpart : (orderPart orderId d).1 = some row := hrow
  have hdelivery : (writeColumns order object row).deliveryStatus = row.deliveryStatus :=
    if_pos hstatus
  have hpayment : (writeColumns order object row).paymentStatus =
      if newPaymentStatus = order.paymentStatus then row.paymentStatus else newPaymentStatus := by
    rw [← hobject]
    rfl
  rw [hpart, Option.map_some]
  constructor
  · unfold OrderPart.isPaid Done.owes
    rw [hpart]
    dsimp only [Option.any_some]
    rw [hpayment]
    by_cases hsuccess : newPaymentStatus = .success
    · have hne : newPaymentStatus ≠ order.paymentStatus := by
        rw [hsuccess]
        exact Ne.symm (hloaded hsuccess)
      rw [if_neg hne]
      simp [hsuccess, hfound hsuccess, hid]
    · split_ifs
      · simp [hsuccess]
      · simp [hsuccess]
  · intro h
    obtain ⟨-, hsome⟩ := h
    refine ⟨fun hnone => (by cases hnone), fun order' horder => ?_⟩
    cases horder
    rw [hdelivery]
    exact hsome row hpart
  · exact fun _ => rfl

theorem isPaid_of_get {row : ShopOrderRow} (h : Table.get d.orders orderId = some row) :
    isPaid orderId d ↔ row.paymentStatus = .success := by
  unfold isPaid
  rw [h]
  simp

theorem obeys_updatePaymentStatus (k : Uuid) (newPaymentStatus : OrderPaymentStatus)
    (args : PaymentArgs) :
    Obeys orderId (.pay k newPaymentStatus args) (updatePaymentStatus k newPaymentStatus args) := by
  unfold updatePaymentStatus
  refine obeys_bind_getById fun d order hget hfinds => ?_
  have hk : order.id = k := (Table.get_some hget).2
  by_cases hid : order.id = orderId
  · have hpays : newPaymentStatus = .success →
        (ShopOp.pay k newPaymentStatus args).pays orderId := by
      rintro rfl
      simp [ShopOp.pays, ← hk, hid]
    have hloaded : newPaymentStatus = .success → order.paymentStatus ≠ .success := by
      intro hsuccess hpaid
      rw [← hk, hid] at hget
      exact hfinds.1 (hpays hsuccess) ((isPaid_of_get hget).mpr hpaid)
    by_cases hne : (paymentColumns newPaymentStatus args order).beforeWrite = order
    · -- nothing is written, so the order has had that status already
      unfold updateOrder
      rw [if_pos hne]
      have hsame : newPaymentStatus = order.paymentStatus := congrArg (·.paymentStatus) hne
      show ¬ Done.owes orderId (.paid order.id newPaymentStatus)
      intro howes
      have hsuccess : newPaymentStatus = .success := by
        unfold Done.owes at howes
        simp at howes
        exact howes.2
      exact hloaded hsuccess (hsame.symm.trans hsuccess)
    · refine obeys_bind_updateOrder hid hne fun d row hrow hfound => ?_
      refine good_pay hrow hid rfl rfl hloaded fun hsuccess hpaid => ?_
      exact hfound.1 (hpays hsuccess) ((isPaid_of_get hrow).mpr hpaid)
  · refine (calm_updateOrder hid).bind_untilUnder fun _ => ?_
    show ¬ Done.owes orderId (.paid order.id newPaymentStatus)
    simp [Done.owes, hid]

/-! ## New orders -/

theorem calm_getProducts (items : List OrderItemIn) : Calm (orderRow orderId) (getProducts items) := by
  induction items with
  | nil => exact calm_pure _
  | cons item rest ih =>
    unfold getProducts
    refine (calm_ask _).bind fun product => ?_
    cases product with
    | error exc => exact calm_throw _
    | ok product => exact ih.bind fun _ => calm_pure _

theorem calm_orderItems (products : List (OrderItemIn × List (String × Json))) :
    Calm (orderRow orderId) (orderItems products) := by
  induction products with
  | nil => exact calm_pure _
  | cons product rest ih =>
    unfold orderItems
    refine (calm_ask _).bind fun id => ?_
    cases orderItem id product.1 product.2 with
    | error e => exact calm_throw e
    | ok line => exact ih.bind fun _ => calm_pure _

/-- The insert of another order. -/
theorem calm_create {order : ShopOrderRow} (h : order.id ≠ orderId) :
    Calm (orderRow orderId) (create order) := by
  unfold create
  refine calm_checkedUpdate ?_ (fun d => ?_) fun _ h => h
  · intro hmem
    rcases List.mem_cons.mp hmem with heq | hmem
    · exact lock_ne h heq
    · simp [orderRow] at hmem
  · have hget : Table.get (d.orders ++ [order]) orderId = Table.get d.orders orderId := by
      rw [Table.get_append]
      have hnone : Table.get [order] orderId = none := by
        rw [Table.get_cons]
        exact if_neg h
      rw [hnone, Option.or_none]
    exact Prod.ext hget rfl

/-- The insert of the order, whose history begins then. -/
theorem good_create {order : ShopOrderRow} (hnone : Table.get d.orders orderId = none)
    (hid : order.id = orderId) (hordered : order.deliveryStatus = .ordered) :
    Good orderId (orderPart orderId d)
      ((orderPart orderId d).1.or (some order),
        (orderPart orderId d).2 ++ [(DeliveryStatus.ordered, DeliveryStatus.ordered)])
      (.created order.id order.paymentStatus) := by
  have hpart : (orderPart orderId d).1 = none := hnone
  rw [hpart, Option.none_or]
  constructor
  · unfold OrderPart.isPaid Done.owes
    rw [hpart]
    simp [hid]
  · intro h
    have hempty := h.1 (by rw [hpart]; rfl)
    rw [hempty]
    refine ⟨fun hnone => (by cases hnone), fun order' horder => ?_⟩
    cases horder
    exact ⟨rfl, hordered.symm, List.nodup_nil⟩
  · exact fun _ => rfl

theorem obeys_insert {op : ShopOp} {order : ShopOrderRow} (hordered : order.deliveryStatus = .ordered)
    (entry : ShopOrderStatusHistoryRow) (hentry : entry.orderId = order.id)
    (hfrom : entry.fromStatus = .ordered) (hto : entry.toStatus = .ordered) :
    Obeys orderId op (do
      create order
      addStatusHistory entry
      pure (.created order.id order.paymentStatus)) := by
  by_cases hid : order.id = orderId
  · refine untilUnder_bind_checkedUpdate fun d _ hcheck _ => ⟨?_, rfl, ?_⟩
    · show LockKey.row "shop_orders" orderId ∈ _
      rw [hid]
      exact List.mem_cons_self
    · have hnone : Table.get d.orders orderId = none := by
        unfold orderConflict at hcheck
        split_ifs at hcheck with hthere
        rw [hid] at hthere
        exact Option.not_isSome_iff_eq_none.mp hthere
      refine ⟨fun p => (p.1.or (some order), p.2), fun d' => ?_, ?_⟩
      · have hsingle : Table.get [order] orderId = some order := by
          rw [Table.get_cons]
          exact if_pos hid
        refine Prod.ext ?_ rfl
        show Table.get (d'.orders ++ [order]) orderId = _
        rw [Table.get_append, hsingle]
        rfl
      · refine completes_addStatusHistory (hentry.trans hid) ?_
        rw [hfrom, hto]
        exact good_create hnone hid hordered
  · refine (calm_create hid).bind_untilUnder fun _ => ?_
    have hentry' : entry.orderId ≠ orderId := by
      rw [hentry]
      exact hid
    refine (calm_addStatusHistory hentry').bind_untilUnder fun _ => ?_
    show ¬ Done.owes orderId (.created order.id order.paymentStatus)
    simp [Done.owes, hid]

theorem obeys_createOrder (body : CreateShopOrderRequest) (args : CreateOrderArgs) :
    Obeys orderId (.create body args) (createOrder body args) := by
  unfold createOrder nextOrderNumber
  refine (calm_getProducts _).bind_untilUnder fun products => ?_
  refine (calm_orderItems _).bind_untilUnder fun items => ?_
  refine Calm.bind_untilUnder ?_ fun orderNumber => ?_
  · refine (calm_ask _).bind fun month => ?_
    exact calm_bind_query fun _ => calm_pure _
  refine (calm_ask _).bind_untilUnder fun trackingCode => ?_
  refine (calm_ask _).bind_untilUnder fun publicToken => ?_
  refine (calm_ask _).bind_untilUnder fun now => ?_
  refine (calm_ask _).bind_untilUnder fun id => ?_
  exact obeys_insert rfl _ rfl rfl rfl

theorem obeys_shopCode (op : ShopOp) : Obeys orderId op (shopCode op) := by
  cases op with
  | create body args => exact obeys_createOrder body args
  | pay k newPaymentStatus args => exact obeys_updatePaymentStatus k newPaymentStatus args
  | deliver k newStatus changedBy note => exact obeys_updateDeliveryStatus k newStatus changedBy note
  | confirm publicToken trackingCode => exact obeys_confirmReceived publicToken trackingCode

end Shop
