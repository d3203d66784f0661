import UshBookNPay.Shop.Proofs.RouterProofs

/-!
# Orders of other customers

Hidden from a view of the database are the payments of one customer's orders. What that customer asks of
the shop leaves the view alone, and what the others ask depends on nothing else.
-/

open Transactions (exec)
open Security (TokenPayload)
open Runs (run AllSteps)
open Noninterference (Unwinds Respects trace)

namespace Shop

variable {who : Identity} {d d' : ShopDb} {order order' object : ShopOrderRow}

/-! ## The view -/

/-- The order without its payment. -/
def hidePayment (order : ShopOrderRow) : ShopOrderRow :=
  { order with
    paymentStatus := .notInitiated
    paymentMethod := none
    paymentThrough := none
    paymentProvider := none
    paymentUrl := none
    paymentData := none }

/-- The payments of the customer's orders are hidden. -/
def masked (who : Identity) (order : ShopOrderRow) : ShopOrderRow :=
  if Foreign who order then order else hidePayment order

def view (who : Identity) (d : ShopDb) : ShopDb := { d with orders := d.orders.map (masked who) }

theorem masked_of_foreign (h : Foreign who order) : masked who order = order := if_pos h

theorem masked_of_own (h : ¬ Foreign who order) : masked who order = hidePayment order := if_neg h

/-- What the payment is no part of is not hidden. -/
theorem masked_column {α : Type} {g : ShopOrderRow → α} (hg : ∀ o, g (hidePayment o) = g o)
    (order : ShopOrderRow) : g (masked who order) = g order := by
  unfold masked
  split_ifs
  · rfl
  · exact hg order

theorem key_masked (order : ShopOrderRow) :
    Table.Keyed.key (masked who order) = Table.Keyed.key order :=
  masked_column (fun _ => rfl) order

theorem foreign_masked (order : ShopOrderRow) : Foreign who (masked who order) ↔ Foreign who order := by
  unfold Foreign
  rw [masked_column (fun _ => rfl : ∀ o, (hidePayment o).customerId = o.customerId)]

theorem column_of_masked {α : Type} {g : ShopOrderRow → α} (hg : ∀ o, g (hidePayment o) = g o)
    (h : masked who order = masked who order') : g order = g order' := by
  rw [← masked_column hg order, h, masked_column hg order']

theorem eq_of_masked (h : masked who order = masked who order') (hforeign : Foreign who order) :
    order = order' := by
  have hforeign' : Foreign who order' := by
    rw [← foreign_masked, ← h, foreign_masked]
    exact hforeign
  rwa [masked_of_foreign hforeign, masked_of_foreign hforeign'] at h

/-! ### Equal views -/

theorem orders_of_view (h : view who d = view who d') :
    d.orders.map (masked who) = d'.orders.map (masked who) := congrArg ShopDb.orders h

theorem history_of_view (h : view who d = view who d') : d.statusHistory = d'.statusHistory :=
  congrArg (·.statusHistory) h

theorem historyOf_of_view (h : view who d = view who d') (k : Uuid) : historyOf d k = historyOf d' k := by
  unfold historyOf
  rw [history_of_view h]

theorem get_of_view (h : view who d = view who d') {k : Uuid}
    (hget : Table.get d.orders k = some order) :
    ∃ order', Table.get d'.orders k = some order' ∧ masked who order = masked who order' := by
  have heq := Table.get_map_eq key_masked (orders_of_view h) k
  rw [hget] at heq
  exact Option.map_eq_some_iff.mp heq.symm |>.imp fun _ h => ⟨h.1, h.2.symm⟩

theorem get_none_of_view (h : view who d = view who d') {k : Uuid}
    (hget : Table.get d.orders k = none) : Table.get d'.orders k = none := by
  have heq := Table.get_map_eq key_masked (orders_of_view h) k
  rw [hget] at heq
  exact Option.map_eq_none_iff.mp heq.symm

/-- The rows that a column selects, hidden payments apart. -/
theorem filter_map_of_view (h : view who d = view who d') {p : ShopOrderRow → Bool}
    (hp : ∀ o, p (hidePayment o) = p o) :
    (d.orders.filter p).map (masked who) = (d'.orders.filter p).map (masked who) := by
  have hcomp : p ∘ masked who = p := funext fun o => masked_column hp o
  have heq := congrArg (List.filter p) (orders_of_view h)
  rwa [List.filter_map, List.filter_map, hcomp] at heq

theorem map_masked_of_foreign {rows : List ShopOrderRow} (h : ∀ o ∈ rows, Foreign who o) :
    rows.map (masked who) = rows := by
  conv_rhs => rw [← List.map_id rows]
  exact List.map_congr_left fun o ho => masked_of_foreign (h o ho)

/-- Rows that are all somebody else's are there in both. -/
theorem filter_of_view (h : view who d = view who d') {p : ShopOrderRow → Bool}
    (hp : ∀ o, p (hidePayment o) = p o) (hforeign : ∀ o, p o → Foreign who o) :
    d.orders.filter p = d'.orders.filter p := by
  have heq := filter_map_of_view h hp
  rw [map_masked_of_foreign fun o ho => hforeign o (List.mem_filter.mp ho).2] at heq
  rwa [map_masked_of_foreign fun o ho => hforeign o (List.mem_filter.mp ho).2] at heq

theorem map_of_view (h : view who d = view who d') {α : Type} {g : ShopOrderRow → α}
    (hg : ∀ o, g (hidePayment o) = g o) : d.orders.map g = d'.orders.map g := by
  have hcomp : g ∘ masked who = g := funext fun o => masked_column hg o
  have heq := congrArg (List.map g) (orders_of_view h)
  rwa [List.map_map, List.map_map, hcomp] at heq

/-- The others find the same orders in equal views. -/
theorem othersPart_of_view (h : view who d = view who d') : othersPart who d = othersPart who d' := by
  unfold othersPart
  rw [filter_of_view h (fun o => rfl) fun o ho => of_decide_eq_true ho]
  exact List.map_congr_left fun o _ => by rw [historyOf_of_view h]

/-! ## Writes -/

theorem view_written (hu : Table.Unique d.orders)
    (hget : Table.get d.orders order.id = some order) :
    view who (written d order object) =
      ⟨Table.modify (d.orders.map (masked who)) order.id fun _ =>
        masked who (writeColumns order object.beforeWrite order), d.statusHistory⟩ := by
  unfold written view
  rw [Table.map_modify hu hget key_masked]

/-- The flush of a loaded order. -/
theorem writeColumns_loaded (order object : ShopOrderRow) :
    (writeColumns order object order).deliveryStatus = object.deliveryStatus := by
  unfold writeColumns
  dsimp only
  split_ifs with h
  · exact h.symm
  · rfl

theorem hidePayment_writeColumns (order object : ShopOrderRow) :
    hidePayment (writeColumns order object order) =
      { hidePayment order with deliveryStatus := object.deliveryStatus } := by
  rw [← writeColumns_loaded order object]
  rfl

theorem masked_writeColumns_own (hown : ¬ Foreign who order) (object : ShopOrderRow) :
    masked who (writeColumns order object order) =
      { hidePayment order with deliveryStatus := object.deliveryStatus } := by
  have hown' : ¬ Foreign who (writeColumns order object order) := hown
  rw [masked_of_own hown', hidePayment_writeColumns]

/-- An update of the payment of an own order is hidden. -/
theorem view_written_own (hu : Table.Unique d.orders)
    (hget : Table.get d.orders order.id = some order) (hown : ¬ Foreign who order)
    (hstatus : object.deliveryStatus = order.deliveryStatus) :
    view who (written d order object) = view who d := by
  have hflushed : object.beforeWrite.deliveryStatus = order.deliveryStatus := by
    rw [beforeWrite_deliveryStatus, hstatus]
  have hobject : masked who (writeColumns order object.beforeWrite order) = masked who order := by
    rw [masked_writeColumns_own hown, hflushed, masked_of_own hown]
    rfl
  have hget' : Table.get (d.orders.map (masked who)) order.id = some (masked who order) := by
    rw [Table.get_map key_masked, hget]
    rfl
  rw [view_written hu hget, hobject, Table.modify_const (hu.map key_masked) hget']
  rfl

theorem view_paid_own {k : Uuid} (hs : Stored d) (hget : Table.get d.orders k = some order)
    (hown : ¬ Foreign who order) (newPaymentStatus : OrderPaymentStatus) (args : PaymentArgs) :
    view who (written d order (paymentColumns newPaymentStatus args order)) = view who d := by
  have hkey : order.id = k := (Table.get_some hget).2
  exact view_written_own hs.unique (by rw [hkey, hget]) hown rfl

/-- Equal views stay equal where the same is written over a row they agree on. -/
theorem view_written_congr (h : view who d = view who d') (hu : Table.Unique d.orders)
    (hu' : Table.Unique d'.orders) (hget : Table.get d.orders order.id = some order)
    (hget' : Table.get d'.orders order.id = some order') {object' : ShopOrderRow}
    (heq : masked who (writeColumns order object.beforeWrite order) =
      masked who (writeColumns order' object'.beforeWrite order')) :
    view who (written d order object) = view who (written d' order' object') := by
  have hkey : order'.id = order.id := (Table.get_some hget').2
  rw [view_written hu hget, view_written hu' (by rw [hkey, hget']), orders_of_view h,
    history_of_view h, heq, hkey]

theorem masked_move (h : masked who order = masked who order') (newStatus : DeliveryStatus) :
    masked who (writeColumns order
        ({ order with deliveryStatus := newStatus } : ShopOrderRow).beforeWrite order) =
      masked who (writeColumns order'
        ({ order' with deliveryStatus := newStatus } : ShopOrderRow).beforeWrite order') := by
  by_cases hforeign : Foreign who order
  · rw [eq_of_masked h hforeign]
  · have hown' : ¬ Foreign who order' := by
      rw [← foreign_masked, ← h, foreign_masked]
      exact hforeign
    have hstatus : ∀ o : ShopOrderRow,
        ({ o with deliveryStatus := newStatus } : ShopOrderRow).beforeWrite.deliveryStatus =
          newStatus := fun _ => beforeWrite_deliveryStatus _
    rw [masked_writeColumns_own hforeign, masked_writeColumns_own hown', hstatus, hstatus,
      ← masked_of_own hforeign, ← masked_of_own hown', h]

theorem view_moved_congr (h : view who d = view who d') (hu : Table.Unique d.orders)
    (hu' : Table.Unique d'.orders) (hget : Table.get d.orders order.id = some order)
    (hget' : Table.get d'.orders order.id = some order')
    (heq : masked who order = masked who order') (entry : ShopOrderStatusHistoryRow) :
    view who (moved d order entry) = view who (moved d' order' entry) := by
  have hwritten : view who (written d order { order with deliveryStatus := entry.toStatus }) =
      view who (written d' order' { order' with deliveryStatus := entry.toStatus }) :=
    view_written_congr h hu hu' hget hget' (masked_move heq entry.toStatus)
  have horders := congrArg ShopDb.orders hwritten
  have hhistory := history_of_view h
  unfold moved view
  dsimp only
  rw [hhistory]
  exact congrArg (fun orders => ({ orders := orders, statusHistory := _ } : ShopDb)) horders

/-! ## What the database promises -/

theorem stored_written (hs : Stored d) (order object : ShopOrderRow) : Stored (written d order object) := by
  constructor
  · exact hs.unique.modify (key_writeColumns _ _) _
  · intro row hrow
    rcases Table.mem_modify.mp hrow with ⟨hmem, -⟩ | ⟨a, hmem, -, rfl⟩
    · exact hs.uuids row hmem
    · exact hs.uuids a hmem

theorem stored_moved (hs : Stored d) (order : ShopOrderRow) (entry : ShopOrderStatusHistoryRow) :
    Stored (moved d order entry) := by
  have h := stored_written hs order { order with deliveryStatus := entry.toStatus }
  exact ⟨h.unique, h.uuids⟩

theorem stored_placed {customerId : Uuid} {done : Done} (hs : Stored d)
    (hplaced : Placed customerId d d' done) (hid : customerId < 2 ^ 128) : Stored d' := by
  obtain ⟨order, entry, hnone, hcustomer, -, -, rfl⟩ := hplaced
  constructor
  · exact hs.unique.append hnone
  · intro row hrow
    rcases List.mem_append.mp hrow with hmem | hmem
    · exact hs.uuids row hmem
    · rw [List.mem_singleton.mp hmem, hcustomer]
      exact hid

/-! ## Requests that come with a token -/

section Users

variable {env : ℕ → ShopEnv} {user : TokenPayload}

theorem stored_respondUser (hs : Stored d) (env : ℕ → ShopEnv) (user : TokenPayload)
    (request : UserRequest) : Stored (respondUser env d user request).2 := by
  cases request with
  | listOrders filters limit offset =>
    rw [respond_listOrders_db]
    exact hs
  | getOrder k => exact hs
  | updateDeliveryStatus k body =>
    by_cases hstaff : isStaffUser user
    · cases hget : Table.get d.orders k with
      | none =>
        rw [respond_deliver_none body hstaff hget]
        exact hs
      | some order =>
        cases hcan : assertStaffCanTransition order.deliveryStatus body.status with
        | error e =>
          rw [respond_deliver_error hstaff hget hcan]
          exact hs
        | ok _ =>
          rw [respond_deliver_ok hstaff hget hcan]
          exact stored_moved hs _ _
    · rw [respond_deliver_refused body hstaff]
      exact hs
  | updatePaymentStatus k body =>
    cases hget : Table.get d.orders k with
    | none =>
      rw [respond_pay_none body hget]
      exact hs
    | some order =>
      rw [respond_pay body hget]
      exact stored_written hs _ _
  | createOrder body =>
    cases hparse : parseUuid user.sub with
    | none =>
      rw [respond_place_none body hparse]
      exact hs
    | some customerId =>
      rcases respond_place_cases env d body hparse with
        ⟨e, heq⟩ | ⟨d', done, order, hplaced, -, -, heq⟩
      · rw [heq]
        exact hs
      · rw [heq]
        exact stored_placed hs hplaced (parseUuid_lt hparse)
  | listMyOrders limit offset =>
    cases hparse : parseUuid user.sub with
    | none =>
      rw [respond_listMyOrders_none limit offset hparse]
      exact hs
    | some customerId =>
      rw [respond_listMyOrders limit offset hparse]
      exact hs
  | getMyOrder k =>
    cases hparse : parseUuid user.sub with
    | none =>
      rw [respond_getMyOrder_none k hparse]
      exact hs
    | some customerId =>
      rw [respond_getMyOrder k hparse]
      exact hs

/-- Who owns an order has its customer as `sub`. -/
theorem identity_of_parse {sub : String} {customerId : Uuid} (h : parseUuid sub = some customerId) :
    identity sub = .inl customerId := by
  unfold identity
  rw [h]
  rfl

theorem identity_uuidStr (hs : Stored d) {k : Uuid} (hget : Table.get d.orders k = some order) {sub : String}
    (h : uuidStr order.customerId = sub) : identity sub = .inl order.customerId := by
  refine identity_of_parse ?_
  rw [← h, parseUuid_uuidStr (hs.uuids order (Table.get_some hget).1)]

theorem historyOf_append {entry : ShopOrderStatusHistoryRow} {orders : List ShopOrderRow} {k : Uuid}
    (h : entry.orderId ≠ k) :
    historyOf ⟨orders, d.statusHistory ++ [entry]⟩ k = historyOf d k := by
  unfold historyOf
  rw [List.filter_append]
  simp [h]

/-- An order the customer places is nobody else's. -/
theorem othersPart_placed {customerId : Uuid} {done : Done} (hplaced : Placed customerId d d' done) :
    othersPart (.inl customerId) d' = othersPart (.inl customerId) d := by
  obtain ⟨order, entry, hnone, hcustomer, -, hentry, rfl⟩ := hplaced
  have hown : ¬ Foreign (.inl customerId) order := by
    rw [← hcustomer]
    exact fun h => h rfl
  unfold othersPart
  dsimp only
  rw [List.filter_append, List.filter_cons_of_neg (by simpa using hown), List.filter_nil,
    List.append_nil]
  refine List.map_congr_left fun row hrow => ?_
  have hne : entry.orderId ≠ row.id := by
    rw [hentry]
    exact fun heq => Table.get_none hnone (List.mem_filter.mp hrow).1 heq.symm
  rw [historyOf_append hne]

theorem discloses_detailOf (d : ShopDb) (order : ShopOrderRow) :
    (detailOf d order).discloses who = decide (Foreign who order) := rfl

theorem not_foreign (order : ShopOrderRow) : ¬ Foreign (.inl order.customerId) order := fun h => h rfl

/-- What a customer asks for that is no update of the payment of somebody else's order. -/
theorem respondUser_discreet (hs : Stored d) (hstaff : ¬ isStaffUser user) (request : UserRequest)
    (hpays : ∀ k body, request = .updatePaymentStatus k body →
      ∀ order ∈ Table.get d.orders k, identity user.sub = .inl order.customerId) :
    othersPart (identity user.sub) (respondUser env d user request).2 =
        othersPart (identity user.sub) d ∧
      (respondUser env d user request).1.discloses (identity user.sub) = false := by
  cases request with
  | listOrders filters limit offset =>
    rw [respond_listOrders filters limit offset hstaff]
    exact ⟨rfl, rfl⟩
  | getOrder k =>
    refine ⟨rfl, ?_⟩
    dsimp only [respondUser]
    cases hget : Table.get d.orders k with
    | none =>
      rw [exec_getById_none hget]
      rfl
    | some order =>
      rw [exec_getById hget]
      dsimp only [loaded]
      split_ifs with h
      · rfl
      · have howner : uuidStr order.customerId = user.sub := by
          by_contra hne
          exact h ⟨hstaff, hne⟩
        rw [identity_uuidStr hs hget howner, discloses_detailOf]
        exact decide_eq_false (not_foreign order)
  | updateDeliveryStatus k body =>
    rw [respond_deliver_refused body hstaff]
    exact ⟨rfl, rfl⟩
  | updatePaymentStatus k body =>
    cases hget : Table.get d.orders k with
    | none =>
      rw [respond_pay_none body hget]
      exact ⟨rfl, rfl⟩
    | some order =>
      have hown : identity user.sub = .inl order.customerId := hpays k body rfl order hget
      rw [respond_pay body hget]
      refine ⟨othersPart_of_view (view_paid_own hs hget ?_ _ _), ?_⟩
      · exact fun h => h hown
      · rw [hown, discloses_detailOf]
        exact decide_eq_false (not_foreign (writeColumns _ _ order))
  | createOrder body =>
    cases hparse : parseUuid user.sub with
    | none =>
      rw [respond_place_none body hparse]
      exact ⟨rfl, rfl⟩
    | some customerId =>
      rw [identity_of_parse hparse]
      rcases respond_place_cases env d body hparse with
        ⟨e, heq⟩ | ⟨d', done, order, hplaced, -, hcustomer, heq⟩
      · rw [heq]
        refine ⟨rfl, ?_⟩
        cases e with
        | _ => rfl
      · rw [heq]
        refine ⟨othersPart_placed hplaced, ?_⟩
        rw [← hcustomer, discloses_detailOf]
        exact decide_eq_false (not_foreign order)
  | listMyOrders limit offset =>
    cases hparse : parseUuid user.sub with
    | none =>
      rw [respond_listMyOrders_none limit offset hparse]
      exact ⟨rfl, rfl⟩
    | some customerId =>
      rw [respond_listMyOrders limit offset hparse, identity_of_parse hparse]
      refine ⟨rfl, List.any_eq_false.mpr fun item hitem => ?_⟩
      obtain ⟨row, hrow, rfl⟩ := List.mem_map.mp hitem
      have hmem := List.mem_of_mem_drop (List.mem_of_mem_take hrow)
      have hcustomer := of_decide_eq_true (List.mem_filter.mp (List.mem_reverse.mp hmem)).2
      simp [orderToListItem, hcustomer]
  | getMyOrder k =>
    cases hparse : parseUuid user.sub with
    | none =>
      rw [respond_getMyOrder_none k hparse]
      exact ⟨rfl, rfl⟩
    | some customerId =>
      rw [respond_getMyOrder k hparse, identity_of_parse hparse]
      refine ⟨rfl, ?_⟩
      cases hget : Table.get d.orders k with
      | none =>
        rw [exec_getById_none hget]
        rfl
      | some order =>
        rw [exec_getById hget]
        dsimp only [loaded]
        split_ifs with h
        · rfl
        · rw [← not_not.mp h, discloses_detailOf]
          exact decide_eq_false (not_foreign order)

end Users

end Shop
