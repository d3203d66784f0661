import UshBookNPay.Shop.Proofs.PrivacyProofs

/-!
# Customers apart

Two databases with equal views answer the others the same and stay equal. By unwinding, a run and the run
without a customer's requests are the same to the others.
-/

open Transactions (exec)
open Transactions.Prog (query ask raiseIf update checkedUpdate)
open Security (TokenPayload)
open Runs (run AllSteps)
open Noninterference (Unwinds Respects trace)

namespace Shop

variable {who : Identity} {d d' : ShopDb} {order order' object : ShopOrderRow} {env : ℕ → ShopEnv}
  {user : TokenPayload}

/-! ## New orders -/

/-- Equal views. -/
abbrev Alike (who : Identity) (d d' : ShopDb) : Prop := view who d = view who d'

theorem respects_getProducts (items : List OrderItemIn) :
    Respects (Alike who) (getProducts items) := by
  induction items with
  | nil => exact Noninterference.respects_pure _
  | cons item rest ih =>
    unfold getProducts
    refine (Noninterference.respects_ask _).bind fun product => ?_
    cases product with
    | error exc => exact Noninterference.respects_throw _
    | ok product => exact ih.bind fun _ => Noninterference.respects_pure _

theorem respects_orderItems (products : List (OrderItemIn × List (String × Json))) :
    Respects (Alike who) (orderItems products) := by
  induction products with
  | nil => exact Noninterference.respects_pure _
  | cons product rest ih =>
    unfold orderItems
    refine (Noninterference.respects_ask _).bind fun id => ?_
    cases orderItem id product.1 product.2 with
    | error e => exact Noninterference.respects_throw e
    | ok line => exact ih.bind fun _ => Noninterference.respects_pure _

theorem countOf_alike (h : Alike who d d') (datePrefix : String) :
    countOf datePrefix d = countOf datePrefix d' := by
  have hrows := filter_map_of_view (p := fun o => Text.startsWith datePrefix o.orderNumber) h
    fun _ => rfl
  have hlength := congrArg List.length hrows
  rwa [List.length_map, List.length_map] at hlength

theorem any_alike (h : Alike who d d') {p : ShopOrderRow → Bool} (hp : ∀ o, p (hidePayment o) = p o) :
    d.orders.any p = d'.orders.any p := by
  have hmap : (d.orders.map p).any id = (d'.orders.map p).any id := by rw [map_of_view h hp]
  rwa [List.any_map, List.any_map] at hmap

theorem orderConflict_alike (h : Alike who d d') (order : ShopOrderRow) :
    orderConflict order d = orderConflict order d' := by
  have hget : (Table.get d.orders order.id).isSome = (Table.get d'.orders order.id).isSome := by
    have heq := congrArg Option.isSome (Table.get_map_eq key_masked (orders_of_view h) order.id)
    rw [Option.isSome_map, Option.isSome_map] at heq
    exact heq
  unfold orderConflict
  rw [hget, any_alike h fun _ => rfl, any_alike h fun _ => rfl, any_alike h fun _ => rfl]

theorem respects_create (order : ShopOrderRow) : Respects (Alike who) (create order) := by
  refine Noninterference.respects_checkedUpdate _ (fun d d' h => orderConflict_alike h order) ?_
  intro d d' h
  show (ShopDb.mk _ _) = ShopDb.mk _ _
  rw [List.map_append, List.map_append, orders_of_view h, history_of_view h]

theorem respects_addStatusHistory (entry : ShopOrderStatusHistoryRow) :
    Respects (Alike who) (addStatusHistory entry) := by
  refine Noninterference.respects_update _ fun d d' h => ?_
  show (ShopDb.mk _ _) = ShopDb.mk _ _
  rw [orders_of_view h, history_of_view h]

theorem respects_createOrder (body : CreateShopOrderRequest) (args : CreateOrderArgs) :
    Respects (Alike who) (createOrder body args) := by
  unfold createOrder
  refine (respects_getProducts _).bind fun products => ?_
  refine (respects_orderItems _).bind fun items => ?_
  refine Respects.bind ?_ fun orderNumber => ?_
  · refine (Noninterference.respects_ask _).bind fun month => ?_
    refine Respects.bind ?_ fun _ => Noninterference.respects_pure _
    exact Noninterference.respects_query fun d d' h => countOf_alike h _
  refine (Noninterference.respects_ask _).bind fun code => ?_
  refine (Noninterference.respects_ask _).bind fun token => ?_
  refine (Noninterference.respects_ask _).bind fun now => ?_
  refine (Noninterference.respects_ask _).bind fun id => ?_
  refine (respects_create _).bind fun _ => ?_
  exact (respects_addStatusHistory _).bind fun _ => Noninterference.respects_pure _

/-! ## The state -/

theorem alike_respond_place (h : Alike who d d') (body : CreateShopOrderRequest) :
    Alike who (respondUser env d user (.createOrder body)).2
      (respondUser env d' user (.createOrder body)).2 := by
  cases hparse : parseUuid user.sub with
  | none =>
    rw [respond_place_none body hparse, respond_place_none body hparse]
    exact h
  | some customerId =>
    rw [respond_place body hparse, respond_place body hparse]
    obtain ⟨hresult, hdb⟩ :=
      (respects_createOrder body (createArgs user customerId body)).exec h env
    unfold answer
    rw [← hresult]
    split
    · exact h
    · exact hdb

theorem alike_respondUser (hs : Stored d) (hs' : Stored d') (h : Alike who d d')
    (request : UserRequest) :
    Alike who (respondUser env d user request).2 (respondUser env d' user request).2 := by
  cases request with
  | listOrders filters limit offset =>
    rw [respond_listOrders_db, respond_listOrders_db]
    exact h
  | getOrder k => exact h
  | updateDeliveryStatus k body =>
    by_cases hstaff : isStaffUser user
    · cases hget : Table.get d.orders k with
      | none =>
        rw [respond_deliver_none body hstaff hget,
          respond_deliver_none body hstaff (get_none_of_view h hget)]
        exact h
      | some order =>
        obtain ⟨order', hget', hmasked⟩ := get_of_view h hget
        have hstatus : order.deliveryStatus = order'.deliveryStatus :=
          column_of_masked (g := ShopOrderRow.deliveryStatus) (fun _ => rfl) hmasked
        have hid : order.id = order'.id :=
          column_of_masked (g := ShopOrderRow.id) (fun _ => rfl) hmasked
        have hkey : order.id = k := (Table.get_some hget).2
        cases hcan : assertStaffCanTransition order.deliveryStatus body.status with
        | error e =>
          rw [respond_deliver_error hstaff hget hcan,
            respond_deliver_error hstaff hget' (by rw [← hstatus, hcan])]
          exact h
        | ok _ =>
          rw [respond_deliver_ok hstaff hget hcan,
            respond_deliver_ok hstaff hget' (by rw [← hstatus, hcan])]
          unfold moveEntry
          rw [← hstatus, ← hid]
          subst hkey
          exact view_moved_congr h hs.unique hs'.unique hget hget' hmasked _
    · rw [respond_deliver_refused body hstaff, respond_deliver_refused body hstaff]
      exact h
  | updatePaymentStatus k body =>
    cases hget : Table.get d.orders k with
    | none =>
      rw [respond_pay_none body hget, respond_pay_none body (get_none_of_view h hget)]
      exact h
    | some order =>
      obtain ⟨order', hget', hmasked⟩ := get_of_view h hget
      have hkey : order.id = k := (Table.get_some hget).2
      rw [respond_pay body hget, respond_pay body hget']
      by_cases hforeign : Foreign who order
      · have heq := eq_of_masked hmasked hforeign
        subst heq
        subst hkey
        exact view_written_congr h hs.unique hs'.unique hget hget' rfl
      · have hown' : ¬ Foreign who order' := by
          rw [← foreign_masked, ← hmasked, foreign_masked]
          exact hforeign
        exact (view_paid_own hs hget hforeign _ _).trans
          (h.trans (view_paid_own hs' hget' hown' _ _).symm)
  | createOrder body => exact alike_respond_place h body
  | listMyOrders limit offset =>
    cases hparse : parseUuid user.sub with
    | none =>
      rw [respond_listMyOrders_none limit offset hparse, respond_listMyOrders_none limit offset hparse]
      exact h
    | some customerId =>
      rw [respond_listMyOrders limit offset hparse, respond_listMyOrders limit offset hparse]
      exact h
  | getMyOrder k =>
    cases hparse : parseUuid user.sub with
    | none =>
      rw [respond_getMyOrder_none k hparse, respond_getMyOrder_none k hparse]
      exact h
    | some customerId =>
      rw [respond_getMyOrder k hparse, respond_getMyOrder k hparse]
      exact h

/-! ### Public tokens -/

theorem tokenRow_alike (h : Alike who d d') (token : String) :
    (tokenRow d token).map (masked who) = (tokenRow d' token).map (masked who) := by
  have hrows := filter_map_of_view (p := (·.publicToken = token)) h fun _ => rfl
  unfold tokenRow
  cases hleft : d.orders.filter (·.publicToken = token) with
  | nil =>
    rw [hleft, List.map_nil] at hrows
    rw [List.map_eq_nil_iff.mp hrows.symm]
  | cons row rest =>
    rw [hleft] at hrows
    obtain ⟨row', rest', hright, hrow, hrest⟩ := List.map_eq_cons_iff.mp hrows.symm
    rw [hright]
    cases rest with
    | nil =>
      rw [List.map_nil, List.map_eq_nil_iff] at hrest
      subst hrest
      exact congrArg Except.ok hrow.symm
    | cons second rest =>
      obtain ⟨second', rest'', rfl, -, -⟩ := List.map_eq_cons_iff.mp hrest
      rfl

theorem tokenRow_error_alike (h : Alike who d d') {token : String} {e : ShopError}
    (herror : tokenRow d token = .error e) : tokenRow d' token = .error e := by
  have heq := tokenRow_alike h token
  rw [herror] at heq
  cases hrow : tokenRow d' token with
  | error e' =>
    rw [hrow] at heq
    cases heq
    rfl
  | ok order =>
    rw [hrow] at heq
    cases heq

theorem tokenRow_ok_alike (h : Alike who d d') {token : String} (hrow : tokenRow d token = .ok order) :
    ∃ order', tokenRow d' token = .ok order' ∧ masked who order = masked who order' := by
  have heq := tokenRow_alike h token
  rw [hrow] at heq
  cases hrow' : tokenRow d' token with
  | error e' =>
    rw [hrow'] at heq
    cases heq
  | ok order' =>
    rw [hrow'] at heq
    injection heq with heq
    exact ⟨order', rfl, heq⟩

theorem get_of_tokenRow (hs : Stored d) {token : String} (hrow : tokenRow d token = .ok order) :
    Table.get d.orders order.id = some order :=
  Table.get_eq_of_mem hs.unique (mem_of_tokenRow hrow).1

theorem checkReceipt_masked (h : masked who order = masked who order') (now : Instant) (code : String) :
    checkReceipt order now code = checkReceipt order' now code := by
  have hcode := column_of_masked (g := ShopOrderRow.trackingCode) (fun _ => rfl) h
  have hstatus := column_of_masked (g := ShopOrderRow.deliveryStatus) (fun _ => rfl) h
  have hexpiry := column_of_masked (g := ShopOrderRow.tokenExpiresAt) (fun _ => rfl) h
  unfold checkReceipt
  rw [hcode, hstatus, hexpiry]

theorem receiptEntry_masked (h : masked who order = masked who order') :
    receiptEntry order = receiptEntry order' := by
  have hid := column_of_masked (g := ShopOrderRow.id) (fun _ => rfl) h
  have hstatus := column_of_masked (g := ShopOrderRow.deliveryStatus) (fun _ => rfl) h
  unfold receiptEntry moveEntry
  rw [hid, hstatus]

theorem alike_respondAnyone (hs : Stored d) (hs' : Stored d') (h : Alike who d d')
    (request : PublicRequest) :
    Alike who (respondAnyone env d request).2 (respondAnyone env d' request).2 := by
  cases request with
  | trackOrder token => exact h
  | confirmReceived token code =>
    cases hrow : tokenRow d token with
    | error e =>
      rw [respond_confirm_error code hrow, respond_confirm_error code (tokenRow_error_alike h hrow)]
      exact h
    | ok order =>
      obtain ⟨order', hrow', hmasked⟩ := tokenRow_ok_alike h hrow
      have hget := get_of_tokenRow hs hrow
      have hget' := get_of_tokenRow hs' hrow'
      have hid := column_of_masked (g := ShopOrderRow.id) (fun _ => rfl) hmasked
      cases hcheck : checkReceipt order (env 1).now code with
      | error e =>
        rw [respond_confirm_refused hrow hget hcheck, respond_confirm_refused hrow' hget'
          (by rw [← checkReceipt_masked hmasked, hcheck])]
        exact h
      | ok _ =>
        rw [respond_confirm_ok hrow hget hcheck, respond_confirm_ok hrow' hget'
          (by rw [← checkReceipt_masked hmasked, hcheck]), ← receiptEntry_masked hmasked]
        rw [← hid] at hget'
        exact view_moved_congr h hs.unique hs'.unique hget hget' hmasked _

/-! ## The answers -/

theorem detailOf_alike (h : Alike who d d') (order : ShopOrderRow) :
    detailOf d order = detailOf d' order := by
  unfold detailOf orderToDetail
  rw [historyOf_of_view h]

theorem detailOf_written (d : ShopDb) (loaded object order : ShopOrderRow) :
    detailOf (written d loaded object) order = detailOf d order := by
  unfold detailOf orderToDetail historyOf written
  rfl

theorem trackingOf_alike (h : Alike who d d') (order : ShopOrderRow) :
    trackingOf d order = trackingOf d' order := by
  unfold trackingOf orderToPublicTracking
  rw [historyOf_of_view h]

/-- A public token of the customer's orders is one in both. -/
theorem concerns_alike (h : Alike who d d') {token : String}
    (hthere : ∃ order ∈ d.orders, order.publicToken = token ∧ ¬ Foreign who order) :
    ∃ order ∈ d'.orders, order.publicToken = token ∧ ¬ Foreign who order := by
  obtain ⟨order, hmem, htoken, hown⟩ := hthere
  have hmasked : masked who order ∈ d'.orders.map (masked who) := by
    rw [← orders_of_view h]
    exact List.mem_map_of_mem hmem
  obtain ⟨order', hmem', heq⟩ := List.mem_map.mp hmasked
  refine ⟨order', hmem', ?_, ?_⟩
  · exact (column_of_masked (g := ShopOrderRow.publicToken) (fun _ => rfl) heq).trans htoken
  · rw [← foreign_masked, heq, foreign_masked]
    exact hown

theorem answer_place_alike (h : Alike who d d') (hwho : identity user.sub ≠ who)
    (body : CreateShopOrderRequest) :
    (respondUser env d user (.createOrder body)).1 =
      (respondUser env d' user (.createOrder body)).1 := by
  cases hparse : parseUuid user.sub with
  | none => rw [respond_place_none body hparse, respond_place_none body hparse]
  | some customerId =>
    have hplaced := (ensures_createOrder body (createArgs user customerId body) d).exec env
    obtain ⟨hresult, hdb⟩ :=
      (respects_createOrder body (createArgs user customerId body)).exec h env
    rw [respond_place body hparse, respond_place body hparse]
    generalize exec env (createOrder body (createArgs user customerId body)) d = outcome
      at hplaced hresult hdb ⊢
    generalize exec env (createOrder body (createArgs user customerId body)) d' = outcome'
      at hresult hdb ⊢
    cases hok : outcome.1 with
    | error e =>
      rw [answer_error hok, answer_error (hresult.symm.trans hok)]
    | ok done =>
      have hdone : Placed customerId d outcome.2.1 done := hplaced done hok
      obtain ⟨order, -, hget, hcustomer⟩ := hdone.get
      obtain ⟨order', hget', hmasked⟩ := get_of_view hdb hget
      have hforeign : Foreign who order := by
        intro heq
        rw [heq, hcustomer] at hwho
        exact hwho (identity_of_parse hparse)
      have heq := eq_of_masked hmasked hforeign
      subst heq
      rw [answer_ok hok hget, answer_ok (hresult.symm.trans hok) hget']
      exact detailOf_alike hdb order

theorem answer_user_alike (hs : Stored d) (h : Alike who d d')
    (hwho : identity user.sub ≠ who) (hstaff : ¬ isStaffUser user) (request : UserRequest)
    (hpays : ∀ k body, request = .updatePaymentStatus k body →
      ∀ order ∈ Table.get d.orders k, identity user.sub = .inl order.customerId) :
    (respondUser env d user request).1 = (respondUser env d' user request).1 := by
  cases request with
  | listOrders filters limit offset =>
    rw [respond_listOrders filters limit offset hstaff, respond_listOrders filters limit offset hstaff]
  | getOrder k =>
    dsimp only [respondUser]
    cases hget : Table.get d.orders k with
    | none =>
      rw [exec_getById_none hget, exec_getById_none (get_none_of_view h hget)]
      rfl
    | some order =>
      obtain ⟨order', hget', hmasked⟩ := get_of_view h hget
      have hcustomer : order.customerId = order'.customerId :=
        column_of_masked (g := ShopOrderRow.customerId) (fun _ => rfl) hmasked
      rw [exec_getById hget, exec_getById hget']
      dsimp only [loaded]
      rw [← hcustomer]
      split_ifs with howner
      · rfl
      · have hsub : uuidStr order.customerId = user.sub := by
          by_contra hne
          exact howner ⟨hstaff, hne⟩
        have hforeign : Foreign who order := by
          intro heq
          exact hwho ((identity_uuidStr hs hget hsub).trans heq.symm)
        rw [eq_of_masked hmasked hforeign, detailOf_alike h]
  | updateDeliveryStatus k body =>
    rw [respond_deliver_refused body hstaff, respond_deliver_refused body hstaff]
  | updatePaymentStatus k body =>
    cases hget : Table.get d.orders k with
    | none => rw [respond_pay_none body hget, respond_pay_none body (get_none_of_view h hget)]
    | some order =>
      obtain ⟨order', hget', hmasked⟩ := get_of_view h hget
      have hforeign : Foreign who order := by
        intro heq
        exact hwho ((hpays k body rfl order hget).trans heq.symm)
      have heq := eq_of_masked hmasked hforeign
      subst heq
      rw [respond_pay body hget, respond_pay body hget']
      dsimp only
      rw [detailOf_written, detailOf_written, detailOf_alike h]
  | createOrder body => exact answer_place_alike h hwho body
  | listMyOrders limit offset =>
    cases hparse : parseUuid user.sub with
    | none =>
      rw [respond_listMyOrders_none limit offset hparse, respond_listMyOrders_none limit offset hparse]
    | some customerId =>
      rw [respond_listMyOrders limit offset hparse, respond_listMyOrders limit offset hparse]
      dsimp only [listOrders]
      rw [filter_of_view h (fun _ => rfl) fun o ho => ?_]
      rw [identity_of_parse hparse] at hwho
      intro heq
      rw [of_decide_eq_true ho] at heq
      exact hwho heq.symm
  | getMyOrder k =>
    cases hparse : parseUuid user.sub with
    | none => rw [respond_getMyOrder_none k hparse, respond_getMyOrder_none k hparse]
    | some customerId =>
      rw [respond_getMyOrder k hparse, respond_getMyOrder k hparse]
      dsimp only
      cases hget : Table.get d.orders k with
      | none =>
        rw [exec_getById_none hget, exec_getById_none (get_none_of_view h hget)]
        rfl
      | some order =>
        obtain ⟨order', hget', hmasked⟩ := get_of_view h hget
        have hcustomer : order.customerId = order'.customerId :=
          column_of_masked (g := ShopOrderRow.customerId) (fun _ => rfl) hmasked
        rw [exec_getById hget, exec_getById hget']
        dsimp only [loaded]
        rw [← hcustomer]
        split_ifs with howner
        · rfl
        · have hforeign : Foreign who order := by
            intro heq
            rw [not_not.mp howner, ← identity_of_parse hparse] at heq
            exact hwho heq.symm
          rw [eq_of_masked hmasked hforeign, detailOf_alike h]

theorem answer_anyone_alike (hs : Stored d) (hs' : Stored d') (h : Alike who d d')
    (request : PublicRequest)
    (hforeign : ∀ order, tokenRow d request.publicToken = .ok order → Foreign who order) :
    (respondAnyone env d request).1 = (respondAnyone env d' request).1 := by
  cases request with
  | trackOrder token =>
    unfold respondAnyone
    dsimp only
    rw [exec_getByPublicToken, exec_getByPublicToken]
    cases hrow : tokenRow d token with
    | error e =>
      rw [tokenRow_error_alike h hrow]
      cases e with
      | _ => rfl
    | ok order =>
      obtain ⟨order', hrow', hmasked⟩ := tokenRow_ok_alike h hrow
      rw [hrow', ← eq_of_masked hmasked (hforeign order hrow)]
      dsimp only
      rw [trackingOf_alike h]
  | confirmReceived token code =>
    cases hrow : tokenRow d token with
    | error e =>
      rw [respond_confirm_error code hrow, respond_confirm_error code (tokenRow_error_alike h hrow)]
    | ok order =>
      obtain ⟨order', hrow', hmasked⟩ := tokenRow_ok_alike h hrow
      have heq := eq_of_masked hmasked (hforeign order hrow)
      subst heq
      have hget := get_of_tokenRow hs hrow
      have hget' := get_of_tokenRow hs' hrow'
      cases hcheck : checkReceipt order (env 1).now code with
      | error e =>
        rw [respond_confirm_refused hrow hget hcheck, respond_confirm_refused hrow' hget' hcheck]
      | ok _ =>
        rw [respond_confirm_ok hrow hget hcheck, respond_confirm_ok hrow' hget' hcheck]
        exact trackingOf_alike
          (view_moved_congr h hs.unique hs'.unique hget hget' rfl (receiptEntry order)) _

/-! ## Runs -/

theorem stored_serve (hs : Stored d) (call : ShopCall) : Stored (serve d call) := by
  obtain ⟨request, env⟩ := call
  cases request with
  | user user request =>
    rw [serve_user]
    exact stored_respondUser hs env user request
  | anyone request =>
    rw [serve_anyone]
    cases request with
    | trackOrder token => exact hs
    | confirmReceived token code =>
      cases hrow : tokenRow d token with
      | error e =>
        rw [respond_confirm_error code hrow]
        exact hs
      | ok order =>
        have hget := get_of_tokenRow hs hrow
        cases hcheck : checkReceipt order (env 1).now code with
        | error e =>
          rw [respond_confirm_refused hrow hget hcheck]
          exact hs
        | ok _ =>
          rw [respond_confirm_ok hrow hget hcheck]
          exact stored_moved hs _ _

theorem alike_serve (hs : Stored d) (hs' : Stored d') (h : Alike who d d') (call : ShopCall) :
    Alike who (serve d call) (serve d' call) := by
  obtain ⟨request, env⟩ := call
  cases request with
  | user user request =>
    rw [serve_user, serve_user]
    exact alike_respondUser hs hs' h request
  | anyone request =>
    rw [serve_anyone, serve_anyone]
    exact alike_respondAnyone hs hs' h request

theorem sees_alike (hs : Stored d) (hs' : Stored d') (h : Alike who d d') (call : ShopCall)
    (hpays : PaysOwn d call) : sees who d call = sees who d' call := by
  have hhidden : (call.IsBy who ∨ call.isStaff ∨ ∃ token ∈ call.publicToken,
        ∃ order ∈ d.orders, order.publicToken = token ∧ ¬ Foreign who order) ↔
      (call.IsBy who ∨ call.isStaff ∨ ∃ token ∈ call.publicToken,
        ∃ order ∈ d'.orders, order.publicToken = token ∧ ¬ Foreign who order) := by
    refine or_congr_right (or_congr_right ?_)
    constructor
    · exact fun ⟨token, htoken, hthere⟩ => ⟨token, htoken, concerns_alike h hthere⟩
    · exact fun ⟨token, htoken, hthere⟩ => ⟨token, htoken, concerns_alike h.symm hthere⟩
  unfold sees
  by_cases hhide : call.IsBy who ∨ call.isStaff ∨ ∃ token ∈ call.publicToken,
      ∃ order ∈ d.orders, order.publicToken = token ∧ ¬ Foreign who order
  · rw [if_pos hhide, if_pos (hhidden.mp hhide)]
  · rw [if_neg hhide, if_neg fun hother => hhide (hhidden.mpr hother)]
    obtain ⟨hby, hrest⟩ := not_or.mp hhide
    obtain ⟨hstaff, htoken⟩ := not_or.mp hrest
    obtain ⟨request, env⟩ := call
    cases request with
    | user user request =>
      have hown : ∀ k body, request = .updatePaymentStatus k body →
          ∀ order ∈ Table.get d.orders k, identity user.sub = .inl order.customerId := by
        rintro k body rfl order hget
        exact hpays k rfl hstaff order hget
      rw [respond_user, respond_user, answer_user_alike hs h hby hstaff request hown]
    | anyone request =>
      have hforeign : ∀ order, tokenRow d request.publicToken = .ok order → Foreign who order := by
        intro order hrow
        by_contra hown
        obtain ⟨hmem, heq⟩ := mem_of_tokenRow hrow
        exact htoken ⟨request.publicToken, rfl, order, hmem, heq, hown⟩
      rw [respond_anyone, respond_anyone, answer_anyone_alike hs hs' h request hforeign]

/-- A request of the customer that places no order leaves the view alone. -/
theorem view_serve_hidden (hs : Stored d) {call : ShopCall} (hby : call.IsBy who)
    (hplaces : ¬ call.places) (hstaff : ¬ call.isStaff) (hpays : PaysOwn d call) :
    view who (serve d call) = view who d := by
  obtain ⟨request, env⟩ := call
  cases request with
  | anyone request => exact hby.elim
  | user user request =>
    rw [serve_user]
    cases request with
    | listOrders filters limit offset => rw [respond_listOrders_db]
    | getOrder k => rfl
    | updateDeliveryStatus k body => rw [respond_deliver_refused body hstaff]
    | updatePaymentStatus k body =>
      cases hget : Table.get d.orders k with
      | none => rw [respond_pay_none body hget]
      | some order =>
        have howner : identity user.sub = .inl order.customerId := hpays k rfl hstaff order hget
        have hsame : identity user.sub = who := hby
        rw [respond_pay body hget]
        exact view_paid_own hs hget (fun hforeign => hforeign (hsame.symm.trans howner)) _ _
    | createOrder body => exact (hplaces rfl).elim
    | listMyOrders limit offset =>
      cases hparse : parseUuid user.sub with
      | none => rw [respond_listMyOrders_none limit offset hparse]
      | some customerId => rw [respond_listMyOrders limit offset hparse]
    | getMyOrder k =>
      cases hparse : parseUuid user.sub with
      | none => rw [respond_getMyOrder_none k hparse]
      | some customerId => rw [respond_getMyOrder k hparse]

/-- A request of the customer reaches nobody else's order exactly where it updates the payment of none. -/
theorem discreet_iff (hs : Stored d) {call : ShopCall} (hstaff : call.IsBy who → ¬ call.isStaff) :
    Discreet who d call ↔ (call.IsBy who → PaysOwn d call) := by
  obtain ⟨request, env⟩ := call
  cases request with
  | anyone request => exact ⟨fun _ hby => hby.elim, fun _ hby => hby.elim⟩
  | user user request =>
    constructor
    · intro h hby k hk _ order hget
      obtain ⟨-, hundisclosed⟩ := h hby
      cases request with
      | updatePaymentStatus k' body =>
        cases hk
        by_contra hforeign
        have hsame : identity user.sub = who := hby
        refine hundisclosed ?_
        rw [respond_user, respond_pay body hget]
        dsimp only
        rw [discloses_detailOf]
        refine decide_eq_true fun heq => hforeign ?_
        exact hsame.trans heq
      | _ => cases hk
    · intro hpays hby
      have hsame : identity user.sub = who := hby
      subst hsame
      have hown : ∀ k body, request = .updatePaymentStatus k body →
          ∀ order ∈ Table.get d.orders k, identity user.sub = .inl order.customerId := by
        rintro k body rfl order hget
        exact hpays hby k rfl (hstaff hby) order hget
      obtain ⟨horders, hdiscloses⟩ := respondUser_discreet hs (hstaff hby) request hown
      rw [serve_user, respond_user, hdiscloses]
      exact ⟨horders, Bool.false_ne_true⟩

/-! ## Results -/

theorem shop_unwinds (who : Identity) : Unwinds serve (view who) (sees who) (·.kept who) Stored
    fun d call => PaysOwn d call ∧ (call.IsBy who → ¬ call.isStaff) where
  inv _ call hs := stored_serve hs call
  hidden_view d call hs hQ hhidden := by
    have hhidden' : ¬ (¬ call.IsBy who ∨ call.places) := fun h => hhidden (decide_eq_true h)
    obtain ⟨hby, hplaces⟩ := not_or.mp hhidden'
    exact view_serve_hidden hs (not_not.mp hby) hplaces (hQ.2 (not_not.mp hby)) hQ.1
  hidden_sees d call hhidden := by
    have hhidden' : ¬ (¬ call.IsBy who ∨ call.places) := fun h => hhidden (decide_eq_true h)
    exact if_pos (.inl (not_not.mp (not_or.mp hhidden').1))
  kept_view _ _ call hs hs' _ _ h := alike_serve hs hs' h call
  kept_sees _ _ call hs hs' hQ _ h := sees_alike hs hs' h call hQ.1

/-- The requests of a customer neither change nor disclose an order of somebody else exactly where each
updates the payment of an own order, if of any; where all customers keep to this, the others are served
as without the customer's requests, the placing of orders apart. -/
theorem orders_apart (who : Identity) (d : ShopDb) (hs : Stored d) (calls : List ShopCall)
    (hstaff : ∀ call ∈ calls, call.IsBy who → ¬ call.isStaff) :
    (AllSteps serve (Discreet who) d calls ↔
      AllSteps serve (fun d call => call.IsBy who → PaysOwn d call) d calls) ∧
    (AllSteps serve PaysOwn d calls → Unaffected who d calls) := by
  have hcustomer : AllSteps serve (fun _ call => call.IsBy who → ¬ call.isStaff) d calls :=
    Runs.allSteps_of_mem hstaff
  constructor
  · refine Runs.allSteps_iff ?_ ?_ hs hcustomer
    · exact fun d call hs => stored_serve hs call
    · exact fun d call hs hstaff => discreet_iff hs hstaff
  · intro hpays
    obtain ⟨hview, htrace⟩ := (shop_unwinds who).unaffected hs hs rfl (hpays.and hcustomer)
    exact ⟨othersPart_of_view hview, htrace⟩

/-! ### Two customers -/

/-- A token of a customer. -/
def customerToken (id : Uuid) : TokenPayload where
  sub := uuidStr id

def customerCall (id : Uuid) (request : UserRequest) : ShopCall where
  request := .user (customerToken id) request
  env _ := {}

def paymentUpdate (status : OrderPaymentStatus) : UpdatePaymentStatusRequest where
  paymentStatus := status

/-- An order of customer 1 and one of customer 2. -/
def twoOrders : ShopDb where
  orders :=
    [{ id := 7, orderNumber := "ORD/2026/10/000001", customerId := 1
       trackingCode := "123456", publicToken := "s" },
     { id := 9, orderNumber := "ORD/2026/10/000002", customerId := 2
       trackingCode := "654321", publicToken := "t" }]

/-- Customer 1 pays for the own order and asks for the other one; customer 2 pays for theirs. -/
def apartCalls : List ShopCall :=
  [customerCall 1 (.updatePaymentStatus 7 (paymentUpdate .success)), customerCall 1 (.getOrder 9),
    customerCall 2 (.updatePaymentStatus 9 (paymentUpdate .pending)), customerCall 2 (.getMyOrder 9)]

theorem orders_apart_example :
    (AllSteps serve (Discreet (.inl 1)) twoOrders apartCalls ↔
      AllSteps serve (fun d call => call.IsBy (.inl 1) → PaysOwn d call) twoOrders apartCalls) ∧
    Unaffected (.inl 1) twoOrders apartCalls := by
  have hunique : Table.Unique twoOrders.orders := by
    unfold Table.Unique
    decide
  have h := orders_apart (.inl 1) twoOrders ⟨hunique, by decide⟩ apartCalls (by decide +kernel)
  exact ⟨h.1, h.2 (by decide +kernel)⟩

/-- Customer 1 marks the order of customer 2 as paid, and is shown it. -/
theorem order_paid_by_another :
    (serve twoOrders (customerCall 1 (.updatePaymentStatus 9 (paymentUpdate .success)))).orders.map
        (fun o => (o.customerId, o.paymentStatus)) = [(1, .notInitiated), (2, .success)] ∧
      ¬ Discreet (.inl 1) twoOrders
        (customerCall 1 (.updatePaymentStatus 9 (paymentUpdate .success))) := by
  decide +kernel

end Shop
