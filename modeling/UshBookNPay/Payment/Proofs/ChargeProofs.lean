import UshBookNPay.Payment.Proofs.SentBackProofs
import UshBookNPay.Payment.Proofs.StepProofs

/-!
# Which payment a refund is sent back to

A refund that is requested and sent in one workflow goes back to the payment it names. One that is
there already goes back to the payment of its booking, which may be another one by then.
-/

open Transactions (Prog Ensures Keeps exec)
open Transactions

namespace Payment

variable {d d' : Db} {es : List Emission}

/-! ## Calls -/

/-- The calls among the emissions satisfy `P`. -/
def CallsSatisfy (P : Provider → String → Uuid → Prop) (es : List Emission) : Prop :=
  ∀ provider ref refundId amount, Emission.refundPayment provider ref refundId amount ∈ es →
    P provider ref refundId

variable {P : Provider → String → Uuid → Prop}

theorem callsSatisfy_nil : CallsSatisfy P [] := fun _ _ _ _ h => nomatch h

theorem CallsSatisfy.call {p : PaymentRow} {ref : String} {refund : RefundRow}
    (h : P (resolveGatewayProvider p) ref refund.id) :
    CallsSatisfy P ([] ++ [refundCall p ref refund]) := by
  intro provider ref' refundId amount hmem
  rw [List.nil_append, List.mem_singleton, refundCall, Emission.refundPayment.injEq] at hmem
  obtain ⟨hprovider, href, hid, -⟩ := hmem
  rw [hprovider, href, hid]
  exact h

/-- Emissions that send no money leave the calls as they are. -/
theorem CallsSatisfy.append {es' : List Emission} (h : CallsSatisfy P es)
    (hvoid : es'.all Emission.void) : CallsSatisfy P (es ++ es') := by
  intro provider ref refundId amount hmem
  rcases List.mem_append.mp hmem with hold | hnew
  · exact h provider ref refundId amount hold
  · exact absurd (List.all_eq_true.mp hvoid _ hnew) (by simp [Emission.void, Emission.accepted])

theorem CallsSatisfy.oneEvent {es' : List Emission} (h : CallsSatisfy P es)
    (hevent : OneEvent es es') : CallsSatisfy P es' := by
  rcases hevent with rfl | ⟨ev, rfl⟩
  · exact h
  · exact h.append rfl

/-! ## Identifiers -/

theorem or_eq_left_or_right (a b : Option String) : Text.or a b = a ∨ Text.or a b = b := by
  unfold Text.or
  cases a with
  | none => exact .inr rfl
  | some s =>
    dsimp only
    split_ifs
    · exact .inr rfl
    · exact .inl rfl

/-- What a provider is given is an identifier of the payment. -/
theorem charges_gatewayPaymentId {label ref : String} {p : PaymentRow}
    (h : gatewayPaymentId label p = some ref) : Charges p (resolveGatewayProvider p) ref := by
  have hor : ∀ a b c : Option String, Text.or (Text.or a b) c = some ref →
      some ref = a ∨ some ref = b ∨ some ref = c := by
    intro a b c habc
    rcases or_eq_left_or_right (Text.or a b) c with houter | houter
    · rcases or_eq_left_or_right a b with hinner | hinner
      · exact .inl (habc.symm.trans (houter.trans hinner))
      · exact .inr (.inl (habc.symm.trans (houter.trans hinner)))
    · exact .inr (.inr (habc.symm.trans houter))
  refine ⟨rfl, ?_⟩
  simp only [List.mem_cons, List.not_mem_nil, or_false]
  unfold gatewayPaymentId at h
  split_ifs at h
  · exact hor _ _ _ h
  · rcases hor _ _ _ h with hid | hid | hid
    · exact .inr (.inl hid)
    · exact .inr (.inr hid)
    · exact .inl hid

theorem sameCharge_iff (r : RefundRow) {b : BookingRow} (label : PaymentRow → String) {p : PaymentRow}
    {ref : String} (hp : bookingPayment d b = some p)
    (href : gatewayPaymentId (label p) p = some ref) :
    SameCharge d r b label ↔ ChargesOwn d r (resolveGatewayProvider p) ref := by
  constructor
  · exact fun h => h p hp ref href
  · intro h p' hp' ref' href'
    obtain rfl : p = p' := Option.some.inj (hp.symm.trans hp')
    obtain rfl : ref = ref' := Option.some.inj (href.symm.trans href')
    exact h

/-- A refund the transaction has found is the one of the database. -/
theorem sentToOwn_iff {r : RefundRow} {k : Uuid} {provider : Provider} {ref : String}
    (hr : Table.get d.refunds k = some r) :
    SentToOwn d d' k provider ref ↔ ChargesOwn d r provider ref := by
  have hin : refundIn d d' k = some r := by rw [refundIn, hr, Option.some_or]
  constructor
  · rintro ⟨r', hr', h⟩
    obtain rfl : r = r' := Option.some.inj (hin.symm.trans hr')
    exact h
  · exact fun h => ⟨r, hin, h⟩

/-! ## process_refund -/

theorem ensures_flushRefund_silent (o : Orm RefundRow) :
    Ensures (fun _ => True) (fun _ _ es' => es' = es) (flushRefund o) d es := by
  unfold flushRefund
  rw [ensures_bind, ensures_checkedUpdate]
  refine ⟨trivial, ?_⟩
  split_ifs
  · rfl
  · rfl

theorem ensures_processMoneyRefund_calls {known : Known} {refund : RefundRow}
    {payment : Option PaymentRow} {booking : Option BookingRow} {actorId : String}
    (hr : Table.get d.refunds refund.id = some refund)
    (hcall : ∀ p ref, payment = some p →
      gatewayPaymentId (gatewayName payment booking) p = some ref →
        P (resolveGatewayProvider p) ref refund.id) :
    Ensures (fun _ => True) (fun _ _ es' => CallsSatisfy P es')
      (processMoneyRefund known refund payment booking actorId) d [] := by
  unfold processMoneyRefund
  refine (ensures_executeRefund trivial fun _ _ => trivial).bind ?_ ?_
  · rintro res d es ⟨rfl, hres⟩
    have hcalls : CallsSatisfy P es := by
      rcases hres with ⟨rfl, -⟩ | ⟨p, ref, x, rfl, -, hp, -, href⟩
      · exact callsSatisfy_nil
      · exact .call (hcall p ref hp href)
    refine (ensures_complete trivial (fun _ => trivial) (inStep_ofRow hr)).bind ?_ ?_
    · rintro done d₁ es₁ ⟨hevent, -⟩
      have hcalls₁ := hcalls.oneEvent hevent
      rw [ensures_bind, ensures_forSome]
      refine ⟨fun _ => ?_, fun b _ => ?_⟩
      · refine (ensures_flushRefund_silent _).mono (fun _ h => h) ?_
        rintro r d₂ es₂ rfl
        exact hcalls₁
      · rw [ensures_emit]
        refine ⟨trivial, (ensures_flushRefund_silent _).mono (fun _ h => h) ?_⟩
        rintro r d₂ es₂ rfl
        exact hcalls₁.append rfl
    · rintro e d₁ es₁ ⟨hevent, -⟩
      exact hcalls.oneEvent hevent
  · rintro e d es ⟨-, hres⟩
    rcases hres with ⟨rfl, -⟩ | ⟨_, _, _, -, h, -⟩
    · exact callsSatisfy_nil
    · cases h

theorem ensures_processLoyaltyRefund_calls {known : Known} {refund : RefundRow}
    {booking : Option BookingRow} {actorId : String}
    (hr : Table.get d.refunds refund.id = some refund) :
    Ensures (fun _ => True) (fun _ _ es' => CallsSatisfy P es')
      (processLoyaltyRefund known refund booking actorId) d [] := by
  unfold processLoyaltyRefund
  refine (ensures_creditLoyalty trivial).bind ?_ ?_
  · rintro _ d₁ es ⟨rfl, hcredit⟩
    obtain ⟨hframe, -⟩ := hcredit () rfl
    have hr₁ : Table.get d₁.refunds refund.id = some refund := by rw [hframe.refunds, hr]
    refine (ensures_complete trivial (fun _ => trivial) (inStep_ofRow hr₁)).bind ?_ ?_
    · rintro done d₂ es₂ ⟨hevent, -⟩
      have hcalls₂ : CallsSatisfy P es₂ := callsSatisfy_nil.oneEvent hevent
      rw [ensures_bind, ensures_forSome]
      refine ⟨fun _ => hcalls₂, fun b _ => ?_⟩
      rw [ensures_discard]
      unfold flushBooking
      rw [ensures_bind, ensures_update]
      exact ⟨trivial, hcalls₂⟩
    · rintro e d₂ es₂ ⟨hevent, -⟩
      exact callsSatisfy_nil.oneEvent hevent
  · rintro e d₁ es ⟨rfl, -⟩
    exact callsSatisfy_nil

/-- Every call of `process_refund` is for a refund of the database. -/
theorem ensures_processRefund_calls {refundId : Uuid} {actorId : Option String} :
    Ensures (fun _ => True) (fun _ _ es' => CallsSatisfy (fun provider ref k =>
        ∃ r, Table.get d.refunds k = some r ∧
          (ChargesOwn d r provider ref ↔ KeepsToOwn d (.processRefund refundId actorId))) es')
      (processRefund refundId actorId) d [] := by
  unfold processRefund getRefundById
  refine Ensures.bind_reads (ensures_load trivial) (fun refund hrefund => ?_)
    fun _ => callsSatisfy_nil
  have hid : refund.id = refundId := (Table.get_some hrefund).2
  have hr : Table.get d.refunds refund.id = some refund := by rw [hid, hrefund]
  rw [ensures_bind_raiseIf]
  refine ⟨fun _ => callsSatisfy_nil, fun _ => ?_⟩
  refine Ensures.bind_reads (ensures_bookingOfRefund trivial) (fun booking hbooking => ?_)
    fun _ => callsSatisfy_nil
  refine Ensures.bind_reads (ensures_paymentOfBooking trivial) (fun payment hpayment => ?_)
    fun _ => callsSatisfy_nil
  dsimp only
  by_cases hloyal : isLoyalty refund.refundMethod = true
  · rw [if_pos hloyal]
    exact ensures_processLoyaltyRefund_calls hr
  · rw [if_neg hloyal]
    refine ensures_processMoneyRefund_calls hr fun p ref hp href => ⟨refund, hr, ?_⟩
    obtain ⟨b, hb, hbp⟩ := Option.bind_eq_some_iff.mp (hpayment.symm.trans hp)
    rw [hp, hb] at href
    rw [← sameCharge_iff refund (fun p => gatewayName (some p) (some b)) hbp href]
    constructor
    · intro h r' hr' b' hb'
      obtain rfl : refund = r' := Option.some.inj (hrefund.symm.trans hr')
      obtain rfl : b = b' := Option.some.inj ((hb.symm.trans hbooking).trans hb')
      exact h
    · exact fun h => h refund hrefund b (hbooking.symm.trans hb)

/-! ## process_gateway_refund -/

/-- The payment the refund with this id names. -/
def ownerOf (k : Uuid) (d : Db) : Option (Option Uuid) :=
  (Table.get d.refunds k).map (·.paymentId)

/-- The assignments of the object leave its id and its payment alone. -/
def KeepsOwner (o : Orm RefundRow) : Prop :=
  ∀ r, (o.changes r).id = r.id ∧ (o.changes r).paymentId = r.paymentId

theorem keepsOwner_ofRow (r : RefundRow) : KeepsOwner (.ofRow r) := fun _ => ⟨rfl, rfl⟩

theorem KeepsOwner.set {o : Orm RefundRow} (h : KeepsOwner o) {f : RefundRow → RefundRow}
    (hf : ∀ r, (f r).id = r.id ∧ (f r).paymentId = r.paymentId) : KeepsOwner (o.set f) := by
  intro r
  have hchanges := hf (o.changes r)
  rw [Orm.set_changes, Function.comp_apply]
  exact ⟨hchanges.1.trans (h r).1, hchanges.2.trans (h r).2⟩

variable {k : Uuid}

theorem keeps_owner_flushRefund {o : Orm RefundRow} (ho : KeepsOwner o) :
    Keeps (ownerOf k) (flushRefund o) := by
  unfold flushRefund
  refine (keeps_checkedUpdate _ _ fun d => ?_).bind fun _ => keeps_pure _
  show (Table.get (Table.modify d.refunds o.row.id o.changes) k).map (·.paymentId) = ownerOf k d
  have hkey : ∀ r, Table.Keyed.key (o.changes r) = Table.Keyed.key r := fun r => (ho r).1
  by_cases hk : k = o.row.id
  · rw [hk, Table.get_modify_self hkey, Option.map_map]
    exact congrFun (congrArg Option.map (funext fun r => (ho r).2)) _
  · rw [Table.get_modify_of_ne hkey hk]
    rfl

theorem ensures_markProcessing_owner {known : Known} {o : Orm RefundRow}
    {providerRefundId : Option String} {gatewayResponse : Option Json} {actorId : Option String}
    (ho : KeepsOwner o) (hs : InStep o d.refunds) :
    Ensures (fun _ => True)
      (fun r d' es' => es' = es ∧ ownerOf k d' = ownerOf k d ∧ ∀ o', r = .ok o' → KeepsOwner o')
      (markProcessing known o providerRefundId gatewayResponse actorId) d es := by
  have hkeeps : Keeps (ownerOf k)
      (markProcessing known o providerRefundId gatewayResponse actorId) := by
    unfold markProcessing
    refine Keeps.ite (keeps_pure _) ((keeps_raiseIf _ _).bind fun _ => (keeps_ask _).bind fun now =>
      keeps_paymentOf.bind fun payment => Keeps.bind ?_ fun _ => ?_)
    · refine keeps_forSome _ fun p => ?_
      unfold audit
      refine keeps_update _ fun d => ?_
      rfl
    · exact keeps_owner_flushRefund (ho.set fun _ => ⟨rfl, rfl⟩)
  refine ((ensures_markProcessing trivial hs).and (hkeeps d es)).mono (fun _ h => h) ?_
  rintro r d' es' ⟨⟨hes, hok⟩, howner⟩
  refine ⟨hes, howner, fun o' hr => ?_⟩
  rcases hok o' hr with ⟨-, -, rfl⟩ | ⟨-, -, now, rfl, -⟩
  · exact ho
  · exact keepsOwner_ofRow _

theorem ensures_submitRefund_calls {known : Known} {refund : Orm RefundRow} {payment : PaymentRow}
    {ref actorId : String} (ho : KeepsOwner refund) (hs : InStep refund d.refunds)
    (hcall : P (resolveGatewayProvider payment) ref refund.row.id) :
    Ensures (fun _ => True)
      (fun _ d' es' => CallsSatisfy P es' ∧ ownerOf refund.row.id d' = ownerOf refund.row.id d)
      (submitRefund known refund payment ref actorId) d [] := by
  unfold submitRefund
  refine (ensures_refundPayment trivial trivial).bind ?_ ?_
  · rintro res d es ⟨rfl, _, hres, hcalled⟩
    cases hres
    have hcalls : CallsSatisfy P es := by
      rcases hcalled with ⟨rfl, -⟩ | ⟨rfl, -⟩
      · exact callsSatisfy_nil
      · exact .call hcall
    cases res with
    | error exc => exact ⟨hcalls, rfl⟩
    | ok res =>
      dsimp only
      rw [ensures_bind_raiseIf]
      refine ⟨fun _ => ⟨hcalls, rfl⟩, fun _ => ?_⟩
      refine (ensures_markProcessing_owner (k := refund.row.id) ho hs).bind ?_ ?_
      · rintro o d₁ es₁ ⟨rfl, howner, hkeeps⟩
        refine ((ensures_flushRefund_silent o).and
          (keeps_owner_flushRefund (k := refund.row.id) (hkeeps o rfl) d₁ es₁)).mono (fun _ h => h) ?_
        rintro r d₂ es₂ ⟨rfl, howner₂⟩
        exact ⟨hcalls, howner₂.trans howner⟩
      · rintro e d₁ es₁ ⟨rfl, howner, -⟩
        exact ⟨hcalls, howner⟩
  · rintro e d es ⟨-, _, h, -⟩
    cases h

theorem bestPayment_mem {payments : List PaymentRow} {p : PaymentRow}
    (h : bestPayment payments = some p) : p ∈ payments := by
  -- Whatever the fold has kept so far is one of the payments.
  refine List.foldlRecOn (motive := fun best => ∀ x, best = some x → x ∈ payments)
    payments _ (fun x hx => (Option.some_ne_none x hx.symm).elim) ?_ p h
  intro best hbest row hrow x hx
  cases best with
  | none =>
    obtain rfl := Option.some.inj hx
    exact hrow
  | some b =>
    dsimp only at hx
    split_ifs at hx
    · obtain rfl := Option.some.inj hx
      exact hrow
    · exact hbest x hx

theorem bookingPayment_mem {b : BookingRow} {p : PaymentRow} (h : bookingPayment d b = some p) :
    p ∈ d.payments := by
  rcases Option.or_eq_some_iff.mp h with hbest | ⟨-, hnamed⟩
  · exact (List.mem_filter.mp (bestPayment_mem hbest)).1
  · obtain ⟨ref, -, hp⟩ := mem_of_namedPayment hnamed
    cases ref with
    | uuid id =>
      rw [paymentsOf, Option.mem_toList] at hp
      exact (Table.get_some hp).1
    | text s => exact (List.mem_filter.mp hp).1

/-- The refund to execute: the open refund of the booking, or a new one of the payment. -/
def Resolved (d : Db) (bid : Uuid) (p : PaymentRow) (d' : Db) (o : Orm RefundRow) : Prop :=
  (∃ row, openRefund bid d = some row ∧ o.row.id = row.id) ∨
    (openRefund bid d = none ∧ Table.get d.refunds o.row.id = none ∧
      ownerOf o.row.id d' = some (some p.id))

theorem ensures_resolveRefundToExecute_owner {loaded : List RefundRow} {booking : BookingRow}
    {p : PaymentRow} {netAmount : Option ℚ} {cancellationFee : ℚ} {refundType refundMethod : String}
    {reason notes : Option String} {actorId : String} (hu : Table.Unique d.refunds)
    (hloaded : ∀ r ∈ loaded, r ∈ d.refunds) :
    Ensures (fun _ => True) (fun r d' es' => es' = es ∧ ∀ o, r = .ok o →
        KeepsOwner o ∧ InStep o d'.refunds ∧ Resolved d booking.id p d' o)
      (resolveRefundToExecute loaded booking (some p) netAmount cancellationFee refundType
        refundMethod reason notes actorId) d es := by
  unfold resolveRefundToExecute
  refine Ensures.bind_reads (ensures_findOpenRefund trivial hu hloaded) (fun found hfound => ?_)
    fun _ => ⟨rfl, fun _ h => (by cases h)⟩
  cases found with
  | none =>
    dsimp only
    refine Ensures.bind_reads (ensures_netToRequest trivial) (fun net _ => ?_)
      fun _ => ⟨rfl, fun _ h => (by cases h)⟩
    refine (ensures_request trivial).bind ?_ ?_
    · rintro ⟨refund, created⟩ d' es' ⟨rfl, hrequest⟩
      refine ⟨rfl, fun o ho => ?_⟩
      cases ho
      rcases hrequest refund created rfl with ⟨-, -, htruthy, -⟩ |
        ⟨-, -, -, -, id, number, now, rfl, hrows, hnew, -⟩
      · exact absurd htruthy (by decide)
      · have hget := Table.get_append_new (r := requestedRow booking (some p) (dec net)
          (dec cancellationFee) refundType refundMethod reason notes none (some actorId) id number
          now) hnew
        rw [Orm.ofRow_row] at hrows
        rw [← hrows] at hget
        refine ⟨keepsOwner_ofRow _, inStep_ofRow hget, .inr ⟨hfound.symm, hnew, ?_⟩⟩
        unfold ownerOf
        rw [Orm.ofRow_row]
        exact congrArg (Option.map (·.paymentId)) hget
    · rintro e d' es' ⟨rfl, -⟩
      exact ⟨rfl, fun _ h => (by cases h)⟩
  | some row =>
    obtain ⟨hrow, -⟩ := openRefund_some hu hfound.symm
    dsimp only
    rw [ensures_bind_raiseIf]
    refine ⟨fun _ => ⟨rfl, fun _ h => (by cases h)⟩, fun _ => ?_⟩
    have hadjust : Ensures (fun _ => True) (Reads d es fun o =>
        KeepsOwner o ∧ InStep o d.refunds ∧ o.row.id = row.id)
        (adjustOpenRefund (.ofRow row) (some p) netAmount cancellationFee) d es := by
      have hsame : Reads d es (fun o : Orm RefundRow =>
          KeepsOwner o ∧ InStep o d.refunds ∧ o.row.id = row.id) (.ok (.ofRow row)) d es :=
        ⟨rfl, rfl, fun o ho => by cases ho; exact ⟨keepsOwner_ofRow _, inStep_ofRow hrow, rfl⟩⟩
      unfold adjustOpenRefund
      cases netAmount with
      | none => exact hsame
      | some net =>
        dsimp only
        split_ifs
        · refine (ensures_updateRequestedAmounts trivial).mono (fun _ h => h) ?_
          rintro r d' es' ⟨rfl, rfl, -, hok⟩
          refine ⟨rfl, rfl, fun o hr => ?_⟩
          obtain rfl := hok o hr
          exact ⟨(keepsOwner_ofRow _).set fun _ => ⟨rfl, rfl⟩, (inStep_ofRow hrow).set fun _ => rfl,
            rfl⟩
        · exact hsame
    refine Ensures.bind_reads hadjust (fun o ho => ?_) fun _ => ⟨rfl, fun _ h => (by cases h)⟩
    obtain ⟨hkeeps, hstep, hid⟩ := ho
    refine ⟨rfl, fun o' ho' => ?_⟩
    cases ho'
    exact ⟨hkeeps.set fun _ => ⟨rfl, rfl⟩, hstep.set fun _ => rfl, .inl ⟨row, hfound.symm, hid⟩⟩

/-- A call for the resolved refund, with an identifier of the payment of the booking. -/
theorem sentToOwn_of_resolved {b : BookingRow} {p : PaymentRow} {o : Orm RefundRow} {d₁ : Db}
    {req : ProcessGatewayRefundRequest} {currentUserId ref : String} {bid : Uuid} (hu : UniqueIds d)
    (hb : Table.get d.bookings bid = some b) (hp : bookingPayment d b = some p)
    (href : gatewayPaymentId (gatewayLabel p) p = some ref) (ho : Resolved d bid p d₁ o)
    (howner : ownerOf o.row.id d' = ownerOf o.row.id d₁) :
    SentToOwn d d' o.row.id (resolveGatewayProvider p) ref ↔
      KeepsToOwn d (.processGatewayRefund bid req currentUserId) := by
  rcases ho with ⟨row, hopen, hid⟩ | ⟨hopen, hnew, hrow⟩
  · rw [hid, sentToOwn_iff (openRefund_some hu.refunds hopen).1,
      ← sameCharge_iff row gatewayLabel hp href]
    constructor
    · intro h b' hb' r' hr'
      obtain rfl : b = b' := Option.some.inj (hb.symm.trans hb')
      obtain rfl : row = r' := Option.some.inj (hopen.symm.trans hr')
      exact h
    · exact fun h => h b hb row hopen
  · have hkeeps : KeepsToOwn d (.processGatewayRefund bid req currentUserId) := by
      intro b' _ r' hr'
      exact absurd (hopen.symm.trans hr') (by simp)
    obtain ⟨r, hr, hpay⟩ := Option.map_eq_some_iff.mp (howner.trans hrow)
    have hin : refundIn d d' o.row.id = some r := by rw [refundIn, hnew, Option.none_or, hr]
    have hown : Table.get d.payments p.id = some p :=
      Table.get_eq_of_mem hu.payments (bookingPayment_mem hp)
    refine ⟨fun _ => hkeeps, fun _ => ⟨r, hin, p, ?_, charges_gatewayPaymentId href⟩⟩
    rw [hpay]
    exact hown

/-- A call for the refund `k` with the identifier `ref` of the payment. -/
structure CallFor (p : PaymentRow) (ref : String) (k : Uuid) (provider : Provider) (ref' : String)
    (k' : Uuid) : Prop where
  provider : provider = resolveGatewayProvider p
  ref : ref' = ref
  refund : k' = k

theorem ensures_processGatewayRefund_calls {bid : Uuid} {req : ProcessGatewayRefundRequest}
    {currentUserId : String} (hu : UniqueIds d) :
    Ensures (fun _ => True) (fun _ d' es' => CallsSatisfy (fun provider ref k =>
        SentToOwn d d' k provider ref ↔
          KeepsToOwn d (.processGatewayRefund bid req currentUserId)) es')
      (processGatewayRefund bid req currentUserId) d [] := by
  unfold processGatewayRefund getBooking
  refine Ensures.bind_reads (ensures_load trivial) (fun b hb => ?_) fun _ => callsSatisfy_nil
  have hbid : b.id = bid := (Table.get_some hb).2
  refine Ensures.bind_reads (ensures_getPaymentForBooking trivial) (fun payment hpayment => ?_)
    fun _ => callsSatisfy_nil
  refine Ensures.bind_reads (ensures_loadRefunds trivial) (fun loaded hloaded => ?_)
    fun _ => callsSatisfy_nil
  cases payment with
  | none => exact callsSatisfy_nil
  | some p =>
    dsimp only
    rw [ensures_bind_raiseIf]
    refine ⟨fun _ => callsSatisfy_nil, fun _ => ?_⟩
    refine Ensures.bind_reads ensures_netOfRequest (fun net _ => ?_) fun _ => callsSatisfy_nil
    cases href : gatewayPaymentId (Text.lower (Text.orEmpty
        (Text.or p.paymentProvider p.paymentGateway))) p with
    | none => exact callsSatisfy_nil
    | some ref =>
      dsimp only
      rw [ensures_bind_raiseIf]
      refine ⟨fun _ => callsSatisfy_nil, fun _ => ?_⟩
      refine (ensures_resolveRefundToExecute_owner hu.refunds hloaded).bind ?_ ?_
      · rintro o d₁ es ⟨rfl, hok⟩
        obtain ⟨hkeeps, hstep, hresolved⟩ := hok o rfl
        rw [hbid] at hresolved
        have hset : KeepsOwner (o.set (gatewayColumns p)) := hkeeps.set fun _ => ⟨rfl, rfl⟩
        have hstep' : InStep (o.set (gatewayColumns p)) d₁.refunds := hstep.set fun _ => rfl
        refine (ensures_submitRefund_calls (P := CallFor p ref o.row.id) hset hstep'
          ⟨rfl, rfl, rfl⟩).mono (fun _ h => h) ?_
        rintro r d' es' ⟨hcalls, howner⟩ provider ref' k amount hmem
        have hcall := hcalls provider ref' k amount hmem
        rw [hcall.provider, hcall.ref, hcall.refund]
        exact sentToOwn_of_resolved hu hb hpayment.symm href hresolved howner
      · rintro e d₁ es ⟨rfl, -⟩
        exact callsSatisfy_nil

/-! ## The charge of a refund -/

/-- An approved refund of the card payment of the booking. -/
def cardRefund : RefundRow :=
  { id := 21
    refundNumber := "REF/2026/10/000001"
    bookingId := some 7
    paymentId := some 1
    refundMethod := "payment_gateway"
    status := .approved
    requestedAmount := 4000
    refundedAmount := 4000 }

def cardRefundApproved : Db := { paidByCard with refunds := [cardRefund] }

/-- The booking has been paid once more since the refund was requested. -/
def paidOnceMore : Db :=
  { cardRefundApproved with
    payments := [cardPayment, { cardPayment with id := 2, paymentId := some "chg_2" }] }

end Payment
