import UshBookNPay.Booking.Proofs.SparingProofs
import UshBookNPay.PaymentLinks.LinkRefunds

/-!
# Refunds of links that overlap

Every payment is read and refunded under the lock of its row, so that requests for one link, or for two
links of one payment, refund no more together than the payment has left.
-/

open Transactions
open Transactions.Prog (query queryForUpdate update checkedUpdate raiseIf ask emit forSome)

/-! ## Programs that write no payment -/

namespace Payment

theorem insertRefund_spares_payments (r : RefundRow) : Spares Db.payments (insertRefund r) := by
  refine Spares.bind ?_ fun _ => spares_pure _
  exact spares_checkedUpdate fun _ => rfl

theorem flushRefund_spares_payments (o : Orm RefundRow) : Spares Db.payments (flushRefund o) := by
  refine Spares.bind ?_ fun _ => spares_pure _
  exact spares_checkedUpdate fun _ => rfl

theorem audit_spares_payments (p : PaymentRow) (reason : String) (r : RefundRow) (source : String)
    (actorId providerReference : Option String) (old : Option PaymentStatus) :
    Spares Db.payments (audit p reason r source actorId providerReference old) :=
  spares_update fun _ => rfl

theorem request_spares_payments (b : BookingRow) (payment : Option PaymentRow) (amount fee : ℚ)
    (refundType refundMethod : String) (reason notes key actorId : Option String) :
    Spares Db.payments
      (request b payment amount fee refundType refundMethod reason notes key actorId) := by
  refine (spares_query _).bind fun existing => ?_
  cases existing with
  | some row => exact spares_pure _
  | none =>
    refine Spares.bind ?_ fun _ => spares_pure _
    refine (spares_raiseIf _ _).bind fun _ => (spares_raiseIf _ _).bind fun _ => ?_
    refine (spares_forSome fun _ => Booking.spares_checkCap _ _ _ _).bind fun _ => ?_
    refine Booking.spares_generateRefundNumber.bind fun _ => (spares_ask _).bind fun _ => ?_
    refine (spares_ask _).bind fun _ => (insertRefund_spares_payments _).bind fun _ => ?_
    exact (spares_forSome fun _ => audit_spares_payments _ _ _ _ _ _ _).bind fun _ => spares_pure _

theorem resolveRefundToExecute_spares_payments (loaded : List RefundRow) (b : BookingRow)
    (payment : Option PaymentRow) (net : Option ℚ) (fee : ℚ) (refundType refundMethod : String)
    (reason notes : Option String) (actorId : String) :
    Spares Db.payments (resolveRefundToExecute loaded b payment net fee refundType refundMethod reason
      notes actorId) := by
  refine (spares_queryForUpdate _ _).bind fun openRefund => ?_
  cases openRefund with
  | some row =>
    refine (spares_raiseIf _ _).bind fun _ => Spares.bind ?_ fun _ => spares_pure _
    cases net with
    | none => exact spares_pure _
    | some net =>
      refine Spares.ite ?_ (spares_pure _)
      refine (spares_raiseIf _ _).bind fun _ => (spares_raiseIf _ _).bind fun _ => ?_
      exact (spares_forSome fun _ => Booking.spares_checkCap _ _ _ _).bind fun _ => spares_pure _
  | none =>
    refine Spares.bind ?_ fun _ => (request_spares_payments _ _ _ _ _ _ _ _ _ _).bind fun _ =>
      spares_pure _
    cases net with
    | some net => exact spares_pure _
    | none =>
      cases payment with
      | none => exact spares_throw _
      | some p => exact (spares_query _).bind fun _ => spares_pure _

theorem markProcessing_spares_payments (known : Known) (refund : Orm RefundRow)
    (providerRefundId : Option String) (gatewayResponse : Option Json) (actorId : Option String) :
    Spares Db.payments (markProcessing known refund providerRefundId gatewayResponse actorId) := by
  refine Spares.ite (spares_pure _) ?_
  refine (spares_raiseIf _ _).bind fun _ => (spares_ask _).bind fun now => ?_
  refine Spares.bind ?_ fun _ => ?_
  · unfold paymentOf
    cases (refund.set (processingColumns providerRefundId gatewayResponse actorId now)).row.paymentId with
    | none => exact spares_pure _
    | some pid => exact (spares_query _).bind fun _ => spares_pure _
  · refine Spares.bind (spares_forSome fun _ => audit_spares_payments _ _ _ _ _ _ _) fun _ => ?_
    exact flushRefund_spares_payments _

theorem findPayment_spares {P : Type} {g : Db → P} (ref : Option PaymentRef) :
    Spares g (findPayment ref) := by
  cases ref with
  | none => exact spares_pure _
  | some ref => exact (spares_query _).bind fun _ => spares_scalarOneOrNone _

theorem submitRefund_spares_payments (known : Known) (refund : Orm RefundRow) (payment : PaymentRow)
    (gatewayPaymentId actorId : String) :
    Spares Db.payments (submitRefund known refund payment gatewayPaymentId actorId) := by
  refine (spares_call _ _).bind fun res => ?_
  cases res with
  | error exc => exact spares_throw _
  | ok res =>
    refine (spares_raiseIf _ _).bind fun _ => (markProcessing_spares_payments _ _ _ _ _).bind fun _ => ?_
    exact flushRefund_spares_payments _

/-- The gateway refund of a booking leaves the payments as they are until its provider confirms it. -/
theorem processGatewayRefund_spares_payments (bookingId : Uuid) (req : ProcessGatewayRefundRequest)
    (currentUserId : String) :
    Spares Db.payments (processGatewayRefund bookingId req currentUserId) := by
  refine Spares.bind ?_ fun booking => Spares.bind ?_ fun payment => Spares.bind ?_ fun loaded => ?_
  · refine (spares_query _).bind fun row => ?_
    cases row with
    | none => exact spares_throw _
    | some row => exact spares_pure _
  · refine (spares_query _).bind fun payment => ?_
    cases payment with
    | some p => exact spares_pure _
    | none => exact findPayment_spares _
  · cases payment with
    | none => exact spares_pure _
    | some p => exact spares_query _
  cases payment with
  | none => exact spares_throw _
  | some p =>
    refine (spares_raiseIf _ _).bind fun _ => Spares.bind ?_ fun net => ?_
    · unfold netOfRequest
      cases req.refundAmount with
      | none => exact spares_pure _
      | some requested =>
        refine (spares_raiseIf _ _).bind fun _ => (spares_raiseIf _ _).bind fun _ => ?_
        exact (spares_raiseIf _ _).bind fun _ => spares_pure _
    · dsimp only
      generalize gatewayPaymentId _ p = gatewayId
      cases gatewayId with
      | none => exact spares_throw _
      | some gatewayId =>
        refine (spares_raiseIf _ _).bind fun _ => ?_
        refine (resolveRefundToExecute_spares_payments _ _ _ _ _ _ _ _ _ _).bind fun _ => ?_
        exact submitRefund_spares_payments _ _ _ _ _

end Payment

namespace PaymentLinks

variable {α : Type} {call : LinkRefundCall} {gw : PaymentLinkGateway} {link : PaymentLinkRow}
  {p payment : PaymentRow} {amount : Decimal} {reason : Option String} {actorId : String}
  {es es' : List Emission} {k : Uuid} {v v' : List PaymentRow}

theorem flushLink_spares_payments (o : Orm PaymentLinkRow) : Spares Db.payments (flushLink o) := by
  refine Spares.bind ?_ fun _ => spares_pure _
  exact spares_update fun _ => rfl

theorem flushVoucher_spares_payments (o : Orm GiftVoucherRow) : Spares Db.payments (flushVoucher o) := by
  refine Spares.bind ?_ fun _ => spares_pure _
  exact spares_update fun _ => rfl

theorem updateStatus_spares_payments (known : Option (Orm GiftVoucherRow)) (voucherId : Uuid)
    (status : Voucher.GiftVoucherStatus) (args : Voucher.StatusArgs) :
    Spares Db.payments (Voucher.updateStatus known voucherId status args) := by
  refine (spares_query _).bind fun row => ?_
  cases row with
  | none => exact spares_throw _
  | some row =>
    refine (spares_raiseIf _ _).bind fun _ => ?_
    refine Spares.bind (Spares.ite (spares_ask _) (spares_pure _)) fun schedule => ?_
    refine (spares_ask _).bind fun now => (flushVoucher_spares_payments _).bind fun _ => ?_
    exact Spares.bind (spares_call _ _) fun _ => spares_pure _

theorem cancelRefunded_spares_payments (refunded : PaymentRow) (actorId : String)
    (voucher : GiftVoucherRow) : Spares Db.payments (cancelRefunded refunded actorId voucher) :=
  Spares.ite (updateStatus_spares_payments _ _ _ _).discard (spares_pure _)

/-! ## Programs that send no refund -/

/-- No statement of the program has the gateway refund a payment that came through a link. -/
abbrev SendsNone (q : Tx α) : Prop := EmitsOnly (fun e => isLinkRefund e = false) q

/-- No refund has been sent so far. -/
abbrev Unsent (es : List Emission) : Prop := es.filter isLinkRefund = []

theorem filter_append_none {new : List Emission} (hnew : ∀ e ∈ new, isLinkRefund e = false) :
    (es ++ new).filter isLinkRefund = es.filter isLinkRefund := by
  have hnone : new.filter isLinkRefund = [] := by
    rw [List.filter_eq_nil_iff]
    intro e he
    rw [hnew e he]
    exact Bool.false_ne_true
  rw [List.filter_append, hnone, List.append_nil]

theorem Unsent.append {new : List Emission} (h : Unsent es) (hnew : ∀ e ∈ new, isLinkRefund e = false) :
    Unsent (es ++ new) :=
  (filter_append_none hnew).trans h

theorem Unsent.sent {e : Emission} (h : Unsent es) (he : isLinkRefund e = true) :
    (es ++ [e]).filter isLinkRefund = [e] := by
  have hnone : es.filter isLinkRefund = [] := h
  rw [List.filter_append, hnone, List.nil_append, List.filter_cons_of_pos he, List.filter_nil]

theorem sendsNone_ask (f : Env → α) : SendsNone (ask f) := emitsOnly_ask f

theorem sendsNone_queryForUpdate (locks : Db → List LockKey) (f : Db → α) :
    SendsNone (queryForUpdate locks f) :=
  emitsOnly_queryForUpdate locks f

theorem sendsNone_insertRefund (r : RefundRow) : SendsNone (Payment.insertRefund r) :=
  (emitsOnly_checkedUpdate _ _ _).bind fun _ => emitsOnly_pure _

theorem sendsNone_flushLink (o : Orm PaymentLinkRow) : SendsNone (flushLink o) :=
  (emitsOnly_update _ _).bind fun _ => emitsOnly_pure _

theorem sendsNone_generateRefundNumber : SendsNone Payment.generateRefundNumber :=
  (emitsOnly_ask _).bind fun _ => (emitsOnly_queryForUpdate _ _).bind fun _ => emitsOnly_query _

theorem sendsNone_getLink (linkId : Uuid) : SendsNone (getLink linkId) := by
  refine (emitsOnly_query _).bind fun row => ?_
  cases row with
  | none => exact emitsOnly_throw _
  | some row => exact emitsOnly_pure _

theorem sendsNone_getLockedLink (linkId : Uuid) : SendsNone (getLockedLink linkId) :=
  sendsNone_queryForUpdate _ _

theorem sendsNone_getGateway (settings : LinkSettings) (name : String) :
    SendsNone (getGateway settings name) :=
  EmitsOnly.ite (emitsOnly_pure _) (emitsOnly_throw _)

theorem sendsNone_emitStatusEvent (voucherId : Uuid) (old target : Voucher.GiftVoucherStatus) :
    SendsNone (Voucher.emitStatusEvent voucherId old target) := by
  refine emitsOnly_call (fun _ e he => ?_) _
  split_ifs at he
  · cases he
  · rw [List.mem_singleton.mp he]
    rfl

theorem sendsNone_flushVoucher (o : Orm GiftVoucherRow) : SendsNone (flushVoucher o) :=
  (emitsOnly_update _ _).bind fun _ => emitsOnly_pure _

theorem sendsNone_updateStatus (known : Option (Orm GiftVoucherRow)) (voucherId : Uuid)
    (status : Voucher.GiftVoucherStatus) (args : Voucher.StatusArgs) :
    SendsNone (Voucher.updateStatus known voucherId status args) := by
  refine (emitsOnly_query _).bind fun row => ?_
  cases row with
  | none => exact emitsOnly_throw _
  | some row =>
    refine (emitsOnly_raiseIf _ _).bind fun _ => ?_
    refine EmitsOnly.bind (EmitsOnly.ite (emitsOnly_ask _) (emitsOnly_pure _)) fun schedule => ?_
    refine (emitsOnly_ask _).bind fun now => (sendsNone_flushVoucher _).bind fun _ => ?_
    exact (sendsNone_emitStatusEvent _ _ _).bind fun _ => emitsOnly_pure _

theorem sendsNone_cancelRefunded (refunded : PaymentRow) (actorId : String)
    (voucher : GiftVoucherRow) : SendsNone (cancelRefunded refunded actorId voucher) :=
  EmitsOnly.ite (sendsNone_updateStatus _ _ _ _).discard (emitsOnly_pure _)

theorem spares_of_payments {q : Tx α} (h : Spares Db.payments q) : Spares paymentParts.all q :=
  h.comp fun rows k => rows.filter (·.id = k)

/-! ## Under the lock of the payment -/

theorem rewrites_payment {f : PaymentRow → PaymentRow} (hid : ∀ r, (f r).id = r.id) :
    Rewrites paymentParts k v (v.map f)
      fun d : Db => { d with payments := Table.modify d.payments k f } := by
  constructor
  · rintro d rfl
    refine (filter_modify hid k k d.payments).trans ?_
    simp only [if_true]
    rfl
  · intro j hj d
    refine (filter_modify hid k j d.payments).trans ?_
    simp only [if_neg hj, List.map_id']
    rfl

theorem RefundsIn.refl (v : List PaymentRow) : RefundsIn call es k v v :=
  ⟨rfl, fun _ hp => .inl hp⟩

/-- What is emitted besides refunds does not matter. -/
theorem RefundsIn.extends {new : List Emission} (h : RefundsIn call es k v v')
    (hnew : ∀ e ∈ new, isLinkRefund e = false) : RefundsIn call (es ++ new) k v v' := by
  refine ⟨h.1, fun p hp => ?_⟩
  rcases h.2 p hp with hsame | ⟨p', hp', hby⟩
  · exact .inl hsame
  obtain ⟨gateway, gatewayRef, amount, hone, hrest⟩ := hby.answered
  rw [← filter_append_none hnew] at hone
  exact .inr ⟨p', hp', hby.refundable, ⟨gateway, gatewayRef, amount, hone, hrest⟩, hby.total⟩

/-- The programs that refund the payment `k` at most, which is `v` when its lock is taken. -/
abbrev Refunding (call : LinkRefundCall) (k : Uuid) (v : List PaymentRow) (q : Tx α)
    (es : List Emission) (v' : List PaymentRow) : Prop :=
  Holding paymentParts k (AtCommit fun es' => RefundsIn call es' k v) q es v'

theorem refunding_of_spares {q : Tx α} (h : Spares Db.payments q) : Refunding call k v q es v := by
  refine (spares_of_payments h).holding fun es' r _ => ?_
  have hv : RefundsIn call es' k v v := RefundsIn.refl v
  cases r with
  | error e => trivial
  | ok a => exact hv

theorem refunding_of_sendsNone {q : Tx α} (h : Spares Db.payments q) (hs : SendsNone q)
    (hv : RefundsIn call es k v v') : Refunding call k v q es v' := by
  refine (spares_of_payments h).holding_emitsOnly hs fun new r hnew => ?_
  cases r with
  | error e => trivial
  | ok a => exact hv.extends hnew

theorem toDecimal_sub (x y : Fils) : toDecimal (x - y) = toDecimal x - toDecimal y := by
  unfold toDecimal
  push_cast
  ring

/-- Rounding does not lead beyond an amount of three decimals. -/
theorem toFils_le {x : Decimal} {n : Fils} (h : x.value ≤ toDecimal n) : x.toFils ≤ n := by
  have hten : (0 : ℤ) < 10 ^ x.decimals := by positivity
  have hscaled : x.unscaled * 1000 ≤ n * 10 ^ x.decimals := by
    have hpos : (0 : ℚ) < 10 ^ x.decimals := by positivity
    unfold Decimal.value toDecimal at h
    rw [div_le_div_iff₀ hpos (by norm_num)] at h
    exact_mod_cast h
  unfold Decimal.toFils
  refine Int.le_of_lt_add_one (Int.ediv_lt_of_lt_mul (by linarith) ?_)
  linarith

/-- The payment with the columns of a refund the gateway has answered. -/
theorem refundedBy_columns {gateway gatewayRef : String} (hrefundable : isRefundable payment)
    (hes : es.filter isLinkRefund = [.linkRefund gateway gatewayRef amount "KWD"]) (hpos : 0 < amount.value)
    (hle : amount.value ≤ toDecimal (payment.totalAmount - payment.amountRefunded))
    (a : PaymentAttribution.Attribution) :
    RefundedBy es payment ((refundedColumns payment amount payment).setAttribution a) := by
  refine ⟨hrefundable, ⟨gateway, gatewayRef, amount, hes, hpos, hle, rfl, ?_⟩, rfl⟩
  rw [PaymentRow.setAttribution_status, toDecimal_sub] at *
  unfold refundedColumns
  dsimp only
  constructor
  · intro hstatus
    by_contra hne
    rw [if_neg] at hstatus
    · cases hstatus
    · intro hall
      exact hne (le_antisymm hle (by linarith))
  · intro hall
    rw [if_pos (by linarith)]

theorem refunding_recordRefund {gateway gatewayRef : String} (hk : payment.id = k)
    (hmem : payment ∈ v) (hrefundable : isRefundable payment)
    (hes : es.filter isLinkRefund = [.linkRefund gateway gatewayRef amount "KWD"]) (hpos : 0 < amount.value)
    (hle : amount.value ≤ toDecimal (payment.totalAmount - payment.amountRefunded))
    (voucher : Option GiftVoucherRow) (refundNumber : String) (now : Instant)
    (res : Payment.RefundResponse) :
    Refunding call k v (recordRefund payment voucher amount reason actorId refundNumber now res) es v := by
  subst hk
  unfold recordRefund flushPayment
  rw [Prog.bind_assoc]
  generalize ((Orm.ofRow payment).set (refundedColumns payment amount)).row.attribution = a
  refine holding_bind_checkedUpdate (rewrites_payment (v := v)
    (f := fun r => (refundedColumns payment amount r).setAttribution a) fun _ => rfl) ?_ fun _ => trivial
  refine refunding_of_sendsNone ?_ ?_ ⟨List.length_map _, fun p hp => .inr ?_⟩
  · refine (spares_ask _).bind fun id => (Payment.insertRefund_spares_payments _).bind fun refund => ?_
    refine Spares.bind (spares_update fun _ => rfl) fun _ => ?_
    exact (spares_forSome (cancelRefunded_spares_payments _ _)).bind fun _ => spares_pure _
  · refine (emitsOnly_ask _).bind fun id => (sendsNone_insertRefund _).bind fun refund => ?_
    refine EmitsOnly.bind (emitsOnly_update _ _) fun _ => ?_
    exact (emitsOnly_forSome (sendsNone_cancelRefunded _ _)).bind fun _ => emitsOnly_pure _
  · subst hp
    obtain rfl : payment = p := List.mem_singleton.mp hmem
    exact ⟨_, rfl, refundedBy_columns hrefundable hes hpos hle a⟩

theorem refunding_refundVoucherPayment (hk : payment.id = k) (hmem : payment ∈ v)
    (hrefundable : isRefundable payment) (hunsent : Unsent es) (asked : Option Decimal) :
    Refunding call k v (refundVoucherPayment gw payment asked reason actorId) es v := by
  unfold refundVoucherPayment
  refine (spares_of_payments (spares_queryForUpdate _ _)).bind_holding_emitsOnly
    (sendsNone_queryForUpdate _ _) (fun voucher new₁ hnew₁ => ?_) fun _ _ => trivial
  refine holding_bind_raiseIf (fun _ => ?_) trivial
  dsimp only
  generalize asked.getD (.ofFils (payment.totalAmount - payment.amountRefunded)) = amount
  refine holding_bind_raiseIf (fun hamount => ?_) trivial
  obtain ⟨hpos, hle⟩ := not_or.mp hamount
  refine holding_bind_raiseIf (fun _ => ?_) trivial
  refine (spares_of_payments Booking.spares_generateRefundNumber).bind_holding_emitsOnly
    sendsNone_generateRefundNumber (fun number new₂ hnew₂ => ?_) fun _ _ => trivial
  refine (spares_of_payments (spares_ask _)).bind_holding_emitsOnly (sendsNone_ask _)
    (fun now new₃ hnew₃ => ?_) fun _ _ => trivial
  refine holding_bind_call fun env => ?_
  cases env.refund with
  | error exc =>
    refine refunding_of_spares ((spares_ask _).bind fun id => ?_)
    exact (Payment.insertRefund_spares_payments _).discard.bind fun _ => spares_throw _
  | ok res =>
    have hunsent₃ : Unsent (es ++ new₁ ++ new₂ ++ new₃) :=
      ((hunsent.append hnew₁).append hnew₂).append hnew₃
    exact Holding.bind (refunding_recordRefund hk hmem hrefundable (hunsent₃.sent rfl) (not_le.mp hpos)
      (not_lt.mp hle) voucher number now res) (fun _ _ _ h => h) fun _ _ _ _ => trivial

theorem refunding_refundTarget (hk : payment.id = k) (hmem : payment ∈ v)
    (hrefundable : isRefundable payment) (hunsent : Unsent es) (asked : Option Decimal) :
    Refunding call k v (refundTarget gw link payment asked reason actorId) es v := by
  unfold refundTarget
  cases link.targetType with
  | booking =>
    refine refunding_of_spares ?_
    exact (Payment.processGatewayRefund_spares_payments _ _ _).bind fun _ => spares_pure _
  | giftVoucher => exact refunding_refundVoucherPayment hk hmem hrefundable hunsent asked
  | product => trivial

/-! ## The endpoint -/

theorem mem_of_firstToRefund {rows : List PaymentRow} (h : firstToRefund rows = some p) : p ∈ rows := by
  induction rows with
  | nil => cases h
  | cons q newer ih =>
    unfold firstToRefund at h
    cases hnewer : firstToRefund newer with
    | none =>
      rw [hnewer] at h
      cases h
      exact List.mem_cons_self
    | some q' =>
      rw [hnewer] at h
      dsimp only at h
      split_ifs at h
      · exact List.mem_cons_of_mem _ (ih (hnewer.trans h))
      · cases h
        exact List.mem_cons_self

/-- The payment a request finds is locked with the lookup. -/
theorem locking_findPayment (link : PaymentLinkRow) (es : List Emission) :
    Locking paymentParts (fun es' r => es' = es ∧ r = .ok none)
      (fun k v es' r v' => v' = v ∧ es' = es ∧
        ∃ payment, r = .ok (some payment) ∧ payment.id = k ∧ payment ∈ v) (findPayment link) es := by
  have hlock : ∀ (d : Db) (p : PaymentRow), firstToRefund (d.payments.filter (isPaymentOf link)) = some p →
      paymentParts.lock p.id ∈
        ((firstToRefund (d.payments.filter (isPaymentOf link))).map
          fun p => LockKey.row "payments" p.id).toList := by
    intro d p hp
    rw [hp]
    exact List.mem_singleton.mpr rfl
  refine (locking_queryForUpdate hlock).mono (fun _ _ h => h) ?_
  rintro k v es' r v' ⟨rfl, rfl, payment, d, rfl, rfl, hfound, rfl⟩
  refine ⟨rfl, rfl, payment, rfl, rfl, ?_⟩
  have hmem : payment ∈ d.payments := List.mem_of_mem_filter (mem_of_firstToRefund hfound)
  exact List.mem_filter.mpr ⟨hmem, by simp⟩

theorem guards_refundLink (hunsent : Unsent es) (asked : Option Decimal) :
    Guards paymentParts (RefundsIn call) (refundLink gw link asked reason actorId) es := by
  unfold refundLink
  refine (spares_of_payments (spares_getLockedLink _)).bind_guards_emitsOnly (sendsNone_getLockedLink _)
    fun locked new hnew => ?_
  have hunsent₁ : Unsent (es ++ new) := hunsent.append hnew
  generalize es ++ new = es₁ at hunsent₁
  refine guards_bind_raiseIf fun _ => guards_bind_raiseIf fun _ => ?_
  refine (locking_findPayment link es₁).bind ?_ (fun _ _ _ => trivial) ?_ fun _ _ _ _ _ _ => trivial
  · rintro _ _ ⟨rfl, ⟨rfl⟩⟩
    trivial
  · rintro k _ _ es₂ v ⟨rfl, rfl, payment, ⟨rfl⟩, hk, hmem⟩
    refine holding_bind_raiseIf (fun hrefundable => ?_) trivial
    have htarget : Refunding call k v (refundTarget gw link payment asked reason actorId) es₂ v :=
      refunding_refundTarget hk hmem (not_not.mp hrefundable) hunsent₁ asked
    refine htarget.bind ?_ fun _ _ _ _ => trivial
    rintro ⟨refund, refunded⟩ es₃ v₃ hv
    exact refunding_of_sendsNone ((flushLink_spares_payments _).discard.bind fun _ => spares_pure _)
      ((sendsNone_flushLink _).discard.bind fun _ => emitsOnly_pure _) hv

theorem guards_linkRefundCode (call : LinkRefundCall) :
    Guards paymentParts (RefundsIn call) (linkRefundCode call) [] := by
  refine Guards.discard ?_
  refine Spares.bind_guards_emitsOnly (spares_of_payments ?_) (sendsNone_getLink _)
    fun probe new₁ hnew₁ => ?_
  · refine (spares_query _).bind fun row => ?_
    cases row with
    | none => exact spares_throw _
    | some row => exact spares_pure _
  refine Spares.bind_guards_emitsOnly (spares_of_payments (spares_getGateway _ _))
    (sendsNone_getGateway _ _) fun gw new₂ hnew₂ => ?_
  have hstart : Unsent [] := rfl
  exact guards_refundLink ((hstart.append hnew₁).append hnew₂) _

/-! ## Runs -/

/-- The rows of a table have keys of their own where each key has one row at most. -/
theorem unique_iff_filter {rows : List PaymentRow} :
    Table.Unique rows ↔ ∀ k, (rows.filter (·.id = k)).length ≤ 1 := by
  unfold Table.Unique
  rw [List.nodup_iff_count_le_one]
  refine forall_congr' fun k => ?_
  rw [List.count_eq_countP, List.countP_map, List.countP_eq_length_filter]
  have hkey : ((fun x => x == k) ∘ Table.Keyed.key) = fun p : PaymentRow => decide (p.id = k) := by
    funext p
    exact beq_eq_decide _ _
  rw [hkey]

/-- A step that moves the payments under their locks changes one only by a refund. -/
theorem refundedAsAnswered_of_moves {s : LinkRefundSystem} {ev : Event LinkRefundCall Env}
    (hunique : Table.Unique s.db.payments) (h : Moves paymentParts RefundsIn linkRefundCode s ev) :
    Table.Unique (s.step linkRefundCode ev).db.payments ∧ RefundedAsAnswered s ev := by
  have hone : ∀ k, (paymentParts.part k s.db).length ≤ 1 := unique_iff_filter.mp hunique
  have hlength : ∀ k, (paymentParts.part k (s.step linkRefundCode ev).db).length =
      (paymentParts.part k s.db).length := by
    intro k
    rcases h k with hsame | ⟨t, -, -, hrefunds⟩
    · rw [hsame]
    · exact hrefunds.1
  constructor
  · rw [unique_iff_filter]
    intro k
    exact (hlength k).trans_le (hone k)
  · intro p' hp'
    have hmem : p' ∈ paymentParts.part p'.id (s.step linkRefundCode ev).db :=
      List.mem_filter.mpr ⟨hp', by simp⟩
    have hpos : 0 < (paymentParts.part p'.id s.db).length := by
      rw [← hlength]
      exact List.length_pos_of_mem hmem
    obtain ⟨p, hpart⟩ := List.length_eq_one_iff.mp (le_antisymm (hone p'.id) hpos)
    have hp : p ∈ s.db.payments ∧ p.id = p'.id := by
      have hin : p ∈ paymentParts.part p'.id s.db := by
        rw [hpart]
        exact List.mem_singleton_self p
      obtain ⟨hin, hid⟩ := List.mem_filter.mp hin
      exact ⟨hin, by simpa using hid⟩
    refine ⟨p, hp.1, hp.2, ?_⟩
    rcases h p'.id with hsame | ⟨t, hev, hget, hrefunds⟩
    · rw [hsame, hpart] at hmem
      exact .inl (List.mem_singleton.mp hmem)
    rcases hrefunds.2 p hpart with hsame | ⟨p'', hpart', hby⟩
    · rw [hsame] at hmem
      exact .inl (List.mem_singleton.mp hmem)
    · rw [hpart'] at hmem
      rw [List.mem_singleton.mp hmem]
      exact .inr ⟨t, hev, hget, hby⟩

/-- A refund leaves a payment within its total. -/
theorem RefundedBy.within {p' : PaymentRow} (h : RefundedBy es p p') :
    p'.amountRefunded ≤ p'.totalAmount := by
  obtain ⟨gateway, gatewayRef, amount, -, -, hle, hrefunded, -⟩ := h.answered
  have hleft : amount.toFils ≤ p.totalAmount - p.amountRefunded := toFils_le hle
  rw [hrefunded, h.total]
  linarith

/-- However requests to refund links are interleaved, a payment changes only by the commit of one that
has had the gateway refund once, of no more than the payment had left, and none is refunded beyond its
total. -/
theorem refunds_within_total {d : Db} (hunique : Table.Unique d.payments)
    (hwithin : RefundedWithinTotal d) (evs : List (Event LinkRefundCall Env)) :
    Runs.AllSteps (System.step linkRefundCode) RefundedAsAnswered ({ db := d } : LinkRefundSystem) evs ∧
      Runs.Always (System.step linkRefundCode) (fun s => RefundedWithinTotal s.db)
        ({ db := d } : LinkRefundSystem) evs := by
  have hmoves : Runs.AllSteps (System.step linkRefundCode) (Moves paymentParts RefundsIn linkRefundCode)
      ({ db := d } : LinkRefundSystem) evs := by
    refine allSteps_moves (F := fun _ v v' => v' = v) (fun _ _ _ _ h h' => h'.trans h) ?_
      (fun call _ => .inl (guards_linkRefundCode call)) (allSteps_starting (fun _ => trivial) _ _)
    rintro call es k _ v rfl
    exact RefundsIn.refl v
  have hsteps : Runs.AllSteps (System.step linkRefundCode) RefundedAsAnswered
      ({ db := d } : LinkRefundSystem) evs :=
    Runs.allSteps_of_allSteps (I := fun s : LinkRefundSystem => Table.Unique s.db.payments)
      (fun _ _ hunique hmoves => refundedAsAnswered_of_moves hunique hmoves) hunique hmoves
  refine ⟨hsteps, Runs.always_of_allSteps ?_ hwithin hsteps⟩
  intro s ev hwithin hstep p' hp'
  obtain ⟨p, hp, -, hcase⟩ := hstep p' hp'
  rcases hcase with rfl | ⟨t, -, -, hby⟩
  · exact hwithin p' hp
  · exact hby.within

/-- Two requests for one link, of which the second has loaded the link before the first commits: the
payment and the voucher come to what both refund, and the link only to what the second does. -/
theorem refunds_within_total_contended :
    let gw : PaymentLinkGateway := { name := "myfatoorah", providerLabel := "MyFatoorah" }
    let settings : LinkSettings := { adapter := fun _ => gw }
    let d : Db :=
      { paymentLinks := [{ id := 7, targetType := .giftVoucher, targetId := 1, gateway := "myfatoorah"
                           providerLabel := "MyFatoorah", amount := 10000, status := .paid }]
        payments := [{ id := 3, voucherId := some 1, totalAmount := 10000, status := some .success
                       invoiceId := some "inv" }]
        giftVouchers := [{ id := 1, senderId := 2, totalAmount := 10000, status := .active }] }
    let answer : Uuid → Env := fun id => { uuid := id, refund := .ok { isSuccessful := true } }
    let evs : List (Event LinkRefundCall Env) :=
      [.start 1 { settings := settings, linkId := 7, amount := some (.ofFils 6000) },
        .start 2 { settings := settings, linkId := 7, amount := some (.ofFils 4000) }, .exec 1 {},
        .exec 2 {}] ++ List.replicate 13 (.exec 1 (answer 11)) ++ [.exec 2 {}, .finish 1] ++
        List.replicate 17 (.exec 2 (answer 12)) ++ [.finish 2]
    let final := (Runs.run (System.step linkRefundCode) ({ db := d } : LinkRefundSystem) evs).db
    (Runs.AllSteps (System.step linkRefundCode) RefundedAsAnswered ({ db := d } : LinkRefundSystem) evs ∧
      Runs.Always (System.step linkRefundCode) (fun s => RefundedWithinTotal s.db)
        ({ db := d } : LinkRefundSystem) evs) ∧
      final.payments.map (fun p => (p.amountRefunded, p.status)) = [(10000, some .refunded)] ∧
      final.giftVouchers.map (·.status) = [.cancelled] ∧
      final.paymentLinks.map (fun l => (l.amountRefunded, l.status)) = [(4000, .partiallyRefunded)] := by
  intro gw settings d answer evs final
  refine ⟨refunds_within_total ?_ ?_ evs, ?_⟩
  · exact List.nodup_singleton _
  · intro p hp
    rw [List.mem_singleton.mp hp]
    decide
  · decide +kernel

end PaymentLinks
