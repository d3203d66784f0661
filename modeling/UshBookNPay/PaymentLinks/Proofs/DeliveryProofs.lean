import UshBookNPay.PaymentLinks.DeliveryRuns
import UshBookNPay.PaymentLinks.Proofs.SettlementProofs
import UshBookNPay.Voucher.Proofs.RedemptionProofs

/-!
# Vouchers wait for their delivery

What a call may do to a gift voucher whose delivery is scheduled: its delivery columns stay and it does
not become usable, or it is delivered.
-/

open Transactions
open Transactions.Prog (query raiseIf ask)

namespace PaymentLinks

open Voucher

/-! ## What a call may do -/

/-- The delivery columns stay, and a dormant voucher stays dormant. -/
structure Waits (v v' : GiftVoucherRow) : Prop where
  mode : v'.deliveryMode = v.deliveryMode
  delivered : v'.deliveredAt = v.deliveredAt
  dormant : Dormant v → Dormant v'

theorem Waits.refl (v : GiftVoucherRow) : Waits v v := ⟨rfl, rfl, id⟩

theorem Waits.trans {v v' v'' : GiftVoucherRow} (h : Waits v v') (h' : Waits v' v'') : Waits v v'' :=
  ⟨h'.mode.trans h.mode, h'.delivered.trans h.delivered, fun hd => h'.dormant (h.dormant hd)⟩

/-- A voucher whose status stays, or moves to one that is not usable. -/
theorem waits_of_status {v v' : GiftVoucherRow} (hmode : v'.deliveryMode = v.deliveryMode)
    (hdelivered : v'.deliveredAt = v.deliveredAt)
    (hstatus : Undelivered v → v.status ∉ usableStatuses → v'.status ∉ usableStatuses) :
    Waits v v' := by
  refine ⟨hmode, hdelivered, fun hd hund => ?_⟩
  have hund' : Undelivered v := by
    unfold Undelivered at hund ⊢
    rwa [hmode, hdelivered] at hund
  exact hstatus hund' (hd hund')

/-- What a call may do to the voucher `k`: it waits, or, where the call activates, it is delivered; a
new voucher is dormant. -/
structure Sleeps (activates : Prop) (k : Uuid) (d d' : Db) : Prop where
  there : ∀ v, Table.get d.giftVouchers k = some v →
    ∃ v', Table.get d'.giftVouchers k = some v' ∧ (Waits v v' ∨ (activates ∧ v'.deliveredAt ≠ none))
  new : Table.get d.giftVouchers k = none → ∀ v', Table.get d'.giftVouchers k = some v' → Dormant v'

variable {activates : Prop} {k : Uuid} {d d' d'' : Db} {es : List Emission}

theorem sleeps_of_same (h : Table.get d'.giftVouchers k = Table.get d.giftVouchers k) :
    Sleeps activates k d d' := by
  constructor
  · intro v hv
    exact ⟨v, h.trans hv, .inl (.refl v)⟩
  · intro hnone v' hv'
    rw [h, hnone] at hv'
    cases hv'

theorem Sleeps.refl (d : Db) : Sleeps activates k d d := sleeps_of_same rfl

theorem Sleeps.trans (h : Sleeps activates k d d') (h' : Sleeps activates k d' d'') :
    Sleeps activates k d d'' := by
  constructor
  · intro v hv
    obtain ⟨v', hv', hstep⟩ := h.there v hv
    obtain ⟨v'', hv'', hstep'⟩ := h'.there v' hv'
    refine ⟨v'', hv'', ?_⟩
    rcases hstep' with hwaits' | hdone
    · rcases hstep with hwaits | ⟨ha, hdone⟩
      · exact .inl (hwaits.trans hwaits')
      · exact .inr ⟨ha, by rwa [hwaits'.delivered]⟩
    · exact .inr hdone
  · intro hnone v'' hv''
    cases hv' : Table.get d'.giftVouchers k with
    | none => exact h'.new hv' v'' hv''
    | some v' =>
      have hdormant := h.new hnone v' hv'
      obtain ⟨w, hw, hstep⟩ := h'.there v' hv'
      obtain rfl := Option.some.inj (hv''.symm.trans hw)
      rcases hstep with hwaits | ⟨-, hdone⟩
      · exact hwaits.dormant hdormant
      · exact fun hund => absurd hund.2 hdone

/-- After the call the voucher is dormant, and an undelivered one that has become usable is delivered
by it. -/
theorem Sleeps.ofVoucher (h : Sleeps activates k d d') (hd : OfVoucher k Dormant d) :
    OfVoucher k Dormant d' := by
  intro v' hv'
  cases hv : Table.get d.giftVouchers k with
  | none => exact h.new hv v' hv'
  | some v =>
    obtain ⟨w, hw, hstep⟩ := h.there v hv
    obtain rfl := Option.some.inj (hv'.symm.trans hw)
    rcases hstep with hwaits | ⟨-, hdone⟩
    · exact hwaits.dormant (hd v hv)
    · exact fun hund => absurd hund.2 hdone

/-- A program that does not touch gift vouchers. -/
theorem leads_of_keeps {α : Type} {p : Tx α} (h : Keeps Db.giftVouchers p) :
    Leads (Sleeps activates k) p :=
  h.leads fun _ _ heq => sleeps_of_same (by rw [heq])

theorem sleeps_bind {α β : Type} {p : Tx α} {f : α → Tx β} (hp : Leads (Sleeps activates k) p)
    (hf : ∀ a, Leads (Sleeps activates k) (f a)) : Leads (Sleeps activates k) (p >>= f) :=
  hp.bind (fun _ _ _ h h' => h.trans h') hf

theorem sleeps_pure {α : Type} (a : α) : Leads (Sleeps activates k) (pure a : Tx α) :=
  leads_of_keeps (keeps_pure a)

theorem leads_attempt {α : Type} {caught : Error → Bool} {p : Tx α}
    (hp : Leads (Sleeps activates k) p) : Leads (Sleeps activates k) (attempt caught p) := by
  constructor
  intro d es
  refine (hp.ensures d es).attempt ?_ ?_ ?_
  · exact fun _ _ _ h => h
  · exact fun _ _ _ _ h => h
  · exact fun _ _ _ _ h => h

/-! ## Writing a voucher -/

/-- The voucher `v` written with the columns `f`. -/
theorem ensures_flush_sleeps (activates : Prop) (k : Uuid) {v : GiftVoucherRow}
    {f : GiftVoucherRow → GiftVoucherRow} (hid : ∀ r, (f r).id = r.id)
    (hstep : v.id = k → ∀ r, Table.get d.giftVouchers k = some r →
      Waits r (f r) ∨ (activates ∧ (f r).deliveredAt ≠ none)) :
    Ensures (fun _ => True) (Returns fun _ d' _ => Sleeps activates k d d')
      (flushVoucher ((Orm.ofRow v).set f)) d es := by
  unfold flushVoucher
  rw [ensures_bind, ensures_update]
  have hrowid : ((Orm.ofRow v).set f).row.id = v.id := hid v
  rw [hrowid]
  generalize ((Orm.ofRow v).set f).row.attribution = a
  have hkey : ∀ r, Table.Keyed.key ((f r).setAttribution a) = Table.Keyed.key r := hid
  refine ⟨trivial, ?_⟩
  by_cases hk : k = v.id
  · subst hk
    have hself : Table.get (Table.modify d.giftVouchers v.id fun r => (f r).setAttribution a) v.id =
        (Table.get d.giftVouchers v.id).map fun r => (f r).setAttribution a :=
      Table.get_modify_self hkey
    constructor
    · intro r hr
      rw [hr] at hself
      refine ⟨_, hself, ?_⟩
      exact (hstep rfl r hr).imp (fun h => ⟨h.mode, h.delivered, h.dormant⟩) id
    · intro hnone r hr
      rw [hnone] at hself
      exact absurd (hself.symm.trans hr) (by simp)
  · exact sleeps_of_same (Table.get_modify_of_ne hkey hk)

/-! ## update_status -/

/-- A status that is usable is entered from one that is, or by an activation. -/
theorem usable_entered {current new : GiftVoucherStatus} (h : validTransition current new)
    (hnew : new ∈ usableStatuses) (hcurrent : current ∉ usableStatuses) : new = .active := by
  revert h hnew hcurrent
  cases current <;> cases new <;> decide

theorem waits_statusColumns {v : GiftVoucherRow} {newStatus : GiftVoucherStatus}
    (hallowed : Allowed v newStatus) (args : StatusArgs) (schedule : Option (String × String))
    (now : Instant) : Waits v (statusColumns (redirect v newStatus) args schedule now v) := by
  obtain ⟨-, hmode, hdelivered⟩ := statusColumns_kept (redirect v newStatus) args schedule now v
  refine waits_of_status hmode hdelivered fun hund hstatus husable => ?_
  have hactive : redirect v newStatus = .active := usable_entered hallowed husable hstatus
  unfold redirect at hactive
  split_ifs at hactive with hredirect
  exact hredirect ⟨hactive, hund⟩

/-- `update_status` of a voucher as it is in the database. -/
theorem updateStatus_sleeps (activates : Prop) (k : Uuid) {voucherId : Uuid} {newStatus : GiftVoucherStatus} {args : StatusArgs}
    {known : Option (Orm GiftVoucherRow)}
    (hknown : ∀ o, known = some o → ∃ row, o = .ofRow row ∧
      Table.get d.giftVouchers voucherId = some row) :
    Ensures (fun _ => True) (fun _ d' _ => Sleeps activates k d d')
      (updateStatus known voucherId newStatus args) d es := by
  unfold updateStatus
  rw [ensures_bind_query]
  refine ⟨trivial, ?_⟩
  cases hrow : Table.get d.giftVouchers voucherId with
  | none => exact .refl d
  | some row =>
    dsimp only
    have hloaded : known.getD (.ofRow row) = .ofRow row := by
      cases hk : known with
      | none => rfl
      | some o =>
        obtain ⟨row', rfl, hrow'⟩ := hknown o hk
        obtain rfl := Option.some.inj (hrow.symm.trans hrow')
        rfl
    rw [hloaded, Orm.ofRow_row, ensures_bind_raiseIf]
    refine ⟨fun _ => .refl d, fun hallowed => ?_⟩
    have hallowed' : Allowed row newStatus := not_not.mp hallowed
    have hid : row.id = voucherId := (Table.get_some hrow).2
    have hwrite : ∀ schedule : Option (String × String), Ensures (fun _ => True)
        (fun _ d' _ => Sleeps activates k d d') (do
          let now ← ask Env.now
          let written ← flushVoucher ((Orm.ofRow row).set
            (statusColumns (redirect row newStatus) args schedule now))
          emitStatusEvent voucherId row.status (redirect row newStatus)
          pure written) d es := by
      intro schedule
      rw [ensures_bind_ask]
      refine ⟨trivial, fun a => ?_⟩
      have hcolumns := fun v =>
        (statusColumns_kept (redirect row newStatus) args schedule a.now v).1
      refine (ensures_flush_sleeps activates k hcolumns fun hk r hr => .inl ?_).bind_returns ?_
      · obtain rfl : row = r := Option.some.inj ((hk ▸ hid ▸ hrow).symm.trans hr)
        exact waits_statusColumns hallowed' args schedule a.now
      intro w d' es' hsleeps
      unfold emitStatusEvent
      rw [ensures_bind, ensures_call]
      exact fun _ => ⟨trivial, hsleeps⟩
    by_cases hn : needsSchedule row (redirect row newStatus)
    · rw [if_pos hn, ensures_bind_ask]
      exact ⟨trivial, fun a => hwrite a.schedule⟩
    · rw [if_neg hn]
      exact hwrite none

/-! ## update_voucher -/

theorem waits_assignUpdated {args : UpdateArgs} {now : Instant}
    {v u : GiftVoucherRow} (hu : updatedVoucher args now v = .ok u)
    (hasks : args.redemption = none → args.status = some GiftVoucherStatus.active.value →
      Undelivered v → ¬ validTransition v.status .active) : Waits v (assignUpdated u v) := by
  refine waits_of_status rfl rfl fun hund hstatus husable => ?_
  obtain ⟨w, hmoved, rfl⟩ := updatedVoucher_cases hu
  have hw : (applyFields args (replaceServices args (normalisedFields args w))).status = w.status :=
    (applyFields_kept args w).2
  have husable' : w.status ∈ usableStatuses := by
    rw [← hw]
    exact husable
  have hactive : w.status = .active := usable_entered hmoved.moved husable' hstatus
  have hmove := hmoved.moved
  rw [hactive] at hmove
  rcases hmoved.record with ⟨-, ids, hred⟩ | ⟨hnone, -, hsame | hargs⟩
  · have hderived := hred.derived
    rw [hactive] at hderived
    split_ifs at hderived
  · rw [hsame] at husable'
    exact hstatus husable'
  · rw [hactive] at hargs
    exact hasks hnone hargs hund hmove

theorem updateVoucher_sleeps (activates : Prop) (k : Uuid) {voucherId : Uuid} {args : UpdateArgs}
    (hasks : args.redemption = none → args.status = some GiftVoucherStatus.active.value →
      OfVoucher voucherId (fun v => Undelivered v → ¬ validTransition v.status .active) d) :
    Ensures (fun _ => True) (fun _ d' _ => Sleeps activates k d d') (updateVoucher voucherId args) d
      es := by
  unfold updateVoucher
  rw [ensures_bind_query]
  refine ⟨trivial, ?_⟩
  cases hrow : Table.get d.giftVouchers voucherId with
  | none => exact .refl d
  | some row =>
    dsimp only
    rw [ensures_bind_ask]
    refine ⟨trivial, fun a => ?_⟩
    have hid : row.id = voucherId := (Table.get_some hrow).2
    cases hu : updatedVoucher args a.now row with
    | error e => exact .refl d
    | ok u =>
      refine (ensures_flush_sleeps (f := assignUpdated u) activates k (fun _ => rfl)
        fun hk r hr => .inl ?_).bind_returns ?_
      · have hvk : voucherId = k := hid.symm.trans hk
        obtain rfl : row = r := Option.some.inj ((hvk ▸ hrow).symm.trans hr)
        exact waits_assignUpdated hu fun hnone hactive => hasks hnone hactive row hrow
      · intro w d' es' hsleeps
        unfold emitStatusEvent
        rw [ensures_bind, ensures_call]
        exact fun _ => ⟨trivial, hsleeps⟩

/-! ## The scheduled delivery -/

theorem leads_rescheduleVoucher (voucherId : Uuid) (at' : DateTimeArg) :
    Leads (Sleeps activates k) (rescheduleVoucher voucherId at') := by
  constructor
  intro d es
  unfold rescheduleVoucher
  rw [ensures_bind_query]
  refine ⟨trivial, ?_⟩
  cases hrow : Table.get d.giftVouchers voucherId with
  | none => exact .refl d
  | some row =>
    dsimp only
    rw [ensures_bind_raiseIf]
    refine ⟨fun _ => .refl d, fun _ => ?_⟩
    rw [ensures_bind_ask]
    refine ⟨trivial, fun a => ?_⟩
    rw [ensures_bind_raiseIf]
    refine ⟨fun _ => .refl d, fun _ => ?_⟩
    rw [ensures_bind_raiseIf]
    refine ⟨fun _ => .refl d, fun _ => ?_⟩
    rw [ensures_bind_ask]
    refine ⟨trivial, fun b => ?_⟩
    cases hb : b.schedule with
    | none => exact .refl d
    | some schedule =>
      have hwaits : ∀ r, Waits r (rescheduledColumns at'.kuwait schedule r) :=
        fun r => waits_of_status rfl rfl fun _ h => h
      refine (ensures_flush_sleeps (f := rescheduledColumns at'.kuwait schedule) activates k
        (fun _ => rfl) fun _ r _ => .inl (hwaits r)).mono (fun _ h => h) ?_
      intro r d' es' h
      cases r with
      | ok w => exact h
      | error e => exact h.elim

/-- An activation delivers the voucher, with the values it was loaded with or others. -/
theorem leads_activateScheduledVoucher {voucherId : Uuid} {result : Option Json}
    {known : Option (Orm GiftVoucherRow)}
    (hknown : ∀ o, known = some o → ∃ v, o = .ofRow v ∧ v.id = voucherId)
    (hk : voucherId = k → activates) :
    Leads (Sleeps activates k) (activateScheduledVoucher known voucherId result) := by
  constructor
  intro d es
  unfold activateScheduledVoucher
  rw [ensures_bind_query]
  refine ⟨trivial, ?_⟩
  cases hrow : Table.get d.giftVouchers voucherId with
  | none => exact .refl d
  | some row =>
    dsimp only
    obtain ⟨v, hv, hid⟩ : ∃ v, known.getD (.ofRow row) = .ofRow v ∧ v.id = voucherId := by
      cases hk : known with
      | none => exact ⟨row, rfl, (Table.get_some hrow).2⟩
      | some o => exact hknown o hk
    rw [hv, Orm.ofRow_row]
    split_ifs with hstatus
    · exact .refl d
    rw [ensures_bind_ask]
    refine ⟨trivial, fun a => ?_⟩
    refine (ensures_flush_sleeps (f := activatedColumns result a.now) activates k (fun _ => rfl)
      fun h r _ => .inr ⟨hk (hid.symm.trans h), ?_⟩).bind_returns ?_
    · rintro ⟨⟩
    · intro w d' es' hsleeps
      unfold emitStatusEvent
      rw [ensures_bind, ensures_call]
      exact fun _ => ⟨trivial, hsleeps⟩

theorem leads_activateEach (hk : activates) (vs : List GiftVoucherRow) :
    Leads (Sleeps activates k) (activateEach vs) := by
  induction vs with
  | nil => exact sleeps_pure []
  | cons v vs ih =>
    unfold activateEach
    refine sleeps_bind (leads_of_keeps (keeps_ask _)) fun now => ?_
    refine sleeps_bind ?_ fun r => sleeps_bind ih fun ids => sleeps_pure _
    refine leads_attempt (leads_activateScheduledVoucher ?_ fun _ => hk)
    intro o ho
    exact ⟨v, (Option.some.inj ho).symm, rfl⟩

theorem leads_reconcile (hk : activates) (limit : ℕ) :
    Leads (Sleeps activates k) (reconcileOverdueScheduledVouchers limit) := by
  unfold reconcileOverdueScheduledVouchers
  refine sleeps_bind (leads_of_keeps (keeps_ask _)) fun now => ?_
  exact sleeps_bind (leads_of_keeps (keeps_query _)) fun overdue => leads_activateEach hk overdue

/-! ## create_voucher -/

theorem initialStatus_dormant {args : CreateArgs} (hargs : CreatesDormant args)
    (hmode : VoucherDeliveryMode.normalise args.deliveryMode = .scheduled) :
    initialStatus args ∉ usableStatuses := by
  obtain ⟨hpartly, hredeemed⟩ := hargs hmode
  unfold initialStatus
  cases hs : args.status with
  | none => simp [usableStatuses, hmode]
  | some s =>
    rw [hs] at hpartly hredeemed
    cases s <;> simp_all [usableStatuses]

theorem mirrorLegacyFields_mode (entries : List GiftedService) (v : GiftVoucherRow) :
    (mirrorLegacyFields entries v).deliveryMode = v.deliveryMode := by
  cases entries <;> rfl

theorem mirrorLegacyFields_status (entries : List GiftedService) (v : GiftVoucherRow) :
    (mirrorLegacyFields entries v).status = v.status := by
  cases entries <;> rfl

theorem createdVoucher_delivery (args : CreateArgs) (id : Uuid) (number : String)
    (schedule : Option (String × String)) (now : Instant) :
    (createdVoucher args id number schedule now).deliveryMode =
        VoucherDeliveryMode.normalise args.deliveryMode ∧
      (createdVoucher args id number schedule now).status = initialStatus args := by
  unfold createdVoucher
  by_cases hservices : args.services ≠ []
  · simp only [if_pos hservices, mirrorLegacyFields_mode, mirrorLegacyFields_status, and_self]
  · simp only [if_neg hservices, and_self]

theorem createdVoucher_dormant {args : CreateArgs} (hargs : CreatesDormant args) (id : Uuid)
    (number : String) (schedule : Option (String × String)) (now : Instant) :
    Dormant (createdVoucher args id number schedule now) := by
  obtain ⟨hmode, hstatus⟩ := createdVoucher_delivery args id number schedule now
  intro hund
  rw [hstatus]
  exact initialStatus_dormant hargs (hmode.symm.trans hund.1)

theorem leads_insertVoucher {v : GiftVoucherRow} (hv : Dormant v) :
    Leads (Sleeps activates k) (insertVoucher v) := by
  constructor
  intro d es
  unfold insertVoucher
  dsimp only
  generalize v.attribution = a
  have hdormant : Dormant (v.setAttribution a) := fun hund => hv ⟨hund.1, hund.2⟩
  generalize v.setAttribution a = w at hdormant
  rw [ensures_bind, ensures_checkedUpdate]
  refine ⟨trivial, ?_⟩
  cases voucherConflict d w with
  | some e => exact .refl d
  | none =>
    constructor
    · intro r hr
      exact ⟨r, Table.get_append_of_some hr, .inl (.refl r)⟩
    · intro hnone r hr
      have hget : Table.get (d.giftVouchers ++ [w]) k = some r := hr
      rw [Table.get_append, hnone] at hget
      obtain ⟨hmem, -⟩ := Table.get_some hget
      obtain rfl := List.mem_singleton.mp hmem
      exact hdormant

theorem leads_newSchedule (args : CreateArgs) : Leads (Sleeps activates k) (newSchedule args) := by
  unfold newSchedule
  generalize initialStatus args = status
  exact leads_of_keeps (Keeps.ite (keeps_ask _) (keeps_pure _))

theorem leads_createVoucher {args : CreateArgs} (hargs : CreatesDormant args) :
    Leads (Sleeps activates k) (createVoucher args) := by
  unfold createVoucher
  refine sleeps_bind (leads_of_keeps (keeps_raiseIf _ _)) fun _ => ?_
  refine sleeps_bind (leads_newSchedule args) fun schedule => ?_
  refine sleeps_bind (leads_of_keeps (keeps_ask _)) fun now => ?_
  refine sleeps_bind (leads_of_keeps (keeps_ask _)) fun id => ?_
  refine sleeps_bind (leads_of_keeps ?_) fun number => ?_
  · unfold generateVoucherNumber
    refine (keeps_ask _).bind fun month => ?_
    exact (keeps_queryForUpdate _ _).bind fun _ => keeps_query _
  have hdormant := createdVoucher_dormant hargs id number schedule now
  refine sleeps_bind (leads_insertVoucher hdormant) fun v => ?_
  exact sleeps_bind (leads_of_keeps (keeps_call _ _)) fun _ => sleeps_pure v

/-! ## Settlement -/

theorem keeps_vouchers_flushPayment (o : Orm PaymentRow) :
    Keeps Db.giftVouchers (flushPayment o) := by
  unfold flushPayment
  refine (keeps_checkedUpdate _ _ fun d => ?_).bind fun _ => keeps_pure _
  rfl

theorem keeps_vouchers_flushBooking (o : Orm BookingRow) :
    Keeps Db.giftVouchers (flushBooking o) := by
  unfold flushBooking
  refine (keeps_update _ fun d => ?_).bind fun _ => keeps_pure _
  rfl

theorem keeps_vouchers_flushLink (o : Orm PaymentLinkRow) : Keeps Db.giftVouchers (flushLink o) := by
  unfold flushLink
  refine (keeps_update _ fun d => ?_).bind fun _ => keeps_pure _
  rfl

theorem keeps_vouchers_insertPayment (p : PaymentRow) : Keeps Db.giftVouchers (insertPayment p) := by
  unfold insertPayment
  refine (keeps_checkedUpdate _ _ fun d => ?_).bind fun _ => keeps_pure _
  rfl

theorem keeps_vouchers_addPaymentHistory (row : PaymentStatusHistoryRow) :
    Keeps Db.giftVouchers (addPaymentHistory row) :=
  keeps_update _ fun _ => rfl

theorem keeps_vouchers_addBookingHistory (row : BookingStatusHistoryRow) :
    Keeps Db.giftVouchers (addBookingHistory row) :=
  keeps_update _ fun _ => rfl

theorem keeps_vouchers_settlePayment (link : PaymentLinkRow) (ofTarget : PaymentRow → Bool)
    (row : Uuid → String → PaymentRow) (columns : PaymentRow → PaymentRow) :
    Keeps Db.giftVouchers (settlePayment link ofTarget row columns) := by
  unfold settlePayment newestPayment
  refine (keeps_queryForUpdate _ _).bind fun payment => ?_
  cases payment with
  | none =>
    unfold createPayment generatePaymentNumber
    refine Keeps.bind ?_ fun number => ?_
    · refine (keeps_ask _).bind fun month => ?_
      exact (keeps_queryForUpdate _ _).bind fun _ => keeps_query _
    · refine (keeps_ask _).bind fun id => (keeps_vouchers_insertPayment _).bind fun p => ?_
      exact (keeps_vouchers_addPaymentHistory _).bind fun _ => keeps_pure _
  | some p => exact (keeps_vouchers_flushPayment _).bind fun written => keeps_pure _

theorem keeps_vouchers_settleBooking (link : Orm PaymentLinkRow) (paidAt : Instant) :
    Keeps Db.giftVouchers (settleBooking link paidAt) := by
  unfold settleBooking
  refine (keeps_queryForUpdate _ _).bind fun row => ?_
  cases row with
  | none => exact keeps_throw _
  | some b =>
    refine (keeps_raiseIf _ _).bind fun _ => Keeps.bind ?_ fun booking => ?_
    · unfold confirmBooking
      refine (keeps_vouchers_flushBooking _).bind fun written => ?_
      refine (keeps_forSome _ fun old => ?_).bind fun _ => keeps_pure _
      exact keeps_vouchers_addBookingHistory _
    · refine (keeps_vouchers_settlePayment _ _ _ _).bind fun payment => ?_
      exact (keeps_call _ _).bind fun _ => keeps_pure _

theorem keeps_vouchers_payVoucher (link : PaymentLinkRow) (paidAt : Instant) :
    Keeps Db.giftVouchers (payVoucher link paidAt) := by
  unfold payVoucher
  refine (keeps_queryForUpdate _ _).bind fun row => ?_
  cases row with
  | none => exact keeps_throw _
  | some v => exact (keeps_vouchers_settlePayment _ _ _ _).bind fun payment => keeps_pure _

theorem keeps_vouchers_refundNotActivatable (link : Orm PaymentLinkRow) (state : GatewayPaymentState)
    (exc : Error) : Keeps Db.giftVouchers (refundNotActivatable link state exc) := by
  unfold refundNotActivatable
  refine Keeps.bind ?_ fun refundErr => ?_
  · unfold autoRefund
    refine Keeps.ite (keeps_pure _) (Keeps.ite (keeps_pure _) ?_)
    refine (keeps_call _ _).bind fun res => ?_
    cases res <;> exact keeps_pure _
  · exact (keeps_vouchers_flushLink _).bind fun _ => keeps_pure _

theorem activateVoucher_sleeps (activates : Prop) (k : Uuid) {link : PaymentLinkRow}
    {voucher : GiftVoucherRow} {payment : PaymentRow} {paidAt : Instant}
    (hv : Table.get d.giftVouchers voucher.id = some voucher) :
    Ensures (fun _ => True) (fun _ d' _ => Sleeps activates k d d')
      (activateVoucher link voucher payment paidAt) d es := by
  unfold activateVoucher
  show Ensures _ _ ((fun _ => ()) <$> _) d es
  rw [ensures_map]
  have hknown : ∀ o, some (Orm.ofRow voucher) = some o → ∃ row, o = .ofRow row ∧
      Table.get d.giftVouchers voucher.id = some row := by
    rintro o ⟨rfl⟩
    exact ⟨voucher, rfl, hv⟩
  refine (updateStatus_sleeps activates k hknown).mono (fun _ h => h) ?_
  intro r d' es' h
  cases r <;> exact h

theorem leads_settleTarget (link : Orm PaymentLinkRow) (paidAt : Instant) :
    Leads (Sleeps activates k) (settleTarget link paidAt) := by
  unfold settleTarget
  cases ht : link.row.targetType with
  | product => exact sleeps_pure _
  | booking =>
    refine leads_of_keeps ((keeps_attempt (keeps_vouchers_settleBooking _ _)).bind fun r => ?_)
    cases r <;> exact keeps_pure _
  | giftVoucher =>
    constructor
    intro d es
    rw [ensures_bind]
    have hpaid := (ensures_payVoucher paidAt (d := d) ht).and
      (keeps_vouchers_payVoucher link.row paidAt d es)
    refine hpaid.attempt ?_ ?_ ?_
    · rintro ⟨voucher, payment⟩ d' es' ⟨⟨-, -, hok⟩, hkept⟩
      obtain ⟨hget, -⟩ := hok voucher payment rfl
      have hid : voucher.id = link.row.targetId := (Table.get_some hget).2
      have hnow : Table.get d'.giftVouchers voucher.id = some voucher := by
        rw [hkept, hid]
        exact hget
      have hsame : Sleeps activates k d d' := sleeps_of_same (by rw [hkept])
      dsimp only
      show Ensures _ _ (attempt _ _ >>= _) _ _
      rw [ensures_bind]
      refine (activateVoucher_sleeps activates k hnow).attempt ?_ ?_ ?_
      · exact fun _ _ _ h => hsame.trans h
      · exact fun _ _ _ _ h => hsame.trans h
      · exact fun _ _ _ _ h => hsame.trans h
    · rintro e d' es' - ⟨-, hkept⟩
      exact sleeps_of_same (by rw [hkept])
    · rintro e d' es' - ⟨-, hkept⟩
      exact sleeps_of_same (by rw [hkept])

theorem leads_applyPaid (link : Orm PaymentLinkRow) (state : GatewayPaymentState) (source : String) :
    Leads (Sleeps activates k) (applyPaid link state source) := by
  unfold applyPaid
  by_cases hsettled : link.row.status ∈ SETTLED
  · rw [if_pos hsettled]
    exact sleeps_pure _
  rw [if_neg hsettled]
  by_cases hmismatch : amountMismatch link.row state
  · rw [if_pos hmismatch]
    exact sleeps_pure _
  rw [if_neg hmismatch]
  refine sleeps_bind (leads_of_keeps (keeps_ask _)) fun now => ?_
  refine sleeps_bind (leads_of_keeps (keeps_vouchers_flushLink _)) fun link => ?_
  refine sleeps_bind (leads_settleTarget link now) fun r => ?_
  obtain ⟨link', failure⟩ := r
  cases failure with
  | some exc => exact leads_of_keeps (keeps_vouchers_refundNotActivatable _ _ _)
  | none => exact sleeps_bind (leads_of_keeps (keeps_vouchers_flushLink _)) fun _ => sleeps_pure _

theorem leads_apply (link : Orm PaymentLinkRow) (state : GatewayPaymentState) (source : String) :
    Leads (Sleeps activates k) (apply link state source) := by
  unfold apply
  cases state.status with
  | paid => exact leads_applyPaid link state source
  | failed =>
    unfold recordFailure
    refine leads_of_keeps (Keeps.ite (keeps_pure _) ?_)
    exact (keeps_ask _).bind fun now => (keeps_call _ _).bind fun _ => keeps_pure _
  | expired => exact sleeps_pure _
  | canceled => exact sleeps_pure _
  | pending => exact sleeps_pure _

theorem leads_applyTo (linkId : Uuid) (state : GatewayPaymentState) (source : String) :
    Leads (Sleeps activates k) (applyTo linkId state source) := by
  unfold applyTo getLockedLink
  refine sleeps_bind (leads_of_keeps (keeps_queryForUpdate _ _)) fun row => ?_
  cases row with
  | none => exact sleeps_pure _
  | some row =>
    refine sleeps_bind (leads_apply _ state source) fun r => ?_
    refine sleeps_bind (leads_of_keeps ?_) fun _ => sleeps_pure _
    exact (keeps_vouchers_flushLink _).map _

/-! ## Runs -/

theorem leads_discard {α : Type} {p : Tx α} (h : Leads (Sleeps activates k) p) :
    Leads (Sleeps activates k) (discard p) := by
  constructor
  intro d es
  show Ensures _ _ ((fun _ => ()) <$> p) d es
  rw [ensures_map]
  refine (h.ensures d es).mono (fun _ h => h) fun r d' es' h => ?_
  cases r <;> exact h

/-- A call may only make the voucher wait, or deliver it by an activation. -/
theorem deliveryStep_sleeps {d : Db} {x : DeliveryOp × (ℕ → Env)} (hx : LeavesDormant d x) :
    Sleeps (Activates k x.1) k d (deliveryStep d x) := by
  obtain ⟨op, env⟩ := x
  unfold deliveryStep
  cases op with
  | createVoucher args =>
    exact (leads_discard (leads_createVoucher hx)).atomically .refl env d
  | updateStatus voucherId newStatus args =>
    refine (leads_discard ⟨fun d es => updateStatus_sleeps _ k ?_⟩).atomically .refl env d
    rintro o ⟨⟩
  | updateVoucher voucherId args =>
    refine Ensures.atomically (Q := Sleeps _ k d) ?_ env
    show Ensures _ _ ((fun _ => ()) <$> updateVoucher voucherId args) d []
    rw [ensures_map]
    refine (updateVoucher_sleeps False k hx).mono (fun _ h => h) ?_
    intro r d' es h
    cases r with
    | ok w => exact h
    | error e => exact .refl d
  | rescheduleVoucher voucherId at' =>
    exact (leads_discard (leads_rescheduleVoucher voucherId at')).atomically .refl env d
  | activateScheduledVoucher voucherId result =>
    refine (leads_discard (leads_activateScheduledVoucher ?_ id)).atomically .refl env d
    rintro o ⟨⟩
  | reconcileOverdueScheduledVouchers limit =>
    exact (leads_discard (leads_reconcile trivial limit)).atomically .refl env d
  | settle linkId state source =>
    exact (leads_discard (leads_applyTo linkId state source)).atomically .refl env d

theorem usableByActivation_of_sleeps {d : Db} {x : DeliveryOp × (ℕ → Env)}
    (hd : OfVoucher k Dormant d) (hx : Sleeps (Activates k x.1) k d (deliveryStep d x)) :
    UsableByActivation k d x := by
  intro v hv hund v' hv' husable
  obtain ⟨w, hw, hstep⟩ := hx.there v hv
  obtain rfl := Option.some.inj (hv'.symm.trans hw)
  rcases hstep with hwaits | hdone
  · have hund' : Undelivered v' := ⟨hwaits.mode.trans hund.1, hwaits.delivered.trans hund.2⟩
    exact absurd husable (hwaits.dormant (hd v hv) hund')
  · exact hdone

/-- A voucher whose delivery is scheduled is not usable before it is delivered, and becomes usable
only by the activation that delivers it, in every run whose calls make no voucher usable early. -/
theorem dormant_until_delivered (k : Uuid) {d : Db} {ops : List (DeliveryOp × (ℕ → Env))}
    (hstart : OfVoucher k Dormant d) (h : Runs.AllSteps deliveryStep LeavesDormant d ops) :
    Runs.Always deliveryStep (OfVoucher k Dormant) d ops ∧
      Runs.AllSteps deliveryStep (UsableByActivation k) d ops := by
  constructor
  · refine Runs.always_of_allSteps ?_ hstart h
    intro d x hd hx
    exact (deliveryStep_sleeps hx).ofVoucher hd
  · refine Runs.allSteps_of_allSteps ?_ hstart h
    intro d x hd hx
    have hsleeps := deliveryStep_sleeps (k := k) hx
    exact ⟨hsleeps.ofVoucher hd, usableByActivation_of_sleeps hd hsleeps⟩

/-- Gift voucher 6 is created for a scheduled delivery. -/
def createScheduled : DeliveryOp × (ℕ → Env) :=
  (.createVoucher
    { senderId := 4, totalAmount := 10000, deliveryMode := "scheduled"
      scheduledDeliveryAt := some 5 }, fun _ => { uuid := 6 })

theorem dormant_until_delivered_example :
    let ops := [createScheduled, (.updateStatus 6 .active {}, fun _ => {}),
      (.reconcileOverdueScheduledVouchers 50, fun _ => { now := 7 })]
    Runs.Always deliveryStep (OfVoucher 6 Dormant) {} ops ∧
      Runs.AllSteps deliveryStep (UsableByActivation 6) {} ops :=
  dormant_until_delivered 6 (by decide) (by decide +kernel)

/-- `update_voucher` activates the voucher as it is told, without a delivery. -/
theorem usable_before_delivery :
    let ops := [createScheduled,
      (.updateVoucher 6 { status := some GiftVoucherStatus.active.value }, fun _ => {})]
    ¬ OfVoucher 6 Dormant (Runs.run deliveryStep {} ops) ∧
      ¬ Runs.Always deliveryStep (OfVoucher 6 Dormant) {} ops := by
  have hrun : ¬ OfVoucher 6 Dormant (Runs.run deliveryStep {} [createScheduled,
      (.updateVoucher 6 { status := some GiftVoucherStatus.active.value }, fun _ => {})]) := by
    decide +kernel
  exact ⟨hrun, fun h => hrun h.last⟩

end PaymentLinks
