import UshBookNPay.Voucher.ActivationRuns
import UshBookNPay.Voucher.Proofs.RedemptionProofs

/-!
# Activations that overtake one another

An activation loads the voucher without a lock and writes it without looking at it again. A voucher that
is not scheduled any more is never scheduled again; so where each activation writes a voucher that is
still scheduled, and due, there is no second one.
-/

open Transactions (System Session Event Effect Effect.Quiet Calm Until Sends Exclusive quiet_empty
  calm_pure calm_throw calm_raiseIf calm_bind_query calm_ask calm_call calm_update until_pure
  until_throw until_bind_query until_bind_update sends_bind_call)
open Transactions.Prog (query ask call raiseIf update)

namespace Voucher

variable {voucherId : Uuid}

/-! ## The writes -/

/-- The voucher is scheduled. -/
def Pending (voucherId : Uuid) (d : Db) : Prop :=
  ∃ v, Table.get d.giftVouchers voucherId = some v ∧ v.status = .scheduled

/-- The update of a rescheduling or a cancellation: it does not make the voucher scheduled. -/
structure Edits (voucherId : Uuid) (e : Effect Db LockKey Emission) : Prop where
  locked : (voucherRow voucherId).lock ∈ e.locks
  pending : ∀ d, Pending voucherId (e.write d) → Pending voucherId d
  silent : e.emits = []
  valid : ∀ d : Db, Table.Unique d.giftVouchers → Table.Unique (e.write d).giftVouchers

/-- What an activation makes of the voucher at the time `now`. -/
def Activates (voucherId : Uuid) (now : Instant) (g : Db → Db) : Prop :=
  ∀ d v, Table.get d.giftVouchers voucherId = some v →
    ∃ w, Table.get (g d).giftVouchers voucherId = some w ∧ w.status = .active ∧
      w.deliveredAt = some now

/-- The update of an activation. -/
structure Delivers (voucherId : Uuid) (now : Instant) (e : Effect Db LockKey Emission) : Prop where
  locked : (voucherRow voucherId).lock ∈ e.locks
  writes : Activates voucherId now e.write
  silent : e.emits = []
  valid : ∀ d : Db, Table.Unique d.giftVouchers → Table.Unique (e.write d).giftVouchers

/-- The change an operation makes of the voucher, and what it does then. -/
def EditsThen {α : Type} (voucherId : Uuid) (e : Effect Db LockKey Emission) (rest : Tx α) : Prop :=
  Edits voucherId e ∧ Calm (voucherRow voucherId) rest

def DeliversThen {α : Type} (voucherId : Uuid) (e : Effect Db LockKey Emission) (rest : Tx α) : Prop :=
  (∃ now, Delivers voucherId now e) ∧ Sends (voucherRow voucherId) rest

theorem valid_modify {d : Db} {f : GiftVoucherRow → GiftVoucherRow} (hf : ∀ v, (f v).id = v.id)
    (h : Table.Unique d.giftVouchers) (k : Uuid) :
    Table.Unique (Table.modify d.giftVouchers k f) := h.modify hf k

theorem flushed_id {f : GiftVoucherRow → GiftVoucherRow} (hf : ∀ v, (f v).id = v.id)
    (a : PaymentAttribution.Attribution) (v : GiftVoucherRow) : ((f v).setAttribution a).id = v.id :=
  hf v

/-- An update of another voucher. -/
theorem calm_flushVoucher {o : Orm GiftVoucherRow} (hid : ∀ v, (o.changes v).id = v.id)
    (hne : o.row.id ≠ voucherId) : Calm (voucherRow voucherId) (flushVoucher o) := by
  have hkey := flushed_id hid o.row.attribution
  unfold flushVoucher
  refine (calm_update ?_ ?_ ?_).bind fun _ => calm_pure _
  · intro h
    have heq : LockKey.row "gift_vouchers" voucherId = .row "gift_vouchers" o.row.id :=
      List.mem_singleton.mp h
    injection heq with _ hid'
    exact hne hid'.symm
  · exact fun d => Table.get_modify_of_ne hkey (Ne.symm hne)
  · exact fun d hd => valid_modify hkey hd o.row.id

/-- What a flush writes into the row of the voucher. -/
def flushEffect (voucherId : Uuid) (f : GiftVoucherRow → GiftVoucherRow)
    (a : PaymentAttribution.Attribution) : Effect Db LockKey Emission :=
  { locks := [.row "gift_vouchers" voucherId]
    write := fun d => { d with
      giftVouchers := Table.modify d.giftVouchers voucherId fun r => (f r).setAttribution a } }

theorem get_flushEffect {f : GiftVoucherRow → GiftVoucherRow} (hf : ∀ v, (f v).id = v.id)
    (a : PaymentAttribution.Attribution) (d : Db) :
    Table.get ((flushEffect voucherId f a).write d).giftVouchers voucherId =
      (Table.get d.giftVouchers voucherId).map fun r => (f r).setAttribution a :=
  Table.get_modify_self (flushed_id hf a)

theorem edits_flushEffect {f : GiftVoucherRow → GiftVoucherRow} (hf : ∀ v, (f v).id = v.id)
    (hpending : ∀ v, (f v).status = .scheduled → v.status = .scheduled)
    (a : PaymentAttribution.Attribution) : Edits voucherId (flushEffect voucherId f a) := by
  constructor
  · exact List.mem_singleton_self _
  · rintro d ⟨w, hw, hstatus⟩
    rw [get_flushEffect hf] at hw
    obtain ⟨v, hv, rfl⟩ := Option.map_eq_some_iff.mp hw
    exact ⟨v, hv, hpending v hstatus⟩
  · rfl
  · exact fun d hd => valid_modify (flushed_id hf a) hd voucherId

/-- A flush of the voucher, and what follows it. -/
theorem until_bind_flush {β : Type} {F : Effect Db LockKey Emission → Tx β → Prop}
    {o : Orm GiftVoucherRow} {f : Orm GiftVoucherRow → Tx β} (hrow : o.row.id = voucherId)
    (h : ∀ a, F (flushEffect voucherId o.changes a) (f (.ofRow (o.row.setAttribution a)))) :
    Until (voucherRow voucherId) F (flushVoucher o >>= f) := by
  subst hrow
  exact fun _ _ _ => .inr (h o.row.attribution)

theorem until_reschedule (newScheduledDeliveryAt : DateTimeArg) :
    Until (voucherRow voucherId) (EditsThen voucherId)
      (rescheduleVoucher voucherId newScheduledDeliveryAt) := by
  unfold rescheduleVoucher
  refine until_bind_query fun d _ => ?_
  cases hv : Table.get d.giftVouchers voucherId with
  | none => exact until_throw _
  | some v =>
    refine (calm_raiseIf _ _).bind_until fun _ => ?_
    refine (calm_ask _).bind_until fun now => ?_
    refine (calm_raiseIf _ _).bind_until fun _ => ?_
    refine (calm_raiseIf _ _).bind_until fun _ => ?_
    refine (calm_ask _).bind_until fun schedule => ?_
    cases schedule with
    | none => exact until_throw _
    | some schedule =>
      have hrow : ((Orm.ofRow v).set (rescheduledColumns newScheduledDeliveryAt.kuwait schedule)).row.id =
          voucherId := (Table.get_some hv).2
      have hid : ∀ w, (rescheduledColumns newScheduledDeliveryAt.kuwait schedule w).id = w.id :=
        fun _ => rfl
      refine until_bind_flush (f := pure) hrow fun a => ⟨?_, calm_pure _⟩
      exact edits_flushEffect hid (fun _ h => h) a

theorem statusColumns_id (target : GiftVoucherStatus) (args : StatusArgs)
    (schedule : Option (String × String)) (now : Instant) (v : GiftVoucherRow) :
    (statusColumns target args schedule now v).id = v.id := by
  unfold statusColumns
  dsimp only
  split_ifs
  · rfl
  · rfl
  · rfl

theorem until_cancel (args : StatusArgs) :
    Until (voucherRow voucherId) (EditsThen voucherId)
      (updateStatus none voucherId .cancelled args) := by
  unfold updateStatus
  refine until_bind_query fun d _ => ?_
  cases hv : Table.get d.giftVouchers voucherId with
  | none => exact until_throw _
  | some v =>
    have htarget : redirect v .cancelled = .cancelled := if_neg fun h => by cases h.1
    show Until _ _ (raiseIf (¬ validTransition v.status (redirect v .cancelled)) _ >>= _)
    refine (calm_raiseIf _ _).bind_until fun _ => ?_
    refine Calm.bind_until ?_ fun schedule => ?_
    · split_ifs
      · exact calm_ask _
      · exact calm_pure _
    refine (calm_ask _).bind_until fun now => ?_
    have hrow : ((Orm.ofRow v).set (statusColumns (redirect v .cancelled) args schedule now)).row.id =
        voucherId := (statusColumns_id _ _ _ _ _).trans (Table.get_some hv).2
    refine until_bind_flush hrow fun a => ⟨?_, ?_⟩
    · refine edits_flushEffect (statusColumns_id _ _ _ _) (fun w hw => ?_) a
      have hcancelled : redirect v .cancelled = .scheduled := hw
      rw [htarget] at hcancelled
      cases hcancelled
    · refine (calm_call (fun _ => ?_) _).bind fun _ => calm_pure _
      show _ ∉ (if v.status = redirect v .cancelled then []
        else [Emission.voucherStatus voucherId (redirect v .cancelled)])
      rw [htarget]
      split_ifs
      · exact List.not_mem_nil
      · intro h
        injection List.mem_singleton.mp h with _ hstatus
        cases hstatus

/-! ## Activations -/

/-- The object of a voucher that the session has loaded. -/
def Loaded (k : Uuid) (known : Option (Orm GiftVoucherRow)) : Prop :=
  ∀ o, known = some o → ∃ v : GiftVoucherRow, o = .ofRow v ∧ v.id = k

theorem Loaded.getD {k : Uuid} {known : Option (Orm GiftVoucherRow)} (h : Loaded k known)
    {row : GiftVoucherRow} (hrow : row.id = k) :
    ∃ v : GiftVoucherRow, known.getD (.ofRow row) = .ofRow v ∧ v.id = k := by
  cases known with
  | none => exact ⟨row, rfl, hrow⟩
  | some o => exact h o rfl

theorem activates_flushEffect (result : Option Json) (now : Instant)
    (a : PaymentAttribution.Attribution) :
    Delivers voucherId now (flushEffect voucherId (activatedColumns result now) a) := by
  have hid : ∀ v, (activatedColumns result now v).id = v.id := fun _ => rfl
  constructor
  · exact List.mem_singleton_self _
  · intro d v hv
    refine ⟨(activatedColumns result now v).setAttribution a, ?_, rfl, rfl⟩
    rw [get_flushEffect hid, hv]
    rfl
  · rfl
  · exact fun d hd => valid_modify (flushed_id hid a) hd voucherId

theorem until_activate {known : Option (Orm GiftVoucherRow)} (hknown : Loaded voucherId known)
    (result : Option Json) :
    Until (voucherRow voucherId) (DeliversThen voucherId)
      (activateScheduledVoucher known voucherId result) := by
  unfold activateScheduledVoucher
  refine until_bind_query fun d _ => ?_
  cases hrow : Table.get d.giftVouchers voucherId with
  | none => exact until_throw _
  | some row =>
    obtain ⟨v, hv, hid⟩ := hknown.getD (Table.get_some hrow).2
    dsimp only
    rw [hv]
    split_ifs
    · exact until_pure _
    · refine (calm_ask _).bind_until fun now => ?_
      have hset : ((Orm.ofRow v).set (activatedColumns result now)).row.id = voucherId := hid
      refine until_bind_flush hset fun a => ⟨⟨now, activates_flushEffect result now a⟩, ?_⟩
      exact sends_bind_call (fun _ => rfl) fun _ => calm_pure _

/-- The activation of another voucher. -/
theorem calm_activate {k : Uuid} (hk : k ≠ voucherId) {known : Option (Orm GiftVoucherRow)}
    (hknown : Loaded k known) (result : Option Json) :
    Calm (voucherRow voucherId) (activateScheduledVoucher known k result) := by
  unfold activateScheduledVoucher
  refine calm_bind_query fun d => ?_
  cases hrow : Table.get d.giftVouchers k with
  | none => exact calm_throw _
  | some row =>
    obtain ⟨v, hv, hid⟩ := hknown.getD (Table.get_some hrow).2
    dsimp only
    rw [hv]
    split_ifs
    · exact calm_pure _
    · refine (calm_ask _).bind fun now => ?_
      have hset : ((Orm.ofRow v).set (activatedColumns result now)).row.id ≠ voucherId :=
        fun h => hk (hid.symm.trans h)
      refine (calm_flushVoucher (fun _ => rfl) hset).bind fun written => ?_
      refine (calm_call (fun _ h => ?_) _).bind fun _ => calm_pure _
      injection List.mem_singleton.mp h with hid' _
      exact hk hid'.symm

/-- An attempt does not raise what the program raises. -/
theorem until_attempt {α : Type} {caught : Error → Bool} {p : Tx α}
    (h : Until (voucherRow voucherId) (DeliversThen voucherId) p) :
    Until (voucherRow voucherId) (DeliversThen voucherId) (attempt caught p) := by
  have hhandler : ∀ e : Error, Calm (voucherRow voucherId)
      (if caught e then pure (.error e) else throw e : Tx (Except Error α)) := by
    intro e
    split_ifs
    · exact calm_pure _
    · exact calm_throw e
  refine Until.tryCatch ?_ ?_ fun e => (hhandler e).until
  · refine h.bind (fun e rest hrest => ⟨hrest.1, hrest.2.bind fun _ => calm_pure _⟩) fun a => ?_
    exact until_pure _
  · exact fun e rest hrest => ⟨hrest.1, hrest.2.tryCatch hhandler⟩

theorem calm_attempt {α : Type} {caught : Error → Bool} {p : Tx α}
    (h : Calm (voucherRow voucherId) p) : Calm (voucherRow voucherId) (attempt caught p) := by
  refine (h.bind fun _ => calm_pure _).tryCatch fun e => ?_
  split_ifs
  · exact calm_pure _
  · exact calm_throw e

theorem loaded_ofRow (v : GiftVoucherRow) : Loaded v.id (some (.ofRow v)) :=
  fun _ h => ⟨v, (Option.some.inj h).symm, rfl⟩

/-- The reconciler, where it has not found the voucher. -/
theorem calm_activateEach {vs : List GiftVoucherRow} (h : ∀ v ∈ vs, v.id ≠ voucherId) :
    Calm (voucherRow voucherId) (activateEach vs) := by
  induction vs with
  | nil => exact calm_pure _
  | cons v vs ih =>
    unfold activateEach
    refine (calm_ask _).bind fun now => ?_
    refine Calm.bind ?_ fun r => ?_
    · exact calm_attempt (calm_activate (h v List.mem_cons_self) (loaded_ofRow v) _)
    · exact (ih fun w hw => h w (List.mem_cons_of_mem v hw)).bind fun _ => calm_pure _

/-- The reconciler updates the voucher once at most. -/
theorem until_activateEach {vs : List GiftVoucherRow} (h : (vs.map (·.id)).Nodup) :
    Until (voucherRow voucherId) (DeliversThen voucherId) (activateEach vs) := by
  induction vs with
  | nil => exact until_pure _
  | cons v vs ih =>
    obtain ⟨hnot, hnodup⟩ := List.nodup_cons.mp h
    unfold activateEach
    refine (calm_ask _).bind_until fun now => ?_
    by_cases hid : v.id = voucherId
    · have hrest : ∀ w ∈ vs, w.id ≠ voucherId := by
        intro w hw heq
        exact hnot (List.mem_map.mpr ⟨w, hw, heq.trans hid.symm⟩)
      have hcalm := calm_activateEach hrest
      have hloaded := hid ▸ loaded_ofRow v
      rw [hid]
      refine (until_attempt (until_activate hloaded _)).bind ?_ ?_
      · exact fun e rest hr => ⟨hr.1, hr.2.bind fun _ => hcalm.bind fun _ => calm_pure _⟩
      · exact fun r => (hcalm.bind fun _ => calm_pure _).until
    · refine (calm_attempt (calm_activate hid (loaded_ofRow v) _)).bind_until fun r => ?_
      refine (ih hnodup).bind ?_ fun _ => until_pure _
      exact fun e rest hr => ⟨hr.1, hr.2.bind fun _ => calm_pure _⟩

theorem nodup_listOverdueScheduled {d : Db} (h : Table.Unique d.giftVouchers) (now : Instant)
    (limit : ℕ) : ((listOverdueScheduled now limit d).map (·.id)).Nodup := by
  unfold listOverdueScheduled
  refine List.Nodup.sublist ((List.take_sublist _ _).map _) ?_
  rw [((List.perm_insertionSort _ _).map _).nodup_iff]
  exact List.Nodup.sublist (List.filter_sublist.map _) h

theorem until_reconcile (limit : ℕ) :
    Until (voucherRow voucherId) (DeliversThen voucherId)
      (reconcileOverdueScheduledVouchers limit) := by
  unfold reconcileOverdueScheduledVouchers
  refine (calm_ask _).bind_until fun now => ?_
  exact until_bind_query fun d hd => until_activateEach (nodup_listOverdueScheduled hd now limit)

/-- The change of an operation. -/
def Changes (voucherId : Uuid) (op : DeliveryOp) (e : Effect Db LockKey Emission) (rest : Tx Unit) :
    Prop :=
  if op.activates then DeliversThen voucherId e rest else EditsThen voucherId e rest

theorem until_deliveryCode (op : DeliveryOp) :
    Until (voucherRow voucherId) (Changes voucherId op) (deliveryCode voucherId op) := by
  have hedits : ∀ {α : Type} {p : Tx α}, Until (voucherRow voucherId) (EditsThen voucherId) p →
      Until (voucherRow voucherId) (EditsThen voucherId) (discard p) := by
    intro α p hp
    refine hp.bind (fun e rest hr => ⟨hr.1, hr.2.bind fun _ => calm_pure _⟩) fun _ => until_pure _
  have hdelivers : ∀ {α : Type} {p : Tx α}, Until (voucherRow voucherId) (DeliversThen voucherId) p →
      Until (voucherRow voucherId) (DeliversThen voucherId) (discard p) := by
    intro α p hp
    refine hp.bind (fun e rest hr => ⟨hr.1, hr.2.bind fun _ => calm_pure _⟩) fun _ => until_pure _
  cases op with
  | reschedule newScheduledDeliveryAt => exact hedits (until_reschedule newScheduledDeliveryAt)
  | cancel args => exact hedits (until_cancel args)
  | reconcile limit => exact hdelivers (until_reconcile limit)
  | activate result => exact hdelivers (until_activate (fun _ h => by cases h) result)

/-! ## The invariant -/

variable {w w' : Watch} {t : DeliverySession} {d : Db}

/-- The committed voucher is scheduled, for no later than `now`. -/
def DueBy (voucherId : Uuid) (now : Instant) (d : Db) : Prop :=
  ∃ v, Table.get d.giftVouchers voucherId = some v ∧ v.status = .scheduled ∧
    ∀ due ∈ v.scheduledDeliveryAt, due ≤ now

theorem DueBy.pending {now : Instant} (h : DueBy voucherId now d) : Pending voucherId d := by
  obtain ⟨v, hv, hstatus, -⟩ := h
  exact ⟨v, hv, hstatus⟩

theorem DueBy.congr {now : Instant} {d' : Db} (h : DueBy voucherId now d)
    (heq : (voucherRow voucherId).part d' = (voucherRow voucherId).part d) :
    DueBy voucherId now d' := by
  obtain ⟨v, hv, hdue⟩ := h
  exact ⟨v, heq.trans hv, hdue⟩

/-- What a session in flight is about. One that does not hold the row lock has left the voucher alone;
one that does has updated it, and an activation among them finds a voucher that is still due. -/
inductive SessionFitsRow (voucherId : Uuid) (d : Db) (t : DeliverySession) : Prop
  | reading : (voucherRow voucherId).lock ∉ t.locks →
      (∀ d, (voucherRow voucherId).part (t.writes d) = (voucherRow voucherId).part d) →
      (voucherRow voucherId).loud ∉ t.emitted →
      Until (voucherRow voucherId) (Changes voucherId t.op) t.prog → SessionFitsRow voucherId d t
  | edited : t.op.activates = false → (voucherRow voucherId).lock ∈ t.locks →
      (∀ d, Pending voucherId (t.writes d) → Pending voucherId d) →
      (voucherRow voucherId).loud ∉ t.emitted → Calm (voucherRow voucherId) t.prog →
      SessionFitsRow voucherId d t
  | activated (now : Instant) : t.op.activates → (voucherRow voucherId).lock ∈ t.locks →
      Activates voucherId now t.writes → DueBy voucherId now d →
      ((voucherRow voucherId).loud ∉ t.emitted ∧ Sends (voucherRow voucherId) t.prog ∨
        (voucherRow voucherId).loud ∈ t.emitted ∧ Calm (voucherRow voucherId) t.prog) →
      SessionFitsRow voucherId d t

theorem SessionFitsRow.locked (h : SessionFitsRow voucherId d t)
    (hsent : (voucherRow voucherId).loud ∈ t.emitted) : (voucherRow voucherId).lock ∈ t.locks := by
  cases h with
  | reading _ _ hnot _ => exact (hnot hsent).elim
  | edited _ hlock _ _ _ => exact hlock
  | activated _ _ hlock _ _ _ => exact hlock

/-- A commit that leaves the voucher as it was. -/
theorem SessionFitsRow.congr {d' : Db} (h : SessionFitsRow voucherId d t)
    (heq : (voucherRow voucherId).part d' = (voucherRow voucherId).part d) :
    SessionFitsRow voucherId d' t := by
  cases h with
  | reading h1 h2 h3 h4 => exact .reading h1 h2 h3 h4
  | edited h1 h2 h3 h4 h5 => exact .edited h1 h2 h3 h4 h5
  | activated now h1 h2 h3 h4 h5 => exact .activated now h1 h2 h3 (h4.congr heq) h5

/-- A session that does not hold the lock, whatever becomes of the voucher. -/
theorem SessionFitsRow.of_unlocked {d' : Db} (h : SessionFitsRow voucherId d t)
    (hlock : (voucherRow voucherId).lock ∉ t.locks) : SessionFitsRow voucherId d' t := by
  cases h with
  | reading h1 h2 h3 h4 => exact .reading h1 h2 h3 h4
  | edited _ h _ _ _ => exact (hlock h).elim
  | activated _ _ h _ _ _ => exact (hlock h).elim

/-- While the voucher is scheduled it has not been activated, and only a transaction in flight can have
said that it is. -/
structure WatchFits (voucherId : Uuid) (w : Watch) : Prop where
  unique : Table.Unique w.system.db.giftVouchers
  valid : ∀ sid t, Table.get w.system.sessions sid = some t →
    ∀ d : Db, Table.Unique d.giftVouchers → Table.Unique (t.writes d).giftVouchers
  exclusive : Exclusive (voucherRow voucherId).lock w.system
  sessions : ∀ sid t, Table.get w.system.sessions sid = some t →
    SessionFitsRow voucherId w.system.db t
  pending : Pending voucherId w.system.db → w.activations = [] ∧ w.cancelled = false ∧
    ((voucherRow voucherId).loud ∈ w.system.log → ∃ sid t,
      Table.get w.system.sessions sid = some t ∧ (voucherRow voucherId).loud ∈ t.emitted)
  kept : ActivatedOnce voucherId w

theorem isCancelled_eq_false (h : Pending voucherId d) : isCancelled voucherId d = false := by
  obtain ⟨v, hv, hstatus⟩ := h
  unfold isCancelled
  rw [hv]
  simp [hstatus]

/-- The watch after an event that commits no activation. -/
def Watch.idle (voucherId : Uuid) (w : Watch) (s : DeliverySystem) : Watch :=
  { system := s
    activations := w.activations
    cancelled := w.cancelled || isCancelled voucherId s.db }

theorem deliveryStep_idle {ev : Event DeliveryOp Env} {s : DeliverySystem}
    (hsystem : w.system.step (deliveryCode voucherId) ev = s)
    (hnone : activations voucherId w ev = []) : deliveryStep voucherId w ev = w.idle voucherId s := by
  unfold deliveryStep
  rw [hsystem, hnone, List.append_nil]
  rfl

/-- An event that commits nothing. -/
theorem WatchFits.idle (h : WatchFits voucherId w) {s : DeliverySystem} (hdb : s.db = w.system.db)
    (hvalid : ∀ sid t, Table.get s.sessions sid = some t →
      ∀ d : Db, Table.Unique d.giftVouchers → Table.Unique (t.writes d).giftVouchers)
    (hexclusive : Exclusive (voucherRow voucherId).lock s)
    (hsessions : ∀ sid t, Table.get s.sessions sid = some t →
      SessionFitsRow voucherId w.system.db t)
    (hsent : Pending voucherId w.system.db → (voucherRow voucherId).loud ∈ s.log → ∃ sid t,
      Table.get s.sessions sid = some t ∧ (voucherRow voucherId).loud ∈ t.emitted)
    (hcount : s.log.count (voucherRow voucherId).loud ≤ 1) :
    WatchFits voucherId (w.idle voucherId s) := by
  constructor
  · show Table.Unique s.db.giftVouchers
    rw [hdb]
    exact h.unique
  · exact hvalid
  · exact hexclusive
  · show ∀ sid t, _ → SessionFitsRow voucherId s.db t
    rw [hdb]
    exact hsessions
  · intro hpending
    have hpending' : Pending voucherId w.system.db := hdb ▸ hpending
    obtain ⟨hnone, hcancelled, -⟩ := h.pending hpending'
    refine ⟨hnone, ?_, hsent hpending'⟩
    show (w.cancelled || isCancelled voucherId s.db) = false
    have hs : Pending voucherId s.db := hpending
    rw [hcancelled, isCancelled_eq_false hs, Bool.or_false]
  · exact ⟨h.kept.once, h.kept.due, h.kept.notCancelled, hcount⟩

/-- A session goes without a commit, having said nothing of an activation. -/
theorem WatchFits.gone (h : WatchFits voucherId w) {sid : ℕ}
    (hsilent : ∀ t, Table.get w.system.sessions sid = some t →
      (voucherRow voucherId).loud ∉ t.emitted) :
    WatchFits voucherId (w.idle voucherId
      { w.system with sessions := Table.erase w.system.sessions sid }) := by
  refine h.idle rfl ?_ (h.exclusive.erase _ sid) ?_ ?_ h.kept.event
  · exact fun i t ht => h.valid i t (Table.get_of_get_erase ht).2
  · exact fun i t ht => h.sessions i t (Table.get_of_get_erase ht).2
  · intro hpending hlog
    obtain ⟨i, t, ht, hsent⟩ := (h.pending hpending).2.2 hlog
    have hne : i ≠ sid := by
      rintro rfl
      exact hsilent t ht hsent
    exact ⟨i, t, (Table.get_erase_of_ne hne).trans ht, hsent⟩

theorem WatchFits.same (h : WatchFits voucherId w) : WatchFits voucherId (w.idle voucherId w.system) :=
  h.idle rfl h.valid h.exclusive h.sessions (fun hp => (h.pending hp).2.2) h.kept.event

theorem WatchFits.start (h : WatchFits voucherId w) (sid : ℕ) (op : DeliveryOp) :
    WatchFits voucherId (deliveryStep voucherId w (.start sid op)) := by
  by_cases hthere : (Table.get w.system.sessions sid).isSome
  · have hsystem : w.system.step (deliveryCode voucherId) (.start sid op) = w.system := if_pos hthere
    rw [deliveryStep_idle hsystem rfl]
    exact h.same
  · have hsystem : w.system.step (deliveryCode voucherId) (.start sid op) =
        { w.system with sessions := w.system.sessions ++
            [{ sid := sid, op := op, prog := deliveryCode voucherId op }] } := if_neg hthere
    rw [deliveryStep_idle hsystem rfl]
    refine h.idle rfl ?_ (h.exclusive.start rfl) ?_ ?_ h.kept.event
    · intro i t ht
      rcases System.get_started ht with rfl | ht
      · exact fun _ hd => hd
      · exact h.valid i t ht
    · intro i t ht
      rcases System.get_started ht with rfl | ht
      · exact .reading List.not_mem_nil (fun _ => rfl) List.not_mem_nil (until_deliveryCode op)
      · exact h.sessions i t ht
    · intro hpending hlog
      obtain ⟨i, t, ht, hsent⟩ := (h.pending hpending).2.2 hlog
      exact ⟨i, t, Table.get_append_of_some ht, hsent⟩

/-! ## Statements -/

/-- A statement of the session `t`, which says nothing of an activation, or is the first to. -/
theorem WatchFits.advance (h : WatchFits voucherId w)
    (ht : Table.get w.system.sessions t.sid = some t) {e : Effect Db LockKey Emission} {rest : Tx Unit}
    (hfree : w.system.blocked t.sid e.locks = false)
    (hvalid : ∀ d : Db, Table.Unique d.giftVouchers → Table.Unique (e.write d).giftVouchers)
    (hfits : SessionFitsRow voucherId w.system.db (t.advance e rest))
    (hemits : (voucherRow voucherId).loud ∉ e.emits ∨
      e.emits = [(voucherRow voucherId).loud] ∧ (voucherRow voucherId).loud ∉ w.system.log) :
    WatchFits voucherId (w.idle voucherId (w.system.advanced t e rest)) := by
  have hself : Table.get (w.system.advanced t e rest).sessions t.sid = some (t.advance e rest) := by
    have hkey : ∀ u : DeliverySession, Table.Keyed.key (u.advance e rest) = Table.Keyed.key u :=
      fun _ => rfl
    rw [System.advanced, Table.get_modify_self hkey, ht]
    rfl
  refine h.idle rfl ?_ (h.exclusive.advanced ht hfree rest) ?_ ?_ ?_
  · intro i u hu
    rcases System.get_advanced ht e rest hu with ⟨rfl, rfl⟩ | ⟨-, hu⟩
    · exact fun d hd => hvalid _ (h.valid _ t ht d hd)
    · exact h.valid i u hu
  · intro i u hu
    rcases System.get_advanced ht e rest hu with ⟨rfl, rfl⟩ | ⟨-, hu⟩
    · exact hfits
    · exact h.sessions i u hu
  · intro hpending hlog
    rcases List.mem_append.mp hlog with hold | hnew
    · obtain ⟨i, u, hu, hsent⟩ := (h.pending hpending).2.2 hold
      by_cases hi : i = t.sid
      · subst hi
        obtain rfl : t = u := Option.some.inj (ht.symm.trans hu)
        exact ⟨t.sid, _, hself, List.mem_append_left _ hsent⟩
      · have hkey : ∀ u : DeliverySession, Table.Keyed.key (u.advance e rest) = Table.Keyed.key u :=
          fun _ => rfl
        exact ⟨i, u, (Table.get_modify_of_ne hkey hi).trans hu, hsent⟩
    · exact ⟨t.sid, _, hself, List.mem_append_right _ hnew⟩
  · show (w.system.log ++ e.emits).count _ ≤ 1
    rw [List.count_append]
    rcases hemits with hsilent | ⟨hloud, hfirst⟩
    · rw [List.count_eq_zero_of_not_mem hsilent]
      exact h.kept.event
    · rw [List.count_eq_zero_of_not_mem hfirst, hloud]
      simp

theorem Activates.quiet {now : Instant} {g : Db → Db} (h : Activates voucherId now g)
    {e : Effect Db LockKey Emission} (he : e.Quiet (voucherRow voucherId)) :
    Activates voucherId now (e.write ∘ g) := by
  intro d v hv
  obtain ⟨x, hx, hactive⟩ := h d v hv
  exact ⟨x, (he.part (g d)).trans hx, hactive⟩

theorem Pending.of_quiet {e : Effect Db LockKey Emission} (he : e.Quiet (voucherRow voucherId))
    (h : Pending voucherId (e.write d)) : Pending voucherId d := by
  obtain ⟨v, hv, hstatus⟩ := h
  exact ⟨v, (he.part d).symm.trans hv, hstatus⟩

/-- The time the update records is not before the one that is scheduled. -/
theorem StillDue.dueBy {s : DeliverySystem} {now : Instant} {e : Effect Db LockKey Emission}
    (h : StillDue voucherId s t e) (he : Activates voucherId now e.write)
    (hpart : (voucherRow voucherId).part (t.writes s.db) = (voucherRow voucherId).part s.db) :
    DueBy voucherId now s.db := by
  obtain ⟨v, hv, hstatus, hdue⟩ := h
  obtain ⟨x, hx, -, hnow⟩ := he (t.writes s.db) v (hpart.trans hv)
  refine ⟨v, hv, hstatus, fun due hmem => ?_⟩
  obtain ⟨at', hat, hle⟩ := hdue due hmem
  rw [hx] at hat
  have heq : some now = some at' := hnow.symm.trans hat
  exact Option.some.inj heq ▸ hle

/-- The update of the voucher by the session `t`. -/
theorem WatchFits.change (h : WatchFits voucherId w) {answer : Env}
    (hon : OnTime voucherId w (.exec t.sid answer))
    (ht : Table.get w.system.sessions t.sid = some t)
    (hpart : ∀ d, (voucherRow voucherId).part (t.writes d) = (voucherRow voucherId).part d)
    (hsilent : (voucherRow voucherId).loud ∉ t.emitted) {e : Effect Db LockKey Emission}
    {rest : Tx Unit} (hnext : nextEffect w.system t answer = some e)
    (hfree : w.system.blocked t.sid e.locks = false) (hchange : Changes voucherId t.op e rest) :
    WatchFits voucherId (w.idle voucherId (w.system.advanced t e rest)) := by
  unfold Changes at hchange
  cases hop : t.op.activates with
  | true =>
    rw [hop, if_pos rfl] at hchange
    obtain ⟨⟨now, hdelivers⟩, hsends⟩ := hchange
    have hstill := hon t ht hop e hnext hdelivers.locked hfree
    refine h.advance ht hfree hdelivers.valid ?_ (.inl ?_)
    · refine .activated now hop (List.mem_append_right _ hdelivers.locked) ?_
        (hstill.dueBy hdelivers.writes (hpart _)) (.inl ⟨?_, hsends⟩)
      · exact fun d v hv => hdelivers.writes (t.writes d) v ((hpart d).trans hv)
      · show _ ∉ t.emitted ++ e.emits
        rw [hdelivers.silent, List.append_nil]
        exact hsilent
    · rw [hdelivers.silent]
      exact List.not_mem_nil
  | false =>
    rw [hop, if_neg Bool.false_ne_true] at hchange
    obtain ⟨hedits, hcalm⟩ := hchange
    refine h.advance ht hfree hedits.valid ?_ (.inl ?_)
    · refine .edited hop (List.mem_append_right _ hedits.locked) (fun d hd => ?_) ?_ hcalm
      · obtain ⟨v, hv, hstatus⟩ := hedits.pending (t.writes d) hd
        exact ⟨v, (hpart d).symm.trans hv, hstatus⟩
      · show _ ∉ t.emitted ++ e.emits
        rw [hedits.silent, List.append_nil]
        exact hsilent
    · rw [hedits.silent]
      exact List.not_mem_nil

/-- A session that has said that the voucher is active is the one that has updated it. -/
theorem WatchFits.not_mem_log (h : WatchFits voucherId w)
    (ht : Table.get w.system.sessions t.sid = some t) (hlock : (voucherRow voucherId).lock ∈ t.locks)
    (hpending : Pending voucherId w.system.db) (hsilent : (voucherRow voucherId).loud ∉ t.emitted) :
    (voucherRow voucherId).loud ∉ w.system.log := by
  intro hlog
  obtain ⟨i, u, hu, hsent⟩ := (h.pending hpending).2.2 hlog
  obtain rfl := h.exclusive i u t.sid t hu ht ((h.sessions i u hu).locked hsent) hlock
  obtain rfl : t = u := Option.some.inj (ht.symm.trans hu)
  exact hsilent hsent

theorem WatchFits.exec (h : WatchFits voucherId w) {sid : ℕ} {answer : Env}
    (hon : OnTime voucherId w (.exec sid answer)) :
    WatchFits voucherId (deliveryStep voucherId w (.exec sid answer)) := by
  cases ht : Table.get w.system.sessions sid with
  | none =>
    have hsystem : w.system.step (deliveryCode voucherId) (.exec sid answer) = w.system := by
      rw [System.step, System.withSession_none ht]
    rw [deliveryStep_idle hsystem rfl]
    exact h.same
  | some t =>
    obtain rfl : t.sid = sid := (Table.get_some ht).2
    rcases System.exec_advanced (deliveryCode voucherId) ht answer with hsame |
      ⟨eff, next, hprog, hfree, hstep⟩
    · rw [deliveryStep_idle hsame rfl]
      exact h.same
    rw [deliveryStep_idle hstep rfl]
    have hd := h.valid _ t ht _ h.unique
    cases h.sessions _ t ht with
    | reading hlock hpart hsilent hprogram =>
      rw [hprog] at hprogram
      rcases hprogram answer (t.writes w.system.db) hd with ⟨hquiet, huntil⟩ | hchange
      · refine h.advance ht hfree hquiet.valid (.reading ?_ ?_ ?_ huntil) (.inl hquiet.silent)
        · exact fun hmem => (List.mem_append.mp hmem).elim hlock hquiet.unlocked
        · exact fun d => (hquiet.part _).trans (hpart d)
        · exact fun hmem => (List.mem_append.mp hmem).elim hsilent hquiet.silent
      · refine h.change hon ht hpart hsilent ?_ hfree hchange
        unfold nextEffect
        rw [hprog]
    | edited hop hlock hpending hsilent hcalm =>
      rw [hprog] at hcalm
      obtain ⟨hquiet, hrest⟩ := hcalm answer (t.writes w.system.db) hd
      refine h.advance ht hfree hquiet.valid (.edited hop (List.mem_append_left _ hlock) ?_ ?_ hrest)
        (.inl hquiet.silent)
      · exact fun d hp => hpending d (hp.of_quiet hquiet)
      · exact fun hmem => (List.mem_append.mp hmem).elim hsilent hquiet.silent
    | activated now hop hlock hwrites hdue hstate =>
      rw [hprog] at hstate
      rcases hstate with ⟨hsilent, hsends⟩ | ⟨hsent, hcalm⟩
      · obtain ⟨heff, hrest⟩ := hsends answer (t.writes w.system.db)
        rw [heff] at hfree ⊢
        refine h.advance ht hfree (fun _ hd => hd) ?_
          (.inr ⟨rfl, h.not_mem_log ht hlock hdue.pending hsilent⟩)
        refine .activated now hop (List.mem_append_left _ hlock) hwrites hdue (.inr ⟨?_, hrest⟩)
        exact List.mem_append_right _ (List.mem_singleton_self _)
      · obtain ⟨hquiet, hrest⟩ := hcalm answer (t.writes w.system.db) hd
        refine h.advance ht hfree hquiet.valid ?_ (.inl hquiet.silent)
        exact .activated now hop (List.mem_append_left _ hlock) (hwrites.quiet hquiet) hdue
          (.inr ⟨List.mem_append_left _ hsent, hrest⟩)

/-! ## Commits -/

/-- The system once the session `t` has committed. -/
def committed (w : Watch) (t : DeliverySession) : DeliverySystem :=
  { w.system with
    db := t.writes w.system.db
    sessions := Table.erase w.system.sessions t.sid }

/-- A commit that is no activation. -/
theorem WatchFits.commit (h : WatchFits voucherId w)
    (ht : Table.get w.system.sessions t.sid = some t)
    (hpending : Pending voucherId (t.writes w.system.db) → Pending voucherId w.system.db)
    (hothers : ∀ sid u, sid ≠ t.sid → Table.get w.system.sessions sid = some u →
      SessionFitsRow voucherId (t.writes w.system.db) u)
    (hsilent : (voucherRow voucherId).loud ∉ t.emitted) :
    WatchFits voucherId (w.idle voucherId (committed w t)) := by
  constructor
  · exact h.valid _ t ht _ h.unique
  · exact fun i u hu => h.valid i u (Table.get_of_get_erase hu).2
  · exact h.exclusive.erase _ t.sid
  · intro i u hu
    obtain ⟨hne, hu⟩ := Table.get_of_get_erase hu
    exact hothers i u hne hu
  · intro hp
    have hs : Pending voucherId (t.writes w.system.db) := hp
    obtain ⟨hnone, hcancelled, hsent⟩ := h.pending (hpending hs)
    refine ⟨hnone, ?_, fun hlog => ?_⟩
    · show (w.cancelled || isCancelled voucherId (t.writes w.system.db)) = false
      rw [hcancelled, isCancelled_eq_false hs, Bool.or_false]
    · obtain ⟨i, u, hu, hmem⟩ := hsent hlog
      have hne : i ≠ t.sid := by
        rintro rfl
        obtain rfl : t = u := Option.some.inj (ht.symm.trans hu)
        exact hsilent hmem
      exact ⟨i, u, (Table.get_erase_of_ne hne).trans hu, hmem⟩
  · exact ⟨h.kept.once, h.kept.due, h.kept.notCancelled, h.kept.event⟩

/-- A commit of an activation, which is the first. -/
theorem WatchFits.commit_activation (h : WatchFits voucherId w)
    (ht : Table.get w.system.sessions t.sid = some t) (hlock : (voucherRow voucherId).lock ∈ t.locks)
    {now : Instant} (hwrites : Activates voucherId now t.writes)
    (hdue : DueBy voucherId now w.system.db) :
    WatchFits voucherId { w.idle voucherId (committed w t) with
      activations := w.activations ++ [activationOf voucherId w t] } := by
  obtain ⟨hnone, hcancelled, -⟩ := h.pending hdue.pending
  obtain ⟨v, hv, -, hle⟩ := hdue
  obtain ⟨x, hx, hactive, hnow⟩ := hwrites w.system.db v hv
  constructor
  · exact h.valid _ t ht _ h.unique
  · exact fun i u hu => h.valid i u (Table.get_of_get_erase hu).2
  · exact h.exclusive.erase _ t.sid
  · intro i u hu
    obtain ⟨hne, hu⟩ := Table.get_of_get_erase hu
    refine (h.sessions i u hu).of_unlocked fun hmem => ?_
    exact hne (h.exclusive i u t.sid t hu ht hmem hlock)
  · rintro ⟨y, hy, hstatus⟩
    have hyx : x = y := Option.some.inj (hx.symm.trans hy)
    rw [← hyx, hactive] at hstatus
    cases hstatus
  · rw [hnone, List.nil_append]
    refine ⟨le_of_eq rfl, fun a ha => ?_, fun a ha => ?_, h.kept.event⟩
    · obtain rfl := List.mem_singleton.mp ha
      intro due hmem
      have hdue' : v.scheduledDeliveryAt = some due := by
        have hmem' : (Table.get w.system.db.giftVouchers voucherId).bind (·.scheduledDeliveryAt) =
            some due := hmem
        rw [hv] at hmem'
        exact hmem'
      refine ⟨now, ?_, hle due hdue'⟩
      show (Table.get (t.writes w.system.db).giftVouchers voucherId).bind (·.deliveredAt) = some now
      rw [hx]
      exact hnow
    · obtain rfl := List.mem_singleton.mp ha
      exact hcancelled

theorem activations_finish (ht : Table.get w.system.sessions t.sid = some t) :
    activations voucherId w (.finish t.sid) =
      if commitsActivation voucherId t then [activationOf voucherId w t] else [] := by
  show ((Table.get w.system.sessions t.sid).filter (commitsActivation voucherId)).toList.map _ = _
  rw [ht, Option.filter_some]
  split_ifs
  · rfl
  · rfl

theorem WatchFits.finish (h : WatchFits voucherId w) {sid : ℕ}
    (hon : OnTime voucherId w (.finish sid)) :
    WatchFits voucherId (deliveryStep voucherId w (.finish sid)) := by
  cases ht : Table.get w.system.sessions sid with
  | none =>
    have hsystem : w.system.step (deliveryCode voucherId) (.finish sid) = w.system := by
      rw [System.step, System.withSession_none ht]
    have hnone : activations voucherId w (.finish sid) = [] := by
      show ((Table.get w.system.sessions sid).filter _).toList.map _ = _
      rw [ht]
      rfl
    rw [deliveryStep_idle hsystem hnone]
    exact h.same
  | some t =>
    obtain rfl : t.sid = sid := (Table.get_some ht).2
    cases hprog : t.prog with
    | stmt eff next =>
      have hsystem : w.system.step (deliveryCode voucherId) (.finish t.sid) = w.system := by
        rw [System.step, System.withSession_some ht, System.finish, hprog]
      have hnone : activations voucherId w (.finish t.sid) = [] := by
        rw [activations_finish ht, if_neg (by simp [commitsActivation, Session.committing, hprog])]
      rw [deliveryStep_idle hsystem hnone]
      exact h.same
    | raise e =>
      have hnone : activations voucherId w (.finish t.sid) = [] := by
        rw [activations_finish ht, if_neg (by simp [commitsActivation, Session.committing, hprog])]
      rw [deliveryStep_idle (System.step_rollback _ ht hprog) hnone]
      refine h.gone fun u hu => hon u hu ?_
      obtain rfl : t = u := Option.some.inj (ht.symm.trans hu)
      unfold raised
      rw [hprog]
    | ret a =>
      have hsystem := System.step_commit (deliveryCode voucherId) ht hprog
      cases h.sessions _ t ht with
      | reading hlock hpart hsilent _ =>
        have hnone : activations voucherId w (.finish t.sid) = [] := by
          rw [activations_finish ht, if_neg (by simp [commitsActivation, hlock])]
        rw [deliveryStep_idle hsystem hnone]
        refine h.commit ht ?_ ?_ hsilent
        · rintro ⟨v, hv, hstatus⟩
          exact ⟨v, (hpart _).symm.trans hv, hstatus⟩
        · exact fun i u _ hu => (h.sessions i u hu).congr (hpart _)
      | edited hop hlock hpending hsilent _ =>
        have hnone : activations voucherId w (.finish t.sid) = [] := by
          rw [activations_finish ht, if_neg (by simp [commitsActivation, hop])]
        rw [deliveryStep_idle hsystem hnone]
        refine h.commit ht (hpending _) ?_ hsilent
        intro i u hne hu
        refine (h.sessions i u hu).of_unlocked fun hmem => ?_
        exact hne (h.exclusive i u t.sid t hu ht hmem hlock)
      | activated now hop hlock hwrites hdue _ =>
        have hone : activations voucherId w (.finish t.sid) = [activationOf voucherId w t] := by
          rw [activations_finish ht, if_pos]
          simp [commitsActivation, Session.committing, hprog, hop, hlock]
        have hstep : deliveryStep voucherId w (.finish t.sid) =
            { w.idle voucherId (committed w t) with
              activations := w.activations ++ [activationOf voucherId w t] } := by
          unfold deliveryStep
          rw [hsystem, hone]
          rfl
        rw [hstep]
        exact h.commit_activation ht hlock hwrites hdue

theorem WatchFits.step (h : WatchFits voucherId w) {ev : Event DeliveryOp Env}
    (hon : OnTime voucherId w ev) : WatchFits voucherId (deliveryStep voucherId w ev) := by
  cases ev with
  | start sid op => exact h.start sid op
  | exec sid answer => exact h.exec hon
  | finish sid => exact h.finish hon
  | crash sid =>
    have hsystem : w.system.step (deliveryCode voucherId) (.crash sid) =
        { w.system with sessions := Table.erase w.system.sessions sid } := rfl
    rw [deliveryStep_idle hsystem rfl]
    exact h.gone hon

/-! ## Runs -/

/-- A voucher whose delivery is scheduled. -/
def scheduledVoucher : Db :=
  { giftVouchers :=
    [{ id := 1, senderId := 2, status := .scheduled, totalAmount := 0, deliveryMode := .scheduled
       scheduledDeliveryAt := some 1000 }] }

/-- A rescheduling, and the message of the new schedule. -/
def rescheduled : List (Event DeliveryOp Env) :=
  [.start 1 (.reschedule (.aware 5000)), .exec 1 {}, .exec 1 { now := 10 },
    .exec 1 { schedule := some ("s", "arn") }, .exec 1 {}, .finish 1,
    .start 2 (.activate none), .exec 2 {}, .exec 2 { now := 5000 }, .exec 2 {}, .exec 2 {}, .finish 2]

/-- The message of the schedule comes twice, once it is due. -/
def deliveredTwice : List (Event DeliveryOp Env) :=
  [.start 1 (.activate none), .start 2 (.activate none), .exec 1 {}, .exec 2 {},
    .exec 1 { now := 1000 }, .exec 2 { now := 1000 }, .exec 1 {}, .exec 1 {}, .finish 1,
    .exec 2 {}, .exec 2 {}, .finish 2]

/-- The message of the first schedule comes late, after a rescheduling. -/
def deliveredLate : List (Event DeliveryOp Env) :=
  [.start 1 (.reschedule (.aware 5000)), .exec 1 {}, .exec 1 { now := 999 },
    .exec 1 { schedule := some ("s", "arn") }, .exec 1 {}, .finish 1,
    .start 2 (.activate none), .exec 2 {}, .exec 2 { now := 1001 }, .exec 2 {}, .exec 2 {}, .finish 2]

end Voucher
