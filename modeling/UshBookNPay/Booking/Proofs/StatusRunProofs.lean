import UshBookNPay.Booking.Proofs.ConcurrentCreateProofs
import UshBookNPay.Booking.Proofs.SparingProofs

/-!
# The status of a booking and its history

Every call takes the lock of the booking before it reads its status, and writes a history entry with
every status it sets. So the history of a booking is complete however the calls are interleaved.
-/

open Transactions
open Transactions.Prog (query queryForUpdate update checkedUpdate raiseIf ask emit forSome savepoint)

namespace Booking

/-! ## Columns that keep the status -/

section Columns

variable (b : BookingRow)

@[simp] theorem primaryFields_status (entries : List ServiceEntry) :
    (primaryFields entries b).status = b.status := by
  cases entries with
  | nil => rfl
  | cons first rest => rfl

@[simp] theorem replaceSessions_status (args : UpdateArgs) :
    (replaceSessions args b).status = b.status := by
  unfold replaceSessions
  cases args.sessions with
  | none => rfl
  | some sessions =>
    cases sessions with
    | nil => rfl
    | cons first rest =>
      dsimp only
      split_ifs
      · simp [mirrorColumns]
      · simp [mirrorColumns]

@[simp] theorem replaceServices_status (args : UpdateArgs) :
    (replaceServices args b).status = b.status := by
  unfold replaceServices
  cases args.services with
  | none => rfl
  | some entries => simp

@[simp] theorem applyTiming_status (args : UpdateArgs) : (applyTiming args b).status = b.status := by
  unfold applyTiming
  by_cases htouched : TouchesTiming args b
  · rw [if_pos htouched]
  · rw [if_neg htouched]
    split_ifs
    · rfl
    · rfl

@[simp] theorem applyArrangement_status (args : UpdateArgs) :
    (applyArrangement args b).status = b.status := by
  unfold applyArrangement
  dsimp only
  split_ifs
  · cases getBookingServices _ with
    | nil => rfl
    | cons first rest => rfl
  · rfl

@[simp] theorem mergePaymentData_status (data : Option (List (String × Json))) :
    (mergePaymentData data b).status = b.status := by
  cases data with
  | none => rfl
  | some fields => rfl

@[simp] theorem updatedColumns_status (args : UpdateArgs) :
    (updatedColumns args b).status = b.status := by
  have hpayment : ∀ b' : BookingRow, (applyPayment args b').status = b'.status :=
    fun b' => mergePaymentData_status b' args.paymentData
  have hpricing : ∀ b' : BookingRow, (applyPricing args b').status = b'.status := fun _ => rfl
  unfold updatedColumns replacedRow
  dsimp only
  split_ifs
  · simp [hpayment, hpricing]
  · simp [hpayment, hpricing]

@[simp] theorem changedColumns_status (sessionId : Uuid) (args : ChangeArgs) :
    (changedColumns sessionId args b).status = b.status := by
  unfold changedColumns
  cases changeSession sessionId (changeTherapists args) (getBookingSessions b) with
  | nil => rfl
  | cons first rest => rfl

@[simp] theorem confirmedColumns_status (data : Option (List (String × Json))) :
    (confirmedColumns data b).status = .confirmed :=
  mergePaymentData_status _ data

@[simp] theorem paidColumns_status (data : Option (List (String × Json))) :
    (paidColumns data b).status = b.status := by
  unfold paidColumns
  cases data with
  | none => rfl
  | some fields => rfl

theorem mergePaymentData_id (data : Option (List (String × Json))) :
    (mergePaymentData data b).id = b.id := by
  cases data with
  | none => rfl
  | some fields => rfl

theorem paidColumns_id (data : Option (List (String × Json))) : (paidColumns data b).id = b.id := by
  cases data with
  | none => rfl
  | some fields => rfl

end Columns

/-! ## The parts -/

section Parts

variable {L : Option BookingStatus → BookingStatus → Prop} {k : Uuid} {es : List Emission}
  {v₀ : Option BookingStatus × List BookingStatusHistoryRow} {α β : Type}

theorem spares_tables {p : Tx α} (h : Spares Db.bookingTables p) : Spares statusParts.all p :=
  h.comp fun x k => ((Table.get x.1 k).map (·.status), x.2.filter (·.bookingId = k))

theorem spares_parts {p : Tx α} (h : Spares Db.audited p) : Spares statusParts.all p :=
  spares_tables (h.comp Prod.fst)

/-- The statuses once one booking is written. -/
theorem status_modify {rows : List BookingRow} {id : Uuid} {f : BookingRow → BookingRow}
    (hid : ∀ r, (f r).id = r.id) (k : Uuid) :
    (Table.get (Table.modify rows id f) k).map (·.status) =
      (Table.get rows k).map fun r => if k = id then (f r).status else r.status := by
  by_cases h : k = id
  · subst h
    rw [Table.get_modify_self hid]
    cases Table.get rows k with
    | none => rfl
    | some r => simp
  · rw [Table.get_modify_of_ne hid h]
    cases Table.get rows k with
    | none => rfl
    | some r => simp [h]

/-- A write of a booking that keeps its status. -/
theorem spares_flushBooking {o : Orm BookingRow} (hid : ∀ r, (o.changes r).id = r.id)
    (hs : ∀ r, (o.changes r).status = r.status) :
    Spares statusParts.all (flushBooking o) := by
  unfold flushBooking
  generalize o.row.attribution = a
  refine Spares.bind (spares_update fun d => ?_) fun _ => spares_pure _
  funext k
  refine Prod.ext ?_ rfl
  show (Table.get (Table.modify d.bookings o.row.id _) k).map _ = _
  rw [status_modify (f := fun r => (o.changes r).setAttribution a) fun r => hid r]
  show _ = (Table.get d.bookings k).map (·.status)
  cases Table.get d.bookings k with
  | none => rfl
  | some r =>
    show some _ = some r.status
    congr 1
    split_ifs
    · exact hs r
    · rfl

/-- What a write of the booking `k` does to its status. -/
theorem rewrites_booking {s s' : BookingStatus} {h : List BookingStatusHistoryRow}
    {f : BookingRow → BookingRow} (hid : ∀ r, (f r).id = r.id)
    (hs : ∀ r, r.status = s → (f r).status = s') :
    Rewrites statusParts k (some s, h) (some s', h)
      fun d => { d with bookings := Table.modify d.bookings k f } := by
  constructor
  · intro d hd
    have hpart : statusOf k d = some s ∧ historyOf k d = h := Prod.mk.inj hd
    refine Prod.ext ?_ hpart.2
    show (Table.get (Table.modify d.bookings k f) k).map _ = some s'
    have hold : (Table.get d.bookings k).map (·.status) = some s := hpart.1
    rw [status_modify hid k]
    cases hb : Table.get d.bookings k with
    | none =>
      rw [hb] at hold
      cases hold
    | some b =>
      rw [hb] at hold
      have hstatus : b.status = s := Option.some.inj hold
      simp [hs b hstatus]
  · intro j hj d
    refine Prod.ext ?_ rfl
    show (Table.get (Table.modify d.bookings k f) j).map _ = (Table.get d.bookings j).map _
    rw [status_modify hid j]
    cases Table.get d.bookings j with
    | none => rfl
    | some r => simp [hj]

/-- A write of the booking `k` that makes its status `s'`. -/
theorem holding_bind_flushBooking {o : Orm BookingRow} {s s' : BookingStatus}
    {h : List BookingStatusHistoryRow} {f : Orm BookingRow → Tx α}
    {Q : List Emission → Except Error α →
      Option BookingStatus × List BookingStatusHistoryRow → Prop}
    (hk : o.row.id = k) (hid : ∀ r, (o.changes r).id = r.id)
    (hs : ∀ r, r.status = s → (o.changes r).status = s')
    (hf : ∀ a, Holding statusParts k Q (f (Orm.ofRow (o.row.setAttribution a))) es
      (some s', h)) :
    Holding statusParts k Q (flushBooking o >>= f) es (some s, h) := by
  unfold flushBooking
  generalize o.row.attribution = a
  have hw : Rewrites statusParts k (some s, h) (some s', h) fun d : Db =>
      { d with bookings := Table.modify d.bookings k fun r => (o.changes r).setAttribution a } :=
    rewrites_booking hid hs
  rw [hk]
  intro _ _ _
  refine ⟨(some s', h), hw, ?_⟩
  rw [List.append_nil]
  exact hf a

/-- A history entry of the booking `k`. -/
theorem holding_bind_addHistory {r : BookingStatusHistoryRow} {s : Option BookingStatus}
    {h : List BookingStatusHistoryRow} {f : Unit → Tx α}
    {Q : List Emission → Except Error α →
      Option BookingStatus × List BookingStatusHistoryRow → Prop}
    (hk : r.bookingId = k)
    (hf : Holding statusParts k Q (f ()) es (s, h ++ [r])) :
    Holding statusParts k Q (addBookingHistory r >>= f) es (s, h) := by
  have hw : Rewrites statusParts k (s, h) (s, h ++ [r]) fun d : Db =>
      { d with bookingStatusHistory := d.bookingStatusHistory ++ [r] } := by
    constructor
    · intro d hd
      have hpart : statusOf k d = s ∧ historyOf k d = h := Prod.mk.inj hd
      refine Prod.ext hpart.1 ?_
      show (d.bookingStatusHistory ++ [r]).filter _ = h ++ [r]
      rw [List.filter_append, List.filter_singleton]
      simp only [hk, decide_true, cond_true]
      exact congrArg (· ++ [r]) hpart.2
    · intro j hj d
      refine Prod.ext rfl ?_
      show (d.bookingStatusHistory ++ [r]).filter _ = d.bookingStatusHistory.filter _
      have hne : ¬ r.bookingId = j := fun heq => hj (heq.symm.trans hk)
      rw [List.filter_append, List.filter_singleton]
      simp [hne]
  exact holding_bind_update hw hf

theorem Grows.refl (v : Option BookingStatus × List BookingStatusHistoryRow) : Grows L v v := by
  refine ⟨[], (List.append_nil _).symm, rfl, fun r hr => ?_⟩
  cases hr

theorem Grows.trans {v v' v'' : Option BookingStatus × List BookingStatusHistoryRow}
    (h : Grows L v v') (h' : Grows L v' v'') : Grows L v v'' := by
  obtain ⟨new, hhistory, hexplains, hall⟩ := h
  obtain ⟨new', hhistory', hexplains', hall'⟩ := h'
  refine ⟨new ++ new', ?_, Trail.append_iff.mpr ⟨_, hexplains, hexplains'⟩, fun r hr => ?_⟩
  · rw [hhistory', hhistory, List.append_assoc]
  · rcases List.mem_append.mp hr with hr | hr
    · exact hall r hr
    · exact hall' r hr

/-- One more entry, of a status set from the last one. -/
theorem Grows.snoc {s : Option BookingStatus} {h : List BookingStatusHistoryRow}
    {r : BookingStatusHistoryRow} (hgrows : Grows L v₀ (s, h)) (hold : r.oldStatus = s)
    (hL : L r.oldStatus r.newStatus) : Grows L v₀ (some r.newStatus, h ++ [r]) := by
  refine hgrows.trans ⟨[r], rfl, ⟨hold, rfl⟩, fun r' hr' => ?_⟩
  rw [List.mem_singleton.mp hr']
  exact hL

/-- The lock of the booking is taken to load it. -/
theorem guards_getById {f : BookingRow → Tx α}
    (hf : ∀ b h v₀, b.id = k → Grows L v₀ (some b.status, h) →
      Holding statusParts k (AtCommit fun _ => Grows L v₀) (f b) es (some b.status, h)) :
    Guards statusParts (growing L) (getById k >>= f) es := by
  intro a d
  refine .inr ⟨k, statusParts.part k d, List.mem_singleton.mpr rfl,
    rewrites_of_spared (fun _ => rfl) k _, ?_⟩
  show Holding _ k (AtCommit fun _ => Grows L (statusOf k d, historyOf k d)) _ (es ++ [])
    (statusOf k d, historyOf k d)
  rw [List.append_nil]
  unfold statusOf
  generalize historyOf k d = h
  cases hb : Table.get d.bookings k with
  | none =>
    dsimp only
    rw [hb]
    trivial
  | some b =>
    dsimp only
    rw [hb]
    exact hf b h _ (Table.get_some hb).2 (Grows.refl _)

/-! ## The calls -/

/-- The entries `L` lets pass: the first of a booking, and what the state machine allows. -/
structure Admits (L : Option BookingStatus → BookingStatus → Prop) : Prop where
  created : ∀ s, L none s
  allowed : ∀ s s', s' ∈ validTransitions s → L (some s) s'

/-- The sequence rule for a program that leaves the parts alone. -/
theorem Spares.bind_commit {G : Option BookingStatus × List BookingStatusHistoryRow → Prop}
    {v : Option BookingStatus × List BookingStatusHistoryRow} {p : Tx α} {f : α → Tx β}
    (hp : Spares statusParts.all p)
    (hf : ∀ a es', Holding statusParts k (AtCommit fun _ => G) (f a) es' v) :
    Holding statusParts k (AtCommit fun _ => G) (p >>= f) es v :=
  hp.bind_holding (fun a es' _ => hf a es') fun _ _ _ => trivial

/-- A program that leaves the parts alone, with the part good already. -/
theorem Spares.commit {G : Option BookingStatus × List BookingStatusHistoryRow → Prop}
    {v : Option BookingStatus × List BookingStatusHistoryRow} {p : Tx α}
    (hp : Spares statusParts.all p) (hG : G v) :
    Holding statusParts k (AtCommit fun _ => G) p es v := by
  refine hp.holding fun _ r _ => ?_
  cases r with
  | ok a => exact hG
  | error e => trivial

section Calls

variable {s : BookingStatus} {h : List BookingStatusHistoryRow}

theorem spares_ensureBookingInvoice (b : BookingRow) :
    Spares statusParts.all (ensureBookingInvoice b) := by
  unfold ensureBookingInvoice
  split_ifs
  · exact spares_pure _
  · exact (spares_parts (spares_setPaymentInvoices _ _)).bind fun _ => spares_pure _
  · refine (spares_ask _).bind fun found => ?_
    rcases found with _ | ⟨id, name⟩
    · exact spares_pure _
    · refine Spares.ite (spares_pure _) ?_
      refine (spares_flushBooking (fun _ => rfl) fun _ => rfl).bind fun _ => ?_
      exact (spares_parts (spares_setPaymentInvoices _ _)).bind fun _ => spares_pure _

theorem guards_confirmBooking (hL : Admits L) (bookingId : Uuid)
    (paymentData : Option (List (String × Json))) (source : String) :
    Guards statusParts (growing L) (confirmBooking bookingId paymentData source) es := by
  refine guards_getById fun b h v₀ hk hgood => ?_
  by_cases hconfirmed : b.status = .confirmed
  · rw [if_pos hconfirmed]
    refine holding_bind_flushBooking ((paidColumns_id b paymentData).trans hk)
      (fun r => paidColumns_id r paymentData)
      (fun r hr => (paidColumns_status r paymentData).trans hr) fun a => ?_
    exact Spares.commit (spares_ensureBookingInvoice _) hgood
  · rw [if_neg hconfirmed]
    refine holding_bind_raiseIf (fun hvalid => ?_) trivial
    refine holding_bind_flushBooking ((mergePaymentData_id _ paymentData).trans hk)
      (fun r => mergePaymentData_id _ paymentData)
      (fun r _ => confirmedColumns_status r paymentData) fun a => ?_
    refine holding_bind_addHistory rfl ?_
    have hgood' := Grows.snoc (r := ⟨bookingId, some b.status, .confirmed, source, ""⟩) hgood rfl
      (hL.allowed _ _ (not_not.mp hvalid))
    refine Spares.bind_commit (spares_ensureBookingInvoice _) fun booking _ => ?_
    exact Spares.commit ((spares_emit _).bind fun _ => spares_pure _) hgood'

theorem guards_requestReschedule (hL : Admits L) (bookingId : Uuid) (newStart newEnd : Instant)
    (customerId : Uuid) (source : String) :
    Guards statusParts (growing L) (requestReschedule bookingId newStart newEnd customerId source) es := by
  refine guards_getById fun b h v₀ hk hgood => ?_
  refine holding_bind_raiseIf (fun _ => ?_) trivial
  refine Spares.bind_commit (spares_raiseIf _ _) fun _ _ => ?_
  refine Spares.bind_commit ((spares_ask _).bind fun _ => spares_raiseIf _ _) fun _ _ => ?_
  refine holding_bind_raiseIf (fun hvalid => ?_) trivial
  refine holding_bind_flushBooking hk (fun _ => rfl) (fun _ _ => rfl) fun a => ?_
  refine holding_bind_addHistory rfl ?_
  have hgood' := Grows.snoc (r := ⟨bookingId, some b.status, .rescheduleRequested, source,
    rescheduleNote newStart newEnd⟩) hgood rfl (hL.allowed _ _ (not_not.mp hvalid))
  exact Spares.commit (spares_pure _) hgood'

theorem guards_changeSessionTherapist (bookingId sessionId : Uuid) (args : ChangeArgs) :
    Guards statusParts (growing L) (changeSessionTherapist bookingId sessionId args) es := by
  refine guards_getById fun b h v₀ hk hgood => ?_
  cases (getBookingSessions b).find? (·.sessionId = sessionId) with
  | none => trivial
  | some target =>
    have hflush : ∀ es, Holding statusParts bookingId (AtCommit fun _ => Grows L v₀)
        (flushBooking ((Orm.ofRow b).set (assignUpdated (changedColumns sessionId args b))) >>=
          fun written => pure written.row) es (some b.status, h) := by
      intro es
      refine holding_bind_flushBooking hk (fun _ => rfl) (fun r _ => ?_) fun a => hgood
      exact changedColumns_status b sessionId args
    refine Spares.bind_commit (spares_raiseIf _ _) fun _ _ => ?_
    refine Spares.bind_commit (spares_forSome fun t => spares_checkNewTherapist _ _ t) fun _ _ => ?_
    refine Spares.bind_commit (spares_forSome fun t => spares_checkNewTherapist _ _ t) fun _ _ => ?_
    refine Spares.bind_commit (spares_raiseIf _ _) fun _ _ => ?_
    split_ifs
    · refine Spares.bind_commit (spares_forSome fun t => ?_) fun _ => hflush
      exact spares_parts (spares_moveHold _ _ _)
    · exact hflush _

/-- `update_booking`; where it sets a status, `L` lets every entry pass. -/
theorem guards_updateBooking (bookingId : Uuid) (args : UpdateArgs)
    (hargs : args.status = none ∨ ∀ s s', L (some s) s') :
    Guards statusParts (growing L) (updateBooking bookingId args) es := by
  refine guards_getById fun b h v₀ hk hgood => ?_
  refine Spares.bind_commit (spares_checkReplacement _ _) fun _ _ => ?_
  refine Spares.bind_commit (spares_checkServices _) fun _ _ => ?_
  refine Spares.bind_commit (spares_checkTherapists _ _ _) fun _ _ => ?_
  have hupdated := updatedColumns_status b args
  generalize updatedColumns args b = updated at hupdated ⊢
  dsimp only
  by_cases hchanged : args.status.getD b.status ≠ b.status
  · rw [if_pos hchanged]
    have hany : ∀ s s', L (some s) s' := by
      rcases hargs with hnone | hany
      · rw [hnone] at hchanged
        exact (hchanged rfl).elim
      · exact hany
    generalize args.status.getD b.status = status
    have hwrite : ∀ (now : Instant) (rest : Orm BookingRow → Tx BookingRow),
        (∀ o, Spares statusParts.all (rest o)) →
        ∀ es, Holding statusParts bookingId (AtCommit fun _ => Grows L v₀)
          (flushBooking ((Orm.ofRow b).set (assignUpdated (applyStatus args status now updated))) >>=
            fun written => addBookingHistory
              { bookingId := bookingId, oldStatus := some b.status, newStatus := status
                source := args.source, reason := Text.orEmpty args.reason } >>= fun _ => rest written)
          es (some b.status, h) := by
      intro now rest hrest es
      refine holding_bind_flushBooking hk (fun _ => rfl) (fun _ _ => rfl) fun a => ?_
      refine holding_bind_addHistory rfl ?_
      exact Spares.commit (hrest _) (Grows.snoc (r := ⟨bookingId, some b.status, status, args.source,
        Text.orEmpty args.reason⟩) hgood rfl (hany _ _))
    have hquiet : ∀ o : Orm BookingRow,
        Spares statusParts.all (pure o.row : Tx BookingRow) := fun o => spares_pure _
    have hloud : ∀ o : Orm BookingRow, Spares statusParts.all
        (dispatchStatusEvent o.row status >>= fun _ => pure o.row) :=
      fun o => (spares_dispatchStatusEvent _ _).bind fun _ => spares_pure _
    refine Spares.bind_commit (spares_checkParking _ _ _) fun _ _ => ?_
    refine Spares.bind_commit (spares_ask _) fun now _ => ?_
    split_ifs
    · exact Spares.bind_commit (spares_parts (spares_deleteHold _)) fun _ => hwrite now _ hquiet
    · exact Spares.bind_commit (spares_parts (spares_deleteHold _)) fun _ => hwrite now _ hloud
    · exact hwrite now _ hquiet _
    · exact hwrite now _ hloud _
  · rw [if_neg hchanged]
    refine holding_bind_flushBooking hk (fun _ => rfl) (fun r _ => hupdated) fun a => ?_
    exact Spares.commit (Spares.ite ((spares_emit _).bind fun _ => spares_pure _) (spares_pure _)) hgood

/-! ### Creating -/

/-- What an insert does to the statuses. -/
theorem rewrites_insert (row : BookingRow) (h : List BookingStatusHistoryRow) :
    Rewrites statusParts row.id (none, h) (some row.status, h)
      fun d => { d with bookings := d.bookings ++ [row] } := by
  constructor
  · intro d hd
    have hpart : statusOf row.id d = none ∧ historyOf row.id d = h := Prod.mk.inj hd
    refine Prod.ext ?_ hpart.2
    have hnone : Table.get d.bookings row.id = none := Option.map_eq_none_iff.mp hpart.1
    show (Table.get (d.bookings ++ [row]) row.id).map _ = some row.status
    have hget : Table.get (d.bookings ++ [row]) row.id = some row := Table.get_append_new hnone
    rw [hget]
    rfl
  · intro j hj d
    refine Prod.ext ?_ rfl
    show (Table.get (d.bookings ++ [row]) j).map _ = (Table.get d.bookings j).map _
    have hlast : Table.get [row] j = none := by
      have hne : ¬ row.id = j := fun heq => hj heq.symm
      simp [Table.get, Table.Keyed.key, hne]
    rw [Table.get_append, hlast, Option.or_none]

theorem guards_bind_insertBooking {b : BookingRow} {f : BookingRow → Tx α}
    (hf : ∀ (row : BookingRow) h v₀, Grows L v₀ (none, h) →
      Holding statusParts row.id (AtCommit fun _ => Grows L v₀) (f row) es (some row.status, h)) :
    Guards statusParts (growing L) (insertBooking b >>= f) es := by
  unfold insertBooking
  generalize b.beforeWrite = row
  rw [Prog.bind_assoc]
  refine guards_bind_checkedUpdate (i := row.id) (List.mem_singleton.mpr rfl) ?_
  intro d hconflict
  have hfree : Table.get d.bookings row.id = none := by
    unfold bookingConflict at hconflict
    split_ifs at hconflict with hid
    simpa using hid
  have hpart : statusParts.part row.id d = (none, historyOf row.id d) := by
    refine Prod.ext ?_ rfl
    show (Table.get d.bookings row.id).map _ = none
    rw [hfree]
    rfl
  rw [hpart]
  exact ⟨_, rewrites_insert row _, hf row _ _ (Grows.refl _)⟩

theorem guards_writeNew (hL : Admits L) (args : CreateArgs) :
    Guards statusParts (growing L) (writeNew args) es := by
  refine (spares_generateBookingNumber _).bind_guards fun number _ _ => ?_
  refine (spares_ask _).bind_guards fun id _ _ => guards_bind_insertBooking fun row h v₀ hgood => ?_
  refine Spares.bind_commit (spares_parts (spares_holdBooking row)) fun _ _ => ?_
  refine holding_bind_addHistory rfl ?_
  have hgood' := Grows.snoc (r := ⟨row.id, none, row.status, args.source, ""⟩) hgood rfl
    (hL.created _)
  refine Spares.commit ?_ hgood'
  exact Spares.ite ((spares_emit _).bind fun _ => spares_pure _) (spares_pure _)

theorem guards_createBooking (hL : Admits L) (args : CreateArgs) :
    Guards statusParts (growing L) (createBooking args) es := by
  refine guards_bind_raiseIf fun _ => guards_bind_raiseIf fun _ => ?_
  refine (spares_query _).bind_guards fun existing _ _ => ?_
  cases existing with
  | some b => exact (spares_pure b).guards
  | none =>
    rw [createNew_eq]
    refine guards_bind_raiseIf fun _ => ?_
    split_ifs
    · exact (spares_checkSessionSlots _).bind_guards fun _ _ _ => guards_writeNew hL args
    · refine (spares_checkSlot _ _ _).bind_guards fun _ _ _ => ?_
      exact (spares_forSome fun t => spares_checkSlot _ _ t).bind_guards fun _ _ _ =>
        guards_writeNew hL args

/-! ### Cancelling -/

theorem spares_cancelPayment (args : CancelArgs) (b : BookingRow) :
    Spares statusParts.all (cancelPayment args b) := by
  unfold cancelPayment
  split_ifs
  · refine (spares_parts (spares_ensureCancellationRefund args b)).attempt.bind fun _ => ?_
    exact spares_pure _
  · refine (spares_flushBooking (fun _ => rfl) fun _ => rfl).bind fun written => ?_
    refine Spares.bind ?_ fun _ => spares_pure _
    exact (spares_parts (spares_syncBookingPaymentStatus _ _ _)).savepoint.attempt.discard
  · exact spares_pure _

theorem spares_cancelAndDeleteLinks (s : PaymentLinks.PaymentLinkService) (bookingId : Uuid) :
    Spares statusParts.all
      (PaymentLinks.cancelAndDeleteLinksForTarget s .booking bookingId) := by
  refine (spares_queryForUpdate _ _).bind fun links => ?_
  refine (spares_tables (PaymentLinks.spares_cancelAndDelete s links)).bind fun _ => ?_
  rw [if_pos rfl]
  refine (spares_queryForUpdate _ _).bind fun row => ?_
  cases row with
  | none => exact spares_pure _
  | some b =>
    dsimp only
    cases PaymentLinks.listed (b.paymentData.bind (·.field? "cancelled_invoice_ids")) with
    | error exc => exact spares_throw _
    | ok listed =>
      refine (PaymentLinks.spares_cancelAtGateway _ _).bind fun _ => (spares_ask _).bind fun _ => ?_
      exact (spares_flushBooking (fun _ => rfl) fun _ => rfl).discard.bind fun _ => spares_pure _

theorem spares_cancelBookingPaymentLinks (settings : PaymentLinks.LinkSettings) (b : BookingRow) :
    Spares statusParts.all (cancelBookingPaymentLinks settings b) := by
  refine Spares.bind (Spares.attempt ?_) fun _ => spares_pure _
  refine (PaymentLinks.spares_getGateway _ _).bind fun gateway => ?_
  refine (spares_cancelAndDeleteLinks _ _).discard.bind fun _ => (spares_query _).bind fun row => ?_
  exact (spares_flushBooking (fun _ => rfl) fun _ => rfl).bind fun _ => spares_pure _

theorem guards_cancelBooking (hL : Admits L) (settings : PaymentLinks.LinkSettings)
    (bookingId : Uuid) (args : CancelArgs) :
    Guards statusParts (growing L) (cancelBooking settings bookingId args) es := by
  refine guards_getById fun b h v₀ hk hgood => ?_
  refine Spares.bind_commit (spares_raiseIf _ _) fun _ _ => ?_
  refine holding_bind_raiseIf (fun hvalid => ?_) trivial
  refine holding_bind_flushBooking hk (fun _ => rfl) (fun _ _ => rfl) fun a => ?_
  refine Spares.bind_commit (spares_parts (spares_deleteHold _)) fun _ _ => ?_
  refine holding_bind_addHistory rfl ?_
  have hgood' := Grows.snoc (r := ⟨bookingId, some b.status, .cancelled, args.cancelledBy,
    args.reason⟩) hgood rfl (hL.allowed _ _ (not_not.mp hvalid))
  refine Spares.bind_commit (spares_cancelPayment _ _) fun paid _ => ?_
  refine Spares.bind_commit (spares_emit _) fun _ _ => ?_
  exact Spares.commit (spares_cancelBookingPaymentLinks _ _) hgood'

/-! ### Settling -/

/-- A settlement confirms the bookings the state machine lets it confirm. -/
theorem confirmedStatus_cases (b : BookingRow) :
    (PaymentLinks.confirmedStatus b).status = b.status ∧
        (∀ r : BookingRow, r.status = b.status → (PaymentLinks.confirmedStatus r).status = b.status) ∨
      (PaymentLinks.confirmedStatus b).status = .confirmed ∧ b.status ≠ .confirmed ∧
        .confirmed ∈ validTransitions b.status ∧
        ∀ r : BookingRow, r.status = b.status → (PaymentLinks.confirmedStatus r).status = .confirmed := by
  have hopen : ∀ r : BookingRow, r.status ∈ ([.requested, .paymentPending, .draft] : List _) →
      (PaymentLinks.confirmedStatus r).status = .confirmed := by
    intro r hr
    rw [PaymentLinks.confirmedStatus, if_pos hr]
  have hclosed : ∀ r : BookingRow, r.status ∉ ([.requested, .paymentPending, .draft] : List _) →
      (PaymentLinks.confirmedStatus r).status = r.status := by
    intro r hr
    rw [PaymentLinks.confirmedStatus, if_neg hr]
  by_cases hb : b.status ∈ ([.requested, .paymentPending, .draft] : List BookingStatus)
  · right
    refine ⟨hopen b hb, ?_, ?_, fun r hr => hopen r (hr ▸ hb)⟩
    · intro heq
      rw [heq] at hb
      exact absurd hb (by decide)
    · have hvalid : ∀ s ∈ ([.requested, .paymentPending, .draft] : List BookingStatus),
          .confirmed ∈ validTransitions s := by decide
      exact hvalid _ hb
  · left
    exact ⟨hclosed b hb, fun r hr => (hclosed r (hr ▸ hb)).trans hr⟩

/-- The part is good wherever a settlement ends, also where it raises. -/
theorem holding_confirmPaid (hL : Admits L) {link : PaymentLinkRow} {b : BookingRow}
    {paidAt : Instant} {f : BookingRow → Tx α} (hk : b.id = k)
    (hgood : Grows L v₀ (some b.status, h))
    (hf : ∀ booking, Spares statusParts.all (f booking)) :
    Holding statusParts k (fun _ _ => Grows L v₀)
      (PaymentLinks.confirmBooking link b paidAt >>= f) es (some b.status, h) := by
  have hid : ∀ r, (PaymentLinks.paidBooking link paidAt (PaymentLinks.confirmedStatus r)).id = r.id := by
    intro r
    show (PaymentLinks.confirmedStatus r).id = r.id
    unfold PaymentLinks.confirmedStatus
    split_ifs
    · rfl
    · rfl
  unfold PaymentLinks.confirmBooking
  rw [Prog.bind_assoc]
  rcases confirmedStatus_cases b with ⟨hsame, hkeeps⟩ | ⟨hnew, hne, hvalid, hsets⟩
  · refine holding_bind_flushBooking ((hid b).trans hk) hid hkeeps fun a => ?_
    rw [if_pos hsame]
    exact (hf _).holding fun _ _ _ => hgood
  · refine holding_bind_flushBooking ((hid b).trans hk) hid hsets fun a => ?_
    have hchanged : (PaymentLinks.confirmedStatus b).status ≠ b.status :=
      fun heq => hne (heq.symm.trans hnew)
    rw [if_neg hchanged]
    let entry : BookingStatusHistoryRow :=
      ⟨b.id, some b.status, .confirmed, "payment_link_" ++ link.gateway,
        "Payment link settled via webhook/callback"⟩
    show Holding _ k _ (addBookingHistory entry >>= fun _ => f _) _ _
    refine holding_bind_addHistory hk ?_
    have hgood' := Grows.snoc (r := entry) hgood rfl (hL.allowed _ _ hvalid)
    exact (hf _).holding fun _ _ _ => hgood'

/-- `_settle_booking` once the booking is loaded. -/
def settleLoaded (link : Orm PaymentLinkRow) (paidAt : Instant) (row : Option BookingRow) :
    Tx (Orm PaymentLinkRow) :=
  match row with
  | none => throw (.validation "Booking no longer exists.")
  | some row => do
    raiseIf (row.status ∈ PaymentLinks.NOT_PAYABLE_BOOKING)
      (.bookingState ("Booking is " ++ row.status.value ++ "."))
    let booking ← PaymentLinks.confirmBooking link.row row paidAt
    let payment ← PaymentLinks.settlePayment link.row (fun p => p.bookingId = some booking.id)
      (PaymentLinks.bookingPayment link.row booking paidAt)
      (PaymentLinks.settledBookingPayment link.row paidAt)
    emit (.paymentLinkPaid (PaymentLinks.paidEvent link.row booking paidAt))
    pure (link.set (PaymentLinks.setPaymentRow payment.id))

theorem settleBooking_eq (link : Orm PaymentLinkRow) (paidAt : Instant) :
    PaymentLinks.settleBooking link paidAt =
      (queryForUpdate (fun _ => [.row "bookings" link.row.targetId])
        (fun d => Table.get d.bookings link.row.targetId) >>= settleLoaded link paidAt) := rfl

theorem holding_settleLoaded (hL : Admits L) (link : Orm PaymentLinkRow) (paidAt : Instant)
    {row : Option BookingRow} (hk : ∀ b ∈ row, b.id = k)
    (hgood : Grows L v₀ (row.map (·.status), h)) :
    Holding statusParts k (fun _ _ => Grows L v₀) (settleLoaded link paidAt row) es
      (row.map (·.status), h) := by
  cases row with
  | none => exact hgood
  | some b =>
    refine holding_bind_raiseIf (fun _ => ?_) hgood
    refine holding_confirmPaid hL (hk b rfl) hgood fun booking => ?_
    refine (spares_parts (PaymentLinks.spares_settlePayment _ _ _ _)).bind fun _ => ?_
    exact (spares_emit _).bind fun _ => spares_pure _

/-- The part is good after a program that may raise, whether the exception is caught or not. -/
theorem holding_bind_attempt {G : Option BookingStatus × List BookingStatusHistoryRow → Prop}
    {v : Option BookingStatus × List BookingStatusHistoryRow} {caught : Error → Bool} {p : Tx α}
    {f : Except Error α → Tx β} (hp : Holding statusParts k (fun _ _ => G) p es v)
    (hf : ∀ r es' v', G v' → Holding statusParts k (AtCommit fun _ => G) (f r) es' v') :
    Holding statusParts k (AtCommit fun _ => G) (attempt caught p >>= f) es v := by
  refine hp.attempt.bind ?_ fun _ _ _ _ => trivial
  rintro r es' v' ⟨_, hG, _⟩
  exact hf r es' v' hG

theorem guards_bind_settleTarget (hL : Admits L) (link : Orm PaymentLinkRow) (paidAt : Instant)
    {f : Orm PaymentLinkRow × Option Error → Tx α}
    (hf : ∀ x, Spares statusParts.all (f x)) :
    Guards statusParts (growing L) (PaymentLinks.settleTarget link paidAt >>= f) es := by
  unfold PaymentLinks.settleTarget
  cases link.row.targetType with
  | booking =>
    rw [Prog.bind_assoc, settleBooking_eq]
    intro a d
    refine .inr ⟨link.row.targetId, statusParts.part link.row.targetId d,
      List.mem_singleton.mpr rfl, rewrites_of_spared (fun _ => rfl) _ _, ?_⟩
    refine holding_bind_attempt (p := settleLoaded link paidAt (Table.get d.bookings link.row.targetId))
      (holding_settleLoaded hL link paidAt (fun b hb => (Table.get_some hb).2) (Grows.refl _))
      fun r es' v hG => ?_
    cases r with
    | ok link => exact Spares.commit (hf _) hG
    | error exc => exact Spares.commit (hf _) hG
  | giftVoucher =>
    refine Spares.guards (Spares.bind ?_ hf)
    refine (spares_parts (PaymentLinks.spares_payVoucher _ _)).attempt.bind fun r => ?_
    cases r with
    | error exc => exact spares_pure _
    | ok paid =>
      refine (spares_parts (PaymentLinks.spares_activateVoucher _ _ _ _)).attempt.bind fun r => ?_
      cases r with
      | ok _ => exact spares_pure _
      | error exc => exact spares_pure _
  | product => exact (hf _).guards

/-- A state is applied to a link; what follows leaves the statuses alone. -/
theorem guards_bind_apply (hL : Admits L) (row : PaymentLinkRow)
    (state : PaymentLinks.GatewayPaymentState) (source : String)
    {f : PaymentLinks.SettlementOutcome × Orm PaymentLinkRow → Tx α}
    (hf : ∀ x, Spares statusParts.all (f x)) :
    Guards statusParts (growing L) (PaymentLinks.apply (.ofRow row) state source >>= f) es := by
  unfold PaymentLinks.apply
  cases state.status with
  | paid =>
    show Guards _ _ (PaymentLinks.applyPaid (.ofRow row) state source >>= f) es
    unfold PaymentLinks.applyPaid
    split_ifs
    · exact (hf _).guards
    · exact (hf _).guards
    · rw [Prog.bind_assoc]
      refine (spares_ask _).bind_guards fun now _ _ => ?_
      rw [Prog.bind_assoc]
      refine (spares_tables (spares_flushLink _)).bind_guards fun link _ _ => ?_
      rw [Prog.bind_assoc]
      refine guards_bind_settleTarget hL link now fun x => ?_
      rcases x with ⟨link, failure⟩
      cases failure with
      | some exc => exact (spares_tables (PaymentLinks.spares_refundNotActivatable _ _ _)).bind hf
      | none => exact (spares_tables (spares_flushLink _)).bind fun _ => hf _
  | failed =>
    show Guards _ _ (PaymentLinks.recordFailure (.ofRow row) state source >>= f) es
    unfold PaymentLinks.recordFailure
    split_ifs
    · exact (hf _).guards
    · refine Spares.guards (Spares.bind ?_ hf)
      exact (spares_ask _).bind fun _ => Spares.bind (spares_call _ _) fun _ => spares_pure _
  | expired => exact (hf _).guards
  | canceled => exact (hf _).guards
  | pending => exact (hf _).guards

theorem guards_applyTo (hL : Admits L) (linkId : Uuid) (state : PaymentLinks.GatewayPaymentState)
    (source : String) :
    Guards statusParts (growing L) (PaymentLinks.applyTo linkId state source) es := by
  refine (PaymentLinks.spares_getLockedLink _).bind_guards fun row _ _ => ?_
  cases row with
  | none => trivial
  | some row =>
    refine guards_bind_apply hL row state source fun x => ?_
    exact (spares_tables (spares_flushLink x.2)).discard.bind fun _ => spares_pure _

theorem guards_statusCode (hL : Admits L) (settings : PaymentLinks.LinkSettings) (op : StatusOp)
    (hop : LeavesStatus op ∨ ∀ s s', L (some s) s') :
    Guards statusParts (growing L) (statusCode settings op) es := by
  cases op with
  | createBooking args => exact (guards_createBooking hL args).discard
  | updateBooking bookingId args => exact (guards_updateBooking bookingId args hop).discard
  | changeSessionTherapist bookingId sessionId args =>
    exact (guards_changeSessionTherapist bookingId sessionId args).discard
  | confirmBooking bookingId paymentData source =>
    exact (guards_confirmBooking hL bookingId paymentData source).discard
  | cancelBooking bookingId args => exact (guards_cancelBooking hL settings bookingId args).discard
  | requestReschedule bookingId newStart newEnd customerId source =>
    exact (guards_requestReschedule hL bookingId newStart newEnd customerId source).discard
  | settleLink linkId state source => exact (guards_applyTo hL linkId state source).discard

end Calls

end Parts

/-! ## Runs -/

section Runs

variable {L : Option BookingStatus → BookingStatus → Prop}

/-- However the calls are interleaved, the histories grow. -/
theorem always_grows (hL : Admits L) (settings : PaymentLinks.LinkSettings) {Ok : StatusOp → Prop}
    (hop : ∀ op, Ok op → LeavesStatus op ∨ ∀ s s', L (some s) s') {d : Db}
    {evs : List (Event StatusOp Env)}
    (h : Runs.AllSteps (System.step (statusCode settings)) (Starting Ok) ({ db := d } : StatusSystem)
      evs) :
    Runs.Always (System.step (statusCode settings))
      (fun s => ∀ k, Grows L (statusOf k d, historyOf k d) (statusOf k s.db, historyOf k s.db))
      ({ db := d } : StatusSystem) evs := by
  have hmoves := allSteps_moves (F := fun _ => Eq) (G := fun _ => growing L)
    (fun _ _ _ _ h h' => h.trans h') (fun _ _ _ _ _ h => h ▸ Grows.refl _)
    (fun op hok => .inl (guards_statusCode hL settings op (hop op hok))) h
  exact always_moved (R := fun _ => Grows L) (fun _ => Grows.refl) (fun _ _ _ _ => Grows.trans)
    (fun _ _ _ _ _ h => h) hmoves

/-- However the calls are interleaved, the history of a booking only grows, and its new entries explain
what has become of its status. -/
theorem history_explains_status (settings : PaymentLinks.LinkSettings) (d : Db)
    (evs : List (Event StatusOp Env)) :
    Runs.Always (System.step (statusCode settings))
      (fun s => ∀ bookingId, ∃ new, historyOf bookingId s.db = historyOf bookingId d ++ new ∧
        Explains new (statusOf bookingId d) (statusOf bookingId s.db))
      ({ db := d } : StatusSystem) evs := by
  have hadmits : Admits fun _ _ => True := ⟨fun _ => trivial, fun _ _ _ => trivial⟩
  have hsteps : Runs.AllSteps (System.step (statusCode settings)) (Starting fun _ => True)
      ({ db := d } : StatusSystem) evs := allSteps_starting (fun _ => trivial) _ evs
  have hrun := always_grows hadmits settings (fun _ _ => .inr fun _ _ => trivial) hsteps
  refine hrun.mono fun s hs k => ?_
  obtain ⟨new, hhistory, hexplains, -⟩ := hs k
  exact ⟨new, hhistory, hexplains⟩

/-- Entries that the state machine allows lead a booking along its transitions. -/
theorem reachable_of_explains {entries : List BookingStatusHistoryRow} {a : BookingStatus}
    {s' : Option BookingStatus} (h : Explains entries (some a) s')
    (hlawful : ∀ r ∈ entries, Lawful r.oldStatus r.newStatus) :
    ∃ b, s' = some b ∧ Relation.ReflTransGen Allowed a b := by
  induction entries generalizing a with
  | nil => exact ⟨a, h.symm, .refl⟩
  | cons r rest ih =>
    obtain ⟨hold, hrest⟩ := h
    obtain ⟨b, hb, hpath⟩ := ih hrest fun r' hr' => hlawful r' (List.mem_cons_of_mem r hr')
    exact ⟨b, hb, .head (hlawful r List.mem_cons_self a hold) hpath⟩

/-- As long as no update names a status, every booking goes along the transitions of the state machine,
however the calls are interleaved. -/
theorem status_follows_machine (settings : PaymentLinks.LinkSettings) (d : Db)
    (evs : List (Event StatusOp Env))
    (h : Runs.AllSteps (System.step (statusCode settings)) (Starting LeavesStatus)
      ({ db := d } : StatusSystem) evs) :
    Runs.Always (System.step (statusCode settings))
      (fun s => ∀ bookingId a, statusOf bookingId d = some a →
        ∃ b, statusOf bookingId s.db = some b ∧ Relation.ReflTransGen Allowed a b)
      ({ db := d } : StatusSystem) evs := by
  have hadmits : Admits Lawful := by
    constructor
    · rintro s s' ⟨⟩
    · rintro s s' hvalid _ ⟨⟩
      exact hvalid
  have hrun := always_grows hadmits settings (fun op hop => .inl hop) h
  refine hrun.mono fun s hs k a ha => ?_
  obtain ⟨new, -, hexplains, hlawful⟩ := hs k
  have hexplains' : Explains new (some a) (statusOf k s.db) := ha ▸ hexplains
  exact reachable_of_explains hexplains' hlawful

/-- A cancellation waits for the lock of the request for another time before it. -/
theorem status_follows_machine_contended :
    let settings : PaymentLinks.LinkSettings :=
      { adapter := fun name => { name := name, providerLabel := name } }
    let b : BookingRow :=
      { id := 1, customerId := 5, therapistId := 3, totalAmount := 20000, status := .confirmed
        appointmentStart := minutes 600, appointmentEnd := minutes 660 }
    let evs : List (Event StatusOp Env) :=
      [.start 1 (.requestReschedule 1 (minutes 900) (minutes 960) 5 "customer"), .exec 1 {},
        .start 2 (.cancelBooking 1 {}), .exec 2 {}, .exec 1 {}, .exec 1 {}, .exec 1 {}, .finish 1,
        .exec 2 {}, .exec 2 {}]
    Runs.Always (System.step (statusCode settings))
      (fun s => ∀ bookingId a, statusOf bookingId { bookings := [b] } = some a →
        ∃ b', statusOf bookingId s.db = some b' ∧ Relation.ReflTransGen Allowed a b')
      ({ db := { bookings := [b] } } : StatusSystem) evs := by
  intro settings b evs
  refine status_follows_machine settings { bookings := [b] } evs ?_
  exact ⟨trivial, trivial, trivial, trivial, trivial, trivial, trivial, trivial, trivial, trivial,
    trivial⟩

end Runs

end Booking
