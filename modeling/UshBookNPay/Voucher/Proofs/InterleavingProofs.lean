import UshBookNPay.Voucher.Proofs.RedemptionProofs
import UshBookNPay.Voucher.RedemptionRuns

/-!
# Redemptions that overtake one another

A redemption writes the list it has loaded with its own record at the end. The list in the database
stays complete exactly when no other redemption commits in between.
-/

open Transactions (System Session Event Leaves Queries leaves_throw leaves_bind_ask leaves_bind_call
  leaves_bind_update queries_bind_query)
open Transactions.Prog (ask)

namespace Voucher

variable {voucherId : Uuid} {args : UpdateArgs} {now : Instant} {v w : GiftVoucherRow}

/-! ## What a redemption writes -/

theorem usedServiceIds_eq (v : GiftVoucherRow) :
    usedServiceIds v = v.redemptions.flatMap servicesOf := by
  unfold usedServiceIds servicesOf
  simp only [List.map_flatMap, List.filter_flatMap]

/-- The record `r` names services, none of which the redemptions `seen` name. -/
structure NewRecord (seen : List Redemption) (r : Redemption) : Prop where
  some : servicesOf r ≠ []
  fresh : ∀ s ∈ servicesOf r, s ∉ seen.flatMap servicesOf

theorem NewRecord.not_mem {seen : List Redemption} {r : Redemption} (h : NewRecord seen r) :
    r ∉ seen := by
  intro hr
  obtain ⟨s, hs⟩ := List.exists_mem_of_ne_nil _ h.some
  exact h.fresh s hs (List.mem_flatMap.mpr ⟨r, hr, hs⟩)

theorem recordRedemption_newRecord {r : RedemptionRequest} {status : GiftVoucherStatus}
    (h : recordRedemption args r now v = .ok (w, status)) :
    ∃ record, w.redemptions = v.redemptions ++ [record] ∧ NewRecord v.redemptions record := by
  unfold recordRedemption at h
  split_ifs at h with hstatus
  obtain ⟨entries, hentries, h⟩ := Fallible.bind_eq_ok.mp h
  split_ifs at h with hempty
  obtain ⟨-, hmem⟩ := usedEntries_spec hentries
  have hw := congrArg Prod.fst (Except.ok.inj h)
  dsimp only at hw
  refine ⟨_, by rw [← hw]; rfl, ?_, ?_⟩
  · have hself : (entries.map (·.serviceId)).filter (· ≠ "") = entries.map (·.serviceId) := by
      rw [List.filter_eq_self]
      intro s hs
      simpa using giftedIds_ne_empty (hmem s hs).1
    unfold servicesOf
    rw [hself]
    simpa using hempty
  · intro s hs
    rw [← usedServiceIds_eq]
    exact (hmem s (List.mem_filter.mp hs).1).2.1

theorem changeStatus_redemptions {status : Option GiftVoucherStatus}
    (h : changeStatus args status now v = .ok w) : w.redemptions = v.redemptions := by
  unfold changeStatus at h
  cases status with
  | none =>
    cases h
    rfl
  | some target =>
    dsimp only at h
    split_ifs at h
    all_goals
      cases h
      rfl

/-- An update with a redemption puts one record at the end. -/
theorem updatedVoucher_newRecord {r : RedemptionRequest} (hr : args.redemption = some r)
    (h : updatedVoucher args now v = .ok w) :
    ∃ record, w.redemptions = v.redemptions ++ [record] ∧ NewRecord v.redemptions record := by
  unfold updatedVoucher at h
  rw [hr] at h
  obtain ⟨⟨recorded, status⟩, hrecord, h⟩ := Fallible.bind_eq_ok.mp h
  obtain ⟨moved, hmoved, h⟩ := Fallible.bind_eq_ok.mp h
  obtain ⟨delivering, hdelivering, h⟩ := Fallible.bind_eq_ok.mp h
  obtain rfl := Except.ok.inj h
  obtain ⟨delivery, rfl⟩ := changeDelivery_spec hdelivering
  rw [(applyFields_kept args _).1]
  show ∃ record, moved.redemptions = _ ∧ _
  rw [changeStatus_redemptions hmoved]
  cases hrec : recordRedemption args r now v with
  | error e =>
    rw [hrec] at hrecord
    cases hrecord
  | ok x =>
    rw [hrec] at hrecord
    have hx := Except.ok.inj hrecord
    obtain ⟨x₁, x₂⟩ := x
    obtain ⟨record, hrecords, hnew⟩ := recordRedemption_newRecord hrec
    have hrecorded : x₁ = recorded := congrArg Prod.fst hx
    refine ⟨record, ?_, hnew⟩
    rw [← hrecorded]
    exact hrecords

/-- The transaction records `o`'s last redemption, after the redemptions `seen`. -/
def Records (voucherId : Uuid) (seen : List Redemption) (o : Orm GiftVoucherRow) (w : Db → Db) :
    Prop :=
  ∃ r, o.row.redemptions.getLast? = some r ∧ NewRecord seen r ∧
    ∀ d v, Table.get d.giftVouchers voucherId = some v →
      ∃ v', Table.get (w d).giftVouchers voucherId = some v' ∧ v'.redemptions = seen ++ [r]

/-- What a flush writes into the row. -/
theorem leaves_bind_flushVoucher {β : Type} {Q : β → (Db → Db) → Prop} {o : Orm GiftVoucherRow}
    {f : Orm GiftVoucherRow → Tx β} {g : Db → Db}
    (h : ∀ a, Leaves Q (f (.ofRow (o.row.setAttribution a))) ((fun d => { d with
      giftVouchers := Table.modify d.giftVouchers o.row.id fun r =>
        (o.changes r).setAttribution a }) ∘ g)) :
    Leaves Q (flushVoucher o >>= f) g := fun _ _ => h o.row.attribution

/-- Once the voucher is loaded, nothing that the statements read changes what they write. -/
theorem leaves_redemption {r : RedemptionRequest} (hr : args.redemption = some r)
    (hv : v.id = voucherId) :
    Leaves (Records voucherId v.redemptions) (do
      let now ← ask Env.now
      match updatedVoucher args now v with
      | .error e => throw e
      | .ok updated => do
        let written ← flushVoucher ((Orm.ofRow v).set (assignUpdated updated))
        emitStatusEvent voucherId v.status updated.status
        pure written : Tx (Orm GiftVoucherRow)) id := by
  refine leaves_bind_ask _ fun now => ?_
  cases hu : updatedVoucher args now v with
  | error e => exact leaves_throw e
  | ok u =>
    obtain ⟨record, hrecords, hnew⟩ := updatedVoucher_newRecord hr hu
    refine leaves_bind_flushVoucher fun a => ?_
    unfold emitStatusEvent
    refine leaves_bind_call _ _ fun b => ⟨record, ?_, hnew, ?_⟩
    · show (u.redemptions).getLast? = some record
      rw [hrecords]
      simp
    · intro d v' hv'
      have hid : ∀ x, ((assignUpdated u x).setAttribution a).id = x.id := fun x => rfl
      have hget : Table.get (Table.modify d.giftVouchers voucherId fun x =>
          (assignUpdated u x).setAttribution a) voucherId =
          some ((assignUpdated u v').setAttribution a) := by
        rw [Table.get_modify_self (f := fun x => (assignUpdated u x).setAttribution a) hid, hv']
        rfl
      rw [← hv] at hget ⊢
      exact ⟨_, hget, hrecords⟩

/-- What follows on the load of the voucher: the call raises, or it records a redemption. -/
def AfterLoad (voucherId : Uuid) (d : Db) (p : Tx (Orm GiftVoucherRow)) : Prop :=
  Leaves (fun _ _ => False) p id ∨
    ∃ v, Table.get d.giftVouchers voucherId = some v ∧ Leaves (Records voucherId v.redemptions) p id

theorem queries_redemption (call : RedemptionCall) :
    Queries (AfterLoad voucherId) (redemptionCode voucherId call) := by
  unfold redemptionCode updateVoucher
  refine queries_bind_query _ fun d => ?_
  cases hv : Table.get d.giftVouchers voucherId with
  | none => exact .inl (leaves_throw _)
  | some v => exact .inr ⟨v, hv, leaves_redemption rfl (Table.get_some hv).2⟩

/-! ## The invariant -/

variable {base : List Redemption} {c c' : Counter}

abbrev RedemptionSession :=
  Session Db LockKey Emission Env Error (Orm GiftVoucherRow) RedemptionCall

/-- A session that has not loaded the voucher is at its beginning. One that has raises, or records its
redemption after those that were committed when it loaded the voucher. -/
def SessionFits (voucherId : Uuid) (base : List Redemption) (c : Counter) (t : RedemptionSession) :
    Prop :=
  match c.loaded t.sid with
  | none => t.writes = id ∧ ∃ call, t.prog = redemptionCode voucherId call
  | some n => Leaves (fun _ _ => False) t.prog t.writes ∨
      (∃ v, Table.get c.system.db.giftVouchers voucherId = some v) ∧
        ∃ pre post, c.committed = pre ++ post ∧ pre.length = n ∧
          Leaves (Records voucherId (base ++ pre)) t.prog t.writes

/-- While no redemption is overtaken, the voucher holds those it began with and the committed ones. -/
structure CounterFits (voucherId : Uuid) (base : List Redemption) (c : Counter) : Prop where
  recorded : ∀ v, Table.get c.system.db.giftVouchers voucherId = some v →
    v.redemptions = base ++ c.committed
  there : c.committed ≠ [] → ∃ v, Table.get c.system.db.giftVouchers voucherId = some v
  fresh : ∀ pre r post, c.committed = pre ++ r :: post → NewRecord (base ++ pre) r
  sessions : ∀ sid t, Table.get c.system.sessions sid = some t → SessionFits voucherId base c t

theorem SessionFits.mono {t : RedemptionSession} (h : SessionFits voucherId base c t)
    (hloaded : c'.loaded t.sid = c.loaded t.sid) {more : List Redemption}
    (hcommitted : c'.committed = c.committed ++ more)
    (hthere : (∃ v, Table.get c.system.db.giftVouchers voucherId = some v) →
      ∃ v, Table.get c'.system.db.giftVouchers voucherId = some v) :
    SessionFits voucherId base c' t := by
  unfold SessionFits at h ⊢
  rw [hloaded]
  cases hn : c.loaded t.sid with
  | none =>
    rw [hn] at h
    exact h
  | some n =>
    rw [hn] at h
    rcases h with h | ⟨hv, pre, post, hpre, hlen, h⟩
    · exact .inl h
    · refine .inr ⟨hthere hv, pre, post ++ more, ?_, hlen, h⟩
      rw [hcommitted, hpre, List.append_assoc]

/-- An event that commits nothing. -/
theorem CounterFits.of_same (h : CounterFits voucherId base c)
    (hdb : c'.system.db = c.system.db) (hcommitted : c'.committed = c.committed)
    (hsessions : ∀ sid t, Table.get c'.system.sessions sid = some t →
      SessionFits voucherId base c' t ∨
        (Table.get c.system.sessions sid = some t ∧ c'.loaded sid = c.loaded sid)) :
    CounterFits voucherId base c' := by
  obtain ⟨hrecorded, hthere, hfresh, hold⟩ := h
  rw [← hdb, ← hcommitted] at hrecorded hthere
  rw [← hcommitted] at hfresh
  refine ⟨hrecorded, hthere, hfresh, fun sid t ht => ?_⟩
  rcases hsessions sid t ht with hnew | ⟨ht', hloaded⟩
  · exact hnew
  · obtain rfl : t.sid = sid := (Table.get_some ht).2
    refine (hold _ t ht').mono  hloaded (by rw [hcommitted, List.append_nil]) ?_
    rw [hdb]
    exact id

/-- What a session that has returned commits. -/
theorem commits_ret {s : RedemptionSystem} {t : RedemptionSession}
    (ht : Table.get s.sessions t.sid = some t) {o : Orm GiftVoucherRow} (hprog : t.prog = .ret o) :
    commits s (.finish t.sid) = o.row.redemptions.getLast?.toList := by
  show ((Table.get s.sessions t.sid).bind recordOf).toList = _
  rw [ht]
  show (recordOf t).toList = _
  unfold recordOf
  rw [hprog]

/-- A list with the given parts has its last element at the end of the second part. -/
theorem append_cons_eq_concat {α : Type} {l pre post : List α} {a b : α}
    (h : l ++ [b] = pre ++ a :: post) :
    (pre = l ∧ a = b ∧ post = []) ∨ ∃ post', l = pre ++ a :: post' := by
  rcases List.eq_nil_or_concat post with rfl | ⟨post', x, rfl⟩
  · obtain ⟨hpre, hab⟩ := List.append_inj' h rfl
    exact .inl ⟨hpre.symm, (List.singleton_inj.mp hab).symm, rfl⟩
  · right
    refine ⟨post', ?_⟩
    have h' : l ++ [b] = (pre ++ a :: post') ++ [x] := by simpa using h
    exact (List.append_inj' h' rfl).1

/-- A commit of a transaction that no other has overtaken. -/
theorem CounterFits.commit (h : CounterFits voucherId base c) {t : RedemptionSession} {sid : ℕ}
    (ht : Table.get c.system.sessions sid = some t) {o : Orm GiftVoucherRow}
    (hprog : t.prog = .ret o) (hup : c.loaded sid = some c.committed.length) :
    CounterFits voucherId base (redemptionStep voucherId c (.finish sid)) := by
  obtain rfl : t.sid = sid := (Table.get_some ht).2
  have hfits := h.sessions _ t ht
  unfold SessionFits at hfits
  rw [hup, hprog] at hfits
  rcases hfits with hfalse | ⟨⟨v, hv⟩, pre, post, hcommitted, hlen, hwrites⟩
  · exact hfalse.elim
  have hpost : post = [] := by
    have := congrArg List.length hcommitted
    rw [List.length_append, hlen] at this
    exact List.length_eq_zero_iff.mp (by omega)
  rw [hpost, List.append_nil] at hcommitted
  rw [← hcommitted] at hwrites
  obtain ⟨r, hlast, hnew, hrow⟩ := hwrites
  obtain ⟨v', hv', hredemptions⟩ := hrow c.system.db v hv
  have hstep : redemptionStep voucherId c (.finish t.sid) =
      { system := { c.system with
          db := t.writes c.system.db, sessions := Table.erase c.system.sessions t.sid }
        committed := c.committed ++ [r]
        loaded := c.loaded } := by
    unfold redemptionStep
    rw [System.step_commit _ ht hprog, commits_ret ht hprog, hlast]
    rfl
  rw [hstep]
  refine ⟨?_, fun _ => ⟨v', hv'⟩, ?_, ?_⟩
  · intro x hx
    obtain rfl : v' = x := Option.some.inj (hv'.symm.trans hx)
    rw [hredemptions, List.append_assoc]
  · intro pre r' post hparts
    rcases append_cons_eq_concat hparts with ⟨rfl, rfl, -⟩ | ⟨post', hparts'⟩
    · exact hnew
    · exact h.fresh pre r' post' hparts'
  · intro sid u hu
    obtain ⟨-, hu'⟩ := Table.get_of_get_erase hu
    exact (h.sessions sid u hu').mono  rfl rfl fun _ => ⟨v', hv'⟩

/-! ## One event -/

/-- An event that commits nothing, with what it leaves of the system and of the loads. -/
theorem redemptionStep_eq {ev : Event RedemptionCall Env} {s : RedemptionSystem}
    {loaded : ℕ → Option ℕ} (hsystem : c.system.step (redemptionCode voucherId) ev = s)
    (hcommits : commits c.system ev = []) (hloaded : loads c ev = loaded) :
    redemptionStep voucherId c ev =
      { system := s, committed := c.committed, loaded := loaded } := by
  unfold redemptionStep
  rw [hsystem, hcommits, hloaded, List.append_nil]

theorem CounterFits.start (h : CounterFits voucherId base c) (sid : ℕ) (call : RedemptionCall) :
    CounterFits voucherId base (redemptionStep voucherId c (.start sid call)) := by
  by_cases hthere : (Table.get c.system.sessions sid).isSome
  · have hsystem : c.system.step (redemptionCode voucherId) (.start sid call) = c.system := if_pos hthere
    rw [redemptionStep_eq hsystem rfl (if_pos hthere)]
    exact h
  · have hsystem : c.system.step (redemptionCode voucherId) (.start sid call) =
        { c.system with sessions := c.system.sessions ++
            [{ sid := sid, op := call, prog := redemptionCode voucherId call }] } := if_neg hthere
    rw [redemptionStep_eq hsystem rfl (if_neg hthere)]
    refine h.of_same rfl rfl fun k t ht => ?_
    rw [Table.get_append] at ht
    by_cases hk : k = sid
    · left
      have hnone : Table.get c.system.sessions k = none := by simpa [hk] using hthere
      rw [hnone] at ht
      obtain ⟨hmem, hkey⟩ := Table.get_some ht
      obtain rfl := List.mem_singleton.mp hmem
      unfold SessionFits
      dsimp only
      rw [if_pos rfl]
      exact ⟨rfl, call, rfl⟩
    · right
      refine ⟨?_, if_neg hk⟩
      have hnone : Table.get [({ sid := sid, op := call, prog := redemptionCode voucherId call } :
          RedemptionSession)] k = none := by
        simp [Table.get, Table.Keyed.key, Ne.symm hk]
      rw [hnone] at ht
      simpa using ht

theorem CounterFits.gone (h : CounterFits voucherId base c) (sid : ℕ) :
    CounterFits voucherId base
      { c with system := { c.system with sessions := Table.erase c.system.sessions sid } } :=
  h.of_same rfl rfl fun _ _ ht => .inr ⟨(Table.get_of_get_erase ht).2, rfl⟩

/-- A statement of the session `t`, of which `rest` is left. -/
theorem CounterFits.advance (h : CounterFits voucherId base c) {t : RedemptionSession}
    (ht : Table.get c.system.sessions t.sid = some t) {e : Transactions.Effect Db LockKey Emission}
    {rest : Tx (Orm GiftVoucherRow)} (hdb : c'.system.db = c.system.db)
    (hsessions : c'.system.sessions =
      Table.modify c.system.sessions t.sid fun u => u.advance e rest)
    (hcommitted : c'.committed = c.committed)
    (hloaded : ∀ k, k ≠ t.sid → c'.loaded k = c.loaded k)
    (hfits : SessionFits voucherId base c' (t.advance e rest)) : CounterFits voucherId base c' := by
  have hkey : ∀ u : RedemptionSession, Table.Keyed.key (u.advance e rest) = Table.Keyed.key u :=
    fun _ => rfl
  refine h.of_same hdb hcommitted fun k x hx => ?_
  rw [hsessions] at hx
  by_cases hk : k = t.sid
  · left
    rw [hk, Table.get_modify_self hkey, ht] at hx
    obtain rfl := Option.some.inj hx
    exact hfits
  · right
    rw [Table.get_modify_of_ne hkey hk] at hx
    exact ⟨hx, hloaded k hk⟩

theorem CounterFits.exec (h : CounterFits voucherId base c) (sid : ℕ) (answer : Env) :
    CounterFits voucherId base (redemptionStep voucherId c (.exec sid answer)) := by
  cases ht : Table.get c.system.sessions sid with
  | none =>
    have hsystem : c.system.step (redemptionCode voucherId) (.exec sid answer) = c.system := by
      rw [System.step, System.withSession_none ht]
    have hloaded : loads c (.exec sid answer) = c.loaded := by
      funext k
      simp [loads, ht]
    rw [redemptionStep_eq hsystem rfl hloaded]
    exact h
  | some t =>
    obtain rfl : t.sid = sid := (Table.get_some ht).2
    have hfits := h.sessions _ t ht
    unfold SessionFits at hfits
    cases hn : c.loaded t.sid with
    | none =>
      -- the first statement, which loads the voucher
      rw [hn] at hfits
      obtain ⟨hwrites, call, hprog⟩ := hfits
      have hqueries : Queries (AfterLoad voucherId) t.prog := hprog ▸ queries_redemption call
      cases hstmt : t.prog with
      | ret o => exact (hstmt ▸ hqueries : Queries (AfterLoad voucherId) (.ret o)).elim
      | raise e => exact (hstmt ▸ hqueries : Queries (AfterLoad voucherId) (.raise e)).elim
      | stmt eff next =>
        rw [hstmt] at hqueries
        obtain ⟨heff, hafter⟩ := hqueries answer c.system.db
        have hfree : c.system.blocked t.sid (eff answer (t.writes c.system.db)).locks = false := by
          rw [hwrites]
          show c.system.blocked t.sid (eff answer c.system.db).locks = false
          rw [heff]
          simp [System.blocked]
        rw [redemptionStep_eq (System.step_stmt _ ht hstmt answer hfree) rfl rfl]
        have hsome : loads c (.exec t.sid answer) t.sid = some c.committed.length := by
          simp [loads, ht, hn]
        refine h.advance ht rfl rfl rfl (fun k hk => ?_) ?_
        · simp [loads, hk]
        · show SessionFits voucherId base _ _
          unfold SessionFits
          dsimp only [Session.advance]
          rw [hsome, hwrites]
          show Leaves _ (next answer c.system.db) ((eff answer c.system.db).write ∘ id) ∨
            _ ∧ ∃ pre post, _ ∧ _ ∧
              Leaves _ (next answer c.system.db) ((eff answer c.system.db).write ∘ id)
          rw [heff]
          rcases hafter with hfalse | ⟨v, hv, hleaves⟩
          · exact .inl hfalse
          · rw [h.recorded v hv] at hleaves
            exact .inr ⟨⟨v, hv⟩, c.committed, [], (List.append_nil _).symm, rfl, hleaves⟩
    | some n =>
      rw [hn] at hfits
      have hloaded : loads c (.exec t.sid answer) = c.loaded := by
        funext k
        simp [loads, hn]
      rcases System.step_exec_cases (redemptionCode voucherId) ht answer with hsame |
        ⟨eff, next, hprog, hstep⟩
      · rw [redemptionStep_eq hsame rfl hloaded]
        exact h
      · rw [redemptionStep_eq hstep rfl hloaded]
        refine h.advance ht rfl rfl rfl (fun _ _ => rfl) ?_
        rw [hprog] at hfits
        unfold SessionFits
        dsimp only [Session.advance]
        rw [hn]
        rcases hfits with hfalse | ⟨hv, pre, post, hcommitted, hlen, hleaves⟩
        · exact .inl (hfalse answer _)
        · exact .inr ⟨hv, pre, post, hcommitted, hlen, hleaves answer _⟩

theorem CounterFits.finish (h : CounterFits voucherId base c) (sid : ℕ)
    (hup : NotOvertaken c (.finish sid)) :
    CounterFits voucherId base (redemptionStep voucherId c (.finish sid)) := by
  cases ht : Table.get c.system.sessions sid with
  | none =>
    have hsystem : c.system.step (redemptionCode voucherId) (.finish sid) = c.system := by
      rw [System.step, System.withSession_none ht]
    have hcommits : commits c.system (.finish sid) = [] := by simp [commits, ht]
    rw [redemptionStep_eq hsystem hcommits rfl]
    exact h
  | some t =>
    obtain rfl : t.sid = sid := (Table.get_some ht).2
    cases hprog : t.prog with
    | ret o => exact h.commit ht hprog (hup t ht (by simp [Session.committing, hprog]))
    | raise e =>
      have hcommits : commits c.system (.finish t.sid) = [] := by
        simp [commits, ht, recordOf, hprog]
      rw [redemptionStep_eq (System.step_rollback _ ht hprog) hcommits rfl]
      exact h.gone t.sid
    | stmt eff next =>
      have hsystem : c.system.step (redemptionCode voucherId) (.finish t.sid) = c.system := by
        rw [System.step, System.withSession_some ht, System.finish, hprog]
      have hcommits : commits c.system (.finish t.sid) = [] := by
        simp [commits, ht, recordOf, hprog]
      rw [redemptionStep_eq hsystem hcommits rfl]
      exact h

theorem CounterFits.step (h : CounterFits voucherId base c) {ev : Event RedemptionCall Env}
    (hup : NotOvertaken c ev) : CounterFits voucherId base (redemptionStep voucherId c ev) := by
  cases ev with
  | start sid call => exact h.start sid call
  | exec sid answer => exact h.exec sid answer
  | finish sid => exact h.finish sid hup
  | crash sid =>
    have hsystem : c.system.step (redemptionCode voucherId) (.crash sid) =
        { c.system with sessions := Table.erase c.system.sessions sid } := rfl
    rw [redemptionStep_eq hsystem rfl rfl]
    exact h.gone sid

/-- A list in which every element is related to those before it. -/
theorem pairwise_of_splits {α : Type} {R : α → α → Prop} {l : List α}
    (h : ∀ pre b post, l = pre ++ b :: post → ∀ a ∈ pre, R a b) : l.Pairwise R := by
  induction l using List.reverseRecOn with
  | nil => exact List.Pairwise.nil
  | append_singleton l x ih =>
    refine List.pairwise_append.mpr ⟨ih fun pre b post hl => ?_, List.pairwise_singleton R x, ?_⟩
    · exact h pre b (post ++ [x]) (by rw [hl]; simp)
    · intro a ha b hb
      obtain rfl := List.mem_singleton.mp hb
      exact h l b [] rfl a ha

theorem CounterFits.kept (h : CounterFits voucherId base c) : RedemptionsKept voucherId c := by
  constructor
  · refine pairwise_of_splits fun pre r' post hparts r hr s hs hs' => ?_
    refine (h.fresh pre r' post hparts).fresh s hs' (List.mem_flatMap.mpr ⟨r, ?_, hs⟩)
    exact List.mem_append_right _ hr
  · intro r hr
    obtain ⟨v, hv⟩ := h.there (List.ne_nil_of_mem hr)
    refine ⟨v, hv, ?_⟩
    rw [h.recorded v hv]
    exact List.mem_append_right _ hr

/-- A commit that has been overtaken drops the redemption that has overtaken it, or repeats it. -/
theorem CounterFits.notOvertaken (h : CounterFits voucherId base c)
    {ev : Event RedemptionCall Env}
    (hkept : RedemptionsKept voucherId (redemptionStep voucherId c ev)) : NotOvertaken c ev := by
  cases ev with
  | start | exec | crash => trivial
  | finish sid =>
    intro t ht hcommitting
    obtain rfl : t.sid = sid := (Table.get_some ht).2
    have hfits := h.sessions _ t ht
    unfold SessionFits at hfits
    cases hprog : t.prog with
    | raise e => simp [Session.committing, hprog] at hcommitting
    | stmt eff next => simp [Session.committing, hprog] at hcommitting
    | ret o =>
      cases hn : c.loaded t.sid with
      | none =>
        rw [hn] at hfits
        obtain ⟨-, call, hcode⟩ := hfits
        have hqueries : Queries (AfterLoad voucherId) t.prog := hcode ▸ queries_redemption call
        rw [hprog] at hqueries
        exact hqueries.elim
      | some n =>
        rw [hn, hprog] at hfits
        rcases hfits with hfalse | ⟨⟨v, hv⟩, pre, post, hcommitted, hlen, r, hlast, -, hrow⟩
        · exact hfalse.elim
        obtain ⟨v', hv', hredemptions⟩ := hrow c.system.db v hv
        cases post with
        | nil => rw [hcommitted, List.append_nil, hlen]
        | cons lost post =>
          -- the redemption `lost` was committed after the load
          exfalso
          have hstep : (redemptionStep voucherId c (.finish t.sid)).committed =
              c.committed ++ [r] := by
            unfold redemptionStep
            rw [commits_ret ht hprog, hlast]
            rfl
          have hdb : (redemptionStep voucherId c (.finish t.sid)).system.db =
              t.writes c.system.db :=
            congrArg System.db (System.step_commit (redemptionCode voucherId) ht hprog)
          have hmem : lost ∈ c.committed ++ [r] := by simp [hcommitted]
          have hnew := h.fresh pre lost post hcommitted
          obtain ⟨u, hu, hin⟩ := hkept.present lost (hstep ▸ hmem)
          rw [hdb, hv'] at hu
          obtain rfl := Option.some.inj hu
          rw [hredemptions] at hin
          rcases List.mem_append.mp hin with hold | hlast
          · exact hnew.not_mem hold
          · obtain rfl := List.mem_singleton.mp hlast
            have honce := hkept.once
            rw [hstep, List.pairwise_append] at honce
            obtain ⟨s, hs⟩ := List.exists_mem_of_ne_nil _ hnew.some
            have hmem' : lost ∈ c.committed := by simp [hcommitted]
            exact honce.2.2 lost hmem' lost (List.mem_singleton_self lost) s hs hs

/-! ## Runs -/

/-- In a run of redemptions of one gift voucher, interleaved in any order: no service is redeemed by
two committed transactions and every committed redemption is recorded, in every state of the run,
exactly when no transaction commits after another has committed since it loaded the voucher. -/
theorem redemptions_kept_iff (voucherId : Uuid) (d : Db) (evs : List (Event RedemptionCall Env)) :
    Runs.Always (redemptionStep voucherId) (RedemptionsKept voucherId) { system := { db := d } } evs ↔
      Runs.AllSteps (redemptionStep voucherId) NotOvertaken { system := { db := d } } evs := by
  have hstart : CounterFits voucherId
      (((Table.get d.giftVouchers voucherId).map (·.redemptions)).getD [])
      { system := { db := d } } := by
    refine ⟨fun v hv => ?_, fun h => absurd rfl h, fun pre r post h => ?_, fun sid t ht => ?_⟩
    · show v.redemptions = _ ++ []
      rw [List.append_nil]
      have hv' : Table.get d.giftVouchers voucherId = some v := hv
      rw [hv']
      rfl
    · exact absurd h (by simp)
    · cases ht
  exact Runs.always_iff_of_invariant (fun c h => h.kept) (fun c ev h hq => h.step hq)
    (fun c ev h hp => h.notOvertaken hp) hstart

/-- Two branches redeem the only service of a voucher at once. -/
def twoBranches : List (Event RedemptionCall Env) :=
  let call : RedemptionCall := { redemption := { services := [{ serviceId := "a" }] } }
  [.start 1 call, .start 2 call, .exec 1 {}, .exec 2 {}, .exec 1 {}, .exec 1 {}, .exec 1 {},
    .finish 1, .exec 2 { now := 1 }, .exec 2 {}, .exec 2 {}, .finish 2]

/-- Both commit; the service is redeemed twice, and the first redemption is gone. -/
theorem redemption_lost :
    (Runs.run (redemptionStep 1) { system := { db := activeVoucher ["a"] } } twoBranches).committed.length
        = 2 ∧
      ¬ RedemptionsKept 1 (Runs.run (redemptionStep 1) { system := { db := activeVoucher ["a"] } }
        twoBranches) := by
  decide +kernel

end Voucher
