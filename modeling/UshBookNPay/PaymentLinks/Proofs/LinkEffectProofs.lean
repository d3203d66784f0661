import UshBookNPay.PaymentLinks.LinkRuns
import UshBookNPay.PaymentLinks.Proofs.LinkableProofs

/-!
# What the calls of the link service issue, cancel and open

The invoices that the emissions of a call issue or cancel, and the rows it changes: `apply` issues and
cancels nothing, and only a failed payment opens a link.
-/

open Transactions (Prog Ensures EnsuresUnder Emits AtEnd transact exec)
open Transactions

namespace PaymentLinks

/-! ## Invoices in the log -/

/-- The emission neither issues nor cancels an invoice. -/
def Quiet : Emission → Prop
  | .createLink _ => False
  | .cancelLink _ _ => False
  | _ => True

section Invoices

variable {target : Target} {paid : List (String × String)} {now : Instant} {es : List Emission}

theorem uncancelled_quiet {new : List Emission} (h : ∀ e ∈ new, Quiet e) :
    uncancelled (es ++ new) = uncancelled es := by
  unfold uncancelled
  rw [List.foldl_append]
  generalize es.foldl trackInvoice [] = invoices
  induction new generalizing invoices with
  | nil => rfl
  | cons e new ih =>
    have he : trackInvoice invoices e = invoices := by
      have hq := h e List.mem_cons_self
      cases e <;> first | rfl | exact hq.elim
    rw [List.foldl_cons, he]
    exact ih (fun x hx => h x (List.mem_cons_of_mem e hx)) invoices

theorem payable_quiet {new : List Emission} (h : ∀ e ∈ new, Quiet e) :
    payable target paid now (es ++ new) = payable target paid now es := by
  unfold payable
  rw [uncancelled_quiet h]

theorem payable_issue (i : IssuedInvoice) :
    payable target paid now (es ++ [.createLink i]) =
      payable target paid now es ++ [i].filter (canBePaid target paid now) := by
  unfold payable uncancelled
  rw [List.foldl_append]
  exact List.filter_append ..

/-- A cancellation at a gateway takes the invoice of that gateway and id out. -/
theorem payable_cancel (gateway id : String) :
    payable target paid now (es ++ [.cancelLink gateway id]) =
      (payable target paid now es).filter
        fun i => ¬ (i.gateway = gateway ∧ i.gatewayInvoiceId = id) := by
  unfold payable uncancelled
  rw [List.foldl_append, List.filter_filter]
  show List.filter _ (List.filter _ _) = _
  rw [List.filter_filter]
  congr 1
  funext i
  exact Bool.and_comm _ _

/-- Time and payments only take invoices out. -/
theorem payable_later {paid' : List (String × String)} {now' : Instant} (hnow : now ≤ now') :
    (payable target (paid ++ paid') now' es).Sublist (payable target paid now es) := by
  unfold payable
  refine List.monotone_filter_right _ fun i hi => ?_
  simp only [canBePaid, decide_eq_true_eq, List.mem_append, not_or] at hi ⊢
  exact ⟨hi.1, lt_of_le_of_lt hnow hi.2.1, hi.2.2.1⟩

end Invoices

/-! ## apply issues and cancels nothing -/

section Emissions

theorem emits_attempt {α : Type} {P : Emission → Prop} {caught : Error → Bool} {p : Tx α}
    (h : Emits P p) : Emits P (attempt caught p) := by
  refine Emits.tryCatch (h.map _) fun e => ?_
  split_ifs
  · exact emits_pure _
  · exact emits_throw _

theorem emits_flushBooking (o : Orm BookingRow) : Emits Quiet (flushBooking o) :=
  (emits_update _ _).bind fun _ => emits_pure _

theorem emits_flushPayment (o : Orm PaymentRow) : Emits Quiet (flushPayment o) :=
  (emits_checkedUpdate _ _ _).bind fun _ => emits_pure _

theorem emits_flushLink (o : Orm PaymentLinkRow) : Emits Quiet (flushLink o) :=
  (emits_update _ _).bind fun _ => emits_pure _

theorem emits_flushVoucher (o : Orm GiftVoucherRow) : Emits Quiet (flushVoucher o) :=
  (emits_update _ _).bind fun _ => emits_pure _

theorem emits_settlePayment (link : PaymentLinkRow) (ofTarget : PaymentRow → Bool)
    (row : Uuid → String → PaymentRow) (columns : PaymentRow → PaymentRow) :
    Emits Quiet (settlePayment link ofTarget row columns) := by
  have hnumber : Emits Quiet generatePaymentNumber :=
    (emits_ask _).bind fun _ => (emits_queryForUpdate _ _).bind fun _ => emits_query _
  have hinsert : ∀ p, Emits Quiet (insertPayment p) :=
    fun p => (emits_checkedUpdate _ _ _).bind fun _ => emits_pure _
  refine (emits_queryForUpdate _ _).bind fun p => ?_
  cases p with
  | none =>
    exact hnumber.bind fun _ => (emits_ask _).bind fun _ => (hinsert _).bind fun _ =>
      (emits_update _ _).bind fun _ => emits_pure _
  | some p => exact (emits_flushPayment _).bind fun _ => emits_pure _

theorem emits_settleBooking (link : Orm PaymentLinkRow) (paidAt : Instant) :
    Emits Quiet (settleBooking link paidAt) := by
  refine (emits_queryForUpdate _ _).bind fun row => ?_
  cases row with
  | none => exact emits_throw _
  | some row =>
    have hconfirm : Emits Quiet (confirmBooking link.row row paidAt) :=
      (emits_flushBooking _).bind fun _ =>
        (emits_forSome _ fun _ => emits_update _ _).bind fun _ => emits_pure _
    refine (emits_raiseIf _ _).bind fun _ => hconfirm.bind fun _ =>
      (emits_settlePayment _ _ _ _).bind fun _ => (emits_call ?_ _).bind fun _ => emits_pure _
    intro _ e he
    rw [List.mem_singleton.mp he]
    trivial

theorem emits_updateStatus (known : Option (Orm GiftVoucherRow)) (voucherId : Uuid)
    (newStatus : Voucher.GiftVoucherStatus) (args : Voucher.StatusArgs) :
    Emits Quiet (Voucher.updateStatus known voucherId newStatus args) := by
  have hevent : ∀ old target, Emits Quiet (Voucher.emitStatusEvent voucherId old target) := by
    intro old target
    refine emits_call ?_ _
    intro _ e he
    split_ifs at he
    · cases he
    · rw [List.mem_singleton.mp he]
      trivial
  refine (emits_query _).bind fun row => ?_
  cases row with
  | none => exact emits_throw _
  | some row =>
    refine (emits_raiseIf _ _).bind fun _ => Emits.bind ?_ fun _ => (emits_ask _).bind fun _ =>
      (emits_flushVoucher _).bind fun _ => (hevent _ _).bind fun _ => emits_pure _
    split_ifs
    · exact emits_ask _
    · exact emits_pure _

theorem emits_settleTarget (link : Orm PaymentLinkRow) (paidAt : Instant) :
    Emits Quiet (settleTarget link paidAt) := by
  unfold settleTarget
  cases link.row.targetType with
  | product => exact emits_pure _
  | booking =>
    refine (emits_attempt (emits_settleBooking link paidAt)).bind fun r => ?_
    cases r with
    | ok link => exact emits_pure _
    | error exc => exact emits_pure _
  | giftVoucher =>
    have hpay : Emits Quiet (payVoucher link.row paidAt) := by
      refine (emits_queryForUpdate _ _).bind fun row => ?_
      cases row with
      | none => exact emits_throw _
      | some v => exact (emits_settlePayment _ _ _ _).bind fun _ => emits_pure _
    refine (emits_attempt hpay).bind fun r => ?_
    rcases r with exc | ⟨voucher, payment⟩
    · exact emits_pure _
    · have hactivate : ∀ l, Emits Quiet (activateVoucher l voucher payment paidAt) :=
        fun l => (emits_updateStatus _ _ _ _).map _
      refine (emits_attempt (hactivate _)).bind fun r => ?_
      cases r with
      | ok _ => exact emits_pure _
      | error exc => exact emits_pure _

theorem emits_autoRefund (link : PaymentLinkRow) (state : GatewayPaymentState) :
    Emits Quiet (autoRefund link state) := by
  unfold autoRefund
  split_ifs
  · exact emits_pure _
  · refine (emits_call ?_ _).bind fun res => ?_
    · intro a e he
      rcases hr : a.refund with exc | res
      · simp [hr, emitted] at he
      · rw [hr] at he
        unfold emitted at he
        dsimp only at he
        split_ifs at he
        · rw [List.mem_singleton.mp he]
          trivial
        · cases he
    · cases res with
      | ok _ => exact emits_pure _
      | error exc => exact emits_pure _
  · exact emits_pure _

theorem emits_apply (link : Orm PaymentLinkRow) (state : GatewayPaymentState) (source : String) :
    Emits Quiet (apply link state source) := by
  unfold apply
  cases state.status with
  | paid =>
    dsimp only
    unfold applyPaid
    split_ifs
    · exact emits_pure _
    · exact emits_pure _
    · refine (emits_ask _).bind fun _ => (emits_flushLink _).bind fun _ =>
        (emits_settleTarget _ _).bind fun r => ?_
      rcases r with ⟨o, _ | exc⟩
      · exact (emits_flushLink _).bind fun _ => emits_pure _
      · exact (emits_autoRefund _ _).bind fun _ => (emits_flushLink _).bind fun _ => emits_pure _
  | failed =>
    dsimp only
    unfold recordFailure
    split_ifs
    · exact emits_pure _
    · refine (emits_ask _).bind fun _ => (emits_call ?_ _).bind fun _ => emits_pure _
      intro _ e he
      split_ifs at he
      · rw [List.mem_singleton.mp he]
        trivial
      · cases he
  | expired => exact emits_pure _
  | canceled => exact emits_pure _
  | pending => exact emits_pure _

theorem emits_applyTo (linkId : Uuid) (state : GatewayPaymentState) (source : String) :
    Emits Quiet (applyTo linkId state source) := by
  refine (emits_queryForUpdate _ _).bind fun row => ?_
  cases row with
  | none => exact emits_pure _
  | some row =>
    refine (emits_apply _ _ _).bind fun r => ?_
    exact ((emits_flushLink _).map _).bind fun _ => emits_pure _

end Emissions

/-! ## Open links -/

/-- The open links of the target. -/
def openLinks (target : Target) (links : List PaymentLinkRow) : List PaymentLinkRow :=
  links.filter (isOpenFor target.1 target.2)

section OpenLinks

variable {target : Target} {links : List PaymentLinkRow}

theorem isOpenFor_iff {l : PaymentLinkRow} :
    isOpenFor target.1 target.2 l ↔ (l.targetType, l.targetId) = target ∧ l.status ∈ OPEN_STATUSES := by
  unfold isOpenFor
  rw [decide_eq_true_eq, Prod.ext_iff]
  tauto

theorem openLinks_modify {k : Uuid} {f : PaymentLinkRow → PaymentLinkRow}
    (hf : ∀ r ∈ links, r.id = k → isOpenFor target.1 target.2 (f r) → isOpenFor target.1 target.2 r) :
    (openLinks target (Table.modify links k f)).length ≤ (openLinks target links).length := by
  unfold openLinks Table.modify
  rw [← List.countP_eq_length_filter, ← List.countP_eq_length_filter, List.countP_map]
  refine List.countP_mono_left fun r hr h => ?_
  by_cases hk : r.id = k
  · have hopen : isOpenFor target.1 target.2 (f r) := by
      simpa [show Table.Keyed.key r = k from hk] using h
    exact hf r hr hk hopen
  · simpa [show Table.Keyed.key r ≠ k from hk] using h

theorem openLinks_erase (k : Uuid) :
    (openLinks target (Table.erase links k)).length ≤ (openLinks target links).length :=
  (List.filter_sublist.filter _).length_le

/-- Without its newest open link a target with at most one has none. -/
theorem openLinks_erase_newest {link : PaymentLinkRow}
    (hone : (openLinks target links).length ≤ 1) (hnewest : (openLinks target links).getLast? = some link) :
    openLinks target (Table.erase links link.id) = [] := by
  unfold openLinks Table.erase
  rw [List.filter_filter, List.filter_eq_nil_iff]
  intro r hr h
  rw [Bool.and_eq_true, decide_eq_true_eq] at h
  have hmem : r ∈ openLinks target links := List.mem_filter.mpr ⟨hr, h.1⟩
  rcases hlist : openLinks target links with _ | ⟨a, _ | ⟨b, rest⟩⟩
  · rw [hlist] at hmem
    cases hmem
  · rw [hlist] at hmem hnewest
    obtain rfl : a = link := by simpa using hnewest
    exact h.2 (congrArg PaymentLinkRow.id (List.mem_singleton.mp hmem))
  · rw [hlist] at hone
    simp at hone

/-- A target without an open link has at most the one whose row is changed. -/
theorem openLinks_modify_none {k : Uuid} {f : PaymentLinkRow → PaymentLinkRow}
    (hu : Table.Unique links) (hid : ∀ r, (f r).id = r.id) (hnone : openLinks target links = []) :
    (openLinks target (Table.modify links k f)).length ≤ 1 := by
  have hkeys : ∀ r ∈ openLinks target (Table.modify links k f), r.id = k := by
    intro r hr
    obtain ⟨hmem, hopen⟩ := List.mem_filter.mp hr
    rcases Table.mem_modify.mp hmem with ⟨hold, -⟩ | ⟨a, -, hk, rfl⟩
    · exact absurd hopen (List.filter_eq_nil_iff.mp hnone r hold)
    · exact (hid a).trans hk
  have hnodup : ((openLinks target (Table.modify links k f)).map PaymentLinkRow.id).Nodup :=
    (hu.modify hid k).sublist (List.filter_sublist.map _)
  rcases hlist : openLinks target (Table.modify links k f) with _ | ⟨a, _ | ⟨b, rest⟩⟩
  · exact Nat.zero_le 1
  · exact le_rfl
  · rw [hlist] at hkeys hnodup
    have hab : a.id = b.id := (hkeys a (by simp)).trans (hkeys b (by simp)).symm
    simp [hab] at hnodup

theorem openLinks_insert {l : PaymentLinkRow} :
    (openLinks target (links ++ [l])).length ≤
      (openLinks target links).length + if (l.targetType, l.targetId) = target then 1 else 0 := by
  unfold openLinks
  rw [List.filter_append, List.length_append]
  refine Nat.add_le_add_left ?_ _
  split_ifs with h
  · exact List.length_filter_le _ _
  · have hnot : ¬ isOpenFor target.1 target.2 l := fun ho => h (isOpenFor_iff.mp ho).1
    simp [hnot]

end OpenLinks

/-! ## The row a call of apply changes -/

/-- What `apply` does to the row of a link: the target stays, and only a failed payment opens it. -/
structure RowEffect (link : PaymentLinkRow) (state : GatewayPaymentState)
    (f : PaymentLinkRow → PaymentLinkRow) : Prop where
  id : ∀ r, (f r).id = r.id
  target : ∀ r, (f r).targetType = r.targetType ∧ (f r).targetId = r.targetId
  opens : (f link).status ∈ OPEN_STATUSES → link.status ∈ OPEN_STATUSES ∨
    state.status = .failed ∧ (link.status = .expired ∨ link.status = .cancelled)

section Apply

variable {ans : Env → Prop} {d : Db} {es : List Emission} {link : PaymentLinkRow}
  {state : GatewayPaymentState} {source : String}

theorem Assigned.target {row : PaymentLinkRow} {o : Orm PaymentLinkRow} (h : Assigned (.ofRow row) o) :
    ∀ r, (o.changes r).targetType = r.targetType ∧ (o.changes r).targetId = r.targetId := by
  rcases h with rfl | ⟨pid, rfl⟩
  · exact fun _ => ⟨rfl, rfl⟩
  · exact fun _ => ⟨rfl, rfl⟩

theorem not_settled_cases (h : link.status ∉ SETTLED) :
    link.status ∈ OPEN_STATUSES ∨ link.status = .expired ∨ link.status = .cancelled := by
  revert h
  cases link.status <;> decide

theorem ensures_applyPaid_row (hs : link.status ∉ SETTLED) :
    EnsuresUnder ans (fun r d' _ => ∀ outcome o, r = .ok (outcome, o) → ∃ f, RowEffect link state f ∧
        (flushed o d').paymentLinks = Table.modify d.paymentLinks link.id f)
      (applyPaid (.ofRow link) state source) d es := by
  unfold applyPaid
  rw [if_neg (show (Orm.ofRow link).row.status ∉ SETTLED from hs)]
  by_cases hm : amountMismatch (Orm.ofRow link).row state
  · rw [if_pos hm]
    rintro _ _ ⟨rfl, rfl⟩
    exact ⟨mismatchColumns state, ⟨fun _ => rfl, fun _ => ⟨rfl, rfl⟩, .inl⟩, rfl⟩
  rw [if_neg hm, ensuresUnder_bind_ask]
  intro a _
  refine ensures_flushLink.under.bind_returns ?_
  rintro o₁ d₁ es₁ ⟨rfl, rfl, rfl⟩
  generalize hcol : paidColumns state source a.now = columns
  have hcolumns : ∀ r, (columns r).id = r.id ∧ (columns r).targetType = r.targetType ∧
      (columns r).targetId = r.targetId ∧ (columns r).status = .paid := by
    subst hcol
    exact fun _ => ⟨rfl, rfl, rfl, rfl⟩
  refine ensures_settleTarget.under.bind ?_ ?_
  swap
  · exact fun _ _ _ _ _ _ h => nomatch h
  rintro ⟨o₂, failure⟩ d₂ es₂ ⟨-, hok⟩
  obtain ⟨hassigned, hframe, -⟩ := hok o₂ failure rfl
  obtain ⟨hid, -, -, -, hchanges⟩ := hassigned.ofRow
  have htarget := hassigned.target
  have hid' : o₂.row.id = link.id := hid.trans (hcolumns link).1
  have hlinks : d₂.paymentLinks = Table.modify d.paymentLinks link.id columns := by
    rw [hframe.links]
    show Table.modify d.paymentLinks (columns link).id columns = _
    rw [(hcolumns link).1]
  have heffect : ∀ g : PaymentLinkRow → PaymentLinkRow, (∀ r, (g r).id = r.id) →
      (∀ r, (g r).targetType = r.targetType ∧ (g r).targetId = r.targetId) →
      (g (columns link)).status ∉ OPEN_STATUSES → RowEffect link state (g ∘ columns) := by
    intro g hgid hgtarget hclosed
    refine ⟨fun r => (hgid _).trans (hcolumns r).1, fun r => ⟨?_, ?_⟩, fun h => absurd h hclosed⟩
    · exact (hgtarget _).1.trans (hcolumns r).2.1
    · exact (hgtarget _).2.trans (hcolumns r).2.2.1
  cases failure with
  | none =>
    refine ensures_flushLink.under.bind_returns ?_
    rintro o₃ d₃ es₃ ⟨rfl, rfl, rfl⟩
    rintro _ _ ⟨rfl, rfl⟩
    rw [flushed_unchanged rfl]
    refine ⟨_, heffect o₂.changes (fun r => (hchanges r).1) htarget ?_,
      flushed_links (fun r => (hcolumns r).1) hlinks hid'⟩
    rw [(hchanges _).2, (hcolumns link).2.2.2]
    decide
  | some exc =>
    refine ensures_refundNotActivatable.mono ?_
    rintro r d₃ es₃ hr
    cases r with
    | error e => exact hr.elim
    | ok r =>
      obtain ⟨outcome, o₃⟩ := r
      obtain ⟨-, hid₃, -, err, rfl⟩ := hr
      rintro _ _ ⟨rfl, rfl⟩
      rw [flushed_unchanged hid₃]
      refine ⟨_, heffect (attentionColumns exc err ∘ setLinkStatus .refunded ∘ o₂.changes)
        (fun r => (hchanges r).1) htarget ?_, flushed_links (fun r => (hcolumns r).1) hlinks hid'⟩
      show PaymentLinkStatus.refunded ∉ OPEN_STATUSES
      decide

theorem ensures_apply_row :
    EnsuresUnder ans (fun r d' _ => ∀ outcome o, r = .ok (outcome, o) → ∃ f, RowEffect link state f ∧
        (flushed o d').paymentLinks = Table.modify d.paymentLinks link.id f)
      (apply (.ofRow link) state source) d es := by
  have hkept : RowEffect link state id := ⟨fun _ => rfl, fun _ => ⟨rfl, rfl⟩, .inl⟩
  by_cases hs : link.status ∈ SETTLED
  · have hsettled : Ensures (fun _ => True) _ (apply (.ofRow link) state source) d es :=
      ensures_apply_settled hs
    refine hsettled.under.mono ?_
    rintro r d' es' hr outcome o rfl
    obtain ⟨-, rfl, rfl, -⟩ := hr
    exact ⟨id, hkept, rfl⟩
  have hclosed : ∀ status ∉ OPEN_STATUSES, ∃ f, RowEffect link state f ∧
      (flushed (recordClosed (.ofRow link) status).2 d).paymentLinks =
        Table.modify d.paymentLinks link.id f := by
    intro status hstatus
    unfold recordClosed
    rw [if_neg (show (Orm.ofRow link).row.status ∉ SETTLED from hs)]
    exact ⟨setLinkStatus status, ⟨fun _ => rfl, fun _ => ⟨rfl, rfl⟩, fun h => absurd h hstatus⟩, rfl⟩
  unfold apply
  cases hst : state.status with
  | paid => exact ensures_applyPaid_row hs
  | failed =>
    unfold recordFailure
    rw [if_neg (show (Orm.ofRow link).row.status ∉ SETTLED from hs)]
    intro a _ b _
    rintro _ _ ⟨rfl, rfl⟩
    refine ⟨failureColumns state source a.now, ⟨fun _ => rfl, fun _ => ⟨rfl, rfl⟩, fun _ => ?_⟩, rfl⟩
    exact (not_settled_cases hs).imp_right fun h => ⟨hst, h⟩
  | expired =>
    rintro _ _ ⟨rfl, rfl⟩
    exact hclosed .expired (by decide)
  | canceled =>
    rintro _ _ ⟨rfl, rfl⟩
    exact hclosed .cancelled (by decide)
  | pending =>
    rintro _ _ ⟨rfl, rfl⟩
    exact ⟨id, hkept, rfl⟩

theorem ensures_applyTo_row {linkId : Uuid} :
    EnsuresUnder ans (fun r d' _ => r.isOk → d'.paymentLinks = d.paymentLinks ∨
        ∃ link f, Table.get d.paymentLinks linkId = some link ∧ RowEffect link state f ∧
          d'.paymentLinks = Table.modify d.paymentLinks link.id f)
      (applyTo linkId state source) d es := by
  unfold applyTo
  refine ensures_getLockedLink.under.bind_returns ?_
  rintro row d₁ es₁ ⟨hrow, rfl, rfl⟩
  cases row with
  | none => exact fun _ => .inl rfl
  | some link =>
    refine ensures_apply_row.bind ?_ ?_
    · rintro ⟨outcome, o⟩ d₂ es₂ hok
      obtain ⟨f, heffect, hlinks⟩ := hok outcome o rfl
      show EnsuresUnder ans _ ((fun _ => ()) <$> flushLink o >>= _) d₂ es₂
      refine EnsuresUnder.bind (Q := Returns fun _ d' _ => d' = flushed o d₂) ?_ ?_ ?_
      · refine Ensures.under ((ensures_map _ _ _ _).mpr (ensures_flushLink.mono (fun _ h => h) ?_))
        rintro r d₃ es₃ hr
        cases r with
        | error e => exact hr.elim
        | ok o₃ => exact hr.2.1
      · rintro u d₃ es₃ rfl
        exact fun _ => .inr ⟨link, f, hrow.symm, heffect, hlinks⟩
      · exact fun _ _ _ h => h.elim
    · exact fun _ _ _ _ h => nomatch h

end Apply

end PaymentLinks
