import UshBookNPay.PaymentLinks.Proofs.SettlementProofs

/-!
# What `apply` does

A call of `apply` on a settled link does nothing. On any other link it changes the row of that link
only, and a paid event is queued only where the link becomes paid.
-/

open Transactions (Prog Ensures EnsuresUnder exec)
open Transactions

namespace PaymentLinks

/-! ## Objects of links -/

/-- The database with the assignments of the object written. -/
def flushed (o : Orm PaymentLinkRow) (d : Db) : Db :=
  { d with paymentLinks := Table.modify d.paymentLinks o.row.id o.changes }

theorem flushed_unchanged {o : Orm PaymentLinkRow} (h : o.changes = id) (d : Db) :
    flushed o d = d := by
  unfold flushed
  rw [h, Table.modify_id]

section Statements

variable {ans : Env → Prop} {d : Db} {es : List Emission}

theorem ensures_flushLink {o : Orm PaymentLinkRow} :
    Ensures (fun _ => True) (Returns fun o' d' es' => o' = .ofRow o.row ∧ d' = flushed o d ∧ es' = es)
      (flushLink o) d es := by
  unfold flushLink
  rw [ensures_bind, ensures_update]
  exact ⟨trivial, rfl, rfl, rfl⟩

/-! ## The automatic refund -/

/-- The automatic refund of the link is accepted by its gateway. -/
def refundEmission (link : PaymentLinkRow) (state : GatewayPaymentState) : Emission :=
  .linkRefund link.gateway (refundKey link state) (refundAmount link state)
    (refundCurrency link state)

/-- What the automatic refund emits. The gateway is called where it is known and has a key. -/
def AutoRefunded (ans : Env → Prop) (link : PaymentLinkRow) (state : GatewayPaymentState)
    (es es' : List Emission) : Prop :=
  ((isGateway link.gateway ∧ refundKey link state ≠ "") ∧
    ∃ a, ans a ∧ es' = es ++ emitted (refundEmission link state) a.refund) ∨
  (¬ (isGateway link.gateway ∧ refundKey link state ≠ "") ∧ es' = es)

theorem ensures_autoRefund {link : PaymentLinkRow} {state : GatewayPaymentState} :
    EnsuresUnder ans (Returns fun _ d' es' => d' = d ∧ AutoRefunded ans link state es es')
      (autoRefund link state) d es := by
  unfold autoRefund
  generalize hg : isGateway link.gateway = known
  cases known with
  | false =>
    rw [if_pos (by simp)]
    exact ⟨rfl, .inr ⟨fun h => by simp [hg] at h, rfl⟩⟩
  | true =>
    rw [if_neg (by simp)]
    by_cases hkey : refundKey link state = ""
    · rw [if_pos hkey]
      exact ⟨rfl, .inr ⟨fun h => h.2 hkey, rfl⟩⟩
    · rw [if_neg hkey, ensuresUnder_bind_call]
      intro a ha
      have hcall : AutoRefunded ans link state es
          (es ++ emitted (refundEmission link state) a.refund) := .inl ⟨⟨hg, hkey⟩, a, ha, rfl⟩
      cases hr : a.refund with
      | ok res => exact ⟨rfl, hr ▸ hcall⟩
      | error exc => exact ⟨rfl, hr ▸ hcall⟩

/-! ## apply -/

/-- The settlement of a link by a paid state. -/
structure SettledBy (link : PaymentLinkRow) (state : GatewayPaymentState) (d d' : Db)
    (es es' : List Emission) : Prop where
  paid : state.status = .paid
  amount : ¬ amountMismatch link state
  events : SettleEvents link es es'
  payments : link.targetType ≠ .product → ∃ q, PaymentsStep link d d'.payments q
  activated : Activated link d'
  activatable : Activatable link d
  booking : link.targetType = .booking →
    ∀ b, Table.get d.bookings link.targetId = some b → SettledAs link.targetId b d'

/-- The target of a paid link could not be activated: the link counts as refunded, and the automatic
refund has been tried. -/
def RefundTried (ans : Env → Prop) (link : PaymentLinkRow) (state : GatewayPaymentState)
    (es es' : List Emission) : Prop :=
  ∃ link' : PaymentLinkRow, link'.gateway = link.gateway ∧
    link'.gatewayInvoiceId = link.gatewayInvoiceId ∧ link'.amount = link.amount ∧
    AutoRefunded ans link' state es es'

/-- What a call of `apply` does to a link that is not settled, its object written in the end. -/
structure Applied (ans : Env → Prop) (link : PaymentLinkRow) (state : GatewayPaymentState)
    (outcome : SettlementOutcome) (d d' : Db) (es es' : List Emission) : Prop where
  row : ∃ f : PaymentLinkRow → PaymentLinkRow, (∀ r, (f r).id = r.id) ∧
    d'.paymentLinks = Table.modify d.paymentLinks link.id f ∧
    ((f link).status = .paid ↔ outcome = .settled) ∧
    (state.status = .paid → outcome ≠ .settled →
      (f link).status = if amountMismatch link state then link.status else .refunded)
  webhookEvents : d'.paymentWebhookEvents = d.paymentWebhookEvents
  payments : d'.payments = d.payments ∨ ∃ q, PaymentsStep link d d'.payments q
  settled : outcome = .settled → SettledBy link state d d' es es'
  notSettled : outcome ≠ .settled → ∃ new, es' = es ++ new ∧ ∀ k, new.countP (isPaidEvent k) = 0
  paid : state.status = .paid → ¬ amountMismatch link state → outcome ≠ .settled →
    RefundTried ans link state es es' ∧ NotActivated link d d'

theorem PaymentsStep.congr {link link' : PaymentLinkRow} {d d' : Db} {ps : List PaymentRow}
    {q : PaymentRow} (h : PaymentsStep link' d' ps q) (ht : link'.targetType = link.targetType)
    (hi : link'.targetId = link.targetId) (ha : link'.amount = link.amount)
    (hid : link'.id = link.id) (hp : d'.payments = d.payments) : PaymentsStep link d ps q := by
  have hof : paymentsOf link'.targetType link'.targetId d' =
      paymentsOf link.targetType link.targetId d := by
    unfold paymentsOf
    rw [ht, hi, hp]
  rcases h with ⟨_, hnone, hfresh, hc⟩ | ⟨p, f, hnew, hchanged⟩
  · rw [hp]
    refine .created q (hof ▸ hnone) (hp ▸ hfresh) ⟨?_, hc.refunded, hc.status, ?_, ?_, ?_, hc.provider⟩
    · rw [hc.total, ha]
    · rw [hc.booking, ht, hi]
    · rw [hc.voucher, ht, hi]
    · rw [hc.link, hid]
  · rw [hp]
    refine .changed p f (hof ▸ hnew) fun r => ?_
    have h := hchanged r
    exact ⟨h.id, h.total, h.refunded, h.status, h.booking, h.voucher, by rw [h.link, hid], h.provider⟩

/-- Assignments that keep the key and the status of a link. -/
theorem Assigned.ofRow {row : PaymentLinkRow} {o : Orm PaymentLinkRow}
    (h : Assigned (.ofRow row) o) : o.row.id = row.id ∧ o.row.gateway = row.gateway ∧
      o.row.gatewayInvoiceId = row.gatewayInvoiceId ∧ o.row.amount = row.amount ∧
      ∀ r, (o.changes r).id = r.id ∧ (o.changes r).status = r.status := by
  rcases h with rfl | ⟨pid, rfl⟩
  · exact ⟨rfl, rfl, rfl, rfl, fun _ => ⟨rfl, rfl⟩⟩
  · exact ⟨rfl, rfl, rfl, rfl, fun _ => ⟨rfl, rfl⟩⟩

theorem flushed_links {o : Orm PaymentLinkRow} {link : PaymentLinkRow} {d₁ d₂ : Db}
    {f : PaymentLinkRow → PaymentLinkRow} (hf : ∀ r, (f r).id = r.id)
    (h : d₂.paymentLinks = Table.modify d₁.paymentLinks link.id f) (hid : o.row.id = link.id) :
    (flushed o d₂).paymentLinks = Table.modify d₁.paymentLinks link.id (o.changes ∘ f) := by
  unfold flushed
  rw [h, hid, Table.modify_modify hf]

theorem isPaidEvent_autoRefunded {link : PaymentLinkRow} {state : GatewayPaymentState}
    {es' : List Emission} (h : AutoRefunded ans link state es es') :
    ∃ new, es' = es ++ new ∧ ∀ k, new.countP (isPaidEvent k) = 0 := by
  rcases h with ⟨-, a, -, rfl⟩ | ⟨-, rfl⟩
  · refine ⟨_, rfl, fun k => ?_⟩
    cases a.refund with
    | ok res => cases hr : res.isSuccessful <;> simp [emitted, hr, isPaidEvent, refundEmission]
    | error exc => rfl
  · exact ⟨[], (List.append_nil _).symm, fun _ => rfl⟩

theorem ensures_refundNotActivatable {o : Orm PaymentLinkRow} {state : GatewayPaymentState}
    {exc : Error} :
    EnsuresUnder ans (Returns fun r d' es' => r.1 = .failureRecorded ∧ r.2.changes = id ∧
        AutoRefunded ans (setLinkStatus .refunded o.row) state es es' ∧
        ∃ err, d' = flushed ((o.set (setLinkStatus .refunded)).set (attentionColumns exc err)) d)
      (refundNotActivatable o state exc) d es := by
  unfold refundNotActivatable
  dsimp only
  refine EnsuresUnder.bind_returns ensures_autoRefund ?_
  rintro err d₁ es₁ ⟨rfl, hrefund⟩
  refine ensures_flushLink.under.bind_returns ?_
  rintro o' d₂ es₂ ⟨rfl, rfl, rfl⟩
  exact ⟨rfl, rfl, hrefund, err, rfl⟩

theorem ensures_applyPaid {link : PaymentLinkRow} {state : GatewayPaymentState} {source : String}
    (hs : link.status ∉ SETTLED) (hpaid : state.status = .paid) :
    EnsuresUnder ans (fun r d' es' => (∀ e, r = .error e → es' = es) ∧
        ∀ outcome o, r = .ok (outcome, o) → Applied ans link state outcome d (flushed o d') es es')
      (applyPaid (.ofRow link) state source) d es := by
  have hne : link.status ≠ .paid := fun h => hs (by rw [h]; decide)
  unfold applyPaid
  rw [if_neg (show (Orm.ofRow link).row.status ∉ SETTLED from hs)]
  by_cases hm : amountMismatch link state
  · have hm' : amountMismatch (Orm.ofRow link).row state := hm
    rw [if_pos hm']
    refine ⟨fun _ h => (by cases h), ?_⟩
    rintro _ _ ⟨rfl, rfl⟩
    refine ⟨⟨mismatchColumns state, fun _ => rfl, rfl, ?_⟩, rfl, .inl rfl, fun h => (by cases h),
      fun _ => ⟨[], (List.append_nil _).symm, fun _ => rfl⟩, fun _ h => absurd hm h⟩
    exact ⟨⟨fun h => absurd h hne, fun h => (by cases h)⟩, fun _ _ => (if_pos hm).symm⟩
  · have hm' : ¬ amountMismatch (Orm.ofRow link).row state := hm
    rw [if_neg hm']
    intro a _
    refine ensures_flushLink.under.bind_returns ?_
    rintro o₁ d₁ es₁ ⟨rfl, rfl, rfl⟩
    rw [show es ++ _ = es from List.append_nil _]
    generalize hcol : paidColumns state source a.now = columns
    have hcolumns : ∀ r, (columns r).id = r.id := by
      subst hcol
      exact fun _ => rfl
    refine ensures_settleTarget.under.bind ?_ ?_
    · rintro ⟨o₂, failure⟩ d₂ es₂ ⟨-, hok⟩
      obtain ⟨hassigned, hframe, hfailed, hevents, hpayments, hactivated, hactivatable, hnot,
        hbooking⟩ := hok o₂ failure rfl
      obtain ⟨hid, hgateway, hinvoice, hamount, hchanges⟩ := hassigned.ofRow
      have hid' : o₂.row.id = link.id := by
        rw [hid]
        exact hcolumns link
      have hlinks : d₂.paymentLinks = Table.modify d.paymentLinks link.id columns := by
        rw [hframe.links]
        show Table.modify d.paymentLinks (columns link).id columns = _
        rw [hcolumns]
      have hstep : ∀ {ps q}, PaymentsStep (columns link) (flushed ((Orm.ofRow link).set columns) d)
          ps q → PaymentsStep link d ps q := by
        subst hcol
        exact fun h => h.congr rfl rfl rfl rfl rfl
      have hall : d₂.payments = d.payments ∨ ∃ q, PaymentsStep link d d₂.payments q :=
        hframe.payments.imp id fun ⟨q, hq⟩ => ⟨q, hstep hq⟩
      cases failure with
      | none =>
        refine ensures_flushLink.under.bind_returns ?_
        rintro o₃ d₃ es₃ ⟨rfl, rfl, rfl⟩
        refine ⟨fun _ h => (by cases h), ?_⟩
        rintro _ _ ⟨rfl, rfl⟩
        rw [flushed_unchanged rfl]
        refine ⟨⟨o₂.changes ∘ columns, fun r => ?_, flushed_links hcolumns hlinks hid', ?_⟩,
          hframe.webhookEvents, hall, fun _ => ?_, fun h => absurd rfl h, fun _ _ h => absurd rfl h⟩
        · rw [Function.comp_apply, (hchanges _).1, hcolumns]
        · rw [Function.comp_apply, (hchanges _).2]
          subst hcol
          exact ⟨⟨fun _ => rfl, fun _ => rfl⟩, fun _ h => absurd rfl h⟩
        · subst hcol
          exact ⟨hpaid, hm, hevents rfl, fun ht => (hpayments rfl ht).imp fun q hq => hstep hq,
            hactivated rfl, hactivatable rfl, hbooking rfl⟩
      | some exc =>
        obtain rfl := hfailed (by simp)
        refine ensures_refundNotActivatable.mono ?_
        rintro r d₃ es₃ hr
        cases r with
        | error e => exact hr.elim
        | ok r =>
          obtain ⟨outcome, o₃⟩ := r
          obtain ⟨rfl, hid₃, hrefund, err, rfl⟩ := hr
          refine ⟨fun _ h => (by cases h), ?_⟩
          rintro _ _ ⟨rfl, rfl⟩
          rw [flushed_unchanged hid₃]
          have hlinks₃ : (flushed ((o₂.set (setLinkStatus .refunded)).set (attentionColumns exc err))
              d₂).paymentLinks = Table.modify d.paymentLinks link.id
                ((attentionColumns exc err ∘ setLinkStatus .refunded ∘ o₂.changes) ∘ columns) :=
            flushed_links hcolumns hlinks hid'
          refine ⟨⟨_, fun r => ?_, hlinks₃, ?_⟩, hframe.webhookEvents, hall,
            fun h => (by cases h), fun _ => isPaidEvent_autoRefunded hrefund, fun _ _ _ => ?_⟩
          · show (o₂.changes (columns r)).id = r.id
            rw [(hchanges _).1, hcolumns]
          · exact ⟨⟨fun h => (by cases h), fun h => (by cases h)⟩, fun _ _ => (if_neg hm).symm⟩
          · have hfail := hnot (by simp)
            refine ⟨⟨_, ?_, ?_, ?_, hrefund⟩, ?_⟩
            · show o₂.row.gateway = link.gateway
              rw [hgateway]
              subst hcol
              rfl
            · show o₂.row.gatewayInvoiceId = link.gatewayInvoiceId
              rw [hinvoice]
              subst hcol
              rfl
            · show o₂.row.amount = link.amount
              rw [hamount]
              subst hcol
              rfl
            · subst hcol
              exact ⟨hfail.target, hfail.bookings, hfail.vouchers, hfail.without,
                fun h => (hfail.voucher h).imp fun q hq => hstep hq⟩
    · rintro e d₂ es₂ ⟨herr, -⟩
      exact ⟨fun _ _ => herr e rfl, fun _ _ h => by cases h⟩

theorem ensures_recordFailure {link : PaymentLinkRow} {state : GatewayPaymentState}
    {source : String} (hs : link.status ∉ SETTLED) (hfailed : state.status = .failed) :
    EnsuresUnder ans (fun r d' es' => (∀ e, r = .error e → es' = es) ∧
        ∀ outcome o, r = .ok (outcome, o) → Applied ans link state outcome d (flushed o d') es es')
      (recordFailure (.ofRow link) state source) d es := by
  unfold recordFailure
  rw [if_neg (show (Orm.ofRow link).row.status ∉ SETTLED from hs)]
  intro a _ b _
  refine ⟨fun _ h => (by cases h), ?_⟩
  rintro _ _ ⟨rfl, rfl⟩
  refine ⟨⟨failureColumns state source a.now, fun _ => rfl, rfl, ?_⟩, rfl, .inl rfl,
    fun h => (by cases h), fun _ => ?_, fun h => ?_⟩
  · refine ⟨⟨fun h => (by cases h), fun h => (by cases h)⟩, fun h => ?_⟩
    rw [hfailed] at h
    cases h
  · rw [show es ++ _ = es from List.append_nil _]
    refine ⟨_, rfl, fun k => ?_⟩
    show List.countP _ (if _ then [Emission.paymentLinkFailed _] else []) = 0
    split_ifs <;> rfl
  · rw [hfailed] at h
    cases h

/-- A call of `apply` on a link that is not settled. -/
theorem ensures_apply {link : PaymentLinkRow} {state : GatewayPaymentState} {source : String}
    (hs : link.status ∉ SETTLED) :
    EnsuresUnder ans (fun r d' es' => (∀ e, r = .error e → es' = es) ∧
        ∀ outcome o, r = .ok (outcome, o) → Applied ans link state outcome d (flushed o d') es es')
      (apply (.ofRow link) state source) d es := by
  have hne : link.status ≠ .paid := fun h => hs (by rw [h]; decide)
  have hclosed : ∀ status : PaymentLinkStatus, status ≠ .paid → state.status ≠ .paid →
      Applied ans link state .pending d
        (flushed (recordClosed (.ofRow link) status).2 d) es es := by
    intro status hstatus hstate
    unfold recordClosed
    rw [if_neg (show (Orm.ofRow link).row.status ∉ SETTLED from hs)]
    refine ⟨⟨setLinkStatus status, fun _ => rfl, rfl, ?_⟩, rfl, .inl rfl, fun h => (by cases h),
      fun _ => ⟨[], (List.append_nil _).symm, fun _ => rfl⟩, fun h => absurd h hstate⟩
    exact ⟨⟨fun h => absurd h hstatus, fun h => (by cases h)⟩, fun h => absurd h hstate⟩
  unfold apply
  cases hst : state.status with
  | paid => exact ensures_applyPaid hs hst
  | failed => exact ensures_recordFailure hs hst
  | expired =>
    refine ⟨fun _ h => (by cases h), ?_⟩
    rintro _ _ ⟨rfl, rfl⟩
    exact hclosed .expired (by decide) (by rw [hst]; decide)
  | canceled =>
    refine ⟨fun _ h => (by cases h), ?_⟩
    rintro _ _ ⟨rfl, rfl⟩
    exact hclosed .cancelled (by decide) (by rw [hst]; decide)
  | pending =>
    refine ⟨fun _ h => (by cases h), ?_⟩
    rintro _ _ ⟨rfl, rfl⟩
    rw [flushed_unchanged rfl]
    refine ⟨⟨id, fun _ => rfl, (Table.modify_id _ _).symm, ?_⟩, rfl, .inl rfl,
      fun h => (by cases h), fun _ => ⟨[], (List.append_nil _).symm, fun _ => rfl⟩, fun h => ?_⟩
    · refine ⟨⟨fun h => absurd h hne, fun h => (by cases h)⟩, fun h => ?_⟩
      rw [hst] at h
      cases h
    · rw [hst] at h
      cases h

/-- A call of `apply` on a settled link. -/
theorem ensures_apply_settled {link : PaymentLinkRow} {state : GatewayPaymentState}
    {source : String} (hs : link.status ∈ SETTLED) :
    Ensures (fun _ => True) (Returns fun r d' es' => r.1 ≠ .settled ∧ r.2 = .ofRow link ∧ d' = d ∧
        es' = es)
      (apply (.ofRow link) state source) d es := by
  have hs' : (Orm.ofRow link).row.status ∈ SETTLED := hs
  unfold apply applyPaid recordFailure recordClosed
  cases state.status with
  | paid =>
    dsimp only
    rw [if_pos hs']
    exact ⟨fun h => (by cases h), rfl, rfl, rfl⟩
  | failed =>
    dsimp only
    rw [if_pos hs']
    exact ⟨fun h => (by cases h), rfl, rfl, rfl⟩
  | expired =>
    dsimp only
    rw [if_pos hs']
    exact ⟨fun h => (by cases h), rfl, rfl, rfl⟩
  | canceled =>
    dsimp only
    rw [if_pos hs']
    exact ⟨fun h => (by cases h), rfl, rfl, rfl⟩
  | pending => exact ⟨fun h => (by cases h), rfl, rfl, rfl⟩

/-! ## A transaction of apply -/

theorem ensures_getLockedLink {linkId : Uuid} :
    Ensures (fun _ => True) (Returns fun r d' es' => r = Table.get d.paymentLinks linkId ∧ d' = d ∧
        es' = es) (getLockedLink linkId) d es := by
  unfold getLockedLink
  rw [ensures_queryForUpdate]
  exact ⟨trivial, rfl, rfl, rfl⟩

theorem ensures_applyTo_settled {linkId : Uuid} {state : GatewayPaymentState} {source : String}
    (hs : Settled linkId d) :
    Ensures (fun _ => True) (Returns fun r d' es' => r ≠ some .settled ∧ d' = d ∧ es' = es)
      (applyTo linkId state source) d es := by
  obtain ⟨link, hlink, hstatus⟩ := hs
  unfold applyTo
  refine ensures_getLockedLink.bind_returns ?_
  rintro row d₁ es₁ ⟨rfl, rfl, rfl⟩
  have hlink' : Table.get d₁.paymentLinks linkId = some link := hlink
  rw [hlink']
  refine (ensures_apply_settled hstatus).bind_returns ?_
  rintro ⟨outcome, o⟩ d₂ es₂ ⟨hout, rfl, rfl, rfl⟩
  show Ensures _ _ ((fun _ => ()) <$> flushLink _ >>= _) d₂ es₂
  rw [ensures_bind, ensures_map]
  refine ensures_flushLink.mono (fun _ h => h) ?_
  rintro r d₃ es₃ hr
  cases r with
  | error e => exact hr.elim
  | ok o₃ =>
    obtain ⟨-, rfl, rfl⟩ := hr
    exact ⟨fun h => hout (Option.some.inj h), flushed_unchanged rfl _, rfl⟩

/-- A transaction of `apply` on a link that is not settled: without the row nothing happens. -/
theorem ensures_applyTo {linkId : Uuid} {state : GatewayPaymentState} {source : String}
    (hs : ¬ Settled linkId d) :
    EnsuresUnder ans (fun r d' es' => (∀ e, r = .error e → es' = es) ∧
        (r = .ok none → Table.get d.paymentLinks linkId = none ∧ d' = d ∧ es' = es) ∧
        ∀ outcome, r = .ok (some outcome) → ∃ link, Table.get d.paymentLinks linkId = some link ∧
          Applied ans link state outcome d d' es es')
      (applyTo linkId state source) d es := by
  unfold applyTo
  refine ensures_getLockedLink.under.bind_returns ?_
  rintro row d₁ es₁ ⟨hrow, rfl, rfl⟩
  cases row with
  | none =>
    refine ⟨fun _ h => (by cases h), fun _ => ⟨hrow.symm, rfl, rfl⟩, fun _ h => (by cases h)⟩
  | some link =>
    have hlink : Table.get d₁.paymentLinks linkId = some link := hrow.symm
    have hns : link.status ∉ SETTLED := fun h => hs ⟨link, hlink, h⟩
    refine (ensures_apply hns).bind ?_ ?_
    · rintro ⟨outcome, o⟩ d₂ es₂ ⟨-, hok⟩
      have happ := hok outcome o rfl
      show EnsuresUnder ans _ ((fun _ => ()) <$> flushLink o >>= _) d₂ es₂
      refine EnsuresUnder.bind (Q := Returns fun _ d' es' => d' = flushed o d₂ ∧ es' = es₂) ?_ ?_ ?_
      · refine Ensures.under ((ensures_map _ _ _ _).mpr (ensures_flushLink.mono (fun _ h => h) ?_))
        rintro r d₃ es₃ hr
        cases r with
        | error e => exact hr.elim
        | ok o₃ => exact hr.2
      · rintro u d₃ es₃ ⟨rfl, rfl⟩
        refine ⟨fun _ h => (by cases h), fun h => (by cases h), ?_⟩
        rintro _ ⟨rfl⟩
        exact ⟨link, hlink, happ⟩
      · rintro e d₃ es₃ h
        exact h.elim
    · rintro e d₂ es₂ ⟨herr, -⟩
      exact ⟨fun _ _ => herr e rfl, fun h => (by cases h), fun _ h => (by cases h)⟩

/-- What a run of `apply` on a link that is not settled has done. -/
theorem exec_applyTo {link : PaymentLinkRow} {state : GatewayPaymentState} {source : String}
    {env : ℕ → Env} {outcome : SettlementOutcome} (henv : ∀ n, ans (env n))
    (hs : link.status ∉ SETTLED) (hlink : Table.get d.paymentLinks link.id = some link)
    (h : (exec env (applyTo link.id state source) d).1 = .ok (some outcome)) :
    Applied ans link state outcome d (exec env (applyTo link.id state source) d).2.1 []
      (exec env (applyTo link.id state source) d).2.2 := by
  have hns : ¬ Settled link.id d := by
    rintro ⟨l, hl, hstatus⟩
    rw [hlink] at hl
    obtain rfl : link = l := by simpa using hl
    exact hs hstatus
  have hensures : EnsuresUnder ans _ (applyTo link.id state source) d [] := ensures_applyTo hns
  obtain ⟨l, hl, happlied⟩ := (hensures.exec henv).2.2 outcome h
  rw [hlink] at hl
  obtain rfl : link = l := by simpa using hl
  exact happlied

/-- Only a link that is not settled is settled by a call of `apply`. -/
theorem not_settled_of_exec {link : PaymentLinkRow} {state : GatewayPaymentState} {source : String}
    {env : ℕ → Env} (hlink : Table.get d.paymentLinks link.id = some link)
    (h : (exec env (applyTo link.id state source) d).1 = .ok (some .settled)) :
    link.status ∉ SETTLED := by
  intro hs
  have hensures : Ensures (fun _ => True) _ (applyTo link.id state source) d [] :=
    ensures_applyTo_settled ⟨link, hlink, hs⟩
  have hrun := hensures.exec env
  rw [h] at hrun
  exact hrun.1 rfl

end Statements

end PaymentLinks
