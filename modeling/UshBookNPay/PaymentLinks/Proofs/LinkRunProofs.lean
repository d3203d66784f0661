import UshBookNPay.PaymentLinks.Proofs.LinkEffectProofs

/-!
# One payable invoice

A link that is issued takes the place of the open link of its target. Where the old invoice is really
cancelled then, and no failed payment opens a closed link again, a target never has two open links nor
two invoices a customer can pay.
-/

open Transactions (Prog Ensures EnsuresUnder Emits AtEnd transact exec)
open Transactions

namespace PaymentLinks

/-! ## One call -/

/-- The invariant of a run, with the payments and the time of the state kept apart. -/
structure Single (target : Target) (paid : List (String × String)) (now : Instant) (d : Db)
    (es : List Emission) : Prop where
  unique : Table.Unique d.paymentLinks
  links : (openLinks target d.paymentLinks).length ≤ 1
  invoices : (payable target paid now es).length ≤ 1

section Calls

variable {target : Target} {paid : List (String × String)} {now : Instant} {env : ℕ → Env} {d : Db}
  {es : List Emission} {s : PaymentLinkService}

/-- The answers of an environment. -/
def AnsweredBy (env : ℕ → Env) (a : Env) : Prop := ∃ n, a = env n

theorem Single.congr {d' : Db} {es' : List Emission} (h : Single target paid now d es)
    (hd : d'.paymentLinks = d.paymentLinks)
    (hes : (payable target paid now es').Sublist (payable target paid now es)) :
    Single target paid now d' es' :=
  ⟨hd ▸ h.unique, hd ▸ h.links, hes.length_le.trans h.invoices⟩

theorem Single.modify {d' : Db} {k : Uuid} {f : PaymentLinkRow → PaymentLinkRow}
    (h : Single target paid now d es) (hd : d'.paymentLinks = Table.modify d.paymentLinks k f)
    (hid : ∀ r, (f r).id = r.id)
    (hopen : ∀ r ∈ d.paymentLinks, r.id = k → isOpenFor target.1 target.2 (f r) →
      isOpenFor target.1 target.2 r) : Single target paid now d' es :=
  ⟨by rw [hd]; exact h.unique.modify hid k, by rw [hd]; exact (openLinks_modify hopen).trans h.links,
    h.invoices⟩

variable (target paid now) in
theorem ensures_cancelAtGateway_single {invoice : Option String} :
    EnsuresUnder (AnsweredBy env) (Returns fun _ d' es' => d' = d ∧
        (payable target paid now es').Sublist (payable target paid now es) ∧
        ((∀ n, (env n).cancel.isOk) → ∀ i ∈ payable target paid now es',
          ¬ (i.gateway = s.gateway.name ∧ i.gatewayInvoiceId ≠ "" ∧
            invoice = some i.gatewayInvoiceId)))
      (cancelAtGateway s invoice) d es := by
  unfold cancelAtGateway
  by_cases ht : Text.truthy invoice
  · rw [if_pos ht, ensuresUnder_call]
    rintro a ⟨n, rfl⟩
    cases hc : (env n).cancel with
    | error e =>
      rw [show cancellation s.gateway.name _ _ = [] from rfl, List.append_nil]
      refine ⟨rfl, List.Sublist.refl _, fun hok => ?_⟩
      have hn := hok n
      rw [hc] at hn
      cases hn
    | ok u =>
      rw [show cancellation s.gateway.name (Text.orEmpty invoice) _ =
        [.cancelLink s.gateway.name (Text.orEmpty invoice)] from rfl]
      refine ⟨rfl, ?_, fun _ i hi => ?_⟩
      · rw [payable_cancel]
        exact List.filter_sublist
      · rw [payable_cancel, List.mem_filter, decide_eq_true_eq] at hi
        rintro ⟨hgateway, hne, rfl⟩
        refine hi.2 ⟨hgateway, ?_⟩
        simp [Text.orEmpty, Text.or, hne]
  · rw [if_neg ht]
    refine ⟨rfl, List.Sublist.refl _, fun _ i _ => ?_⟩
    rintro ⟨-, hne, rfl⟩
    exact ht (by simp [Text.truthy, hne])

theorem ensures_loadTarget {targetType : String} {targetId : Uuid} :
    Ensures (fun _ => True) (fun r d' es' => d' = d ∧ es' = es ∧
        ∀ row, r = .ok row → Loadable targetType targetId d row ∧ row.id = targetId)
      (loadTarget targetType targetId) d es := by
  have hvoucher : Ensures (fun _ => True) (fun r d' es' => d' = d ∧ es' = es ∧
      ∀ row, r = .ok row → row.row.id = targetId ∧ ∃ v ∈ Table.get d.giftVouchers targetId,
        (v.status = .created ∨ v.status = .paymentPending) ∧ row = .ofRow v)
      (loadVoucher targetId) d es := by
    unfold loadVoucher
    rw [ensures_bind_queryForUpdate]
    refine ⟨trivial, ?_⟩
    cases hv : Table.get d.giftVouchers targetId with
    | none => exact ⟨rfl, rfl, fun _ h => nomatch h⟩
    | some v =>
      dsimp only
      rw [ensures_bind_raiseIf]
      refine ⟨fun _ => ⟨rfl, rfl, fun _ h => nomatch h⟩, fun hunpaid => ⟨rfl, rfl, ?_⟩⟩
      rintro _ ⟨rfl⟩
      exact ⟨(Table.get_some hv).2, v, rfl, by tauto, rfl⟩
  unfold loadTarget Loadable
  rcases hs : supportedTarget targetType with _ | ⟨_ | _ | _⟩
  · exact ⟨rfl, rfl, fun _ h => nomatch h⟩
  · dsimp only
    rw [ensures_map]
    refine ensures_loadBooking.mono (fun _ h => h) ?_
    rintro r d' es' ⟨rfl, rfl, hr⟩
    cases r with
    | error e => exact ⟨rfl, rfl, fun _ h => nomatch h⟩
    | ok o =>
      obtain ⟨b, hb, hlinkable, hunpaid, rfl⟩ := hr o rfl
      have hid : b.id = targetId := (Table.get_some hb).2
      refine ⟨rfl, rfl, ?_⟩
      rintro _ ⟨rfl⟩
      exact ⟨⟨b, hb, hlinkable, hunpaid, rfl⟩, hid⟩
  · dsimp only
    rw [ensures_map]
    refine hvoucher.mono (fun _ h => h) ?_
    rintro r d' es' ⟨rfl, rfl, hr⟩
    cases r with
    | error e => exact ⟨rfl, rfl, fun _ h => nomatch h⟩
    | ok o =>
      obtain ⟨hid, v, hv, hunpaid, rfl⟩ := hr o rfl
      refine ⟨rfl, rfl, ?_⟩
      rintro _ ⟨rfl⟩
      exact ⟨⟨v, hv, hunpaid, rfl⟩, hid⟩
  · exact ⟨rfl, rfl, fun _ h => nomatch h⟩

/-- The open link is used again, or it is deleted after its invoice was cancelled. -/
theorem ensures_replaceOpenLink_single (kind : Target) {amount : Decimal} {forceNew : Bool}
    (h : Single target paid now d es) :
    EnsuresUnder (AnsweredBy env) (fun r d' es' =>
        (payable target paid now es').Sublist (payable target paid now es) ∧
        (∀ link, r = .ok (some link) → d' = d) ∧
        (r = .ok none → Single target paid now d' es' ∧ (kind = target →
          openLinks target d'.paymentLinks = [] ∧ ∀ i ∈ payable target paid now es', ∀ link,
            (openLinks kind d.paymentLinks).getLast? = some link →
              (∃ n, ¬ StaysOpen s amount forceNew link (env n).now) ∧
                ¬ (OwnInvoice s link i ∧ ∀ n, (env n).cancel.isOk))))
      (replaceOpenLink s amount forceNew (openLinks kind d.paymentLinks).getLast?) d es := by
  cases hexisting : (openLinks kind d.paymentLinks).getLast? with
  | none =>
    refine ⟨List.Sublist.refl _, fun _ h => (by cases h), fun _ => ⟨h, ?_⟩⟩
    rintro rfl
    exact ⟨List.getLast?_eq_none_iff.mp hexisting, fun _ _ _ h => nomatch h⟩
  | some link =>
    unfold replaceOpenLink
    rw [ensuresUnder_bind_ask]
    rintro _ ⟨n, rfl⟩
    rw [ensuresUnder_bind_raiseIf]
    refine ⟨fun _ => ⟨List.Sublist.refl _, fun _ h => (by cases h), fun h => (by cases h)⟩,
      fun hblocks => ?_⟩
    by_cases hreuse : reusable s amount link (env n).now ∧ ¬ forceNew
    · rw [if_pos hreuse]
      exact ⟨List.Sublist.refl _, fun _ _ => rfl, fun h => (by cases h)⟩
    rw [if_neg hreuse]
    refine (ensures_cancelAtGateway_single target paid now).bind_returns ?_
    rintro u d₁ es₁ ⟨rfl, hsub, hcancelled⟩
    unfold deleteRow
    refine EnsuresUnder.bind_returns (Q := fun _ d' es' => es' = es₁ ∧
      d' = { d₁ with paymentLinks := Table.erase d₁.paymentLinks link.id }) ?_ ?_
    · exact fun _ _ => ⟨List.append_nil _, rfl⟩
    rintro _ d₂ es₂ ⟨rfl, rfl⟩
    refine ⟨hsub, fun _ h => (by cases h), fun _ => ⟨⟨h.unique.erase _, ?_, ?_⟩, ?_⟩⟩
    · exact (openLinks_erase _).trans h.links
    · exact hsub.length_le.trans h.invoices
    · rintro rfl
      refine ⟨openLinks_erase_newest h.links hexisting, ?_⟩
      rintro i hi _ ⟨rfl⟩
      refine ⟨⟨n, fun hstays => hstays.elim hblocks hreuse⟩, ?_⟩
      rintro ⟨⟨hgateway, hne, hinvoice⟩, haccepted⟩
      exact hcancelled haccepted i hi ⟨hgateway, hne, hinvoice⟩

theorem keeps_links_flushBooking (o : Orm BookingRow) : Keeps (·.paymentLinks) (flushBooking o) := by
  refine Keeps.bind (keeps_update _ ?_) fun _ => keeps_pure _
  exact fun _ => rfl

theorem keeps_links_flushVoucher (o : Orm GiftVoucherRow) :
    Keeps (·.paymentLinks) (flushVoucher o) := by
  refine Keeps.bind (keeps_update _ ?_) fun _ => keeps_pure _
  exact fun _ => rfl

theorem keeps_links_attachLink (row : LinkTarget) (link : PaymentLinkRow) (actorId : String) :
    Keeps (·.paymentLinks) (attachLink row link actorId) := by
  unfold attachLink
  cases row with
  | booking b => exact (keeps_links_flushBooking _).map _
  | voucher v =>
    dsimp only
    split_ifs
    · refine Keeps.map ?_ _
      refine (keeps_query _).bind fun row => ?_
      cases row with
      | none => exact keeps_throw _
      | some row =>
        refine (keeps_raiseIf _ _).bind fun _ => Keeps.bind ?_ fun _ => (keeps_ask _).bind fun _ =>
          (keeps_links_flushVoucher _).bind fun _ => (keeps_call _ _).bind fun _ => keeps_pure _
        split_ifs
        · exact keeps_ask _
        · exact keeps_pure _
    · exact (keeps_links_flushVoucher _).map _

theorem emits_attachLink (row : LinkTarget) (link : PaymentLinkRow) (actorId : String) :
    Emits Quiet (attachLink row link actorId) := by
  unfold attachLink
  cases row with
  | booking b => exact (emits_flushBooking _).map _
  | voucher v =>
    dsimp only
    split_ifs
    · exact (emits_updateStatus _ _ _ _).map _
    · exact (emits_flushVoucher _).map _

theorem linkConflict_none {l : PaymentLinkRow} (h : linkConflict d l = none) :
    Table.get d.paymentLinks l.id = none := by
  unfold linkConflict at h
  split_ifs at h with h1
  simpa using h1

theorem ensures_writeInvoiceNumber {row : LinkTarget} {assigned : Option String} :
    Ensures (fun _ => True) (Returns fun _ d' es' => d'.paymentLinks = d.paymentLinks ∧ es' = es)
      (writeInvoiceNumber row assigned) d es := by
  unfold writeInvoiceNumber
  cases row with
  | voucher v => exact ⟨rfl, rfl⟩
  | booking b =>
    cases assigned with
    | none => exact ⟨rfl, rfl⟩
    | some number =>
      dsimp only
      unfold flushBooking
      rw [ensures_map, ensures_bind, ensures_update]
      exact ⟨trivial, rfl, rfl⟩

variable (target paid now) in
/-- An issued link is one more open link and at most one more invoice of its target. -/
theorem ensures_issueLink_single {row : LinkTarget} {amount : Decimal} {req : LinkRequest}
    (hu : Table.Unique d.paymentLinks) :
    EnsuresUnder (AnsweredBy env) (fun r d' es' =>
        (r.isOk → Table.Unique d'.paymentLinks ∧ (openLinks target d'.paymentLinks).length ≤
          (openLinks target d.paymentLinks).length + if (row.kind, row.id) = target then 1 else 0) ∧
        ((payable target paid now es').length ≤ (payable target paid now es).length ∨
          ((row.kind, row.id) = target ∧ ∃ n, (env n).link.isOk) ∧
            (payable target paid now es').length ≤ (payable target paid now es).length + 1))
      (issueLink s row amount req) d es := by
  unfold issueLink
  refine ensures_resolveInvoice.under.bind_returns ?_
  rintro invoice d₁ es₁ ⟨rfl, rfl⟩
  rw [ensuresUnder_bind_ask]
  intro a₁ _
  rw [ensuresUnder_bind_ask]
  intro a₂ _
  rw [ensuresUnder_bind_ask]
  intro a₃ _
  dsimp only
  generalize hl : newLink s row amount req invoice a₁.now a₂.uuid a₃.linkNumber = link
  have htarget : (link.targetType, link.targetId) = (row.kind, row.id) := by
    subst hl
    rfl
  have hinsert : Ensures (fun _ => True) (fun r d' es' => es' = es₁ ∧ (r.isOk →
      Table.get d₁.paymentLinks link.id = none ∧ d'.paymentLinks = d₁.paymentLinks ++ [link]))
      (insertLink link) d₁ es₁ := by
    unfold insertLink
    rw [ensures_checkedUpdate]
    refine ⟨trivial, ?_⟩
    cases hc : linkConflict d₁ link with
    | some e => exact ⟨rfl, fun h => nomatch h⟩
    | none => exact ⟨rfl, fun _ => ⟨linkConflict_none hc, rfl⟩⟩
  refine hinsert.under.bind ?_ ?_
  swap
  · rintro e d₂ es₂ ⟨rfl, -⟩
    exact ⟨fun h => (by cases h), .inl le_rfl⟩
  rintro _ d₂ es₂ ⟨rfl, hok⟩
  obtain ⟨hfresh, hlinks⟩ := hok rfl
  refine ensures_writeInvoiceNumber.under.bind_returns ?_
  rintro row' d₃ es₃ ⟨hlinks₃, rfl⟩
  -- the rows after the object of the link was written once more
  have hwritten : ∀ f : PaymentLinkRow → PaymentLinkRow, (f link).id = link.id →
      ((f link).targetType, (f link).targetId) = (link.targetType, link.targetId) →
      ∀ d' : Db, d'.paymentLinks = Table.modify d₃.paymentLinks link.id f →
      Table.Unique d'.paymentLinks ∧ (openLinks target d'.paymentLinks).length ≤
        (openLinks target d₁.paymentLinks).length +
          if (row.kind, row.id) = target then 1 else 0 := by
    intro f hid hsame d' hd'
    have hrows : d'.paymentLinks = d₁.paymentLinks ++ [f link] := by
      rw [hd', hlinks₃, hlinks]
      exact Table.modify_append_new hfresh f
    rw [hrows]
    refine ⟨hu.append ?_, ?_⟩
    · rw [show Table.Keyed.key (f link) = link.id from hid]
      exact hfresh
    · have hcount : (openLinks target (d₁.paymentLinks ++ [f link])).length ≤ _ := openLinks_insert
      rwa [hsame, htarget] at hcount
  rw [ensuresUnder_bind_call]
  rintro _ ⟨n, rfl⟩
  cases hlink : (env n).link with
  | error exc =>
    rw [show issue link amount (.error exc) = [] from rfl, List.append_nil]
    dsimp only
    rw [ensuresUnder_bind_ask]
    intro a₅ _
    refine EnsuresUnder.bind (Q := Returns fun _ d' es' => d' = flushed ((Orm.ofRow link).set
      (refusedColumns exc a₅.now)) d₃ ∧ es' = es₃) ?_ ?_ ?_
    · refine Ensures.under ((ensures_map _ _ _ _).mpr (ensures_flushLink.mono (fun _ h => h) ?_))
      rintro r d₄ es₄ hr
      cases r with
      | error e => exact hr.elim
      | ok o => exact hr.2
    · rintro _ d₄ es₄ ⟨rfl, rfl⟩
      exact ⟨fun _ => hwritten (refusedColumns exc a₅.now) rfl rfl _ rfl, .inl le_rfl⟩
    · exact fun _ _ _ h => h.elim
  | ok result =>
    have hissued : (∃ n, (env n).link.isOk) := ⟨n, by rw [hlink]; rfl⟩
    rw [show issue link amount (.ok result) = [.createLink (issuedInvoice link amount result)]
      from rfl]
    have hinvoices : ∀ es', payable target paid now es' = payable target paid now
        (es₃ ++ [.createLink (issuedInvoice link amount result)]) →
        (payable target paid now es').length ≤ (payable target paid now es₃).length ∨
          ((row.kind, row.id) = target ∧ ∃ n, (env n).link.isOk) ∧
            (payable target paid now es').length ≤ (payable target paid now es₃).length + 1 := by
      intro es' hes
      rw [hes, payable_issue, List.length_append]
      by_cases ht : (row.kind, row.id) = target
      · exact .inr ⟨⟨ht, hissued⟩, Nat.add_le_add_left (List.length_filter_le _ _) _⟩
      · have hnot : ¬ canBePaid target paid now (issuedInvoice link amount result) := by
          intro hc
          simp only [canBePaid, decide_eq_true_eq] at hc
          exact ht (htarget.symm.trans hc.1)
        simp [hnot]
    dsimp only
    refine ensures_flushLink.under.bind_returns ?_
    rintro o d₄ es₄ ⟨rfl, rfl, rfl⟩
    refine EnsuresUnder.bind ((keeps_links_attachLink row' _ req.actorId _ _).under.and
      (emits_attachLink row' _ req.actorId _ _).under) ?_ ?_
    · rintro _ d₅ es₅ ⟨hkept, new, rfl, hquiet⟩
      rw [show (Pure.pure _ : Tx _) = Prog.ret _ from rfl]
      exact ⟨fun _ => hwritten (issuedColumns result) rfl rfl _ hkept,
        hinvoices _ (payable_quiet hquiet)⟩
    · rintro e d₅ es₅ ⟨-, new, rfl, hquiet⟩
      exact ⟨fun h => (by cases h), hinvoices _ (payable_quiet hquiet)⟩

/-- What `ReplacesPayable` asks of one state. -/
def Replaces (target : Target) (paid : List (String × String)) (now : Instant)
    (s : PaymentLinkService) (targetType : String) (targetId : Uuid) (req : LinkRequest)
    (env : ℕ → Env) (d : Db) (es : List Emission) : Prop :=
  ∀ row, Loadable targetType targetId d row → (row.kind, targetId) = target →
    ∀ amount, resolveAmount row req.amount = .ok amount → 0 < amount.unscaled →
    (∃ n, (env n).link.isOk) → ∀ i ∈ payable target paid now es,
      ∃ link, (openLinks target d.paymentLinks).getLast? = some link ∧
        ((∀ n, StaysOpen s amount req.forceNew link (env n).now) ∨
          (OwnInvoice s link i ∧ ∀ n, (env n).cancel.isOk))

theorem ensures_createLink_single {targetType : String} {targetId : Uuid} {req : LinkRequest}
    (h : Single target paid now d es)
    (hreplaces : Replaces target paid now s targetType targetId req env d es) :
    EnsuresUnder (AnsweredBy env) (AtEnd (Single target paid now) d)
      (createLink s targetType targetId req) d es := by
  unfold createLink
  refine ensures_loadTarget.under.bind ?_ ?_
  swap
  · rintro e d₁ es₁ ⟨rfl, rfl, -⟩
    exact h
  rintro row d₁ es₁ ⟨rfl, rfl, hrow⟩
  obtain ⟨hloadable, hid⟩ := hrow row rfl
  cases hamount : resolveAmount row req.amount with
  | error exc => exact h
  | ok amount =>
    dsimp only
    rw [ensuresUnder_bind_raiseIf]
    refine ⟨fun _ => h, fun hpositive => ?_⟩
    rw [not_le] at hpositive
    refine ensures_findOpenLink.under.bind_returns ?_
    rintro existing d₂ es₂ ⟨rfl, rfl, rfl⟩
    refine (ensures_replaceOpenLink_single (row.kind, targetId) h).bind ?_ ?_
    swap
    · rintro e d₃ es₃ ⟨hsub, -⟩
      exact h.congr rfl hsub
    rintro reused d₃ es₃ ⟨hsub, hreused, hdeleted⟩
    cases reused with
    | some link =>
      obtain rfl := hreused link rfl
      exact h.congr rfl hsub
    | none =>
      obtain ⟨hsingle, hnone⟩ := hdeleted rfl
      have hempty : (row.kind, row.id) = target ∧ (∃ n, (env n).link.isOk) →
          payable target paid now es₃ = [] := by
        rintro ⟨rfl, hissued⟩
        rw [hid] at hreplaces hnone hsub ⊢
        rw [List.eq_nil_iff_forall_not_mem]
        intro i hi
        obtain ⟨link, hlast, hcondition⟩ := hreplaces row hloadable rfl amount hamount hpositive
          hissued i (hsub.subset hi)
        obtain ⟨⟨n, hnot⟩, hown⟩ := (hnone rfl).2 i hi link hlast
        exact hcondition.elim (fun hstays => hnot (hstays n)) hown
      show EnsuresUnder _ _ (issueLink s row amount req) d₃ es₃
      refine (ensures_issueLink_single target paid now hsingle.unique).mono ?_
      rintro r d₄ es₄ ⟨hrows, hinvoices⟩
      have hone : (payable target paid now es₄).length ≤ 1 := by
        rcases hinvoices with hle | ⟨hmatch, hle⟩
        · exact hle.trans hsingle.invoices
        · rwa [hempty hmatch] at hle
      cases r with
      | error e => exact ⟨h.unique, h.links, hone⟩
      | ok r =>
        obtain ⟨hunique, hcount⟩ := hrows rfl
        refine ⟨hunique, hcount.trans ?_, hone⟩
        split_ifs with hmatch
        · rw [hid] at hmatch
          rw [(hnone hmatch).1]
          rfl
        · exact hsingle.links

theorem ensures_renewLink_single {linkId : Uuid} {actorId : String} {expiryMinutes : Option ℤ}
    (h : Single target paid now d es)
    (hreplaces : ∀ old ∈ Table.get d.paymentLinks linkId, old.status ∉ SETTLED →
      (∃ n, renewable old (env n).now) → Replaces target paid now s old.targetType.value
        old.targetId (renewalRequest old actorId expiryMinutes) env d es) :
    EnsuresUnder (AnsweredBy env) (AtEnd (Single target paid now) d)
      (renewLink s linkId actorId expiryMinutes) d es := by
  unfold renewLink getLink
  have hload : Ensures (fun _ => True) _ (load "Payment link not found."
    fun d : Db => Table.get d.paymentLinks linkId) d es := ensures_load trivial
  refine hload.under.bind ?_ ?_
  swap
  · rintro e d₁ es₁ ⟨rfl, rfl, -⟩
    exact h
  rintro old d₁ es₁ ⟨rfl, rfl, hold⟩
  rw [ensuresUnder_bind_raiseIf]
  refine ⟨fun _ => h, fun hunpaid => ?_⟩
  rw [ensuresUnder_bind_ask]
  rintro _ ⟨n, rfl⟩
  rw [ensuresUnder_bind_raiseIf]
  refine ⟨fun _ => h, fun hrenewable => ?_⟩
  exact ensures_createLink_single h
    (hreplaces old (hold old rfl) hunpaid ⟨n, not_not.mp hrenewable⟩)

theorem ensures_cancelLink_single {linkId : Uuid} (h : Single target paid now d es) :
    EnsuresUnder (AnsweredBy env) (AtEnd (Single target paid now) d) (cancelLink s linkId) d es := by
  unfold cancelLink getLink
  have hload : Ensures (fun _ => True) _ (load "Payment link not found."
    fun d : Db => Table.get d.paymentLinks linkId) d es := ensures_load trivial
  refine hload.under.bind ?_ ?_
  swap
  · rintro e d₁ es₁ ⟨rfl, rfl, -⟩
    exact h
  rintro link d₁ es₁ ⟨rfl, rfl, -⟩
  rw [ensuresUnder_bind_raiseIf]
  refine ⟨fun _ => h, fun _ => ?_⟩
  refine (ensures_cancelAtGateway_single target paid now).bind_returns ?_
  rintro u d₂ es₂ ⟨rfl, hsub, -⟩
  rw [ensuresUnder_bind_ask]
  intro a _
  refine ensures_flushLink.under.bind_returns ?_
  rintro o d₃ es₃ ⟨rfl, rfl, rfl⟩
  refine (h.congr rfl hsub).modify (f := cancelledColumns "Payment link cancelled by staff" a.now)
    rfl (fun _ => rfl) ?_
  intro r _ _ hopen
  have hcancelled : PaymentLinkStatus.cancelled ∈ OPEN_STATUSES := (isOpenFor_iff.mp hopen).2
  exact absurd hcancelled (by decide)

theorem ensures_deleteLink_single {linkId : Uuid} (h : Single target paid now d es) :
    EnsuresUnder (AnsweredBy env) (AtEnd (Single target paid now) d) (deleteLink s linkId) d es := by
  unfold deleteLink getLink
  have hload : Ensures (fun _ => True) _ (load "Payment link not found."
    fun d : Db => Table.get d.paymentLinks linkId) d es := ensures_load trivial
  refine hload.under.bind ?_ ?_
  swap
  · rintro e d₁ es₁ ⟨rfl, rfl, -⟩
    exact h
  rintro link d₁ es₁ ⟨rfl, rfl, -⟩
  refine (ensures_cancelAtGateway_single target paid now).bind_returns ?_
  rintro u d₂ es₂ ⟨rfl, hsub, -⟩
  have hdelete : ∀ d₃ es₃, d₃.paymentLinks = d₂.paymentLinks → es₃ = es₂ →
      EnsuresUnder (AnsweredBy env) (AtEnd (Single target paid now) d₂) (deleteRow link) d₃ es₃ := by
    intro d₃ es₃ hd hes a _
    subst hes
    have hd' : Single target paid now d₃ es₃ := h.congr hd hsub
    refine ⟨hd'.unique.erase _, (openLinks_erase _).trans hd'.links, ?_⟩
    rw [show es₃ ++ _ = es₃ from List.append_nil _]
    exact hd'.invoices
  by_cases ht : link.targetType = .booking
  · rw [if_pos ht]
    refine ensuresUnder_bind_queryForUpdate _ _ _ ?_
    cases Table.get d₂.bookings link.targetId with
    | none => exact hdelete _ _ rfl rfl
    | some b =>
      dsimp only
      by_cases hurl : b.paymentUrl = link.paymentUrl
      · rw [if_pos hurl]
        have hflush : Ensures (fun _ => True) (Returns fun _ d' es' =>
            d'.paymentLinks = d₂.paymentLinks ∧ es' = es₂)
            (discard (flushBooking ((Orm.ofRow b).set clearPaymentUrl))) d₂ es₂ := by
          show Ensures _ _ ((fun _ => ()) <$> flushBooking _) _ _
          unfold flushBooking
          rw [ensures_map, ensures_bind, ensures_update]
          exact ⟨trivial, rfl, rfl⟩
        refine hflush.under.bind_returns ?_
        rintro _ d₃ es₃ ⟨hd, hes⟩
        exact hdelete _ _ hd hes
      · rw [if_neg hurl]
        exact hdelete _ _ rfl rfl
  · rw [if_neg ht]
    exact hdelete _ _ rfl rfl

theorem ensures_applyTo_single {linkId : Uuid} {state : GatewayPaymentState} {source : String}
    (h : Single target paid now d es)
    (hopens : state.status = .failed → ∀ l ∈ Table.get d.paymentLinks linkId,
      (l.targetType, l.targetId) = target → l.status = .expired ∨ l.status = .cancelled →
        ∀ l' ∈ d.paymentLinks, ¬ isOpenFor target.1 target.2 l') :
    EnsuresUnder (AnsweredBy env) (AtEnd (Single target paid now) d)
      (applyTo linkId state source) d es := by
  have hrow : EnsuresUnder (AnsweredBy env) _ (applyTo linkId state source) d es :=
    ensures_applyTo_row
  refine (hrow.and (emits_applyTo linkId state source d es).under).mono ?_
  rintro r d' es' ⟨hlinks, new, rfl, hquiet⟩
  have hsub : (payable target paid now (es ++ new)).Sublist (payable target paid now es) := by
    rw [payable_quiet hquiet]
  cases r with
  | error e => exact h.congr rfl hsub
  | ok outcome =>
    rcases hlinks rfl with hsame | ⟨link, f, hlink, heffect, hmodify⟩
    · exact h.congr hsame hsub
    obtain ⟨hmem, hkey⟩ := Table.get_some hlink
    have honly : ∀ r ∈ d.paymentLinks, r.id = link.id → r = link :=
      fun r hr hid => Table.eq_of_key_eq h.unique hr hmem hid
    by_cases hreopened : (link.targetType, link.targetId) = target ∧ state.status = .failed ∧
        (link.status = .expired ∨ link.status = .cancelled)
    · -- the target has no open link, so the one that is opened again is the only one
      obtain ⟨ht, hfailed, hclosed⟩ := hreopened
      have hnone : openLinks target d.paymentLinks = [] :=
        List.filter_eq_nil_iff.mpr (hopens hfailed link hlink ht hclosed)
      refine ⟨by rw [hmodify]; exact h.unique.modify heffect.id _, ?_, hsub.length_le.trans h.invoices⟩
      rw [hmodify]
      exact openLinks_modify_none h.unique heffect.id hnone
    · refine (h.congr rfl hsub).modify hmodify heffect.id ?_
      intro r hr hid hopen
      obtain rfl := honly r hr hid
      rw [isOpenFor_iff] at hopen ⊢
      obtain ⟨ht, hstatus⟩ := hopen
      rw [(heffect.target r).1, (heffect.target r).2] at ht
      refine ⟨ht, (heffect.opens hstatus).resolve_right fun h => hreopened ⟨ht, h⟩⟩

end Calls

/-! ## Runs -/

/-- A call that meets the condition keeps the invariant. -/
theorem single_step {target : Target} {w : Market} {x : LinkCall × (ℕ → Env)}
    (h : Single target w.paid w.clock w.desk.db w.desk.log) (hx : KeepsOne target w x) :
    Single target (linkStep w x).paid (linkStep w x).clock (linkStep w x).desk.db
      (linkStep w x).desk.log := by
  obtain ⟨call, env⟩ := x
  have hlater : Single target (w.paid ++ reportedPaid w.desk.db call) (max w.clock (env 0).now)
      w.desk.db w.desk.log :=
    ⟨h.unique, h.links, (payable_later (le_max_left _ _)).length_le.trans h.invoices⟩
  have hrun : ∀ n, AnsweredBy env (env n) := fun n => ⟨n, rfl⟩
  suffices hcode : EnsuresUnder (AnsweredBy env) (AtEnd (Single target
      (w.paid ++ reportedPaid w.desk.db call) (max w.clock (env 0).now)) w.desk.db)
      (linkCode call) w.desk.db w.desk.log from hcode.transact env hrun
  cases call with
  | create s targetType targetId req =>
    refine (ensures_createLink_single hlater ?_).discard
    rw [show reportedPaid w.desk.db (.create s targetType targetId req) = [] from rfl,
      List.append_nil]
    exact hx
  | renew s linkId actorId expiryMinutes =>
    refine (ensures_renewLink_single hlater ?_).discard
    rw [show reportedPaid w.desk.db (.renew s linkId actorId expiryMinutes) = [] from rfl,
      List.append_nil]
    exact hx
  | cancel s linkId => exact (ensures_cancelLink_single hlater).discard
  | delete s linkId => exact ensures_deleteLink_single hlater
  | apply linkId state source => exact (ensures_applyTo_single hlater hx).discard

/-- In a run whose calls all meet the condition the target never has two open links or two invoices
that can be paid. -/
theorem one_payable_invoice {target : Target} {w : Market} {xs : List (LinkCall × (ℕ → Env))}
    (hu : Table.Unique w.desk.db.paymentLinks) (h : OnePayable target w)
    (hx : Runs.AllSteps linkStep (KeepsOne target) w xs) :
    Runs.Always linkStep (OnePayable target) w xs := by
  have hsingle : Runs.Always linkStep (fun w =>
      Single target w.paid w.clock w.desk.db w.desk.log) w xs :=
    Runs.always_of_allSteps (fun _ _ => single_step) ⟨hu, h.links, h.invoices⟩ hx
  refine hsingle.mono ?_
  exact fun _ h => ⟨h.links, h.invoices⟩

/-! ## Two providers -/

/-- A requested booking without a link. -/
def unlinked : Market where
  desk := { db := unpaidBooking .requested }

def tapCard : PaymentLinkService where
  gateway := { name := "tap_card", providerLabel := "Tap Card" }

/-- A gateway that issues the invoice `id` for the link `uuid`, and accepts every cancellation. -/
def issuingAs (uuid : Uuid) (id number : String) : Env where
  uuid := uuid
  link := .ok { gatewayInvoiceId := id, paymentUrl := "https://pay/" ++ id }
  linkNumber := number
  cancel := .ok ()

/-- A link is created, its payment fails, and the link is renewed at its own gateway. -/
def renewal : List (LinkCall × (ℕ → Env)) :=
  [(.create myfatoorah "booking" 1 {}, fun _ => issuingAs 5 "100" "PL-1"),
    (.apply 5 { status := .failed } "webhook", fun _ => issuingAs 5 "100" "PL-1"),
    (.renew myfatoorah 5 "staff" none, fun _ => issuingAs 6 "101" "PL-2")]

/-- The invoice of the first link of a run. -/
def firstInvoice : IssuedInvoice where
  gateway := "myfatoorah"
  gatewayInvoiceId := "100"
  linkId := 5
  targetType := .booking
  targetId := 1
  amount := { unscaled := 25000, decimals := 3 }
  currency := "KWD"
  expiresAt := 3600000000

theorem one_payable_invoice_renewal :
    Runs.Always linkStep (OnePayable (.booking, 1)) unlinked renewal := by
  refine one_payable_invoice List.nodup_nil (by decide +kernel) ⟨?_, ?_, ?_, trivial⟩
  · intro row _ _ amount _ _ _ i hi
    exact absurd hi (by simp [payable, uncancelled, unlinked])
  · rintro - l hl - hclosed
    obtain rfl : newRow = l := Option.some.inj ((by decide +kernel : Table.get
      (linkStep unlinked (.create myfatoorah "booking" 1 {}, fun _ => issuingAs 5 "100" "PL-1")
        ).desk.db.paymentLinks 5 = some newRow).symm.trans hl)
    exact absurd hclosed (by decide)
  · rintro old hold - - row - - amount - - - i hi
    have hinvoice : payable (.booking, 1)
        (Runs.run linkStep unlinked (renewal.take 2)).paid
        (max (Runs.run linkStep unlinked (renewal.take 2)).clock 0)
        (Runs.run linkStep unlinked (renewal.take 2)).desk.log = [firstInvoice] := by decide +kernel
    obtain rfl : i = firstInvoice := List.mem_singleton.mp (hinvoice ▸ hi)
    have hown : ∃ link ∈ ((Runs.run linkStep unlinked (renewal.take 2)).desk.db.paymentLinks.filter
        (isOpenFor .booking 1)).getLast?, OwnInvoice myfatoorah link firstInvoice := by decide +kernel
    obtain ⟨link, hlast, hlink⟩ := hown
    exact ⟨link, hlast, .inr ⟨hlink, fun _ => rfl⟩⟩

/-- A link is created at one provider, its payment fails, and a link is created at another. -/
def twoProviders : List (LinkCall × (ℕ → Env)) :=
  [(.create myfatoorah "booking" 1 {}, fun _ => issuingAs 5 "100" "PL-1"),
    (.apply 5 { status := .failed } "webhook", fun _ => issuingAs 5 "100" "PL-1"),
    (.create tapCard "booking" 1 {}, fun _ => issuingAs 6 "chg_1" "PL-2")]

/-- The second link cancels the invoice of the first at the wrong gateway: the customer can pay both. -/
theorem two_payable_invoices :
    OnePayable (.booking, 1) unlinked ∧
      (payable (.booking, 1) (Runs.run linkStep unlinked twoProviders).paid
        (Runs.run linkStep unlinked twoProviders).clock
        (Runs.run linkStep unlinked twoProviders).desk.log).length = 2 ∧
      ¬ Runs.Always linkStep (OnePayable (.booking, 1)) unlinked twoProviders := by
  refine ⟨by decide +kernel, by decide +kernel, fun h => ?_⟩
  exact absurd h.last (by decide +kernel)

end PaymentLinks
