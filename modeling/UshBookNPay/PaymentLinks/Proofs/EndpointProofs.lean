import Mathlib.Data.List.DropRight
import UshBookNPay.Common.Proofs.JsonProofs
import UshBookNPay.PaymentLinks.DeemaRefundRuns
import UshBookNPay.PaymentLinks.Proofs.AuthorityProofs

/-!
# Every settlement is on authority

The endpoints one by one, and their interleaved runs.
-/

open Transactions
open Transactions.Prog (query queryForUpdate update raiseIf ask call forSome)

namespace PaymentLinks

variable {α β : Type} {k : Uuid} {es : List Emission} {v : List PaymentLinkRow} {op : Endpoint}
  {gw : PaymentLinkGateway} {row : PaymentLinkRow} {state : GatewayPaymentState}

/-! ## Webhooks -/

/-- What is known of an event and its link before it is settled: the link is the one the request or the
verified state is about, and the gateway has reported that state. -/
structure Checked (op : Endpoint) (gw : PaymentLinkGateway) (event : GatewayWebhookEvent)
    (es : List Emission) (row : PaymentLinkRow) (verified : Option GatewayPaymentState) : Prop where
  posts : op.Posts gw event
  reported : ∀ v ∈ verified, ∃ key, Verified gw event es v key
  about : op.About row ∨ ∃ v ∈ verified, ∃ key, lookupId event = some key ∧
    Designates gw.name (stateTexts key v) row

variable {event : GatewayWebhookEvent} {verified : Option GatewayPaymentState}

/-- What the gateway has reported of the event is authority. -/
theorem Checked.authority_of_verified (h : Checked op gw event es row verified)
    (hstate : verified = some state) (hsettles : Settles state row) : Authority op es row := by
  obtain ⟨key, hkey, hmem⟩ := h.reported state hstate
  refine .reported gw.name key state hmem hsettles ?_
  rcases h.about with habout | ⟨v, hv, key', hkey', hdesignates⟩
  · exact .inr habout
  · have hv' : some v = some state := Eq.trans (Eq.symm hv) hstate
    have hkeys : some key' = some key := hkey'.symm.trans hkey
    cases hv'
    cases hkeys
    exact .inl hdesignates

/-- What the event says itself is authority, where no report contradicts it. -/
theorem Checked.authority_of_event (h : Checked op gw event es row verified)
    (hpaid : ∀ v ∈ verified, v.status = .paid) (hstate : event.state = some state)
    (hsettles : Settles state row) : Authority op es row :=
  .posted gw event verified state h.posts (fun v hv => ⟨hpaid v hv, h.reported v hv⟩) hstate hsettles
    h.about

theorem mergedState_cases (h : mergedState verified event = some state) :
    verified = some state ∨ event.state = some state := by
  unfold mergedState at h
  split_ifs at h
  · exact .inl h
  · cases hevent : event.state with
    | none =>
      rw [hevent] at h
      exact .inl h
    | some s =>
      rw [hevent] at h
      exact .inr h

theorem holding_settleEvent (h : Checked op gw event es row verified) (hk : row.id = k)
    (hrow : row ∈ v) :
    Holding linkParts k (fun es' _ v' => PaidOnAuthority op es' k v v')
      (settleEvent gw event row verified) es v := by
  have hsame : PaidOnAuthority op es k v v := fun l hl hpaid => ⟨l, hl, .inl hpaid⟩
  have happly : ∀ state source, (Settles state row → Authority op es row) →
      Holding linkParts k (fun es' _ v' => PaidOnAuthority op es' k v v')
        (applyLocked row state source >>= fun outcome => pure (outcome.value, some row.id)) es v := by
    intro state source hauthority
    refine (holding_applyLocked_authority hk hrow hauthority).bind ?_ fun _ _ _ h => h
    exact fun _ _ _ h => h
  unfold settleEvent
  dsimp only
  generalize (if verified.isSome = true then verified.map (·.status) else event.status) = current
  by_cases hcase : current = some .paid ∨ event.status = some .paid
  · rw [if_pos hcase]
    refine holding_bind_raiseIf (fun hpaid => ?_) hsame
    have hpaid' : ∀ v ∈ verified, v.status = .paid := by
      intro v hv
      by_contra hne
      exact hpaid ⟨v, hv, hne⟩
    cases hmerged : mergedState verified event with
    | none => exact hsame
    | some merged =>
      refine happly merged _ fun hsettles => ?_
      rcases mergedState_cases hmerged with hverified | hstate
      · exact h.authority_of_verified hverified hsettles
      · exact h.authority_of_event hpaid' hstate hsettles
  · rw [if_neg hcase]
    generalize hstate : (if current = some GatewayPaymentStatus.failed then verified.or event.state
      else none) = failed
    cases failed with
    | none => exact hsame
    | some state =>
      refine happly state _ fun hsettles => ?_
      have hor : verified.or event.state = some state := by
        split_ifs at hstate
        exact hstate
      cases verified with
      | some v => exact h.authority_of_verified hor hsettles
      | none => exact h.authority_of_event (fun v hv => by cases hv) hor hsettles

theorem PaidOnAuthority.refl (op : Endpoint) (es : List Emission) (k : Uuid)
    (v : List PaymentLinkRow) : PaidOnAuthority op es k v v :=
  fun l hl hpaid => ⟨l, hl, .inl hpaid⟩

/-- The gateway is asked about the event of a link that has been found. -/
theorem holding_verifyEvent (hposts : op.Posts gw event) (habout : op.About row) (hk : row.id = k)
    (hrow : row ∈ v) :
    Holding linkParts k (fun es' _ v' => PaidOnAuthority op es' k v v')
      (verifyEvent gw (lookupId event) (some row) >>= fun x => match x.2 with
        | none => pure ("ignored", none)
        | some row => settleEvent gw event row x.1) es v := by
  cases hkey : lookupId event with
  | none =>
    refine holding_settleEvent ⟨hposts, fun v hv => ?_, .inl habout⟩ hk hrow
    cases hv
  | some key =>
    unfold verifyEvent getPaymentState
    rw [Prog.bind_assoc]
    refine holding_bind_call fun a => ?_
    cases a.state with
    | error exc =>
      refine holding_settleEvent ⟨hposts, fun v hv => ?_, .inl habout⟩ hk hrow
      cases hv
    | ok state =>
      show Holding _ _ _ ((if some row = none ∧ _ then _ else _) >>= _) _ _
      rw [if_neg fun h => Option.some_ne_none row h.1]
      refine holding_settleEvent ⟨hposts, ?_, .inl habout⟩ hk hrow
      rintro _ ⟨⟩
      exact ⟨key, hkey, List.mem_append_right es List.mem_cons_self⟩

theorem or_of_truthy {a : Option String} (h : Text.truthy a) (b : Option String) :
    Text.or a b = a := by
  cases a with
  | none => simp [Text.truthy] at h
  | some s =>
    have hs : s ≠ "" := by simpa [Text.truthy] using h
    simp [Text.or, hs]

theorem of_truthy_orEmpty {a : Option String} (h : Text.truthy (some (Text.orEmpty a))) :
    Text.truthy a ∧ some (Text.orEmpty a) = a := by
  cases a with
  | none => simp [Text.truthy, Text.orEmpty, Text.or] at h
  | some s =>
    by_cases hs : s = ""
    · subst hs
      simp [Text.truthy, Text.orEmpty, Text.or] at h
    · simp [Text.truthy, Text.orEmpty, Text.or, hs]

/-- What a reported state is looked up by is among its texts. -/
theorem present_stateTexts (key : String) (state : GatewayPaymentState)
    (hinvoice : Text.truthy state.invoiceId) :
    ∀ t ∈ present [state.invoiceId, some (Text.orEmpty state.referenceId), none],
      t ∈ stateTexts key state := by
  intro t ht
  obtain ⟨a, ha, hat⟩ := List.mem_filterMap.mp ht
  rcases List.mem_cons.mp ha with rfl | ha
  · refine List.mem_filterMap.mpr ⟨_, List.mem_cons_self, ?_⟩
    rw [or_of_truthy hinvoice]
    exact hat
  rcases List.mem_cons.mp ha with rfl | ha
  · split_ifs at hat with htruthy
    obtain ⟨hreference, horEmpty⟩ := of_truthy_orEmpty htruthy
    refine List.mem_filterMap.mpr ⟨_, List.mem_cons_of_mem _ List.mem_cons_self, ?_⟩
    rw [or_of_truthy hreference, if_pos hreference, ← horEmpty]
    exact hat
  · rw [List.mem_singleton.mp ha] at hat
    cases hat

/-- The gateway is asked about an event without a link, and the state it reports is looked up. -/
theorem settling_verifyEvent (hposts : op.Posts gw event) :
    Settling op (verifyEvent gw (lookupId event) none >>= fun x => match x.2 with
        | none => pure ("ignored", none)
        | some row => settleEvent gw event row x.1) es := by
  cases hkey : lookupId event with
  | none => trivial
  | some key =>
    unfold verifyEvent getPaymentState
    rw [Prog.bind_assoc]
    refine locking_bind_call fun a => ?_
    cases a.state with
    | error exc => trivial
    | ok state =>
      have hmem : Emission.paymentState gw.name key state ∈ es ++ [.paymentState gw.name key state] :=
        List.mem_append_right es List.mem_cons_self
      generalize es ++ [Emission.paymentState gw.name key state] = es' at hmem ⊢
      show Settling op ((if none = none ∧ Text.truthy state.invoiceId then _ else _) >>= _) es'
      by_cases hinvoice : Text.truthy state.invoiceId
      · rw [if_pos ⟨rfl, hinvoice⟩, Prog.bind_assoc]
        refine Locking.bind (looksUp_anyIdentifier gw.name _ _ _ _) ?_ (fun _ _ _ => trivial) ?_ ?_
        · rintro found es'' ⟨-, hfound⟩
          cases hfound
          trivial
        · rintro k v found es'' v' ⟨rfl, rfl, row, hfound, hk, hrow, t, ht, hdesignates⟩
          cases hfound
          refine holding_settleEvent ⟨hposts, ?_, .inr ⟨state, rfl, key, hkey, t, ?_, hdesignates⟩⟩ hk hrow
          · rintro _ ⟨⟩
            exact ⟨key, hkey, hmem⟩
          · exact present_stateTexts key state hinvoice t ht
        · rintro k v e es'' v' ⟨-, -, row, hrow, -⟩
          cases hrow
      · rw [if_neg fun h => hinvoice h.2]
        trivial

theorem settling_handlePaymentEvent (hposts : op.Posts gw event) :
    Settling op (handlePaymentEvent gw event) es := by
  refine Locking.bind (looksUp_anyIdentifier gw.name _ _ _ _) ?_ (fun _ _ _ => trivial) ?_ ?_
  · rintro found es' ⟨rfl, hfound⟩
    cases hfound
    exact settling_verifyEvent hposts
  · rintro k v found es' v' ⟨rfl, rfl, row, hfound, hk, hrow, hdesignates⟩
    cases hfound
    refine holding_verifyEvent hposts (.inr ⟨gw, event, hposts, ?_⟩) hk hrow
    obtain ⟨t, ht, hdesignates⟩ := hdesignates
    refine ⟨t, ?_, hdesignates⟩
    obtain ⟨a, ha, hat⟩ := List.mem_filterMap.mp ht
    refine List.mem_filterMap.mpr ⟨a, ?_, hat⟩
    rcases List.mem_cons.mp ha with rfl | ha
    · exact List.mem_cons_self
    rcases List.mem_cons.mp ha with rfl | ha
    · exact List.mem_cons_of_mem _ List.mem_cons_self
    · rw [List.mem_singleton.mp ha] at hat
      cases hat
  · rintro k v e es' v' ⟨-, -, row, hrow, -⟩
    cases hrow

/-! ## Payloads -/

/-- Dropping fewer characters stops where the other stops, or at one only the other drops. -/
theorem dropWhile_cases {p q : Char → Bool} (hpq : ∀ c, p c = true → q c = true) (cs : List Char) :
    cs.dropWhile p = cs.dropWhile q ∨
      ∃ c rest, cs.dropWhile p = c :: rest ∧ q c = true ∧ p c = false := by
  induction cs with
  | nil => exact .inl rfl
  | cons c cs ih =>
    by_cases hp : p c = true
    · rw [List.dropWhile_cons_of_pos hp, List.dropWhile_cons_of_pos (hpq c hp)]
      exact ih
    · rw [List.dropWhile_cons_of_neg hp]
      by_cases hq : q c = true
      · exact .inr ⟨c, cs, rfl, hq, by simpa using hp⟩
      · exact .inl (List.dropWhile_cons_of_neg hq).symm

/-- A text of white space, and of an empty object at most, is read as an empty object, if at all. -/
theorem loads_of_emptyBody {rawBody : String} (hempty : emptyBody rawBody = true) {payload : Json}
    (hpayload : Json.loads (if rawBody = "" then "{}" else rawBody) = some payload) :
    payload = .obj [] := by
  by_cases hraw : rawBody = ""
  · rw [if_pos hraw] at hpayload
    exact (Option.some.inj hpayload).symm
  rw [if_neg hraw] at hpayload
  unfold Json.loads Json.skipBlank at hpayload
  have hblanks : ∀ c, Json.isBlank c = true → isByteSpace c = true := by
    intro c hc
    simp only [Json.isBlank, decide_eq_true_eq] at hc
    simp only [isByteSpace, List.mem_cons, decide_eq_true_eq]
    rcases hc with rfl | rfl | rfl | rfl
    · exact .inl rfl
    · exact .inr (.inl rfl)
    · exact .inr (.inr (.inl rfl))
    · exact .inr (.inr (.inr (.inl rfl)))
  rcases dropWhile_cases hblanks rawBody.toList with hbody | ⟨c, rest, hrest, hspace, hblank⟩
  · rw [hbody] at hpayload
    dsimp only at hpayload
    have hcases : stripBytes rawBody.toList = [] ∨ stripBytes rawBody.toList = ['{', '}'] :=
      of_decide_eq_true hempty
    unfold stripBytes at hcases
    have hhead := List.head?_dropWhile_not isByteSpace rawBody.toList
    generalize rawBody.toList.dropWhile isByteSpace = body at hpayload hcases hhead
    rcases hcases with hnil | hobject
    · cases body with
      | nil =>
        rw [Json.parseValue_nil] at hpayload
        cases hpayload
      | cons c body =>
        have hc : isByteSpace c = true := List.rdropWhile_eq_nil_iff.mp hnil c List.mem_cons_self
        have hc' : isByteSpace c = false := by simpa using hhead
        rw [hc] at hc'
        cases hc'
    · obtain ⟨post, hpost⟩ := List.rdropWhile_prefix (p := isByteSpace) (l := body)
      rw [List.rdropWhile, hobject] at hpost
      subst hpost
      rw [List.cons_append, List.cons_append, Json.parseValue_emptyObject] at hpayload
      dsimp only [Option.bind_eq_bind, Option.bind_some] at hpayload
      split_ifs at hpayload
      exact (Option.some.inj hpayload).symm
  · have hc : c = '\x0b' ∨ c = '\x0c' := by
      simp only [Json.isBlank, decide_eq_false_iff_not, not_or] at hblank
      simp only [isByteSpace, List.mem_cons, List.not_mem_nil, or_false, decide_eq_true_eq] at hspace
      obtain ⟨hblank1, hblank2, hblank3, hblank4⟩ := hblank
      rcases hspace with h | h | h | h | hc
      · exact absurd h hblank1
      · exact absurd h hblank2
      · exact absurd h hblank3
      · exact absurd h hblank4
      · exact hc
    rw [hrest] at hpayload
    dsimp only at hpayload
    rw [Json.parseValue_of_space hc] at hpayload
    cases hpayload

/-- A payload that is read is that of the body. -/
theorem parsePayload_cases (rawBody : String) :
    (∃ payload, Json.loads (if rawBody = "" then "{}" else rawBody) = some payload ∧
      parsePayload rawBody = pure payload) ∨ ∃ e, parsePayload rawBody = throw e := by
  unfold parsePayload
  generalize Json.loads (if rawBody = "" then "{}" else rawBody) = loaded
  cases loaded with
  | none => exact .inr ⟨_, rfl⟩
  | some payload =>
    cases payload with
    | obj fields => exact .inl ⟨_, rfl, rfl⟩
    | null => exact .inr ⟨_, rfl⟩
    | bool b => exact .inr ⟨_, rfl⟩
    | num lexeme => exact .inr ⟨_, rfl⟩
    | str s => exact .inr ⟨_, rfl⟩
    | arr items => exact .inr ⟨_, rfl⟩

/-! ## The inbox and refund events -/

theorem spares_checkAge {P : Type} {g : Db → P} (settings : WebhookSettings) (payload : Json) :
    Spares g (checkAge settings payload) := by
  refine Spares.ite (spares_pure ()) ?_
  exact (spares_raiseIf _ _).bind fun _ => (spares_ask _).bind fun _ => spares_raiseIf _ _

theorem spares_claimEvent (gw : PaymentLinkGateway) (event : GatewayWebhookEvent)
    (reference : String) : Spares Db.audited (claimEvent gw event reference) := by
  refine (spares_ask _).bind fun _ => (spares_queryForUpdate _ _).bind fun known => ?_
  refine Spares.ite (spares_pure _) ?_
  exact Spares.bind (spares_update fun _ => rfl) fun _ => spares_pure _

theorem spares_flushRefund (o : Orm RefundRow) : Spares Db.audited (Payment.flushRefund o) := by
  refine Spares.bind ?_ fun _ => spares_pure _
  exact spares_checkedUpdate fun _ => rfl

theorem spares_handleRefundEvent (gw : PaymentLinkGateway) (event : GatewayWebhookEvent) :
    Spares Db.audited (handleRefundEvent gw event) := by
  have hpayment : Spares Db.audited (findPaymentForUpdate gw event.invoiceId) :=
    Spares.ite (spares_pure _) (spares_queryForUpdate _ _)
  refine hpayment.bind fun payment => ?_
  cases payment with
  | none => exact spares_pure _
  | some payment =>
    have hrefund : Spares Db.audited (findEventRefund payment event.refundId) := by
      refine Spares.ite (spares_pure _) ?_
      exact (spares_queryForUpdate _ _).bind fun _ => spares_scalarOneOrNone _
    refine hrefund.bind fun refund => Spares.ite ?_ ?_
    · refine Spares.bind (spares_forSome fun _ => ?_) fun _ => spares_pure _
      exact (spares_flushRefund _).discard
    · generalize (if event.refundStatus ∈ [some "CANCELED", some "CANCELLED"] then refund else none)
        = cancelled
      cases cancelled with
      | none => exact spares_pure _
      | some r =>
        refine Spares.bind (spares_forSome fun _ => ?_) fun _ => spares_pure _
        refine (spares_flushRefund _).discard.bind fun _ => ?_
        exact (spares_flushPayment _).bind fun _ => spares_addPaymentHistory _

/-! ## Processing -/

/-- A webhook changes a link on its own authority or on that of the gateway. -/
theorem settling_process {webhook : WebhookSettings} {headers : List (String × String)}
    {rawBody : String} (hposts : ∀ event, Accepted gw webhook headers rawBody event →
      op.Posts gw event) : Settling op (process gw webhook headers rawBody) es := by
  unfold process
  rcases parsePayload_cases rawBody with ⟨payload, hloads, hparsed⟩ | ⟨e, hparsed⟩
  · rw [hparsed]
    show Settling op (Prog.raiseIf _ _ >>= _) es
    by_cases hsigned : ¬ gw.verifySignature headers payload ∧ ¬ webhook.isDev
    · unfold raiseIf
      rw [if_pos hsigned]
      trivial
    unfold raiseIf
    rw [if_neg hsigned]
    show Settling op (if (gw.parseEvent payload).kind = .ignored then _ else _) es
    by_cases hignored : (gw.parseEvent payload).kind = .ignored
    · rw [if_pos hignored]
      trivial
    rw [if_neg hignored]
    refine Spares.bind_settling (spares_checkAge _ _) fun _ es _ => ?_
    refine Spares.bind_settling (spares_ask _) fun digest es _ => ?_
    refine Spares.bind_settling (spares_raiseIf _ _) fun _ es _ => ?_
    refine Spares.bind_settling (spares_links (spares_claimEvent _ _ _)) fun inboxId es _ => ?_
    cases inboxId with
    | none => trivial
    | some inboxId =>
      have hhandled : Settling op (if (gw.parseEvent payload).kind = .paymentStatus then
          handlePaymentEvent gw (gw.parseEvent payload)
          else handleRefundEvent gw (gw.parseEvent payload)) es := by
        by_cases hkind : (gw.parseEvent payload).kind = .paymentStatus
        · rw [if_pos hkind]
          refine settling_handlePaymentEvent (hposts _ ⟨⟨payload, hloads, ?_, rfl⟩, hkind⟩)
          by_contra hnot
          exact hsigned ⟨fun h => hnot (.inl h), fun h => hnot (.inr h)⟩
        · rw [if_neg hkind]
          exact (spares_links (spares_handleRefundEvent _ _)).locking fun _ _ _ => trivial
      refine hhandled.bind_spares fun handled => ?_
      refine Spares.bind (spares_ask _) fun now => ?_
      exact Spares.bind (spares_update fun _ => rfl) fun _ => spares_pure _
  · rw [hparsed]
    trivial

/-- What is read of an empty body is no event, and no link is changed. -/
theorem spares_process_of_emptyBody {webhook : WebhookSettings} {headers : List (String × String)}
    {rawBody : String} (hempty : emptyBody rawBody = true)
    (hignored : (gw.parseEvent (.obj [])).kind = .ignored) :
    Spares linkParts.all (process gw webhook headers rawBody) := by
  unfold process
  rcases parsePayload_cases rawBody with ⟨payload, hloads, hparsed⟩ | ⟨e, hparsed⟩
  · rw [hparsed, loads_of_emptyBody hempty hloads]
    show Spares _ (Prog.raiseIf _ _ >>= _)
    refine Spares.bind (spares_raiseIf _ _) fun _ => ?_
    show Spares _ (if (gw.parseEvent (.obj [])).kind = .ignored then _ else _)
    rw [if_pos hignored]
    exact spares_pure _
  · rw [hparsed]
    exact spares_throw e

/-! ## Endpoints that settle -/

theorem getGateway_cases (settings : LinkSettings) (name : String) :
    getGateway settings name = pure (gatewayNamed settings name) ∨
      ∃ e, getGateway settings name = throw e := by
  unfold getGateway
  split_ifs
  · exact .inl rfl
  · exact .inr ⟨_, rfl⟩

theorem settling_gatewayWebhookPost {settings : LinkSettings} {webhook : WebhookSettings}
    {gateway : String} {qp headers : List (String × String)} {rawBody : String}
    (hop : op = .webhookPost settings webhook gateway qp headers rawBody) (hempty : op.IgnoresEmpty) :
    Settling op (gatewayWebhookPost settings webhook gateway qp headers rawBody) es := by
  subst hop
  have hposts : ∀ event, Accepted (gatewayNamed settings gateway) webhook headers rawBody event →
      (Endpoint.webhookPost settings webhook gateway qp headers rawBody).Posts
        (gatewayNamed settings gateway) event :=
    fun event haccepted => ⟨rfl, haccepted⟩
  unfold gatewayWebhookPost
  rcases getGateway_cases settings gateway with hgw | ⟨e, hgw⟩
  · rw [hgw]
    cases hbody : emptyBody rawBody with
    | false => exact settling_process hposts
    | true =>
      cases hkey : extractLookupKey qp [] with
      | none => exact settling_process hposts
      | some key =>
        show Settling _ (attempt survivable (settleCallback _ key _) >>= _) es
        refine (Settling.attempt (settling_settleCallback key)).bind_spares fun r => ?_
        cases r.toOption.join with
        | some outcome => exact spares_pure _
        | none => exact spares_process_of_emptyBody hbody hempty
  · rw [hgw]
    trivial

theorem settling_syncStatus {s : PaymentLinkService} {linkId : Uuid} (hop : op = .sync s linkId) :
    Settling op (syncStatus s linkId) es := by
  refine Locking.bind ((finds_getLockedLink linkId).looksUp es) ?_ (fun _ _ _ => trivial) ?_ ?_
  · rintro found es' ⟨-, hfound⟩
    cases hfound
    trivial
  · rintro k v found es' v' ⟨rfl, rfl, row, hfound, hk, hrow, hid⟩
    cases hfound
    show Holding _ _ _ (if _ then _ else _) _ _
    by_cases hclosed : row.status ∉ OPEN_STATUSES ∨ ¬ Text.truthy row.gatewayInvoiceId
    · rw [if_pos hclosed]
      exact PaidOnAuthority.refl op es' k v'
    rw [if_neg hclosed]
    refine holding_bind_call fun a => ?_
    cases a.state with
    | error exc => exact PaidOnAuthority.refl op _ k v'
    | ok state =>
      refine holding_applyWritten_authority hk hrow (fun hsettles => ?_) fun _ link => link.row
      refine .reported s.gateway.name (Text.orEmpty row.gatewayInvoiceId) state ?_ hsettles
        (.inr (.inl ⟨s, ?_⟩))
      · exact List.mem_append_right _ List.mem_cons_self
      · rw [hid]
        exact hop
  · rintro k v e es' v' ⟨-, -, row, hrow, -⟩
    cases hrow

/-! ## Endpoints that create, cancel and delete -/

/-- A program whose writes make no link paid. -/
abbrev Cautious (p : Tx α) : Prop := Tames linkParts NonePaid p

theorem cautious_of_spares {p : Tx α} (h : Spares Db.paymentLinks p) : Cautious p :=
  (spares_of_links h).tames

theorem cautious_flushLink {o : Orm PaymentLinkRow} (ho : Tidy o.changes) : Cautious (flushLink o) := by
  refine Tames.bind (tames_update fun i => ?_) fun _ => trivial
  by_cases hi : i = o.row.id
  · subst hi
    refine .inr ⟨List.mem_cons_self, fun d => ?_⟩
    rw [(rewrites_link ho.id).here d rfl]
    exact ho.nonePaid _
  · exact .inl ((rewrites_link (v := []) ho.id).elsewhere i hi)

theorem cautious_deleteRow (link : PaymentLinkRow) : Cautious (deleteRow link) := by
  refine tames_update fun i => ?_
  by_cases hi : i = link.id
  · subst hi
    refine .inr ⟨List.mem_cons_self, fun d l hl hpaid => ⟨l, ?_, hpaid⟩⟩
    obtain ⟨hmem, hid⟩ := List.mem_filter.mp hl
    exact List.mem_filter.mpr ⟨(List.mem_filter.mp hmem).1, hid⟩
  · refine .inl fun d => ?_
    show (Table.erase d.paymentLinks link.id).filter _ = d.paymentLinks.filter _
    unfold Table.erase
    rw [List.filter_filter]
    refine List.filter_congr fun l _ => ?_
    simp only [Bool.and_eq_left_iff_imp, decide_eq_true_eq]
    rintro rfl
    exact hi

theorem cautious_insertLink {l : PaymentLinkRow} (hl : l.status ≠ .paid) : Cautious (insertLink l) := by
  refine tames_checkedUpdate fun i => ?_
  by_cases hi : i = l.id
  · subst hi
    refine .inr ⟨List.mem_append_left _ List.mem_cons_self, fun d l' hl' hpaid => ⟨l', ?_, hpaid⟩⟩
    obtain ⟨hmem, hid⟩ := List.mem_filter.mp hl'
    rcases List.mem_append.mp hmem with hmem | hmem
    · exact List.mem_filter.mpr ⟨hmem, hid⟩
    · rw [List.mem_singleton.mp hmem] at hpaid
      exact (hl hpaid).elim
  · refine .inl fun d => ?_
    show (d.paymentLinks ++ [l]).filter _ = d.paymentLinks.filter _
    have hne : decide (l.id = i) = false := by simpa using Ne.symm hi
    rw [List.filter_append, List.filter_singleton, hne]
    exact List.append_nil _

theorem cautious_issueLink (s : PaymentLinkService) (target : LinkTarget) (amount : Decimal)
    (req : LinkRequest) : Cautious (issueLink s target amount req) := by
  have hinvoice : Spares Db.paymentLinks
      (resolveInvoice target (notBlank req.invoiceId) (notBlank req.invoiceNumber)) := by
    cases target with
    | voucher v => exact spares_pure _
    | booking b =>
      refine Spares.ite (spares_pure _) ((spares_ask _).bind fun found => ?_)
      rcases found with _ | ⟨id, name⟩
      · exact spares_pure _
      · exact Spares.ite (spares_pure _) (spares_pure _)
  refine (cautious_of_spares hinvoice).bind fun invoice => ?_
  refine (Spares.tames (spares_ask _)).bind fun now => ?_
  refine (Spares.tames (spares_ask _)).bind fun id => ?_
  refine (Spares.tames (spares_ask _)).bind fun number => ?_
  have hcreated : PaymentLinkStatus.created ≠ .paid := by decide
  refine (cautious_insertLink hcreated).bind fun _ => ?_
  have hwritten : Spares Db.paymentLinks (writeInvoiceNumber target invoice.assigned) := by
    unfold writeInvoiceNumber
    cases target with
    | voucher v => exact spares_pure _
    | booking b =>
      cases invoice.assigned with
      | none => exact spares_pure _
      | some number => exact (spares_flushBookingLinks _).map _
  refine (cautious_of_spares hwritten).bind fun target' => ?_
  refine (Spares.tames (spares_call _ _)).bind fun result => ?_
  cases result with
  | error exc =>
    refine (Spares.tames (spares_ask _)).bind fun now' => ?_
    have hfailed : PaymentLinkStatus.failed ≠ .paid := by decide
    exact (cautious_flushLink (.of_ne (fun _ => rfl) fun _ => hfailed)).discard.bind fun _ => trivial
  | ok result =>
    have hpending : PaymentLinkStatus.pending ≠ .paid := by decide
    refine (cautious_flushLink (.of_ne (fun _ => rfl) fun _ => hpending)).bind fun link => ?_
    have hattach : Spares Db.paymentLinks (attachLink target' link.row req.actorId) := by
      cases target' with
      | booking b => exact (spares_flushBookingLinks _).discard
      | voucher v =>
        refine Spares.ite ?_ ?_
        · exact ((spares_updateStatus _ _ _ _).comp Prod.snd).discard
        · exact ((spares_flushVoucher _).comp Prod.snd).discard
    exact (cautious_of_spares hattach).bind fun _ => trivial

theorem cautious_createLink (s : PaymentLinkService) (targetType : String) (targetId : Uuid)
    (req : LinkRequest) : Cautious (createLink s targetType targetId req) := by
  have hload : Spares Db.paymentLinks (loadTarget targetType targetId) := by
    unfold loadTarget
    cases supportedTarget targetType with
    | none => exact spares_throw _
    | some kind =>
      cases kind with
      | booking =>
        refine Spares.map ((spares_queryForUpdate _ _).bind fun row => ?_) _
        cases row with
        | none => exact spares_throw _
        | some b => exact (spares_raiseIf _ _).bind fun _ => (spares_raiseIf _ _).bind fun _ => spares_pure _
      | giftVoucher =>
        refine Spares.map ((spares_queryForUpdate _ _).bind fun row => ?_) _
        cases row with
        | none => exact spares_throw _
        | some v => exact (spares_raiseIf _ _).bind fun _ => spares_pure _
      | product => exact spares_throw _
  refine (cautious_of_spares hload).bind fun target => ?_
  cases resolveAmount target req.amount with
  | error exc => trivial
  | ok amount =>
    refine (Spares.tames (spares_raiseIf _ _)).bind fun _ => ?_
    refine (Spares.tames (spares_queryForUpdate _ _)).bind fun existing => ?_
    have hreplaced : Cautious (replaceOpenLink s amount req.forceNew existing) := by
      cases existing with
      | none => trivial
      | some link =>
        refine (Spares.tames (spares_ask _)).bind fun now => ?_
        refine (Spares.tames (spares_raiseIf _ _)).bind fun _ => ?_
        by_cases hreuse : reusable s amount link now ∧ ¬ req.forceNew
        · rw [if_pos hreuse]
          trivial
        · rw [if_neg hreuse]
          refine (spares_cancelAtGateway _ _).tames.bind fun _ => ?_
          exact (cautious_deleteRow link).bind fun _ => trivial
    refine hreplaced.bind fun reused => ?_
    cases reused with
    | some link => trivial
    | none => exact cautious_issueLink s target amount req

theorem spares_getLink {P : Type} {g : Db → P} (linkId : Uuid) : Spares g (getLink linkId) := by
  refine (spares_query _).bind fun row => ?_
  cases row with
  | some r => exact spares_pure _
  | none => exact spares_throw _

theorem cautious_renewLink (s : PaymentLinkService) (linkId : Uuid) (actorId : String)
    (expiryMinutes : Option ℤ) : Cautious (renewLink s linkId actorId expiryMinutes) := by
  refine (spares_getLink linkId).tames.bind fun old => ?_
  refine (Spares.tames (spares_raiseIf _ _)).bind fun _ => ?_
  refine (Spares.tames (spares_ask _)).bind fun now => ?_
  refine (Spares.tames (spares_raiseIf _ _)).bind fun _ => ?_
  exact cautious_createLink _ _ _ _

theorem cautious_cancelLink (s : PaymentLinkService) (linkId : Uuid) :
    Cautious (cancelLink s linkId) := by
  refine (spares_getLink linkId).tames.bind fun link => ?_
  refine (Spares.tames (spares_raiseIf _ _)).bind fun _ => ?_
  refine (spares_cancelAtGateway _ _).tames.bind fun _ => ?_
  refine (Spares.tames (spares_ask _)).bind fun now => ?_
  have hcancelled : PaymentLinkStatus.cancelled ≠ .paid := by decide
  exact (cautious_flushLink (.of_ne (fun _ => rfl) fun _ => hcancelled)).bind fun _ => trivial

theorem cautious_deleteLink (s : PaymentLinkService) (linkId : Uuid) :
    Cautious (deleteLink s linkId) := by
  refine (spares_getLink linkId).tames.bind fun link => ?_
  refine (spares_cancelAtGateway _ _).tames.bind fun _ => ?_
  by_cases hbooking : link.targetType = .booking
  · rw [if_pos hbooking]
    refine (Spares.tames (spares_queryForUpdate _ _)).bind fun row => ?_
    cases row with
    | none => exact cautious_deleteRow link
    | some b =>
      show Cautious (if b.paymentUrl = link.paymentUrl then _ else _)
      by_cases hurl : b.paymentUrl = link.paymentUrl
      · rw [if_pos hurl]
        exact (cautious_of_spares (spares_flushBookingLinks _).discard).bind
          fun _ => cautious_deleteRow link
      · rw [if_neg hurl]
        exact cautious_deleteRow link
  · rw [if_neg hbooking]
    exact cautious_deleteRow link

theorem cautious_cancelAndDelete (s : PaymentLinkService) (links : List PaymentLinkRow) :
    Cautious (cancelAndDelete s links) := by
  induction links with
  | nil => trivial
  | cons link rest ih =>
    refine (spares_cancelAtGateway _ _).tames.bind fun _ => ?_
    exact (cautious_deleteRow link).bind fun _ => ih

theorem cautious_cancelAndDeleteLinksForTarget (s : PaymentLinkService)
    (targetType : PaymentLinkTarget) (targetId : Uuid) :
    Cautious (cancelAndDeleteLinksForTarget s targetType targetId) := by
  refine (Spares.tames (spares_queryForUpdate _ _)).bind fun links => ?_
  refine (cautious_cancelAndDelete s links).bind fun _ => ?_
  by_cases hbooking : targetType = .booking
  · rw [if_pos hbooking]
    refine cautious_of_spares ?_
    refine (spares_queryForUpdate _ _).bind fun row => ?_
    cases row with
    | none => exact spares_pure _
    | some b =>
      cases hlisted : listed (b.paymentData.bind (·.field? "cancelled_invoice_ids")) with
      | error exc =>
        dsimp only
        rw [hlisted]
        exact spares_throw exc
      | ok items =>
        dsimp only
        rw [hlisted]
        refine (spares_cancelAtGateway _ _).bind fun _ => (spares_ask _).bind fun now => ?_
        exact (spares_flushBookingLinks _).discard.bind fun _ => spares_pure _
  · rw [if_neg hbooking]
    trivial

/-! ## Runs -/

/-- Every endpoint settles links on authority, or makes none paid. -/
theorem endpoint_guards {op : Endpoint} (hop : op.IgnoresEmpty) :
    Guards linkParts (PaidOnAuthority op) (endpointCode op) [] ∨
      Tames linkParts NonePaid (endpointCode op) := by
  cases op with
  | webhookGet settings gateway qp =>
    exact .inl (settling_gatewayWebhookGet settings gateway qp).guards.discard
  | webhookPost settings webhook gateway qp headers rawBody =>
    exact .inl (settling_gatewayWebhookPost rfl hop).guards.discard
  | success settings qp bd => exact .inl (settling_callbackPage settings qp bd).guards.discard
  | failed settings qp bd => exact .inl (settling_callbackPage settings qp bd).guards.discard
  | sync s linkId => exact .inl (settling_syncStatus rfl).guards.discard
  | create s targetType targetId req => exact .inr (cautious_createLink _ _ _ _).discard
  | renew s linkId actorId expiryMinutes => exact .inr (cautious_renewLink _ _ _ _).discard
  | cancel s linkId => exact .inr (cautious_cancelLink _ _).discard
  | delete s linkId => exact .inr (cautious_deleteLink _ _)
  | cancelAndDelete s targetType targetId =>
    exact .inr (cautious_cancelAndDeleteLinksForTarget _ _ _).discard

/-- However the requests are interleaved, a link becomes paid only by the commit of a request to which the
gateway has reported the payment, or which is an accepted webhook that says so. -/
theorem settled_on_authority {d : Db} {evs : List (Event Endpoint Env)}
    (h : Runs.AllSteps (System.step endpointCode) (Starting Endpoint.IgnoresEmpty)
      ({ db := d } : EndpointSystem) evs) :
    Runs.AllSteps (System.step endpointCode) SettledOnAuthority ({ db := d } : EndpointSystem) evs := by
  have hmoves := allSteps_moves (F := NonePaid) (G := PaidOnAuthority)
    (fun _ _ _ _ h h' => h.trans h') ?_ (fun _ hop => endpoint_guards hop) h
  · refine Runs.allSteps_of_allSteps (I := fun _ => True) (fun s ev _ hmoves => ⟨trivial, ?_⟩) trivial hmoves
    intro l' hl' hpaid
    have hmem : l' ∈ linkParts.part l'.id (s.step endpointCode ev).db :=
      List.mem_filter.mpr ⟨hl', by simp⟩
    have hpart : ∀ l, l ∈ linkParts.part l'.id s.db → l ∈ s.db.paymentLinks ∧ l.id = l'.id := by
      intro l hl
      obtain ⟨hl, hid⟩ := List.mem_filter.mp hl
      exact ⟨hl, by simpa using hid⟩
    rcases hmoves l'.id with hsame | ⟨t, hev, hget, hchange⟩
    · rw [hsame] at hmem
      exact ⟨l', (hpart l' hmem).1, rfl, .inl hpaid⟩
    · obtain ⟨l, hl, hcase⟩ := hchange l' hmem hpaid
      refine ⟨l, (hpart l hl).1, (hpart l hl).2, ?_⟩
      exact hcase.imp_right fun hauthority => ⟨t, hev, hget, hauthority⟩
  · intro op es i rows rows' hnone l' hl' hpaid
    obtain ⟨l, hl, hpaid'⟩ := hnone l' hl' hpaid
    exact ⟨l, hl, .inl hpaid'⟩

theorem settled_on_authority_contended :
    let endpoint : Deema.Endpoint :=
      { mac := fun key text => key ++ text, secret := "key", settings := {} }
    let settings : LinkSettings := { adapter := fun _ => endpoint.gateway }
    let link : PaymentLinkRow :=
      { id := 7, targetType := .product, targetId := 1, gateway := "deema", providerLabel := "Deema"
        amount := 20000, currency := "KWD", status := .pending, gatewayInvoiceId := some "chg_1" }
    let paid : Env := { state := .ok { status := .paid, invoiceId := some "chg_1"
                                       amount := some (.ofFils 20000) } }
    let evs : List (Event Endpoint Env) :=
      [.start 1 (.webhookGet settings "deema" [("tap_id", "chg_1")]),
        .start 2 (.webhookPost settings {} "deema" [] [] "{}"),
        .start 3 (.cancel { gateway := endpoint.gateway } 7), .exec 3 {}, .exec 1 paid, .exec 1 paid,
        .exec 3 {}, .exec 1 paid, .exec 1 paid, .exec 1 paid, .exec 1 paid, .exec 1 paid, .finish 2,
        .finish 1, .exec 3 {}]
    Runs.AllSteps (System.step endpointCode) SettledOnAuthority
        ({ db := { paymentLinks := [link] } } : EndpointSystem) evs ∧
      (Runs.run (System.step endpointCode) ({ db := { paymentLinks := [link] } } : EndpointSystem)
        evs).db.paymentLinks.map (·.status) = [.paid] := by
  intro endpoint settings link paid evs
  constructor
  · refine settled_on_authority ?_
    exact ⟨trivial, rfl, trivial, trivial, trivial, trivial,
      trivial, trivial, trivial, trivial, trivial, trivial, trivial, trivial, trivial, trivial⟩
  · decide +kernel

end PaymentLinks
