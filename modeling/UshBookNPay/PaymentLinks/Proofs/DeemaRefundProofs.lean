import UshBookNPay.PaymentLinks.DeemaRefundRuns
import UshBookNPay.PaymentLinks.Proofs.RefundEventProofs

/-!
# Deliveries of refund webhooks

What one delivery to the endpoint of Deema does to the refunds: nothing where the request is turned
away, the webhook is in the inbox or the refund is not found, and else what the event says.
-/

open Transactions (Ensures AtEnd Ledger transact)
open Transactions.Prog (ask update raiseIf)
open Transactions

namespace PaymentLinks

open Payment (fits UniqueIds)

variable {d d' : Db} {es : List Emission} {r : RefundRow}

/-! ## A refund event -/

/-- The status a refund event leaves the refund in. -/
def statusAfter (gw : PaymentLinkGateway) (event : GatewayWebhookEvent) (d : Db) (r : RefundRow) :
    Payment.RefundStatus :=
  if eventRefund gw event d = some r then
    if event.refundStatus = some "REFUNDED" ∧ fits r then .completed
    else if event.cancels ∧ ∀ p ∈ eventPayment gw event d, FitsLeft p r then .failed
    else r.status
  else r.status

/-- Every refund has the status an event leaves it in, and is else what it was. -/
structure Told (gw : PaymentLinkGateway) (event : GatewayWebhookEvent) (d d' : Db) : Prop where
  unique : UniqueIds d'
  refund : ∀ k r, Table.get d.refunds k = some r →
    Table.get d'.refunds k = some (setRefundStatus (statusAfter gw event d r) r)

theorem setRefundStatus_self (r : RefundRow) : setRefundStatus r.status r = r := rfl

theorem eventRefund_congr {gw : PaymentLinkGateway} {event : GatewayWebhookEvent}
    (hrefunds : d'.refunds = d.refunds) (hpayments : d'.payments = d.payments) :
    eventRefund gw event d' = eventRefund gw event d := by
  unfold eventRefund eventPayment
  rw [hrefunds, hpayments]

theorem statusAfter_congr {gw : PaymentLinkGateway} {event : GatewayWebhookEvent}
    (hrefunds : d'.refunds = d.refunds) (hpayments : d'.payments = d.payments) (r : RefundRow) :
    statusAfter gw event d' r = statusAfter gw event d r := by
  have hpayment : eventPayment gw event d' = eventPayment gw event d := by
    unfold eventPayment
    rw [hpayments]
  unfold statusAfter
  rw [eventRefund_congr hrefunds hpayments, hpayment]

/-- An event that finds no refund, or one that has the status already, tells nothing. -/
theorem told_idle {gw : PaymentLinkGateway} {event : GatewayWebhookEvent} (hids : UniqueIds d)
    (h : ∀ r, eventRefund gw event d = some r → statusAfter gw event d r = r.status) :
    Told gw event d d := by
  refine ⟨hids, fun k r hr => ?_⟩
  have hsame : statusAfter gw event d r = r.status := by
    by_cases hfound : eventRefund gw event d = some r
    · exact h r hfound
    · exact if_neg hfound
  rw [hsame, setRefundStatus_self]
  exact hr

theorem told_replaces {gw : PaymentLinkGateway} {event : GatewayWebhookEvent} (hids : UniqueIds d)
    (hfound : eventRefund gw event d = some r) (hr : Table.get d.refunds r.id = some r)
    (hrep : Table.Replaces d.refunds r.id (setRefundStatus (statusAfter gw event d r) r) d'.refunds)
    (hpayments : Table.Unique d'.payments) : Told gw event d d' := by
  refine ⟨⟨hrep.unique hids.refunds, hpayments⟩, fun k q hq => ?_⟩
  by_cases hk : k = r.id
  · subst hk
    rw [hr] at hq
    cases hq
    exact hrep.1
  · have hother : statusAfter gw event d q = q.status := by
      refine if_neg fun hsame => hk ?_
      rw [hfound] at hsame
      cases hsame
      exact (Table.get_some hq).2.symm
    rw [hrep.get_of_ne hk, hother, setRefundStatus_self]
    exact hq

theorem ensures_handleRefundEvent {gw : PaymentLinkGateway} {event : GatewayWebhookEvent}
    (hids : UniqueIds d) :
    Ensures (fun _ => True) (AtEnd (fun d' _ => Told gw event d d') d)
      (handleRefundEvent gw event) d es := by
  by_cases hidle : ∀ r, eventRefund gw event d = some r →
      (event.refundStatus = some "REFUNDED" → r.status = .completed) ∧
      (event.cancels → r.status = .failed)
  · have htold : Told gw event d d := by
      refine told_idle hids fun r hr => ?_
      obtain ⟨hcompleted, hfailed⟩ := hidle r hr
      unfold statusAfter
      split_ifs with hrefunded hcancels
      · exact (hcompleted hrefunded.1).symm
      · exact (hfailed hcancels.1).symm
      · rfl
    refine (ensures_handleRefundEvent_idle hidle).mono (fun _ h => h) ?_
    rintro (e | a) d' es' ⟨-, hok⟩
    · exact htold
    · rw [hok a rfl]
      exact htold
  simp only [not_forall] at hidle
  obtain ⟨r, hfound, hopen⟩ := hidle
  obtain ⟨p, hp, hnames⟩ := eventRefund_named hids.refunds hids.payments hfound
  have hr : Table.get d.refunds r.id = some r := hnames.2.1
  have honly : ∀ q, eventRefund gw event d = some q → q = r := fun q hq =>
    Option.some.inj (hq.symm.trans hfound)
  by_cases hrefunded : event.refundStatus = some "REFUNDED"
  · have hnot : ¬ event.cancels := fun hcancels => cancels_not_refunded hcancels hrefunded
    have hstatus : r.status ≠ .completed := fun hdone =>
      hopen ⟨fun _ => hdone, fun hcancels => absurd hcancels hnot⟩
    refine (ensures_handleRefundEvent_refunded hp hfound hr hrefunded hstatus).mono
      (fun _ h => h) ?_
    have hend : ∀ d', (fits r ∧ d'.payments = d.payments ∧
          Table.Replaces d.refunds r.id (setRefundStatus .completed r) d'.refunds) ∨
        (¬ fits r ∧ d' = d) → Told gw event d d' := by
      rintro d' (⟨hfits, hpayments, hrep⟩ | ⟨hno, rfl⟩)
      · have hafter : statusAfter gw event d r = .completed := by
          unfold statusAfter
          rw [if_pos hfound, if_pos ⟨hrefunded, hfits⟩]
        rw [← hafter] at hrep
        exact told_replaces hids hfound hr hrep (by rw [hpayments]; exact hids.payments)
      · refine told_idle hids fun q hq => ?_
        rw [honly q hq]
        unfold statusAfter
        rw [if_pos hfound, if_neg fun h => hno h.2, if_neg fun h => hnot h.1]
    rintro (e | a) d' es' ⟨-, h⟩
    · exact hend d h
    · exact hend d' h
  · have hcancels : event.cancels := by
      by_contra hnot
      exact hopen ⟨fun h => absurd h hrefunded, fun h => absurd h hnot⟩
    have hstatus : r.status ≠ .failed := fun hdone =>
      hopen ⟨fun h => absurd h hrefunded, fun _ => hdone⟩
    refine (ensures_handleRefundEvent_cancels hp hfound hr hnames.1 hcancels hstatus).mono
      (fun _ h => h) ?_
    have hend : ∀ d', (FitsLeft p r ∧ CancelledIn d d' p r) ∨ (¬ FitsLeft p r ∧ d' = d) →
        Told gw event d d' := by
      rintro d' (⟨hfits, hcancelled⟩ | ⟨hno, rfl⟩)
      · have hafter : statusAfter gw event d r = .failed := by
          unfold statusAfter
          rw [if_pos hfound, if_neg fun h => hrefunded h.1, if_pos]
          refine ⟨hcancels, fun q hq => ?_⟩
          rw [hp] at hq
          cases hq
          exact hfits
        obtain ⟨a, hpaid⟩ := hcancelled.payment
        have hrep := hcancelled.refund
        rw [← hafter] at hrep
        exact told_replaces hids hfound hr hrep (hpaid.unique hids.payments)
      · refine told_idle hids fun q hq => ?_
        rw [honly q hq]
        unfold statusAfter
        rw [if_pos hfound, if_neg fun h => hrefunded h.1, if_neg fun h => hno (h.2 p hp)]
    rintro (e | a) d' es' ⟨-, h⟩
    · exact hend d h
    · exact hend d' h

/-! ## The inbox -/

/-- What is stored of the reference of an event. -/
def storedReference (reference : String) : String :=
  String.ofList (reference.toList.take REFERENCE_LENGTH)

/-- What `_process` does with a refund event it takes up. -/
def takeUp (gw : PaymentLinkGateway) (event : GatewayWebhookEvent) (reference : String) :
    Tx String := do
  let inboxId ← claimEvent gw event reference
  match inboxId with
  | none => pure "duplicate"
  | some inboxId => do
    let (outcome, targetId) ← handleRefundEvent gw event
    let now ← ask Env.now
    update [] fun d => { d with
      paymentWebhookEvents :=
        Table.modify d.paymentWebhookEvents inboxId (closedEvent outcome targetId now) }
    pure outcome

/-- The inbox holds the reference. -/
def InInbox (gw : PaymentLinkGateway) (reference : String) (d : Db) : Prop :=
  ∃ e ∈ d.paymentWebhookEvents, e.gateway = gw.name ∧ e.eventReference = storedReference reference

theorem ensures_claimEvent {gw : PaymentLinkGateway} {event : GatewayWebhookEvent}
    {reference : String} :
    Ensures (fun _ => True) (Returns fun id d' _ => d'.refunds = d.refunds ∧
      d'.payments = d.payments ∧ (id = none ↔ InInbox gw reference d))
      (claimEvent gw event reference) d es := by
  unfold claimEvent
  rw [ensures_bind_ask]
  refine ⟨trivial, fun a => ?_⟩
  dsimp only
  rw [ensures_bind_queryForUpdate]
  refine ⟨trivial, ?_⟩
  have hiff : (d.paymentWebhookEvents.any fun e => e.gateway = gw.name ∧
      e.eventReference = String.ofList (reference.toList.take REFERENCE_LENGTH)) = true ↔
      InInbox gw reference d := by
    simp [InInbox, storedReference]
  split_ifs with hknown
  · exact ⟨rfl, rfl, iff_of_true rfl (hiff.mp hknown)⟩
  · rw [ensures_bind, ensures_update]
    exact ⟨trivial, rfl, rfl, iff_of_false (by simp) fun h => hknown (hiff.mpr h)⟩

/-- What a refund event that is taken up leaves: one in the inbox has nothing to tell. -/
theorem ensures_takeUp {gw : PaymentLinkGateway} {event : GatewayWebhookEvent} {reference : String}
    (hids : UniqueIds d) :
    Ensures (fun _ => True) (AtEnd (fun d' _ => UniqueIds d' ∧
      (InInbox gw reference d → d'.refunds = d.refunds) ∧
      (¬ InInbox gw reference d → Told gw event d d')) d) (takeUp gw event reference) d es := by
  unfold takeUp
  refine ensures_claimEvent.bind_returns ?_
  rintro id d₁ es₁ ⟨hrefunds, hpayments, hin⟩
  have hids₁ : UniqueIds d₁ := by
    refine ⟨?_, ?_⟩
    · rw [hrefunds]
      exact hids.refunds
    · rw [hpayments]
      exact hids.payments
  cases id with
  | none => exact ⟨hids₁, fun _ => hrefunds, fun hnot => absurd (hin.mp rfl) hnot⟩
  | some id =>
    have hnot : ¬ InInbox gw reference d := fun h => by simpa using hin.mpr h
    have htold : ∀ d₂, Told gw event d₁ d₂ → Told gw event d d₂ := by
      rintro d₂ ⟨hids₂, htold⟩
      refine ⟨hids₂, fun k r hr => ?_⟩
      rw [← statusAfter_congr hrefunds hpayments]
      exact htold k r (by rw [hrefunds]; exact hr)
    refine (ensures_handleRefundEvent hids₁).bind ?_ ?_
    · rintro ⟨outcome, targetId⟩ d₂ es₂ h
      dsimp only
      rw [ensures_bind_ask]
      refine ⟨trivial, fun a => ?_⟩
      rw [ensures_bind, ensures_update]
      obtain ⟨hids₂, hrows⟩ := htold d₂ h
      exact ⟨trivial, ⟨hids₂.refunds, hids₂.payments⟩, fun h => absurd h hnot, fun _ =>
        ⟨⟨hids₂.refunds, hids₂.payments⟩, hrows⟩⟩
    · rintro e d₂ es₂ h
      obtain ⟨-, hrows⟩ := htold d₁ h
      refine ⟨hids, fun h => absurd h hnot, fun _ => ⟨hids, fun k r hr => ?_⟩⟩
      rw [← hrefunds]
      exact hrows k r hr

/-! ## The endpoint -/

section Checks

variable {settings : WebhookSettings} {payload : Json} {env : ℕ → Env} {f : Unit → Tx String}

/-- The request is new enough for `_check_age`. -/
def NewEnough (settings : WebhookSettings) (payload : Json) (env : ℕ → Env) : Prop :=
  settings.maxAgeSeconds = 0 ∨ (sectionOk payload "Event" ∧ ¬ (env 0).stale)

theorem exec_checkAge (h : NewEnough settings payload env) :
    ∃ env', exec env (checkAge settings payload >>= f) d = exec env' (f ()) d := by
  unfold checkAge
  by_cases hage : settings.maxAgeSeconds = 0
  · rw [if_pos hage]
    exact ⟨env, rfl⟩
  obtain ⟨hsection, hstale⟩ := h.resolve_left hage
  refine ⟨fun n => env (n + 1), ?_⟩
  rw [if_neg hage]
  unfold raiseIf
  rw [if_neg (not_not.mpr hsection)]
  show exec _ ((if (env 0).stale = true then _ else _) >>= f) d = _
  rw [if_neg hstale]
  rfl

theorem exec_checkAge_error (h : ¬ NewEnough settings payload env) :
    ∃ e, exec env (checkAge settings payload >>= f) d = (.error e, d, []) := by
  unfold NewEnough at h
  rw [not_or, not_and_or, not_not] at h
  obtain ⟨hage, hold⟩ := h
  unfold checkAge
  rw [if_neg hage]
  unfold raiseIf
  by_cases hsection : sectionOk payload "Event"
  · rw [if_neg (not_not.mpr hsection)]
    have hstale : (env 0).stale = true := hold.resolve_left (not_not.mpr hsection)
    refine ⟨.authentication "Webhook event is too old.", ?_⟩
    show exec _ ((if (env 0).stale = true then _ else _) >>= f) d = _
    rw [if_pos hstale]
    rfl
  · rw [if_pos hsection]
    exact ⟨_, rfl⟩

end Checks

namespace Deema

variable {e : Endpoint} {s : Ledger Db Emission} {x : Delivery}

/-- What `_process` does with a refund webhook that is signed and new enough. -/
def takeUpShaped (e : Endpoint) (w : RefundWebhook) : Tx String := do
  let digest ← ask Env.digest
  raiseIf (¬ sectionOk (.obj w.fields) "Data") (.attributeError "get")
  takeUp e.gateway w.event ((Text.or w.event.eventReference (some digest)).getD digest)

theorem process_eq (e : Endpoint) (w : RefundWebhook) :
    process e.gateway e.settings w.headers w.rawBody = (do
      raiseIf (¬ verifySignature e.mac e.secret w.headers (.obj w.fields) ∧ ¬ e.settings.isDev)
        (.authentication "Invalid webhook signature.")
      checkAge e.settings (.obj w.fields)
      takeUpShaped e w) := by
  have hparsed : parsePayload w.rawBody = pure (.obj w.fields) := by
    unfold parsePayload
    rw [w.loads]
  have hkind : (e.gateway.parseEvent (.obj w.fields)).kind = .refundStatus := w.isRefund
  unfold process
  rw [hparsed]
  show (raiseIf _ _ >>= fun _ => _) = _
  dsimp only
  rw [hkind]
  rfl

theorem deliver_accepted (h : e.Accepts x) : ∃ env digest, e.deliver s x =
    transact env (takeUp e.gateway x.1.event
      ((Text.or x.1.event.eventReference (some digest)).getD digest)) s := by
  obtain ⟨hsigned, hage, hdata⟩ := h
  have hverified : ¬ (¬ verifySignature e.mac e.secret x.1.headers (.obj x.1.fields) ∧
      ¬ e.settings.isDev) := fun hno => hsigned.elim hno.1 hno.2
  have hexec : ∃ env digest, exec x.2 (process e.gateway e.settings x.1.headers x.1.rawBody) s.db =
      exec env (takeUp e.gateway x.1.event
        ((Text.or x.1.event.eventReference (some digest)).getD digest)) s.db := by
    rw [process_eq]
    unfold raiseIf
    rw [if_neg hverified]
    obtain ⟨env, henv⟩ := exec_checkAge (d := s.db) (f := fun _ => takeUpShaped e x.1) hage
    refine ⟨fun n => env (n + 1), (env 0).digest, henv.trans ?_⟩
    unfold takeUpShaped
    rw [exec_bind_ask]
    unfold raiseIf
    rw [if_neg (not_not.mpr hdata)]
    rfl
  obtain ⟨env, digest, hsame⟩ := hexec
  refine ⟨env, digest, ?_⟩
  unfold Endpoint.deliver transact atomically
  rw [hsame]

/-- A request that is turned away changes nothing. -/
theorem deliver_turned_away (h : ¬ e.Accepts x) : e.deliver s x = s := by
  have hexec : ∃ err, exec x.2 (process e.gateway e.settings x.1.headers x.1.rawBody) s.db =
      (.error err, s.db, []) := by
    rw [process_eq]
    unfold raiseIf
    by_cases hverified : ¬ verifySignature e.mac e.secret x.1.headers (.obj x.1.fields) ∧
        ¬ e.settings.isDev
    · rw [if_pos hverified]
      exact ⟨_, rfl⟩
    rw [if_neg hverified]
    by_cases hage : NewEnough e.settings (.obj x.1.fields) x.2
    · obtain ⟨env, henv⟩ := exec_checkAge (d := s.db) (f := fun _ => takeUpShaped e x.1) hage
      have hdata : ¬ sectionOk (.obj x.1.fields) "Data" := by
        intro hdata
        refine h ⟨?_, hage, hdata⟩
        rw [not_and_or, not_not, not_not] at hverified
        exact hverified
      refine ⟨.attributeError "get", henv.trans ?_⟩
      unfold takeUpShaped
      rw [exec_bind_ask]
      unfold raiseIf
      rw [if_pos hdata]
      rfl
    · exact exec_checkAge_error hage
  obtain ⟨err, hexec⟩ := hexec
  unfold Endpoint.deliver transact atomically
  rw [hexec, List.append_nil]

/-! ## One delivery -/

/-- The id of the refund at the provider. -/
def entityId (w : RefundWebhook) : String := toStr (getKey (.obj w.fields) "id")

/-- The first branch of `parse_event`. -/
theorem event_eq (w : RefundWebhook) :
    w.event.refundId = Text.orNone (entityId w) ∧
      w.event.eventReference =
        (if entityId w ≠ "" ∧ w.status ≠ "" then some (entityId w ++ ":" ++ w.status)
          else Text.orNone (entityId w)) ∧
      w.event.refundStatus =
        (if w.status ∈ REFUND_OK_STATUSES then some "REFUNDED"
          else if w.status ∈ REFUND_FAIL_STATUSES then some "CANCELED"
          else Text.orNone w.status) := by
  have hkind : (parseEvent (.obj w.fields)).kind = .refundStatus := w.isRefund
  unfold RefundWebhook.event
  unfold parseEvent at hkind ⊢
  by_cases hrefund : Text.lower (toStr (getKey (.obj w.fields) "object")) = "refund" ∨
      Text.startsWith "ref_" (toStr (getKey (.obj w.fields) "id"))
  · dsimp only
    rw [if_pos hrefund]
    exact ⟨rfl, rfl, rfl⟩
  · dsimp only at hkind
    rw [if_neg hrefund] at hkind
    by_cases hcharge : Text.lower (toStr (getKey (.obj w.fields) "object")) ∈
          ["charge", "authorize", ""] ∧
        (toStr (getKey (.obj w.fields) "id") ≠ "" ∨
          Text.upper (toStr (getKey (.obj w.fields) "status")) ≠ "")
    · rw [if_pos hcharge] at hkind
      cases hkind
    · rw [if_neg hcharge] at hkind
      cases hkind

/-- The reference of a webhook about a refund is its own, and the inbox is looked up by it. -/
theorem inInbox_iff {w : RefundWebhook} {gatewayRefundId : Option String} {digest : String}
    {d : Db} (h : w.IsAbout gatewayRefundId) :
    InInbox e.gateway ((Text.or w.event.eventReference (some digest)).getD digest) d ↔
      w.Received d := by
  obtain ⟨hid, href, -⟩ := event_eq w
  have hentity : entityId w ≠ "" := by
    intro hempty
    have hnamed := h.1
    rw [hid, hempty] at hnamed
    simp [Text.orNone, Text.truthy] at hnamed
  have hown : ∃ reference, w.event.eventReference = some reference ∧ reference ≠ "" := by
    rw [href]
    split_ifs with hstatus
    · refine ⟨_, rfl, fun hempty => hentity ?_⟩
      have hparts := String.append_eq_empty_iff.mp hempty
      exact (String.append_eq_empty_iff.mp hparts.1).1
    · exact ⟨entityId w, if_neg hentity, hentity⟩
  obtain ⟨reference, hsome, hne⟩ := hown
  have hreference : (Text.or w.event.eventReference (some digest)).getD digest = reference := by
    rw [hsome]
    unfold Text.or
    dsimp only
    rw [if_neg hne]
    rfl
  unfold RefundWebhook.Received
  rw [hreference, hsome]
  exact Iff.rfl

theorem refundStatus_refunded_iff (w : RefundWebhook) :
    w.event.refundStatus = some "REFUNDED" ↔ w.status ∈ REFUND_OK_STATUSES := by
  rw [(event_eq w).2.2]
  split_ifs with hok hfail
  · exact iff_of_true rfl hok
  · exact iff_of_false (by decide) hok
  · refine iff_of_false (fun h => hok ?_) hok
    unfold Text.orNone at h
    split_ifs at h
    rw [Option.some.inj h]
    decide

theorem not_failed_of_ok {status : String} (h : status ∈ REFUND_OK_STATUSES) :
    status ∉ REFUND_FAIL_STATUSES := by
  revert status
  decide

theorem cancels_iff (w : RefundWebhook) :
    w.event.cancels ↔ w.status ∈ REFUND_FAIL_STATUSES := by
  unfold GatewayWebhookEvent.cancels
  rw [(event_eq w).2.2]
  generalize w.status = status
  split_ifs with hok hfail
  · exact iff_of_false (by decide) (not_failed_of_ok hok)
  · exact iff_of_true (by decide) hfail
  · refine iff_of_false (fun h => hfail ?_) hfail
    unfold Text.orNone at h
    split_ifs at h with hempty
    · simp at h
    · simp only [List.mem_cons, Option.some.injEq, List.not_mem_nil, or_false] at h
      rcases h with h | h
      · rw [h]
        decide
      · rw [h]
        decide

/-- The status an accepted webhook leaves a refund in. -/
def Endpoint.statusTold (e : Endpoint) (d : Db) (w : RefundWebhook) (r : RefundRow) :
    Payment.RefundStatus :=
  if e.Finds d w r then
    if w.status ∈ REFUND_OK_STATUSES ∧ fits r then .completed
    else if w.status ∈ REFUND_FAIL_STATUSES ∧ e.FitsReverted d w r then .failed
    else r.status
  else r.status

theorem isAbout_of_finds {d : Db} {w : RefundWebhook}
    (h : eventRefund e.gateway w.event d = some r) : w.IsAbout r.gatewayRefundId := by
  obtain ⟨p, -, -, -, hkey, hid, -⟩ := eventRefund_names h
  exact ⟨hkey, hid⟩

theorem statusAfter_eq {d : Db} {w : RefundWebhook} (h : ¬ w.Received d) :
    statusAfter e.gateway w.event d r = e.statusTold d w r := by
  unfold statusAfter Endpoint.statusTold
  have hfinds : e.Finds d w r ↔ eventRefund e.gateway w.event d = some r :=
    ⟨fun hf => hf.2, fun hf => ⟨h, hf⟩⟩
  simp only [hfinds, refundStatus_refunded_iff, cancels_iff]
  rfl

theorem deliver_unique (hids : UniqueIds s.db) : UniqueIds (e.deliver s x).db := by
  by_cases h : e.Accepts x
  · obtain ⟨env, digest, hsame⟩ := deliver_accepted (s := s) h
    rw [hsame]
    exact ((ensures_takeUp hids).transact env).1
  · rw [deliver_turned_away h]
    exact hids

/-- What becomes of a refund in one delivery. -/
theorem deliver_tells {k : Uuid} (hids : UniqueIds s.db) (h : e.Accepts x)
    (hr : Table.get s.db.refunds k = some r) :
    Table.get (e.deliver s x).db.refunds k =
      some (setRefundStatus (e.statusTold s.db x.1 r) r) := by
  obtain ⟨env, digest, hsame⟩ := deliver_accepted (s := s) h
  rw [hsame]
  obtain ⟨-, hin, hnot⟩ := (ensures_takeUp hids).transact env
  by_cases habout : x.1.IsAbout r.gatewayRefundId
  · have hinbox : InInbox e.gateway
        ((Text.or x.1.event.eventReference (some digest)).getD digest) s.db ↔
          x.1.Received s.db := inInbox_iff habout
    by_cases hreceived : x.1.Received s.db
    · have hkept : e.statusTold s.db x.1 r = r.status := if_neg fun hf => hf.1 hreceived
      rw [hin (hinbox.mpr hreceived), hkept, setRefundStatus_self]
      exact hr
    · rw [← statusAfter_eq hreceived]
      exact (hnot fun hi => hreceived (hinbox.mp hi)).refund k r hr
  · have hother : eventRefund e.gateway x.1.event s.db ≠ some r := fun hf =>
      habout (isAbout_of_finds hf)
    have hkept : e.statusTold s.db x.1 r = r.status := if_neg fun hf => hother hf.2
    rw [hkept, setRefundStatus_self]
    by_cases hi : InInbox e.gateway
        ((Text.or x.1.event.eventReference (some digest)).getD digest) s.db
    · rw [hin hi]
      exact hr
    · have htold := (hnot hi).refund k r hr
      rw [statusAfter, if_neg hother, setRefundStatus_self] at htold
      exact htold

end Deema

end PaymentLinks
