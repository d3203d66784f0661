import UshBookNPay.Payment.RefundLifecycle
import UshBookNPay.PaymentLinks.Settlement

/-!
# Webhooks

`PaymentWebhookService`: a webhook of a gateway, from its body to its outcome. The signature check and
the reading of an event are the gateway's; what its API answers comes from the environment.
-/

open Transactions.Prog (query queryForUpdate update raiseIf forSome ask call)

namespace PaymentLinks

/-- The settings a webhook depends on. -/
structure WebhookSettings where
  /-- `is_dev`: an event without a valid signature is let through -/
  isDev : Bool := false
  /-- `PAYMENT_WEBHOOK_MAX_AGE_SECONDS` -/
  maxAgeSeconds : ℕ := 0

/-- `get_payment_state`: an exception, or the state the gateway reports. -/
def getPaymentState (gateway key : String) : Tx (Except String GatewayPaymentState) :=
  call (fun env => match env.state with
    | .ok state => [.paymentState gateway key state]
    | .error _ => []) Env.state

/-! ## Inbox -/

/-- The length of the column `event_reference`. -/
def REFERENCE_LENGTH : ℕ := 150

/-- `_claim_event`: the id of the new inbox row, or nothing where the event has been received before. -/
def claimEvent (gw : PaymentLinkGateway) (event : GatewayWebhookEvent) (reference : String) :
    Tx (Option Uuid) := do
  let id ← ask Env.uuid
  let stored := String.ofList (reference.toList.take REFERENCE_LENGTH)
  let known ← queryForUpdate (fun _ => [.index "payment_webhook_events" (gw.name ++ ":" ++ stored)])
    fun d => d.paymentWebhookEvents.any fun e => e.gateway = gw.name ∧ e.eventReference = stored
  if known then pure none
  else do
    update [.index "payment_webhook_events" (gw.name ++ ":" ++ stored)] fun d => { d with
      paymentWebhookEvents := d.paymentWebhookEvents ++
        [{ id := id, gateway := gw.name, eventReference := stored, eventKind := event.kind,
           invoiceId := event.invoiceId }] }
    pure (some id)

def closedEvent (outcome : String) (paymentId : Option Uuid) (now : Instant)
    (e : PaymentWebhookEventRow) : PaymentWebhookEventRow :=
  { e with outcome := outcome, paymentId := paymentId, processedAt := some now }

/-! ## Payment events -/

/-- `settlement.apply` on a locked link, written when the transaction commits. -/
def applyLocked (row : PaymentLinkRow) (state : GatewayPaymentState) (source : String) :
    Tx SettlementOutcome := do
  let (outcome, link) ← apply (.ofRow row) state source
  discard (flushLink link)
  pure outcome

/-- The state a paid event is settled with: the verified one where it names a payment, else what the
event says. -/
def mergedState (verified : Option GatewayPaymentState) (event : GatewayWebhookEvent) :
    Option GatewayPaymentState :=
  if ∃ v ∈ verified, Text.truthy v.paymentId then verified else event.state.or verified

/-- The identifier the link of an event is looked up and verified by. -/
def lookupId (event : GatewayWebhookEvent) : Option String :=
  let id := Text.or event.invoiceId (event.state.bind (·.paymentId))
  if Text.truthy id then id else none

def eventReference (event : GatewayWebhookEvent) : Option String :=
  if Text.truthy event.eventReference then event.eventReference
  else event.state.map fun s => s.referenceId.getD "None"

/-- Ask the gateway for the state of the payment. What it raises is only logged. A link that was not
found is looked up by the invoice it names. -/
def verifyEvent (gw : PaymentLinkGateway) (key : Option String) (link : Option PaymentLinkRow) :
    Tx (Option GatewayPaymentState × Option PaymentLinkRow) :=
  match key with
  | none => pure (none, link)
  | some key => do
    let answer ← getPaymentState gw.name key
    match answer with
    | .error _ => pure (none, link)
    | .ok state =>
      if link = none ∧ Text.truthy state.invoiceId then do
        let found ← getLockedLinkByAnyIdentifier gw.name state.invoiceId
          (some (Text.orEmpty state.referenceId)) none
        pure (some state, found)
      else pure (some state, link)

/-- What an event does to its link. -/
def settleEvent (gw : PaymentLinkGateway) (event : GatewayWebhookEvent) (row : PaymentLinkRow)
    (verified : Option GatewayPaymentState) : Tx (String × Option Uuid) := do
  let source := "webhook_" ++ gw.name
  let currentStatus := if verified.isSome then verified.map (·.status) else event.status
  if currentStatus = some .paid ∨ event.status = some .paid then do
    raiseIf (∃ v ∈ verified, v.status ≠ .paid)
      (.paymentProvider "Gateway has not reported the invoice as paid yet.")
    match mergedState verified event with
    | none => throw (.nameError "GatewayPaymentState")
    | some merged => do
      let outcome ← applyLocked row merged source
      pure (outcome.value, some row.id)
  else
    match (if currentStatus = some .failed then verified.or event.state else none) with
    | some state => do
      let outcome ← applyLocked row state source
      pure (outcome.value, some row.id)
    | none => pure (SettlementOutcome.pending.value, some row.id)

/-- `_handle_payment_event` -/
def handlePaymentEvent (gw : PaymentLinkGateway) (event : GatewayWebhookEvent) :
    Tx (String × Option Uuid) := do
  let key := lookupId event
  let found ← getLockedLinkByAnyIdentifier gw.name key (eventReference event) none
  let (verified, link) ← verifyEvent gw key found
  match link with
  | none => pure ("ignored", none)
  | some row => settleEvent gw event row verified

/-! ## Refund events -/

/-- `_find_payment_for_update`: the newest payment of the invoice under the label of the gateway. -/
def findPaymentForUpdate (gw : PaymentLinkGateway) (invoiceId : Option String) :
    Tx (Option PaymentRow) :=
  if ¬ Text.truthy invoiceId then pure none
  else
    let newest := fun d : Db => (d.payments.filter fun p =>
      p.invoiceId = invoiceId ∧ p.paymentProvider = some gw.providerLabel).getLast?
    queryForUpdate (fun d => ((newest d).map fun p => LockKey.row "payments" p.id).toList) newest

/-- The refund an event names. -/
def findEventRefund (payment : PaymentRow) (refundId : Option String) : Tx (Option RefundRow) :=
  if ¬ Text.truthy refundId then pure none
  else do
    let ofEvent := fun d : Db => d.refunds.filter fun r =>
      r.paymentId = some payment.id ∧ r.gatewayRefundId = refundId
    let rows ← queryForUpdate (fun d => (ofEvent d).map fun r => LockKey.row "refunds" r.id) ofEvent
    scalarOneOrNone rows

def setRefundStatus (status : Payment.RefundStatus) (r : RefundRow) : RefundRow :=
  { r with status := status }

/-- The columns a cancelled refund sets on its payment. -/
def revertedPayment (refund : RefundRow) (p : PaymentRow) : PaymentRow :=
  let left := max 0 (p.amountRefunded - refund.refundedAmount)
  { p with
    amountRefunded := left
    status := if left = 0 then some .success else some .partiallyRefunded
    paymentData := some (Json.withField p.paymentData "needs_attention" (.str ("Refund " ++
      refund.refundNumber ++ " was cancelled by the gateway."))) }

def revertedHistory (gw : PaymentLinkGateway) (payment : PaymentRow)
    (newStatus : Option Payment.PaymentStatus) (refundId : Option String) :
    PaymentStatusHistoryRow :=
  { paymentId := payment.id
    oldStatus := payment.status
    newStatus := newStatus.getD .success
    source := "webhook_" ++ gw.name
    reason := "Gateway cancelled refund " ++ Text.orEmpty refundId
    providerReference := refundId
    correlationId := ""
    refundId := none
    refundStatus := none
    refundedAmount := none
    amountRefundedTotal := none
    changeByUser := "webhook_" ++ gw.name }

/-- `_handle_refund_event` -/
def handleRefundEvent (gw : PaymentLinkGateway) (event : GatewayWebhookEvent) :
    Tx (String × Option Uuid) := do
  let payment ← findPaymentForUpdate gw event.invoiceId
  match payment with
  | none => pure ("ignored", none)
  | some payment => do
    let refund ← findEventRefund payment event.refundId
    if event.refundStatus = some "REFUNDED" then do
      forSome (refund.filter (·.status ≠ .completed)) fun r =>
        discard (Payment.flushRefund ((Orm.ofRow r).set (setRefundStatus .completed)))
      pure ("processed", some payment.id)
    else
      match (if event.refundStatus ∈ [some "CANCELED", some "CANCELLED"] then refund else none) with
      | none => pure ("ignored", some payment.id)
      | some r => do
        forSome (if r.status ≠ .failed then some r else none) fun r => do
          discard (Payment.flushRefund ((Orm.ofRow r).set (setRefundStatus .failed)))
          let written ← flushPayment ((Orm.ofRow payment).set (revertedPayment r))
          addPaymentHistory (revertedHistory gw payment written.row.status event.refundId)
        pure ("processed", some payment.id)

/-! ## Processing -/

/-- `payload.get(key) or {}` is an object. -/
def sectionOk (payload : Json) (key : String) : Bool :=
  match payload.field? key with
  | none | some .null | some (.bool false) | some (.str "") | some (.arr []) | some (.obj _) => true
  | some (.num lexeme) =>
    (lexeme.toList.takeWhile fun c => c ≠ 'e' ∧ c ≠ 'E').all fun c => c ∉ "123456789".toList
  | _ => false

/-- `_check_age` -/
def checkAge (settings : WebhookSettings) (payload : Json) : Tx Unit :=
  if settings.maxAgeSeconds = 0 then pure ()
  else do
    raiseIf (¬ sectionOk payload "Event") (.attributeError "get")
    let stale ← ask Env.stale
    raiseIf stale (.authentication "Webhook event is too old.")

/-- The payload of a webhook: a JSON object. -/
def parsePayload (rawBody : String) : Tx Json :=
  match Json.loads (if rawBody = "" then "{}" else rawBody) with
  | some (.obj fields) => pure (.obj fields)
  | _ => throw (.validation "Malformed webhook payload.")

/-- `_process` -/
def process (gw : PaymentLinkGateway) (settings : WebhookSettings)
    (headers : List (String × String)) (rawBody : String) : Tx String := do
  let payload ← parsePayload rawBody
  raiseIf (¬ gw.verifySignature headers payload ∧ ¬ settings.isDev)
    (.authentication "Invalid webhook signature.")
  let event := gw.parseEvent payload
  if event.kind = .ignored then pure "ignored"
  else do
    checkAge settings payload
    let digest ← ask Env.digest
    raiseIf (¬ sectionOk payload "Data") (.attributeError "get")
    let inboxId ← claimEvent gw event
      ((Text.or event.eventReference (some digest)).getD digest)
    match inboxId with
    | none => pure "duplicate"
    | some inboxId => do
      let (outcome, targetId) ← (if event.kind = .paymentStatus then handlePaymentEvent gw event
        else handleRefundEvent gw event)
      let now ← ask Env.now
      update [] fun d => { d with
        paymentWebhookEvents :=
          Table.modify d.paymentWebhookEvents inboxId (closedEvent outcome targetId now) }
      pure outcome

end PaymentLinks
