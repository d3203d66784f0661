import UshBookNPay.Loyalty.Repository
import UshBookNPay.Payment.RefundLifecycle

/-!
# RefundService

The refund workflows of staff and of the cancellation flow over the refund state machine: requesting,
approving, executing through a provider or at the desk, confirming. A workflow runs in the session of
its endpoint, which commits when it returns and rolls back when it raises. What a provider has accepted
stays accepted either way.
-/

open Transactions (Prog)
open Transactions.Prog (query queryForUpdate raiseIf forSome call emit)

namespace Payment

/-! ## Requests -/

structure CreateManualRefundRequest where
  refundAmount : ℚ
  cancellationFee : ℚ := 0
  refundMethod : String := "cash"
  reason : Option String := none
  notes : Option String := none
  customerConfirmation : Option String := none
  referenceNumber : Option String := none
  changeByUser : Option String := none

structure ProcessGatewayRefundRequest where
  refundAmount : Option ℚ := none
  cancellationFee : ℚ := 0
  reason : Option String := none
  notes : Option String := none
  changeByUser : Option String := none

/-! ## Lookups -/

/-- `_get_booking` -/
def getBooking (bookingId : Uuid) : Tx BookingRow :=
  load ("Booking " ++ uuidStr bookingId ++ " not found.") fun d => Table.get d.bookings bookingId

def getRefundById (refundId : Uuid) : Tx RefundRow :=
  load ("Refund " ++ uuidStr refundId ++ " not found.") fun d => Table.get d.refunds refundId

/-- The first sort key of `_get_payment_for_booking`, highest first; `NULL` sorts before `true`. -/
def paymentRank (p : PaymentRow) : ℕ :=
  match p.status with
  | none => 2
  | some s => if s ∈ [.success, .partiallyRefunded, .refunded] then 1 else 0

/-- The payment of the highest rank, the newest of them. -/
def bestPayment (payments : List PaymentRow) : Option PaymentRow :=
  payments.foldl (fun best p => match best with
    | some b => if paymentRank b ≤ paymentRank p then some p else some b
    | none => some p) none

/-- The payments a reference stands for: its UUID, or the provider's payment id. -/
def paymentsOf (ref : PaymentRef) (d : Db) : List PaymentRow :=
  match ref with
  | .uuid id => (Table.get d.payments id).toList
  | .text s => d.payments.filter (·.paymentId = some s)

def findPayment (ref : Option PaymentRef) : Tx (Option PaymentRow) :=
  match ref with
  | none => pure none
  | some ref => do
    let rows ← query (paymentsOf ref)
    scalarOneOrNone (if ref = .text "" then [] else rows)

/-- `_get_payment_for_booking` -/
def getPaymentForBooking (booking : BookingRow) : Tx (Option PaymentRow) := do
  let payment ← query fun d => bestPayment (d.payments.filter (·.bookingId = some booking.id))
  match payment with
  | some p => pure (some p)
  | none => findPayment booking.paymentId

/-- The refunds that come with a payment (`lazy="selectin"`). -/
def loadRefunds (payment : Option PaymentRow) : Tx (List RefundRow) :=
  match payment with
  | none => pure []
  | some p => query fun d => d.refunds.filter (·.paymentId = some p.id)

/-- `_resolve_gateway_provider` -/
def resolveGatewayProvider (payment : PaymentRow) : Provider :=
  let prov := Text.lower (Text.strip (Text.orEmpty
    (Text.or payment.paymentProvider payment.paymentGateway)))
  if Text.isIn "fatoorah" prov then .myfatoorah
  else if Text.isIn "deema" prov then .deema
  else .tap

/-- The identifier a provider is given, by the label of the gateway. -/
def gatewayPaymentId (label : String) (payment : PaymentRow) : Option String :=
  if Text.isIn "fatoorah" label ∨ Text.isIn "deema" label then
    Text.or (Text.or payment.invoiceId payment.paymentId) payment.transactionId
  else Text.or (Text.or payment.paymentId payment.transactionId) payment.invoiceId

/-- The emission of an accepted provider call for a refund. -/
def refundCall (payment : PaymentRow) (gatewayPaymentId : String) (refund : RefundRow) : Emission :=
  .refundPayment (resolveGatewayProvider payment) gatewayPaymentId refund.id refund.refundedAmount

/-- `provider.refund_payment` for a refund of the payment. -/
def refundPayment (payment : PaymentRow) (gatewayPaymentId : String) (refund : RefundRow) :
    Tx (Except String RefundResponse) :=
  call (fun env => emitted (refundCall payment gatewayPaymentId refund) env.refund) Env.refund

/-! ## The refund to execute -/

/-- The columns `_resolve_refund_to_execute` sets on an open refund. -/
def executedColumns (refundType refundMethod : String) (reason notes : Option String)
    (r : RefundRow) : RefundRow :=
  { r with
    refundType := refundType
    refundMethod := refundMethod
    reason := if Text.truthy reason then reason else r.reason
    notes := if Text.truthy notes then notes else r.notes }

/-- The amounts asked for are not those of the open refund. -/
def differs (refund : RefundRow) (netAmount cancellationFee : ℚ) : Prop :=
  TOLERANCE < |toDecimal (dec (toDecimal refund.refundedAmount)) - netAmount| ∨
    TOLERANCE < |toDecimal (dec (toDecimal refund.cancellationFee)) - cancellationFee|

instance (refund : RefundRow) (netAmount cancellationFee : ℚ) :
    Decidable (differs refund netAmount cancellationFee) :=
  inferInstanceAs (Decidable (_ ∨ _))

/-- Give an open refund the amounts asked for. -/
def adjustOpenRefund (refund : Orm RefundRow) (payment : Option PaymentRow) (netAmount : Option ℚ)
    (cancellationFee : ℚ) : Tx (Orm RefundRow) :=
  match netAmount with
  | none => pure refund
  | some net =>
    if differs refund.row net cancellationFee then
      updateRequestedAmounts refund payment net cancellationFee
    else pure refund

/-- The amount of a new refund: what is asked for, or the balance of the payment. -/
def netToRequest (payment : Option PaymentRow) (netAmount : Option ℚ) (cancellationFee : ℚ) : Tx ℚ :=
  match netAmount, payment with
  | some net, _ => pure net
  | none, none => throw (.validation "No payment record found for this booking.")
  | none, some p => do
    let committed ← committedTotal p none
    pure (max 0 (toDecimal p.totalAmount - toDecimal committed - cancellationFee))

/-- Reuse the open refund of the booking instead of creating a duplicate, or request a new one. -/
def resolveRefundToExecute (loaded : List RefundRow) (booking : BookingRow)
    (payment : Option PaymentRow) (netAmount : Option ℚ) (cancellationFee : ℚ)
    (refundType refundMethod : String) (reason notes : Option String) (actorId : String) :
    Tx (Orm RefundRow) := do
  let openRefund ← findOpenRefund loaded booking.id
  match openRefund with
  | some row => do
    raiseIf (row.status = .processing) (.validation ("Refund " ++ row.refundNumber ++
      " is already being processed by the payment provider. Wait for the provider confirmation."))
    let refund ← adjustOpenRefund (.ofRow row) payment netAmount cancellationFee
    pure (refund.set (executedColumns refundType refundMethod reason notes))
  | none => do
    let net ← netToRequest payment netAmount cancellationFee
    let (refund, _) ← request booking payment net cancellationFee refundType refundMethod reason
      notes none (some actorId)
    pure refund

/-! ## Workflows -/

/-- `str(change_by_user or current_user_id)` -/
def effectiveUser (changeByUser : Option String) (currentUserId : String) : String :=
  (Text.or changeByUser (some currentUserId)).getD ""

/-- The columns `record_manual_refund` sets before the refund is completed. -/
def manualColumns (req : CreateManualRefundRequest) (actorId : String) (now : Instant)
    (r : RefundRow) : RefundRow :=
  { r with
    customerConfirmation := Text.or req.customerConfirmation r.customerConfirmation
    referenceNumber := Text.or req.referenceNumber r.referenceNumber
    processedBy := some actorId
    processedAt := some now }

def noteRefund (refundNumber notes : String) (b : BookingRow) : BookingRow :=
  { b with internalNotes := some (Text.strip
    (Text.orEmpty b.internalNotes ++ "\n[Refund " ++ refundNumber ++ "]: " ++ notes)) }

/-- `_publish_refund_event` -/
def publishRefundEvent (refund : RefundRow) (payment : Option PaymentRow) : Tx Unit :=
  emit (.refundCompleted (refundCompletedEvent refund payment false))

/-- Record a refund executed outside the gateways. The confirmation of the staff member is the provider
confirmation, so the refund is completed at once. -/
def recordManualRefund (bookingId : Uuid) (req : CreateManualRefundRequest)
    (currentUserId : String) : Tx (Orm RefundRow) := do
  let booking ← getBooking bookingId
  let payment ← getPaymentForBooking booking
  let loaded ← loadRefunds payment
  raiseIf (req.refundAmount ≤ 0) (.validation "Refund amount must be greater than zero.")
  raiseIf (req.cancellationFee < 0) (.validation "Cancellation fee cannot be negative.")
  raiseIf (req.refundAmount < req.cancellationFee)
    (.validation "Cancellation fee cannot exceed requested refund amount.")
  let actorId := effectiveUser req.changeByUser currentUserId
  let refund ← resolveRefundToExecute loaded booking payment
    (some (req.refundAmount - req.cancellationFee)) req.cancellationFee RefundType.manual.value
    (RefundMethod.normalise req.refundMethod).value
    (Text.or req.reason (some "Manual staff refund")) req.notes actorId
  let now ← Prog.ask Env.now
  let done ← complete { payments := payment.toList, bookings := [booking] }
    (refund.set (manualColumns req actorId now)) "ushdesk_manual_refund" req.referenceNumber none
    (some actorId) false
  forSome (if Text.truthy req.notes then req.notes else none) fun notes =>
    discard (flushBooking ((done.booking.getD (.ofRow booking)).set
      (noteRefund done.refund.row.refundNumber notes)))
  let refund ← flushRefund done.refund
  publishRefundEvent refund.row payment
  pure refund

/-- The gateway columns `process_gateway_refund` sets before the provider is called. -/
def gatewayColumns (payment : PaymentRow) (r : RefundRow) : RefundRow :=
  { r with
    paymentGateway := Text.or payment.paymentGateway payment.paymentProvider
    gatewayTransactionId := payment.transactionId }

/-- The checks of the amounts of a gateway refund. Returns the net amount asked for. -/
def netOfRequest (req : ProcessGatewayRefundRequest) : Tx (Option ℚ) :=
  match req.refundAmount with
  | none => pure none
  | some requested => do
    raiseIf (requested ≤ 0) (.validation "Refund amount must be greater than zero.")
    raiseIf (requested < req.cancellationFee) (.validation "Invalid cancellation fee.")
    raiseIf (requested - req.cancellationFee ≤ 0)
      (.validation "Net refunded amount after cancellation fee must be greater than zero.")
    pure (some (requested - req.cancellationFee))

/-- Submit a refund to the gateway. Its acceptance only moves the refund to `processing`. -/
def submitRefund (known : Known) (refund : Orm RefundRow) (payment : PaymentRow)
    (gatewayPaymentId actorId : String) : Tx (Orm RefundRow) := do
  let res ← refundPayment payment gatewayPaymentId refund.row
  match res with
  | .error exc => throw (.validation ("Payment gateway refund failed: " ++ exc))
  | .ok res => do
    raiseIf (¬ res.isSuccessful)
      (.validation ("Gateway refund declined: " ++ res.failureReason.getD "None"))
    let refund ← markProcessing known refund res.providerRefundId (some res.rawResponse)
      (some actorId)
    flushRefund refund

def processGatewayRefund (bookingId : Uuid) (req : ProcessGatewayRefundRequest)
    (currentUserId : String) : Tx (Orm RefundRow) := do
  let booking ← getBooking bookingId
  let payment ← getPaymentForBooking booking
  let loaded ← loadRefunds payment
  match payment with
  | none => throw (.validation
      "No payment record found for this booking to process a gateway refund.")
  | some payment => do
    raiseIf (req.cancellationFee < 0) (.validation "Invalid cancellation fee.")
    let net ← netOfRequest req
    let label := Text.lower (Text.orEmpty (Text.or payment.paymentProvider payment.paymentGateway))
    match gatewayPaymentId label payment with
    | none => throw (.validation
        "Payment lacks external gateway reference required for automated refund.")
    | some gatewayPaymentId => do
      raiseIf (gatewayPaymentId = "") (.validation
        "Payment lacks external gateway reference required for automated refund.")
      let actorId := effectiveUser req.changeByUser currentUserId
      let refund ← resolveRefundToExecute loaded booking (some payment) net req.cancellationFee
        RefundType.automated.value RefundMethod.paymentGateway.value
        (Text.or req.reason (some "Booking cancellation refund")) req.notes actorId
      submitRefund { payments := [payment], bookings := [booking] }
        (refund.set (gatewayColumns payment)) payment gatewayPaymentId actorId

def appendNotes (notes : Option String) (r : RefundRow) : RefundRow :=
  if Text.truthy notes then
    { r with notes := some (Text.strip (Text.orEmpty r.notes ++ "\n" ++ Text.orEmpty notes)) }
  else r

/-- Staff confirmation of a refund, where the webhook of the provider is not available. -/
def confirmRefund (refundId : Uuid) (providerReference notes : Option String) (actorId : String) :
    Tx (Orm RefundRow) := do
  let row ← queryForUpdate (fun _ => [.row "refunds" refundId])
    fun d => Table.get d.refunds refundId
  match row with
  | none => throw (.notFound ("Refund " ++ uuidStr refundId ++ " not found."))
  | some row => do
    let done ← complete {} ((Orm.ofRow row).set (appendNotes notes)) "ushdesk_refund_confirmation"
      providerReference none (some actorId) true
    flushRefund done.refund

/-- The columns `create_refund_request` fills where they are empty. -/
def referenceColumns (payment : Option PaymentRow) (invoiceId invoiceNumber : Option String)
    (r : RefundRow) : RefundRow :=
  { r with
    invoiceNumber := Text.or r.invoiceNumber (if Text.truthy invoiceNumber then invoiceNumber
      else r.invoiceNumber)
    creditNoteId := Text.or r.creditNoteId (if Text.truthy invoiceId then invoiceId
      else r.creditNoteId)
    paymentId := r.paymentId.or (payment.map (·.id)) }

/-- The payment the request names, or the one of the booking. -/
def requestPayment (booking : BookingRow) (paymentId : Option PaymentRef) :
    Tx (Option PaymentRow) := do
  let payment ← findPayment paymentId
  match payment with
  | some p => pure (some p)
  | none => getPaymentForBooking booking

/-- The amount a request without an amount stands for: the total less the fee. -/
def defaultNet (booking : BookingRow) (payment : Option PaymentRow) (cancellationFee : ℚ) : ℚ :=
  let total := match payment with
    | some p => if p.totalAmount ≠ 0 then p.totalAmount else booking.totalAmount
    | none => booking.totalAmount
  max 0 (toDecimal total - cancellationFee)

/-- Create a refund in `requested` when a booking is cancelled. -/
def createRefundRequest (bookingId : Uuid) (paymentId : Option PaymentRef)
    (invoiceId invoiceNumber : Option String) (refundAmount : Option ℚ) (cancellationFee : ℚ)
    (reason notes actorId : Option String) : Tx (Orm RefundRow × Bool) := do
  let booking ← getBooking bookingId
  let payment ← requestPayment booking paymentId
  let (refund, created) ← request booking payment
    (refundAmount.getD (defaultNet booking payment cancellationFee)) cancellationFee
    RefundType.manual.value RefundMethod.other.value
    (Text.or reason (some "Booking cancellation refund requested"))
    (Text.or notes (some ("Refund requested on cancellation of booking " ++
      (Text.or booking.bookingNumber (some (uuidStr booking.id))).getD "")))
    (some (cancellationIdempotencyKey booking.id)) actorId
  let refund ← flushRefund (refund.set (referenceColumns payment invoiceId invoiceNumber))
  pure (refund, created)

/-- The event of an approval. It is published on a best effort. -/
def publishApprovedEvent (refund : RefundRow) : Tx Unit :=
  tryCatchThe Error (do
    forSome refund.bookingId fun bookingId => do
      let booking ← getBooking bookingId
      discard (getPaymentForBooking booking)
    emit (.refundApproved refund.id refund.refundMethod refund.refundedAmount)) fun _ => pure ()

def approveRefund (refundId : Uuid) (refundMethod : String) (approvedAmount : ℚ)
    (notes actorId : Option String) : Tx (Orm RefundRow) := do
  let row ← getRefundById refundId
  let refund ← approve {} (.ofRow row) refundMethod approvedAmount notes actorId
  publishApprovedEvent refund.row
  pure refund

/-! ## Processing an approved refund -/

/-- The description of the loyalty credit of a refund. -/
def creditDescription (refundNumber : String) : String :=
  "Refund " ++ refundNumber ++ " approved as loyalty points"

/-- Credit the whole points of a refund to its customer. -/
def creditLoyalty (refund : RefundRow) (actorId : String) : Tx Unit :=
  let pts := refund.refundedAmount.tdiv 1000
  forSome (if 0 < pts then refund.customerId else none) fun customerId =>
    tryCatchThe Error
      (Loyalty.adjustPoints customerId pts (some (creditDescription refund.refundNumber))
        (some actorId))
      fun exc => throw (.validation ("Failed to credit loyalty points: " ++ exc.message))

/-- The statuses `process_refund` gives the booking of a loyalty refund. -/
def loyaltyBooking (b : BookingRow) : BookingRow :=
  { b with status := .cancelled, paymentStatus := .refundedWithPoints }

def processLoyaltyRefund (known : Known) (refund : RefundRow) (booking : Option BookingRow)
    (actorId : String) : Tx (Orm RefundRow) := do
  creditLoyalty refund actorId
  let done ← complete known (.ofRow refund) "loyalty_point_refund" none none (some actorId) true
  forSome booking fun b =>
    discard (flushBooking ((done.booking.getD (.ofRow b)).set loyaltyBooking))
  pure done.refund

/-- The name of the gateway a refund goes back through. -/
def gatewayName (payment : Option PaymentRow) (booking : Option BookingRow) : String :=
  let ofPayment := payment.bind fun p => Text.or p.paymentGateway p.paymentProvider
  let ofBooking := booking.bind fun b => Text.or b.paymentGateway b.paymentProvider
  if Text.truthy ofPayment then Text.lower (Text.orEmpty ofPayment)
  else if Text.truthy ofBooking then Text.lower (Text.orEmpty ofBooking)
  else "manual"

/-- Whether the money goes back through a provider, rather than over the counter. -/
def throughProvider (name refundMethod : String) : Bool :=
  Text.isIn "fatoorah" name ∨ Text.isIn "deema" name ∨ Text.isIn "tap" name ∨
    Text.isIn "gateway" (Text.lower refundMethod) ∨
    Text.isIn "payment_link" (Text.lower refundMethod)

/-- The provider call of an approved money refund. Returns the response, where there is a call. -/
def executeRefund (refund : RefundRow) (payment : Option PaymentRow) (name : String) :
    Tx (Option RefundResponse) :=
  let target := payment.bind fun p =>
    (if throughProvider name refund.refundMethod then gatewayPaymentId name p else none).map
      fun ref => (p, ref)
  match target with
  | none => pure none
  | some (p, ref) =>
    if ref = "" then pure none
    else do
      let res ← refundPayment p ref refund
      match res with
      | .error exc => throw (.validation ("Payment provider refund failed: " ++ exc))
      | .ok res => do
        raiseIf (¬ res.isSuccessful) (.validation
          ("Payment provider refund failed: Gateway refund declined: " ++
            res.failureReason.getD "None"))
        pure (some res)

def processMoneyRefund (known : Known) (refund : RefundRow) (payment : Option PaymentRow)
    (booking : Option BookingRow) (actorId : String) : Tx (Orm RefundRow) := do
  let res ← executeRefund refund payment (gatewayName payment booking)
  let done ← complete known (.ofRow refund) "money_refund_process" (res.bind (·.providerRefundId))
    (res.map (·.rawResponse)) (some actorId) true
  forSome booking fun b => emit (.creditNote b.id done.refund.row.refundNumber
    done.refund.row.refundMethod done.refund.row.refundedAmount done.refund.row.cancellationFee)
  flushRefund done.refund

/-- The booking of a refund. -/
def bookingOfRefund (refund : RefundRow) : Tx (Option BookingRow) :=
  match refund.bookingId with
  | none => pure none
  | some bookingId => some <$> getBooking bookingId

/-- The payment of the booking of a refund. -/
def paymentOfBooking (booking : Option BookingRow) : Tx (Option PaymentRow) :=
  match booking with
  | none => pure none
  | some b => getPaymentForBooking b

/-- Process an approved refund, through the payment provider or as loyalty points. -/
def processRefund (refundId : Uuid) (actorId : Option String) : Tx (Orm RefundRow) := do
  let refund ← getRefundById refundId
  raiseIf (refund.status ≠ .approved) (.validation ("Refund " ++ refund.refundNumber ++
    " is not in approved status (" ++ refund.status.value ++ ")."))
  let booking ← bookingOfRefund refund
  let payment ← paymentOfBooking booking
  let actorId := (Text.or (Text.or actorId refund.processedBy) (some "staff")).getD ""
  let known : Known := { payments := payment.toList, bookings := booking.toList }
  if isLoyalty refund.refundMethod then processLoyaltyRefund known refund booking actorId
  else processMoneyRefund known refund payment booking actorId

end Payment
