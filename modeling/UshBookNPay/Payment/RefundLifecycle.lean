import UshBookNPay.Core.Flush

/-!
# RefundLifecycle

The refund state machine bound to one database session: the lookups and the transitions
`request`, `update_requested_amounts`, `reject`, `approve`, `mark_processing`, `complete` and `fail`.
-/

open Transactions (Prog)
open Transactions.Prog (query queryForUpdate update checkedUpdate raiseIf forSome ask call emit)

namespace Payment

def OPEN_STATUSES : List RefundStatus := [.requested, .approved, .processing]

/-- Completed and open: the statuses `committed_total` counts. -/
def committedStatuses : List RefundStatus := .completed :: OPEN_STATUSES

def TOLERANCE : ℚ := 5 / 10000

/-- `_dec`: three decimals, half to even; a number too large to be quantized becomes zero. -/
def dec (v : ℚ) : Fils :=
  let n := FixedPoint.roundHalfEven (v * 1000)
  if |n| < 10 ^ 28 then n else 0

/-- `amount > limit + TOLERANCE` -/
def exceeds (amount limit : Fils) : Prop := toDecimal limit + TOLERANCE < toDecimal amount

instance (amount limit : Fils) : Decidable (exceeds amount limit) :=
  inferInstanceAs (Decidable (_ < _))

def cancellationIdempotencyKey (bookingId : Uuid) : String := "booking-cancel:" ++ uuidStr bookingId

/-! ## Lookups -/

/-- The refund of a booking that is still open, the oldest first. One of the refunds `loaded` before is
returned with the values it was loaded with. -/
def findOpenRefund (loaded : List RefundRow) (bookingId : Uuid) : Tx (Option RefundRow) :=
  let find := fun d : Db => d.refunds.find? fun r =>
    r.bookingId = some bookingId ∧ r.status ∈ OPEN_STATUSES
  queryForUpdate (fun d => ((find d).map fun r => LockKey.row "refunds" r.id).toList) fun d =>
    (find d).map fun r => (Table.get loaded r.id).getD r

/-- `_sum`: the refunded amounts of a payment in the given statuses, one refund left out. -/
def sumOf (d : Db) (paymentId : Uuid) (statuses : List RefundStatus) (excludeId : Option Uuid) : Fils :=
  Table.total (fun r => r.refundedAmount)
    (d.refunds.filter fun r => r.paymentId = some paymentId ∧ r.status ∈ statuses ∧
      some r.id ≠ excludeId)

def completedTotal (payment : PaymentRow) (excludeId : Option Uuid) : Tx Fils :=
  query fun d => sumOf d payment.id [.completed] excludeId

/-- The amount already promised back to the customer. -/
def committedTotal (payment : PaymentRow) (excludeId : Option Uuid) : Tx Fils :=
  query fun d => sumOf d payment.id committedStatuses excludeId

def retainedFee (payment : PaymentRow) : Tx Fils :=
  query fun d => (((d.refunds.filter fun r => r.paymentId = some payment.id ∧
    r.status ∈ committedStatuses).map (·.cancellationFee)).max?).getD 0

def refundableTarget (payment : PaymentRow) : Tx Fils := do
  let fee ← retainedFee payment
  pure (max 0 (payment.totalAmount - fee))

/-! ## Internals -/

/-- `_payment_of` -/
def paymentOf (known : Known) (refund : RefundRow) (forUpdate : Bool) :
    Tx (Option (Orm PaymentRow)) :=
  match refund.paymentId with
  | none => pure none
  | some pid => do
    let row ← if forUpdate then
        queryForUpdate (fun _ => [.row "payments" pid]) fun d => Table.get d.payments pid
      else query fun d => Table.get d.payments pid
    pure (row.map fun r => Orm.ofRow (known.payment r))

/-- `_booking_of` -/
def bookingOf (known : Known) (refund : RefundRow) : Tx (Option (Orm BookingRow)) :=
  match refund.bookingId with
  | none => pure none
  | some bid => do
    let row ← queryForUpdate (fun _ => [.row "bookings" bid]) fun d => Table.get d.bookings bid
    pure (row.map fun r => Orm.ofRow (known.booking r))

/-- Whether the amounts of a refund fit their columns. -/
def fits (r : RefundRow) : Bool :=
  fitsNumeric r.requestedAmount ∧ fitsNumeric r.cancellationFee ∧ fitsNumeric r.refundedAmount

/-- Write a changed refund. -/
def flushRefund (o : Orm RefundRow) : Tx (Orm RefundRow) := do
  checkedUpdate (fun _ => if fits o.row then none else some .numericOverflow)
    [.row "refunds" o.row.id]
    fun d => { d with refunds := Table.modify d.refunds o.row.id o.changes }
  pure (Orm.ofRow o.row)

/-- `_audit` -/
def audit (payment : PaymentRow) (reason : String) (refund : RefundRow) (source : String)
    (actorId providerReference : Option String) (oldStatus : Option PaymentStatus) : Tx Unit :=
  update [] fun d => { d with paymentStatusHistory := d.paymentStatusHistory ++ [
    { paymentId := payment.id
      oldStatus := oldStatus.or payment.status
      newStatus := payment.status.getD .success
      source := source
      reason := reason
      providerReference := providerReference
      correlationId := refund.refundNumber
      refundId := some refund.id
      refundStatus := some refund.status
      refundedAmount := some refund.refundedAmount
      amountRefundedTotal := some payment.amountRefunded
      changeByUser := (Text.or actorId (some source)).getD source }] }

def generateRefundNumber : Tx String := do
  let month ← ask Env.month
  let datePrefix := "REF/" ++ month ++ "/"
  queryForUpdate (fun _ => [.advisory "refund_number"]) fun _ => ()
  query fun d => nextNumber datePrefix (d.refunds.map (·.refundNumber))

/-- The unique constraint an insert of the refund would break. -/
def refundConflict (d : Db) (r : RefundRow) : Option Error :=
  if (Table.get d.refunds r.id).isSome then some (.integrity "refunds_pkey")
  else if d.refunds.any (·.refundNumber = r.refundNumber) then
    some (.integrity "refunds_refund_number_key")
  else if r.idempotencyKey ≠ none ∧ d.refunds.any (·.idempotencyKey = r.idempotencyKey) then
    some (.integrity "refunds_idempotency_key_key")
  else if fits r then none
  else some .numericOverflow

def insertRefund (r : RefundRow) : Tx (Orm RefundRow) := do
  checkedUpdate (refundConflict · r)
    ([.row "refunds" r.id, .index "refund_number" r.refundNumber] ++
      (r.idempotencyKey.map (LockKey.index "idempotency_key")).toList)
    fun d => { d with refunds := d.refunds ++ [r] }
  pure (Orm.ofRow r)

/-! ## Transitions -/

/-- The cap of `request` and of `update_requested_amounts`: with `net` more the payment stays within
its total. -/
def checkCap (payment : PaymentRow) (excludeId : Option Uuid) (net : Fils)
    (message : Fils → String) : Tx Unit := do
  let committed ← committedTotal payment excludeId
  raiseIf (exceeds (committed + net) payment.totalAmount)
    (.validation (message (max 0 (payment.totalAmount - committed))))

/-- The row `request` inserts. -/
def requestedRow (booking : BookingRow) (payment : Option PaymentRow) (net fee : Fils)
    (refundType refundMethod : String) (reason notes idempotencyKey actorId : Option String)
    (id : Uuid) (refundNumber : String) (now : Instant) : RefundRow :=
  { id := id
    refundNumber := refundNumber
    idempotencyKey := idempotencyKey
    bookingId := some booking.id
    paymentId := payment.map (·.id)
    invoiceNumber := Text.or (payment.bind (·.invoiceNumber)) booking.invoiceNumber
    customerId := some booking.customerId
    branchId := booking.branchId
    refundType := refundType
    refundMethod := refundMethod
    status := .requested
    requestedAmount := net + fee
    cancellationFee := fee
    refundedAmount := net
    currency := if booking.currency ≠ "" then booking.currency
      else (payment.map (·.currency)).getD "KWD"
    reason := Text.or reason (some "Booking cancellation refund")
    notes := notes
    paymentGateway := payment.bind fun p => Text.or p.paymentGateway p.paymentProvider
    gatewayTransactionId := payment.bind (·.transactionId)
    processedBy := if Text.truthy actorId then actorId else none
    processedAt := some now }

/-- `request`, once no refund has the idempotency key. -/
def requestNew (booking : BookingRow) (payment : Option PaymentRow) (net fee : Fils)
    (refundType refundMethod : String) (reason notes idempotencyKey actorId : Option String) :
    Tx (Orm RefundRow) := do
  raiseIf (net ≤ 0) (.validation "Refund amount must be greater than zero.")
  raiseIf (fee < 0) (.validation "Cancellation fee cannot be negative.")
  forSome payment fun p => checkCap p none net fun balance =>
    "Refund amount " ++ str net ++ " exceeds available refundable balance (" ++ str balance ++ " "
      ++ (Text.or (some p.currency) (some "KWD")).getD "KWD" ++ ")."
  let refundNumber ← generateRefundNumber
  let id ← ask Env.uuid
  let now ← ask Env.now
  let refund ← insertRefund (requestedRow booking payment net fee refundType refundMethod reason
    notes idempotencyKey actorId id refundNumber now)
  forSome payment fun p =>
    audit p ("Refund " ++ refundNumber ++ " requested: " ++ str net ++ " " ++ refund.row.currency)
      refund.row "refund_requested" actorId none none
  pure refund

/-- Create a refund in `requested`. Returns the refund and whether it was created. -/
def request (booking : BookingRow) (payment : Option PaymentRow)
    (refundAmount cancellationFee : ℚ) (refundType refundMethod : String)
    (reason notes idempotencyKey actorId : Option String) : Tx (Orm RefundRow × Bool) := do
  let existing ← query fun d => if Text.truthy idempotencyKey then
    d.refunds.find? fun r => r.idempotencyKey = idempotencyKey else none
  match existing with
  | some row => pure (.ofRow row, false)
  | none => do
    let refund ← requestNew booking payment (dec refundAmount) (dec cancellationFee) refundType
      refundMethod reason notes idempotencyKey actorId
    pure (refund, true)

def requestedColumns (net fee : Fils) (r : RefundRow) : RefundRow :=
  { r with refundedAmount := net, cancellationFee := fee, requestedAmount := net + fee }

/-- Adjust a refund that is still `requested`. -/
def updateRequestedAmounts (refund : Orm RefundRow) (payment : Option PaymentRow)
    (refundAmount cancellationFee : ℚ) : Tx (Orm RefundRow) := do
  raiseIf (refund.row.status ≠ .requested) (.validation ("Refund " ++ refund.row.refundNumber ++
    " can no longer be modified (" ++ refund.row.status.value ++ ")."))
  let net := dec refundAmount
  raiseIf (net ≤ 0) (.validation "Net refund amount must be greater than zero.")
  forSome payment fun p => checkCap p (some refund.row.id) net fun balance =>
    "Refund amount " ++ str net ++ " exceeds available refundable balance (" ++ str balance ++ ")."
  pure (refund.set (requestedColumns net (dec cancellationFee)))

/-- The columns `processed_by` and `processed_at` of a transition. -/
def stamp (actorId : Option String) (now : Instant) (r : RefundRow) : RefundRow :=
  { r with
    processedBy := if Text.truthy actorId then actorId else r.processedBy
    processedAt := some now }

def rejectedColumns (reason actorId : Option String) (now : Instant) (r : RefundRow) : RefundRow :=
  stamp actorId now
    { r with status := .rejected, failureReason := Text.or reason (some "Refund rejected by staff") }

/-- Mark a requested refund as rejected. -/
def reject (refund : Orm RefundRow) (reason actorId : Option String) : Tx (Orm RefundRow) :=
  if refund.row.status = .completed ∨ refund.row.status = .rejected then pure refund
  else do
    raiseIf (refund.row.status ≠ .requested) (.validation ("Refund " ++ refund.row.refundNumber ++
      " cannot be rejected (" ++ refund.row.status.value ++ ")."))
    let now ← ask Env.now
    flushRefund (refund.set (rejectedColumns reason actorId now))

def approvedColumns (method : RefundMethod) (net : Fils) (notes actorId : Option String)
    (now : Instant) (r : RefundRow) : RefundRow :=
  stamp actorId now
    { r with
      status := .approved
      refundMethod := method.value
      refundedAmount := net
      requestedAmount := net + r.cancellationFee
      notes := if Text.truthy notes then notes else r.notes }

/-- Approve a requested refund with a method and an amount. The cap is not checked for loyalty
points. -/
def approve (known : Known) (refund : Orm RefundRow) (refundMethod : String) (approvedAmount : ℚ)
    (notes actorId : Option String) : Tx (Orm RefundRow) :=
  if refund.row.status = .approved then pure refund
  else do
    raiseIf (refund.row.status ≠ .requested) (.validation ("Refund " ++ refund.row.refundNumber ++
      " cannot be approved (" ++ refund.row.status.value ++ ")."))
    let net := dec approvedAmount
    raiseIf (net ≤ 0) (.validation "Approved refund amount must be greater than zero.")
    let normMethod := RefundMethod.normalise refundMethod
    let payment ← paymentOf known refund.row false
    forSome (if normMethod ≠ .loyaltyPoints then payment else none) fun p =>
      checkCap p.row (some refund.row.id) net fun balance =>
        "Approved refund amount " ++ str net ++ " exceeds available refundable balance (" ++
          str balance ++ ")."
    let now ← ask Env.now
    let refund := refund.set (approvedColumns normMethod net notes actorId now)
    let booking ← (if normMethod = .loyaltyPoints then bookingOf known refund.row else pure none)
    forSome booking fun b => discard (flushBooking (b.set (·.setPaymentStatus .refundedWithPoints)))
    flushRefund refund

def processingColumns (providerRefundId : Option String) (gatewayResponse : Option Json)
    (actorId : Option String) (now : Instant) (r : RefundRow) : RefundRow :=
  stamp actorId now
    { r with
      status := .processing
      refundType := RefundType.automated.value
      refundMethod := RefundMethod.paymentGateway.value
      gatewayRefundId := if Text.truthy providerRefundId then providerRefundId else r.gatewayRefundId
      gatewayResponse := gatewayResponse.or r.gatewayResponse }

/-- The provider has accepted the refund. -/
def markProcessing (known : Known) (refund : Orm RefundRow) (providerRefundId : Option String)
    (gatewayResponse : Option Json) (actorId : Option String) : Tx (Orm RefundRow) :=
  if refund.row.status = .completed ∨ refund.row.status = .processing then pure refund
  else do
    raiseIf (refund.row.status ≠ .requested ∧ refund.row.status ≠ .approved)
      (.validation ("Refund " ++ refund.row.refundNumber ++ " cannot be processed (" ++
        refund.row.status.value ++ ")."))
    let now ← ask Env.now
    let refund := refund.set (processingColumns providerRefundId gatewayResponse actorId now)
    let payment ← paymentOf known refund.row false
    forSome payment fun p =>
      audit p.row ("Refund " ++ refund.row.refundNumber ++ " sent to provider (ref " ++
          (Text.or providerRefundId (some "-")).getD "-" ++ ")")
        refund.row "refund_processing" actorId providerRefundId none
    flushRefund refund

def isLoyalty (refundMethod : String) : Bool :=
  Text.lower refundMethod ∈ ["loyalty_points", "loyalty", "points"]

/-- What `complete` returns, with the objects it has changed. -/
structure Completed where
  refund : Orm RefundRow
  transitioned : Bool
  payment : Option (Orm PaymentRow) := none
  booking : Option (Orm BookingRow) := none

/-- The columns `complete` sets on the refund. -/
def completedColumns (now : Instant) (providerReference : Option String)
    (gatewayResponse : Option Json) (r : RefundRow) : RefundRow :=
  let byGateway := r.refundMethod = RefundMethod.paymentGateway.value
  { r with
    status := .completed
    completedAt := some now
    failureReason := none
    gatewayRefundId := if Text.truthy providerReference ∧ byGateway then
      Text.or r.gatewayRefundId providerReference else r.gatewayRefundId
    referenceNumber := if Text.truthy providerReference ∧ ¬ byGateway then
      Text.or r.referenceNumber providerReference else r.referenceNumber
    gatewayResponse := match gatewayResponse with
      | some res => some (Json.withField r.gatewayResponse "confirmation" res)
      | none => r.gatewayResponse }

/-- The summary columns `complete` sets on the payment of a money refund. -/
def completedSummary (amountRefunded : Fils) (p : PaymentRow) : PaymentRow :=
  { p with
    amountRefunded := amountRefunded
    status := if toDecimal p.totalAmount ≤ toDecimal amountRefunded + TOLERANCE then some .refunded
      else if 0 < amountRefunded then some .partiallyRefunded else p.status }

/-- The statuses `complete` sets on the booking. -/
def completedBooking (loyalty fully hasPayment : Bool) (b : BookingRow) : BookingRow :=
  if loyalty then { b with paymentStatus := .refundedWithPoints, status := .cancelled }
  else
    { b with
      paymentStatus := if fully ∨ ¬ hasPayment then .refunded else .partiallyRefunded
      status := if b.status ≠ .cancelled then .refunded else b.status }

def refundCompletedEvent (refund : RefundRow) (payment : Option PaymentRow) (fully : Bool) :
    RefundCompletedEvent :=
  { refundId := refund.id, refundNumber := refund.refundNumber, bookingId := refund.bookingId,
    paymentId := payment.map (·.id), refundMethod := refund.refundMethod, status := refund.status,
    requestedAmount := refund.requestedAmount, cancellationFee := refund.cancellationFee,
    refundAmount := refund.refundedAmount, isFullyRefunded := fully }

/-- The check of a money refund before it is completed: the completed refunds of its payment stay
within the paid amount. -/
def checkPaidAmount (refund : RefundRow) (payment : Option (Orm PaymentRow)) : Tx Unit :=
  forSome (if isLoyalty refund.refundMethod then none else payment) fun p => do
    let done ← completedTotal p.row (some refund.id)
    raiseIf (exceeds (done + refund.refundedAmount) p.row.totalAmount)
      (.validation ("Completing refund " ++ refund.refundNumber ++ " would exceed the paid amount ("
        ++ str p.row.totalAmount ++ " " ++ p.row.currency ++ ")."))

/-- What `complete` does to the payment once the refund is completed. Returns the payment and whether
it is fully refunded. -/
def completePayment (refund : RefundRow) (source : String)
    (providerReference actorId : Option String) (payment : Option (Orm PaymentRow)) :
    Tx (Option (Orm PaymentRow) × Bool) :=
  match payment with
  | none => pure (none, false)
  | some p =>
    if isLoyalty refund.refundMethod then do
      audit p.row ("Refund " ++ refund.refundNumber ++ " completed as loyalty points (" ++
          str refund.refundedAmount ++ " pts)")
        refund source actorId none p.row.status
      pure (some p, false)
    else do
      let dbTotal ← completedTotal p.row none
      let calcTotal := p.row.amountRefunded + refund.refundedAmount
      let fee ← retainedFee p.row
      let bookingTarget := max 0 (p.row.totalAmount - max fee refund.cancellationFee)
      let total := max dbTotal calcTotal
      let p' ← flushPayment (p.set (completedSummary total))
      audit p'.row ("Refund " ++ refund.refundNumber ++ " completed: " ++ str refund.refundedAmount
          ++ " " ++ refund.currency ++ " (total refunded " ++ str total ++ "/" ++ str bookingTarget
          ++ ")")
        refund source actorId (Text.or providerReference refund.gatewayRefundId) p.row.status
      pure (some p',
        decide (0 < bookingTarget ∧ toDecimal bookingTarget ≤ toDecimal total + TOLERANCE))

/-- What `complete` does to the booking. -/
def completeBooking (loyalty fully hasPayment : Bool) (booking : Option (Orm BookingRow)) :
    Tx (Option (Orm BookingRow)) :=
  match booking with
  | none => pure none
  | some b => some <$> flushBooking (b.set (completedBooking loyalty fully hasPayment))

def publishCompletedEvent (publishEvent : Bool) (event : RefundCompletedEvent) : Tx Unit :=
  if publishEvent then emit (.refundCompleted event) else pure ()

/-- Mark a refund completed after the provider or staff has confirmed it. -/
def complete (known : Known) (refund : Orm RefundRow) (source : String)
    (providerReference : Option String) (gatewayResponse : Option Json) (actorId : Option String)
    (publishEvent : Bool) : Tx Completed :=
  if refund.row.status = .completed then pure { refund := refund, transitioned := false }
  else do
    raiseIf (refund.row.status ∉ OPEN_STATUSES) (.validation ("Refund " ++ refund.row.refundNumber ++
      " cannot be completed (" ++ refund.row.status.value ++ ")."))
    let payment ← paymentOf known refund.row true
    checkPaidAmount refund.row payment
    let now ← ask Env.now
    let refund ← flushRefund (refund.set (completedColumns now providerReference gatewayResponse))
    let booking ← bookingOf known refund.row
    let (payment, fully) ← completePayment refund.row source providerReference actorId payment
    let booking ← completeBooking (isLoyalty refund.row.refundMethod) fully payment.isSome booking
    publishCompletedEvent publishEvent
      (refundCompletedEvent refund.row (payment.map (·.row)) fully)
    pure { refund := refund, transitioned := true, payment := payment, booking := booking }

def failedColumns (reason : String) (gatewayResponse : Option Json) (r : RefundRow) : RefundRow :=
  { r with
    status := .failed
    failureReason := some reason
    gatewayResponse := match gatewayResponse with
      | some res => some (Json.withField r.gatewayResponse "failure" res)
      | none => r.gatewayResponse }

/-- The columns `fail` sets on the payment. -/
def failedSummary (total : Fils) (wasCompleted : Bool) (refundNumber : String) (p : PaymentRow) :
    PaymentRow :=
  { p with
    amountRefunded := total
    paymentData := if wasCompleted then
      some (Json.withField p.paymentData "needs_attention" (.str ("Completed refund " ++
        refundNumber ++ " was reversed by the provider.")))
      else p.paymentData }

/-- What `fail` does to the payment. Returns the recomputed total of its completed refunds. -/
def failPayment (refund : RefundRow) (reason source : String) (wasCompleted : Bool)
    (providerReference actorId : Option String) (payment : Option (Orm PaymentRow)) :
    Tx (Option Fils) :=
  match payment with
  | none => pure none
  | some p => do
    let total ← completedTotal p.row none
    let p ← flushPayment (p.set (failedSummary total wasCompleted refund.refundNumber))
    audit p.row ("Refund " ++ refund.refundNumber ++ " failed: " ++ reason) refund source actorId
      providerReference none
    pure (some total)

/-- What `fail` does to the booking of a refund that was completed. -/
def failBooking (known : Known) (refund : RefundRow) (wasCompleted : Bool) (total : Option Fils) :
    Tx Unit := do
  let booking ← (if wasCompleted then bookingOf known refund else pure none)
  forSome booking fun b => forSome total fun total =>
    discard (flushBooking (b.set
      (·.setPaymentStatus (if 0 < total then .partiallyRefunded else .success))))

/-- The provider has rejected the refund; a completed one is taken back. -/
def fail (known : Known) (refund : Orm RefundRow) (reason source : String)
    (providerReference : Option String) (gatewayResponse : Option Json) (actorId : Option String) :
    Tx (Orm RefundRow) :=
  if refund.row.status = .failed ∨ refund.row.status = .cancelled then pure refund
  else do
    let wasCompleted := decide (refund.row.status = .completed)
    let refund ← flushRefund (refund.set (failedColumns reason gatewayResponse))
    let payment ← paymentOf known refund.row true
    let total ← failPayment refund.row reason source wasCompleted providerReference actorId payment
    failBooking known refund.row wasCompleted total
    pure refund

end Payment
