import UshBookNPay.PaymentLinks.Settlement

/-!
# PaymentLinkService

Creates, renews, cancels and deletes the hosted payment links of bookings and gift vouchers. The
gateway of the service is the one every call goes to, whichever gateway has issued the link. The
registry at the end says which gateway a name stands for; what a factory makes is given by the settings.
-/

open Transactions.Prog (query queryForUpdate update checkedUpdate raiseIf ask call)

namespace PaymentLinks

/-- `OPEN_STATUSES`: the statuses in which a link can still be paid. -/
def OPEN_STATUSES : List PaymentLinkStatus := [.created, .pending, .failed]

/-- `_PAID_BOOKING_STATUSES` -/
def PAID_BOOKING_STATUSES : List Booking.PaymentStatus :=
  [.success, .refunded, .partiallyRefunded, .rewarded]

/-- `_BOOKING_LINKABLE` -/
def BOOKING_LINKABLE : List Booking.BookingStatus :=
  [.confirmed, .paymentPending, .draft, .requested, .paymentFailed, .cancelled]

/-- The service: its gateway and `PAYMENT_LINK_EXPIRY_MINUTES`. -/
structure PaymentLinkService where
  gateway : PaymentLinkGateway
  expiryMinutes : ℤ := 60

/-- The arguments of `create_link`, less the target. -/
structure LinkRequest where
  amount : Option Decimal := none
  actorId : String := ""
  invoiceId : Option String := none
  invoiceNumber : Option String := none
  forceNew : Bool := false
  expiryMinutes : Option ℤ := none

/-! ## Targets -/

/-- The canonical target type, where payment links are supported for it. -/
def supportedTarget (targetType : String) : Option PaymentLinkTarget :=
  if targetType = "booking" then some .booking
  else if targetType = "voucher" ∨ targetType = "gift_voucher" then some .giftVoucher
  else none

/-- The booking or the gift voucher a link is created for. -/
inductive LinkTarget where
  | booking (booking : Orm BookingRow)
  | voucher (voucher : Orm GiftVoucherRow)

namespace LinkTarget

def kind : LinkTarget → PaymentLinkTarget
  | .booking _ => .booking
  | .voucher _ => .giftVoucher

def id : LinkTarget → Uuid
  | .booking b => b.row.id
  | .voucher v => v.row.id

def ref : LinkTarget → Option String
  | .booking b => b.row.bookingNumber
  | .voucher v => v.row.voucherNumber

def totalAmount : LinkTarget → Fils
  | .booking b => b.row.totalAmount
  | .voucher v => v.row.totalAmount

def currency : LinkTarget → String
  | .booking b => b.row.currency
  | .voucher v => v.row.currency

def customerId : LinkTarget → Uuid
  | .booking b => b.row.customerId
  | .voucher v => v.row.senderId

end LinkTarget

/-- `_load_booking` -/
def loadBooking (bookingId : Uuid) : Tx (Orm BookingRow) := do
  let row ← queryForUpdate (fun _ => [.row "bookings" bookingId])
    fun d => Table.get d.bookings bookingId
  match row with
  | none => throw (.notFound "Booking not found.")
  | some b => do
    raiseIf (b.status ∉ BOOKING_LINKABLE) (.validation
      ("A payment link cannot be created for a booking in '" ++ b.status.value ++ "' status."))
    raiseIf (b.status ≠ .cancelled ∧ b.paymentStatus ∈ PAID_BOOKING_STATUSES)
      (.validation "This booking is already paid.")
    pure (.ofRow b)

/-- `_load_voucher` -/
def loadVoucher (voucherId : Uuid) : Tx (Orm GiftVoucherRow) := do
  let row ← queryForUpdate (fun _ => [.row "gift_vouchers" voucherId])
    fun d => Table.get d.giftVouchers voucherId
  match row with
  | none => throw (.notFound "Gift voucher not found.")
  | some v => do
    raiseIf (v.status ≠ .created ∧ v.status ≠ .paymentPending) (.validation
      ("A payment link can only be created for unpaid vouchers (current: " ++ v.status.value ++ ")."))
    pure (.ofRow v)

def loadTarget (targetType : String) (targetId : Uuid) : Tx LinkTarget :=
  match supportedTarget targetType with
  | some .booking => LinkTarget.booking <$> loadBooking targetId
  | some .giftVoucher => LinkTarget.voucher <$> loadVoucher targetId
  | _ => throw (.validation
      ("Payment links are not supported for '" ++ targetType ++ "' yet."))

/-! ## Amounts -/

/-- The amount of the refund the payment data of a cancelled booking states. Where the booking has no
payment data the code reads `payments_data`, a column bookings do not have. -/
def statedRefund (data : Option Json) : Except Error (Option Decimal) :=
  match data with
  | none => .error (.attributeError "payments_data")
  | some data =>
    if ¬ data.truthy then .error (.attributeError "payments_data")
    else
      let stated := match data.field? "refund_amount" with
        | some a => if a.truthy then some a else data.field? "refunded_amount"
        | none => data.field? "refunded_amount"
      match stated with
      | none => .ok none
      | some .null => .ok none
      | some a => match parseDecimal a.text with
        | some x => .ok (some x)
        | none => .error .invalidOperation

/-- The amount of a new link: the requested one, or that of the target. -/
def resolveAmount (target : LinkTarget) (amount : Option Decimal) : Except Error Decimal :=
  match amount, target with
  | some a, _ => .ok a
  | none, .booking b =>
    if b.row.status = .cancelled then
      (statedRefund b.row.paymentData).map fun stated => stated.getD (.ofFils b.row.totalAmount)
    else .ok (.ofFils b.row.totalAmount)
  | none, .voucher v => .ok (.ofFils v.row.totalAmount)

/-! ## The open link of the target -/

/-- `is_expired` -/
def isExpired (link : PaymentLinkRow) (now : Instant) : Prop := ∃ e ∈ link.expiresAt, e ≤ now

instance (link : PaymentLinkRow) (now : Instant) : Decidable (isExpired link now) :=
  inferInstanceAs (Decidable (∃ e ∈ link.expiresAt, e ≤ now))

/-- The link is an open link of the target. -/
def isOpenFor (targetType : PaymentLinkTarget) (targetId : Uuid) (l : PaymentLinkRow) : Bool :=
  l.targetType = targetType ∧ l.targetId = targetId ∧ l.status ∈ OPEN_STATUSES

/-- `_find_open_link`: the newest one -/
def findOpenLink (targetType : PaymentLinkTarget) (targetId : Uuid) : Tx (Option PaymentLinkRow) :=
  lockedNewestLink (isOpenFor targetType targetId)

/-- An active link of another gateway is not replaced. -/
def blocks (s : PaymentLinkService) (link : PaymentLinkRow) (now : Instant) : Prop :=
  link.gateway ≠ s.gateway.name ∧ (link.status = .created ∨ link.status = .pending) ∧
    Text.truthy link.paymentUrl ∧ ¬ isExpired link now

instance (s : PaymentLinkService) (link : PaymentLinkRow) (now : Instant) :
    Decidable (blocks s link now) :=
  inferInstanceAs (Decidable (_ ∧ _))

def activeLinkExists (link : PaymentLinkRow) : String :=
  "An active " ++ link.providerLabel ++ " payment link already exists for this " ++
    Text.replaceChar '_' ' ' link.targetType.value ++
    ". Cancel it or wait until it expires before creating a new payment link."

def reusable (s : PaymentLinkService) (amount : Decimal) (link : PaymentLinkRow) (now : Instant) :
    Prop :=
  Text.truthy link.paymentUrl ∧ ¬ isExpired link now ∧ link.gateway = s.gateway.name ∧
    toDecimal link.amount = amount.value

instance (s : PaymentLinkService) (amount : Decimal) (link : PaymentLinkRow) (now : Instant) :
    Decidable (reusable s amount link now) :=
  inferInstanceAs (Decidable (_ ∧ _))

/-- What a `cancel_link` call does at the gateway. -/
def cancellation (gateway gatewayInvoiceId : String) : Except String Unit → List Emission
  | .ok _ => [.cancelLink gateway gatewayInvoiceId]
  | .error _ => []

/-- Ask the gateway of the service to cancel an invoice. What it raises is logged and ignored. -/
def cancelAtGateway (s : PaymentLinkService) (gatewayInvoiceId : Option String) : Tx Unit :=
  if Text.truthy gatewayInvoiceId then
    call (fun env => cancellation s.gateway.name (Text.orEmpty gatewayInvoiceId) env.cancel)
      fun _ => ()
  else pure ()

def deleteRow (link : PaymentLinkRow) : Tx Unit :=
  update [.row "payment_links" link.id]
    fun d => { d with paymentLinks := Table.erase d.paymentLinks link.id }

/-- The open link is returned where it can be used again, else it is cancelled and deleted. -/
def replaceOpenLink (s : PaymentLinkService) (amount : Decimal) (forceNew : Bool) :
    Option PaymentLinkRow → Tx (Option PaymentLinkRow)
  | none => pure none
  | some link => do
    let now ← ask Env.now
    raiseIf (blocks s link now) (.conflict (activeLinkExists link))
    if reusable s amount link now ∧ ¬ forceNew then pure (some link)
    else do
      cancelAtGateway s link.gatewayInvoiceId
      deleteRow link
      pure none

/-! ## The invoice of accounting -/

/-- A blank text counts as not given. -/
def notBlank (text : Option String) : Option String :=
  text.bind fun t => if Text.strip t = "" then none else some t

/-- The invoice a new link names, and the number the booking is given. -/
structure LinkInvoice where
  invoiceId : Option String
  invoiceNumber : Option String
  assigned : Option String := none

/-- `_resolve_invoice`: from the request, the booking or accounting -/
def resolveInvoice (target : LinkTarget) (invoiceId invoiceNumber : Option String) :
    Tx LinkInvoice :=
  match target with
  | .voucher _ => pure { invoiceId := invoiceId, invoiceNumber := invoiceNumber }
  | .booking b => do
    let number := Text.or invoiceNumber b.row.invoiceNumber
    if Text.truthy invoiceId ∧ Text.truthy number then
      pure { invoiceId := invoiceId, invoiceNumber := number }
    else do
      let found ← ask Env.invoice
      match found with
      | none => pure { invoiceId := invoiceId, invoiceNumber := number }
      | some (id, name) =>
        if name = "" then pure { invoiceId := invoiceId, invoiceNumber := number }
        else
          pure { invoiceId := Text.or invoiceId (if Text.truthy id then id else none)
                 invoiceNumber := Text.or number (some name)
                 assigned := if Text.truthy b.row.invoiceNumber then none else some name }

/-- Write the invoice number the booking was given. -/
def writeInvoiceNumber (target : LinkTarget) (assigned : Option String) : Tx LinkTarget :=
  match target, assigned with
  | .booking b, some number =>
    LinkTarget.booking <$> flushBooking (b.set fun r => { r with invoiceNumber := some number })
  | target, _ => pure target

/-! ## create_link -/

/-- Whether an amount fits a column `Numeric(12, 3)`. -/
def fitsLinkAmount (x : Fils) : Bool := |x| < 10 ^ 12

/-- What the database has against an insert of the link. -/
def linkConflict (d : Db) (l : PaymentLinkRow) : Option Error :=
  if (Table.get d.paymentLinks l.id).isSome then some (.integrity "payment_links_pkey")
  else if l.linkNumber ≠ none ∧ d.paymentLinks.any (·.linkNumber = l.linkNumber) then
    some (.integrity "payment_links_link_number_key")
  else if fitsLinkAmount l.amount then none
  else some .numericOverflow

def insertLink (l : PaymentLinkRow) : Tx Unit :=
  checkedUpdate (linkConflict · l)
    ([.row "payment_links" l.id] ++ (l.linkNumber.map (LockKey.index "link_number")).toList)
    fun d => { d with paymentLinks := d.paymentLinks ++ [l] }

/-- The row of a new link. -/
def newLink (s : PaymentLinkService) (target : LinkTarget) (amount : Decimal) (req : LinkRequest)
    (invoice : LinkInvoice) (now : Instant) (id : Uuid) (number : String) : PaymentLinkRow :=
  let minutes := match req.expiryMinutes with
    | some m => if m ≠ 0 then m else s.expiryMinutes
    | none => s.expiryMinutes
  { id := id
    linkNumber := some number
    targetType := target.kind
    targetId := target.id
    targetRef := target.ref
    invoiceId := invoice.invoiceId
    invoiceNumber := invoice.invoiceNumber
    gateway := s.gateway.name
    providerLabel := s.gateway.providerLabel
    amount := amount.toFils
    currency := if target.currency = "" then "KWD" else target.currency
    status := .created
    customerId := some target.customerId
    createdBy := some req.actorId
    expiresAt := some (now + minutes * 60000000) }

/-- The invoice the gateway issues for a new link. -/
def issuedInvoice (link : PaymentLinkRow) (amount : Decimal) (result : PaymentLinkResult) :
    IssuedInvoice :=
  { gateway := link.gateway, gatewayInvoiceId := result.gatewayInvoiceId, linkId := link.id,
    targetType := link.targetType, targetId := link.targetId, amount := amount,
    currency := link.currency, expiresAt := link.expiresAt.getD 0 }

/-- What a `create_link` call does at the gateway. -/
def issue (link : PaymentLinkRow) (amount : Decimal) :
    Except String PaymentLinkResult → List Emission
  | .ok result => [.createLink (issuedInvoice link amount result)]
  | .error _ => []

/-- The columns of a link the gateway has refused to create. -/
def refusedColumns (exc : String) (now : Instant) (link : PaymentLinkRow) : PaymentLinkRow :=
  { link with
    status := .failed
    failureData := some (.obj [("stage", .str "create_link"), ("error", .str exc),
      ("code", .str "PaymentProviderError"), ("at", .str (isoformat now))]) }

/-- The columns of a link the gateway has created. -/
def issuedColumns (result : PaymentLinkResult) (link : PaymentLinkRow) : PaymentLinkRow :=
  { link with
    gatewayInvoiceId := some result.gatewayInvoiceId
    paymentUrl := some result.paymentUrl
    status := .pending }

/-- The columns `_attach_link_to_target` sets on a booking. -/
def attachedBooking (link : PaymentLinkRow) (b : BookingRow) : BookingRow :=
  { b with
    paymentUrl := link.paymentUrl
    paymentProvider := some link.providerLabel
    paymentProviderGroup := providerGroupFor link.gateway
    paymentSource := some link.gateway
    paymentLinkId := some link.id }

def attachedVoucher (link : PaymentLinkRow) (v : GiftVoucherRow) : GiftVoucherRow :=
  { v with paymentUrl := link.paymentUrl, paymentProvider := some link.providerLabel }

/-- `_attach_link_to_target`, and the flush that follows -/
def attachLink (target : LinkTarget) (link : PaymentLinkRow) (actorId : String) : Tx Unit :=
  match target with
  | .booking b => discard (flushBooking (b.set (attachedBooking link)))
  | .voucher v =>
    let v := v.set (attachedVoucher link)
    if v.row.status = .created then
      discard (Voucher.updateStatus (some v) v.row.id .paymentPending
        { paymentUrl := link.paymentUrl
          paymentProvider := some link.providerLabel
          actorId := some actorId })
    else discard (flushVoucher v)

/-- Insert a link and have the gateway create it. A refusal of the gateway is committed with the link
before it is raised; here it is returned. -/
def issueLink (s : PaymentLinkService) (target : LinkTarget) (amount : Decimal)
    (req : LinkRequest) : Tx (Except Error PaymentLinkRow) := do
  let invoice ← resolveInvoice target (notBlank req.invoiceId) (notBlank req.invoiceNumber)
  let now ← ask Env.now
  let id ← ask Env.uuid
  let number ← ask Env.linkNumber
  let link := newLink s target amount req invoice now id number
  insertLink link
  let target ← writeInvoiceNumber target invoice.assigned
  let result ← call (fun env => issue link amount env.link) Env.link
  match result with
  | .error exc => do
    let now ← ask Env.now
    discard (flushLink ((Orm.ofRow link).set (refusedColumns exc now)))
    pure (.error (.paymentProvider exc))
  | .ok result => do
    let link ← flushLink ((Orm.ofRow link).set (issuedColumns result))
    attachLink target link.row req.actorId
    pure (.ok link.row)

/-- `create_link`. An exception raised after a commit is returned, any other raised. -/
def createLink (s : PaymentLinkService) (targetType : String) (targetId : Uuid)
    (req : LinkRequest) : Tx (Except Error PaymentLinkRow) := do
  let target ← loadTarget targetType targetId
  match resolveAmount target req.amount with
  | .error exc => throw exc
  | .ok amount => do
    raiseIf (amount.unscaled ≤ 0) (.validation "Cannot create a payment link for a zero amount.")
    let existing ← findOpenLink target.kind targetId
    let reused ← replaceOpenLink s amount req.forceNew existing
    match reused with
    | some link => pure (.ok link)
    | none => issueLink s target amount req

/-! ## Renew, sync, cancel, delete -/

/-- `get_link` -/
def getLink (linkId : Uuid) : Tx PaymentLinkRow :=
  load "Payment link not found." fun d => Table.get d.paymentLinks linkId

/-- A link that has run out, by its status or by its time, can be renewed. -/
def renewable (link : PaymentLinkRow) (now : Instant) : Prop :=
  link.status = .expired ∨ link.status = .cancelled ∨ link.status = .failed ∨ isExpired link now

instance (link : PaymentLinkRow) (now : Instant) : Decidable (renewable link now) :=
  inferInstanceAs (Decidable (_ ∨ _))

/-- What `renew_link` asks `create_link` for. -/
def renewalRequest (old : PaymentLinkRow) (actorId : String) (expiryMinutes : Option ℤ) :
    LinkRequest :=
  { amount := some (.ofFils old.amount)
    actorId := actorId
    invoiceId := old.invoiceId
    invoiceNumber := old.invoiceNumber
    forceNew := true
    expiryMinutes := expiryMinutes }

/-- `renew_link` -/
def renewLink (s : PaymentLinkService) (linkId : Uuid) (actorId : String)
    (expiryMinutes : Option ℤ) : Tx (Except Error PaymentLinkRow) := do
  let old ← getLink linkId
  raiseIf (old.status ∈ SETTLED)
    (.validation "This payment link is already paid and cannot be renewed.")
  let now ← ask Env.now
  raiseIf (¬ renewable old now)
    (.validation "This payment link is still active and does not need to be renewed.")
  createLink s old.targetType.value old.targetId (renewalRequest old actorId expiryMinutes)

/-- `sync_status` -/
def syncStatus (s : PaymentLinkService) (linkId : Uuid) : Tx PaymentLinkRow := do
  let row ← getLockedLink linkId
  match row with
  | none => throw (.notFound "Payment link not found.")
  | some link =>
    if link.status ∉ OPEN_STATUSES ∨ ¬ Text.truthy link.gatewayInvoiceId then pure link
    else do
      let key := Text.orEmpty link.gatewayInvoiceId
      let state ← call (fun env => match env.state with
        | .ok state => [.paymentState s.gateway.name key state]
        | .error _ => []) Env.state
      match state with
      | .error exc => throw (.paymentProvider exc)
      | .ok state => do
        let (_, link) ← apply (.ofRow link) state "manual_sync"
        let link ← flushLink link
        pure link.row

/-- `_mark_cancelled` -/
def cancelledColumns (reason : String) (now : Instant) (link : PaymentLinkRow) : PaymentLinkRow :=
  { link with
    status := .cancelled
    metaData := some (Json.withFields link.metaData
      [("cancel_reason", .str reason), ("cancelled_at", .str (isoformat now))]) }

/-- `cancel_link` -/
def cancelLink (s : PaymentLinkService) (linkId : Uuid) : Tx PaymentLinkRow := do
  let link ← getLink linkId
  raiseIf (link.status ∉ OPEN_STATUSES) (.validation
    ("Only unpaid links can be cancelled (current status: " ++ link.status.value ++ ")."))
  cancelAtGateway s link.gatewayInvoiceId
  let now ← ask Env.now
  let link ← flushLink
    ((Orm.ofRow link).set (cancelledColumns "Payment link cancelled by staff" now))
  pure link.row

def clearPaymentUrl (b : BookingRow) : BookingRow := { b with paymentUrl := none }

/-- `delete_link` -/
def deleteLink (s : PaymentLinkService) (linkId : Uuid) : Tx Unit := do
  let link ← getLink linkId
  cancelAtGateway s link.gatewayInvoiceId
  if link.targetType = .booking then do
    let booking ← queryForUpdate (fun _ => [.row "bookings" link.targetId])
      fun d => Table.get d.bookings link.targetId
    match booking with
    | some b =>
      if b.paymentUrl = link.paymentUrl then
        discard (flushBooking ((Orm.ofRow b).set clearPaymentUrl))
    | none => pure ()
  deleteRow link

/-! ## cancel_and_delete_links_for_target -/

/-- The texts a JSON value lists; `list` raises on what is not iterable. -/
def listed (data : Option Json) : Except Error (List Json) :=
  match data with
  | none => .ok []
  | some (.arr items) => .ok items
  | some (.obj fields) => .ok (fields.map fun kv => .str kv.1)
  | some (.str s) => .ok (s.toList.map fun c => .str (String.singleton c))
  | some _ => .error .typeError

/-- Add a text that is not listed yet. -/
def addListed (items : List Json) (text : String) : List Json :=
  if .str text ∈ items then items else items ++ [.str text]

/-- The invoice the payment data of a booking names. -/
def namedInvoice (data : Option Json) : Option String :=
  let data := data.getD .null
  let named := match data.field? "gateway_invoice_id" with
    | some j => if j.truthy then some j else data.field? "invoice_id"
    | none => data.field? "invoice_id"
  (named.filter Json.truthy).map Json.text

/-- The columns of a booking whose links have been cancelled. -/
def linksCancelled (invoices : List Json) (now : Instant) (b : BookingRow) : BookingRow :=
  { b with
    paymentUrl := none
    paymentData := some (Json.withFields b.paymentData
      [("cancelled_invoice_ids", .arr invoices),
        ("payment_link_cancelled_at", .str (isoformat now))]) }

/-- Cancel and delete one link after the other. -/
def cancelAndDelete (s : PaymentLinkService) : List PaymentLinkRow → Tx Unit
  | [] => pure ()
  | link :: links => do
    cancelAtGateway s link.gatewayInvoiceId
    deleteRow link
    cancelAndDelete s links

/-- `cancel_and_delete_links_for_target`: the links, then the bookkeeping of the booking -/
def cancelAndDeleteLinksForTarget (s : PaymentLinkService) (targetType : PaymentLinkTarget)
    (targetId : Uuid) : Tx ℕ := do
  let ofTarget := fun l : PaymentLinkRow => l.targetType = targetType ∧ l.targetId = targetId
  let links ← queryForUpdate
    (fun d => (d.paymentLinks.filter (ofTarget ·)).map fun l => LockKey.row "payment_links" l.id)
    fun d => d.paymentLinks.filter (ofTarget ·)
  cancelAndDelete s links
  if targetType = .booking then do
    let booking ← queryForUpdate (fun _ => [.row "bookings" targetId])
      fun d => Table.get d.bookings targetId
    match booking with
    | none => pure ()
    | some b =>
      match listed (b.paymentData.bind (·.field? "cancelled_invoice_ids")) with
      | .error exc => throw exc
      | .ok listed => do
        let invoices := (present (links.map (·.gatewayInvoiceId))).foldl addListed listed
        let named := namedInvoice b.paymentData
        let unlisted := named.filter fun inv => .str inv ∉ invoices
        cancelAtGateway s unlisted
        let invoices := (unlisted.toList).foldl addListed invoices
        let now ← ask Env.now
        discard (flushBooking ((Orm.ofRow b).set (linksCancelled invoices now)))
  pure links.length

/-! ## The registry of the gateways -/

/-- The settings a service for payment links is made of: `PAYMENT_LINK_DEFAULT_GATEWAY`, the adapter each
factory makes and `PAYMENT_LINK_EXPIRY_MINUTES`. -/
structure LinkSettings where
  defaultGateway : String := "myfatoorah"
  adapter : String → PaymentLinkGateway
  expiryMinutes : ℤ := 60

/-- The text without a character. -/
def without (c : Char) (s : String) : String := String.ofList (s.toList.filter (· ≠ c))

/-- `resolve_gateway_name`: the registered name a stored provider label stands for. -/
def resolveGatewayName (provider : Option String) (default : String) : String :=
  let key := without ' ' (Text.lower (Text.strip (Text.orEmpty (Text.or provider (some default)))))
  match FACTORIES.find? fun name => without '_' name = without '_' key with
  | some name => name
  | none => (FACTORIES.find? fun name => Text.isIn name key || Text.isIn key name).getD
      (Text.lower (Text.strip default))

/-- `get_gateway` -/
def getGateway (settings : LinkSettings) (name : String) : Tx PaymentLinkGateway :=
  if isGateway name then pure (settings.adapter (Text.lower (Text.strip name)))
  else throw (.validation ("Unsupported payment gateway '" ++ name ++ "'."))

end PaymentLinks
