import UshBookNPay.Core.Database

/-!
# The environment of a transaction

What the code asks of the world outside the database, what it does there, and the programs it is made
of.
-/

open Transactions (Prog)
open Transactions.Prog (query)

/-- What the environment answers to a statement. -/
structure Env where
  /-- `datetime.now` -/
  now : Instant := 0
  /-- the year and month of `now`, as `%Y/%m` -/
  month : String := "2026/10"
  /-- `uuid.uuid4` -/
  uuid : Uuid := 0
  /-- the answer of `refund_payment`: an exception, or a response -/
  refund : Except String Payment.RefundResponse := .error ""
  /-- the answer of `get_payment_state`: an exception, or the state of the payment -/
  state : Except String PaymentLinks.GatewayPaymentState := .error ""
  /-- the answer of the gateway's `create_link` -/
  link : Except String PaymentLinks.PaymentLinkResult := .error ""
  /-- the answer of the gateway's `cancel_link` -/
  cancel : Except String Unit := .error ""
  /-- the number of a new payment link -/
  linkNumber : String := ""
  /-- the schedule `create_voucher_schedule` has made, its name and its ARN -/
  schedule : Option (String × String) := none
  /-- the id and the name of the invoice accounting has for a booking -/
  invoice : Option (Option String × String) := none
  /-- the SHA-256 of the body of the webhook at hand -/
  digest : String := ""
  /-- the webhook at hand is older than the maximal age -/
  stale : Bool := false

instance : Nonempty Env := ⟨{}⟩

/-! ## Events and calls -/

/-- The event `booking.refund_completed`, less the customer and branch texts it carries. -/
structure RefundCompletedEvent where
  refundId : Uuid
  refundNumber : String
  bookingId : Option Uuid
  paymentId : Option Uuid
  refundMethod : String
  status : Payment.RefundStatus
  requestedAmount : Fils
  cancellationFee : Fils
  refundAmount : Fils
  isFullyRefunded : Bool
  deriving DecidableEq

/-- The event `payment_link.paid`, less the snapshot of the booking. -/
structure PaymentLinkPaidEvent where
  paymentLinkId : Uuid
  targetType : PaymentLinks.PaymentLinkTarget
  targetId : Uuid
  bookingId : Uuid
  invoiceId : Option String
  invoiceNumber : Option String
  gateway : String
  provider : String
  gatewayInvoiceId : String
  gatewayPaymentId : String
  transactionId : String
  trackId : String
  referenceId : String
  paymentMethod : String
  amount : Fils
  currency : String
  paidAt : Instant
  deriving DecidableEq

/-- The event `payment_link.failed`. -/
structure PaymentLinkFailedEvent where
  paymentLinkId : Uuid
  targetType : PaymentLinks.PaymentLinkTarget
  targetId : Uuid
  bookingId : Uuid
  invoiceId : Option String
  invoiceNumber : Option String
  gateway : String
  provider : String
  gatewayInvoiceId : String
  paymentMethod : String
  amount : Fils
  currency : String
  failureReason : String
  deriving DecidableEq

/-- An invoice a gateway has issued for a payment link, and the target of the link. -/
structure IssuedInvoice where
  gateway : String
  gatewayInvoiceId : String
  linkId : Uuid
  targetType : PaymentLinks.PaymentLinkTarget
  targetId : Uuid
  amount : Decimal
  currency : String
  expiresAt : Instant
  deriving DecidableEq

/-- What the code does outside the database. -/
inductive Emission where
  /-- an accepted `provider.refund_payment` call for a refund -/
  | refundPayment (provider : Payment.Provider) (providerPaymentId : String) (refundId : Uuid)
      (amount : Fils)
  | refundCompleted (event : RefundCompletedEvent)
  | refundApproved (refundId : Uuid) (refundMethod : String) (approvedAmount : Fils)
  /-- the credit note asked of the invoicing service -/
  | creditNote (bookingId : Uuid) (refundNumber refundMethod : String)
      (refundAmount cancellationFee : Fils)
  /-- an answered `get_payment_state` call -/
  | paymentState (gateway key : String) (state : PaymentLinks.GatewayPaymentState)
  /-- an accepted `refund_payment` call for a payment that came through a link -/
  | linkRefund (gateway providerPaymentId : String) (amount : Decimal) (currency : String)
  /-- an answered `create_link` call -/
  | createLink (invoice : IssuedInvoice)
  /-- an accepted `cancel_link` call -/
  | cancelLink (gateway gatewayInvoiceId : String)
  | paymentLinkPaid (event : PaymentLinkPaidEvent)
  | paymentLinkFailed (event : PaymentLinkFailedEvent)
  | voucherStatus (voucherId : Uuid) (status : Voucher.GiftVoucherStatus)
  | bookingConfirmed (bookingId : Uuid)
  /-- the event `booking.cancelled`, which says whether a refund is required, and the refund it names -/
  | bookingCancelled (bookingId : Uuid) (refundRequired : Bool) (refundId : Option Uuid)
  /-- the payment of an invoice that accounting is told about -/
  | invoicePaid (invoiceNumber : String) (amountPaid : Fils) (paymentId : Uuid)
  deriving DecidableEq

/-- The refund and the amount of an accepted provider call. -/
def Emission.accepted : Emission → Option (Uuid × Fils)
  | .refundPayment _ _ refundId amount => some (refundId, amount)
  | _ => none

/-- An emission that sends no money for a refund. -/
def Emission.void (e : Emission) : Bool := e.accepted.isNone

/-- What a call emits: nothing unless the provider has accepted it. -/
def emitted (e : Emission) : Except String Payment.RefundResponse → List Emission
  | .ok res => if res.isSuccessful then [e] else []
  | .error _ => []

/-! ## Programs -/

/-- A program of the application. -/
abbrev Tx := Prog Db LockKey Emission Env Error

/-- A row the code asks for, or `NotFoundError`. -/
def load {R : Type} (message : String) (get : Db → Option R) : Tx R := do
  let row ← query get
  match row with
  | some r => pure r
  | none => throw (.notFound message)

/-- `scalar_one_or_none` -/
def scalarOneOrNone {R : Type} : List R → Tx (Option R)
  | [] => pure none
  | [r] => pure (some r)
  | _ => throw .multipleResults

/-- The exceptions a transaction survives: a statement the database has refused aborts it. -/
def survivable : Error → Bool
  | .integrity _ => false
  | .numericOverflow => false
  | _ => true

/-- `try … except`, of the exceptions `caught`: what is raised is returned. -/
def attempt {α : Type} (caught : Error → Bool) (p : Tx α) : Tx (Except Error α) :=
  tryCatchThe Error (Except.ok <$> p) fun e => if caught e then pure (.error e) else throw e

/-! ## Document numbers -/

/-- The sequence number at the end of a document number, 0 where there is none. -/
def extractSequence (existing : Option String) : ℕ :=
  match existing with
  | none => 0
  | some val =>
    let last := ((Text.strip val).toList.reverse.takeWhile (· ≠ '/')).reverse
    if last ≠ [] ∧ last.all Char.isDigit then
      last.foldl (fun n c => n * 10 + (c.toNat - '0'.toNat)) 0
    else 0

/-- `max` of a text column. -/
def maxText (values : List String) : Option String :=
  values.foldl (fun acc v => match acc with
    | some m => some (if m < v then v else m)
    | none => some v) none

/-- The next document number of a month, after the greatest of `existing`. -/
def nextNumber (datePrefix : String) (existing : List String) : String :=
  datePrefix ++ pad 6 (extractSequence (maxText (existing.filter (Text.startsWith datePrefix))) + 1)
