import UshBookNPay.Payment.Models

/-!
# Gift vouchers

The rows of the voucher domain and the state machine of a gift voucher.
-/

namespace Voucher

inductive GiftVoucherStatus where
  | created | paymentPending | scheduled | active | partiallyRedeemed | redeemed | fulfilled
  | expired | cancelled
  deriving DecidableEq, Repr

def GiftVoucherStatus.value : GiftVoucherStatus → String
  | .created => "created"
  | .paymentPending => "payment_pending"
  | .scheduled => "scheduled"
  | .active => "active"
  | .partiallyRedeemed => "partially_redeemed"
  | .redeemed => "redeemed"
  | .fulfilled => "fulfilled"
  | .expired => "expired"
  | .cancelled => "cancelled"

/-- The statuses a voucher can go to. -/
def TRANSITIONS : GiftVoucherStatus → List GiftVoucherStatus
  | .created => [.paymentPending, .active, .scheduled, .cancelled]
  | .paymentPending => [.active, .scheduled, .paymentPending, .cancelled]
  | .scheduled => [.scheduled, .active, .cancelled]
  | .active => [.partiallyRedeemed, .redeemed, .expired, .cancelled]
  | .partiallyRedeemed => [.partiallyRedeemed, .redeemed, .expired, .cancelled]
  | .redeemed => [.fulfilled]
  | .fulfilled => []
  | .expired => []
  | .cancelled => []

/-- `validate_transition`: the same status again is always allowed. -/
def validTransition (current new : GiftVoucherStatus) : Prop :=
  current = new ∨ new ∈ TRANSITIONS current

instance (current new : GiftVoucherStatus) : Decidable (validTransition current new) :=
  inferInstanceAs (Decidable (_ ∨ _))

/-- A list as Python prints it. -/
def reprList (items : List String) : String :=
  "[" ++ Text.join ", " (items.map fun s => "'" ++ s ++ "'") ++ "]"

def transitionError (current new : GiftVoucherStatus) : String :=
  let allowed := (TRANSITIONS current).map (·.value)
  "Invalid gift voucher status transition: '" ++ current.value ++ "' → '" ++ new.value ++
    "'. Allowed: " ++ (if allowed = [] then "none (terminal state)"
      else reprList (allowed.mergeSort (· ≤ ·))) ++ "."

inductive VoucherDeliveryMode where
  | onActivation | scheduled
  deriving DecidableEq, Repr

/-- `VoucherDeliveryMode.normalise` -/
def VoucherDeliveryMode.normalise (val : Option String) : VoucherDeliveryMode :=
  let cleaned := Text.lower (Text.strip (val.getD ""))
  if Text.replaceChar ' ' '_' (Text.replaceChar '-' '_' cleaned) = "scheduled" then .scheduled
  else .onActivation

/-- `VoucherPaymentProvider.normalise` -/
def normalisePaymentProvider (val : String) : Option String :=
  if Text.strip val = "" then none
  else match PaymentAttribution.normaliseProvider (some val) with
    | some canonical => some canonical
    | none => if Text.lower (Text.strip val) = "other" then some "other" else some (Text.strip val)

/-- `VoucherPaymentThrough.normalise` -/
def normalisePaymentThrough (val : String) : Option String :=
  if Text.strip val = "" then none
  else (PaymentAttribution.normaliseThrough (some val)).or (some (Text.strip val))

/-- The delivery of a physical gift. -/
inductive DeliveryStatus where
  | ordered | readyToGo | onTheWay | delivered | received
  deriving DecidableEq, Repr

/-- One gifted service of a voucher. -/
structure GiftedService where
  serviceId : Option String
  serviceData : Json := .obj []
  addons : List Json := []
  extraTime : ℤ := 0
  priceForExtraTime : Option String := none
  position : ℕ := 0
  deriving DecidableEq

/-- A service used by a redemption. -/
structure UsedService where
  serviceId : String
  serviceName : Json := .null
  addonIds : List String := []
  extraTime : ℤ := 0
  deriving DecidableEq

/-- The record of a redemption. -/
structure Redemption where
  bookingId : Option String := none
  bookingNumber : Json := .null
  redeemedAt : Instant
  redeemedBy : Option String := none
  services : List UsedService
  deriving DecidableEq

/-- An entry of `update_history` that `update_status` writes. -/
structure StatusUpdate where
  timestamp : Instant
  changedBy : String
  oldStatus : GiftVoucherStatus
  newStatus : GiftVoucherStatus
  deriving DecidableEq

end Voucher

/-- A row of `gift_vouchers`. -/
structure GiftVoucherRow where
  id : Uuid
  voucherNumber : Option String := none
  senderId : Uuid
  status : Voucher.GiftVoucherStatus := .created
  totalAmount : Fils
  currency : String := "KWD"
  paymentId : Option String := none
  paymentData : Option Json := none
  paymentUrl : Option String := none
  paymentProvider : Option String := none
  paymentThrough : Option String := none
  deliveryMode : Voucher.VoucherDeliveryMode := .onActivation
  scheduledDeliveryAt : Option Instant := none
  deliveryScheduleName : Option String := none
  deliveryScheduleArn : Option String := none
  deliveredAt : Option Instant := none
  deliveryResult : Option Json := none
  rescheduleCount : ℤ := 0
  expireDate : Instant := 0
  services : List Voucher.GiftedService := []
  redemptions : List Voucher.Redemption := []
  serviceId : Option Uuid := none
  serviceData : Option Json := none
  addons : List Json := []
  extraTime : ℤ := 0
  priceForExtraTime : Option String := none
  totalDuration : ℤ := 0
  giftCategory : String := "service"
  deliveryStatus : Option Voucher.DeliveryStatus := none
  secretCode : Option String := none
  redeemedAt : Option Instant := none
  redeemedBookingId : Option Uuid := none
  redeemedBy : Option Uuid := none
  bookingId : Option Uuid := none
  bookingData : Option Json := none
  updateHistory : List Voucher.StatusUpdate := []
  deriving DecidableEq

instance : Table.Keyed GiftVoucherRow := ⟨GiftVoucherRow.id⟩

def GiftVoucherRow.setAttribution (v : GiftVoucherRow) (a : PaymentAttribution.Attribution) :
    GiftVoucherRow :=
  { v with paymentThrough := a.paymentThrough, paymentProvider := a.paymentProvider }

@[simp] theorem GiftVoucherRow.setAttribution_id (v : GiftVoucherRow)
    (a : PaymentAttribution.Attribution) : (v.setAttribution a).id = v.id := rfl

@[simp] theorem GiftVoucherRow.setAttribution_status (v : GiftVoucherRow)
    (a : PaymentAttribution.Attribution) : (v.setAttribution a).status = v.status := rfl

/-- The attribution of a gift voucher, which has neither a method nor a gateway column. -/
def GiftVoucherRow.attribution (v : GiftVoucherRow) : PaymentAttribution.Attribution :=
  { paymentThrough := PaymentAttribution.normaliseThrough v.paymentThrough
    paymentProvider := PaymentAttribution.resolveProvider { paymentProvider := v.paymentProvider } }
