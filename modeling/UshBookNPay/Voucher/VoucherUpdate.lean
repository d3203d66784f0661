import UshBookNPay.Lib.Runs
import UshBookNPay.Voucher.ServicesSnapshot
import UshBookNPay.Voucher.VoucherService

/-!
# Updating a gift voucher

`update_voucher`, which records redemptions, moves the status and the delivery along their state
machines and replaces the gifted services, and its runs with `update_status`.
-/

open Transactions.Prog (query raiseIf ask)

namespace Voucher

/-! ## Statuses -/

/-- `GiftVoucherStatus(text)` -/
def parseStatus (text : String) : Except Error GiftVoucherStatus :=
  match [GiftVoucherStatus.created, .paymentPending, .scheduled, .active, .partiallyRedeemed,
      .redeemed, .fulfilled, .expired, .cancelled].find? (·.value = text) with
  | some status => .ok status
  | none => .error (.validation ("'" ++ text ++ "' is not a valid GiftVoucherStatus"))

def DeliveryStatus.value : DeliveryStatus → String
  | .ordered => "ordered"
  | .readyToGo => "ready_to_go"
  | .onTheWay => "on_the_way"
  | .delivered => "delivered"
  | .received => "received"

/-- The status a delivery can go to. -/
def DELIVERY_TRANSITIONS : DeliveryStatus → List DeliveryStatus
  | .ordered => [.readyToGo]
  | .readyToGo => [.onTheWay]
  | .onTheWay => [.delivered]
  | .delivered => [.received]
  | .received => []

def parseDeliveryStatus (text : String) : Except Error DeliveryStatus :=
  match [DeliveryStatus.ordered, .readyToGo, .onTheWay, .delivered, .received].find?
      (·.value = text) with
  | some status => .ok status
  | none => .error (.validation ("Invalid delivery status '" ++ text ++ "'."))

/-- `GiftCategory.normalise` -/
def normaliseGiftCategory (val : String) : String :=
  if Text.strip val = "" then "service" else Text.lower (Text.strip val)

/-! ## Arguments -/

/-- A service of a requested redemption. -/
structure RedemptionItem where
  serviceId : String
  serviceName : Json := .null
  addonIds : List String := []
  extraTime : ℤ := 0
  deriving DecidableEq

/-- A requested redemption. -/
structure RedemptionRequest where
  bookingId : Option String := none
  bookingNumber : Json := .null
  services : List RedemptionItem := []
  deriving DecidableEq

/-- The fields of an update. A column that may be NULL is absent, or set to a value or NULL. -/
structure UpdateArgs where
  redemption : Option RedemptionRequest := none
  status : Option String := none
  services : List ServiceItem := []
  deliveryStatus : Option String := none
  giftCategory : Option (Option String) := none
  paymentProvider : Option (Option String) := none
  paymentThrough : Option (Option String) := none
  serviceId : Option (Option Uuid) := none
  serviceData : Option (Option Json) := none
  addons : Option (List Json) := none
  extraTime : Option ℤ := none
  priceForExtraTime : Option (Option String) := none
  totalDuration : Option ℤ := none
  totalAmount : Option Fils := none
  currency : Option String := none
  expireDate : Option Instant := none
  bookingId : Option (Option Uuid) := none
  bookingData : Option (Option Json) := none
  paymentId : Option (Option String) := none
  paymentData : Option (Option Json) := none
  paymentUrl : Option (Option String) := none
  redeemedBy : Option (Option Uuid) := none
  deriving DecidableEq

/-! ## The steps of an update -/

/-- The services a redemption uses: each is gifted and recorded nowhere yet. -/
def usedEntries (v : GiftVoucherRow) :
    List RedemptionItem → List String → Except Error (List UsedService)
  | [], _ => .ok []
  | item :: items, newIds =>
    let sid := item.serviceId
    if sid ∉ giftedIds v then
      .error (.validation ("Service " ++ (if sid = "" then "?" else sid) ++
        " is not part of this voucher."))
    else if sid ∈ usedServiceIds v ∨ sid ∈ newIds then
      .error (.validation ("Service " ++ sid ++ " has already been redeemed."))
    else (usedEntries v items (newIds ++ [sid])).map fun entries =>
      { serviceId := sid
        serviceName := item.serviceName
        addonIds := item.addonIds
        extraTime := max item.extraTime 0 } :: entries

/-- The columns of the booking an update names. -/
def bookingColumns (args : UpdateArgs) (now : Instant) (v : GiftVoucherRow) : GiftVoucherRow :=
  { v with
    redeemedAt := some now
    redeemedBookingId := args.bookingId.join.or v.redeemedBookingId
    bookingId := args.bookingId.join.or v.bookingId
    bookingData := args.bookingData.join.or v.bookingData
    redeemedBy := args.redeemedBy.join.or v.redeemedBy }

/-- Record a redemption; the second value is the status it derives. -/
def recordRedemption (args : UpdateArgs) (r : RedemptionRequest) (now : Instant)
    (v : GiftVoucherRow) : Except Error (GiftVoucherRow × GiftVoucherStatus) :=
  if v.status ≠ .active ∧ v.status ≠ .partiallyRedeemed then
    .error (.validation "Only active or partially redeemed vouchers can be redeemed.")
  else do
    let entries ← usedEntries v r.services []
    if entries = [] then .error (.validation "A redemption must include at least one service.")
    else
      let record : Redemption :=
        { bookingId := (Text.or (args.bookingId.join.map uuidStr) r.bookingId).bind Text.orNone
          bookingNumber := r.bookingNumber
          redeemedAt := now
          redeemedBy := args.redeemedBy.join.map uuidStr
          services := entries }
      let recorded := bookingColumns args now { v with redemptions := v.redemptions ++ [record] }
      let used := usedServiceIds v ++ entries.map (·.serviceId)
      .ok (recorded,
        if (giftedIds v).all (· ∈ used) then .redeemed else .partiallyRedeemed)

/-- Move the status; the same status again does nothing. -/
def changeStatus (args : UpdateArgs) (status : Option GiftVoucherStatus) (now : Instant)
    (v : GiftVoucherRow) : Except Error GiftVoucherRow :=
  match status with
  | none => .ok v
  | some target =>
    if target = v.status then .ok v
    else if ¬ validTransition v.status target then
      .error (.validation (transitionError v.status target))
    else
      let moved := { v with status := target }
      .ok (if target = .active then
          { moved with
            paymentId := args.paymentId.join.or v.paymentId
            paymentData := args.paymentData.join.or v.paymentData }
        else if target = .redeemed then bookingColumns args now moved
        else moved)

/-- Move the delivery; the same status again does nothing. -/
def changeDelivery (args : UpdateArgs) (v : GiftVoucherRow) : Except Error GiftVoucherRow :=
  match args.deliveryStatus with
  | none => .ok v
  | some text =>
    if v.deliveryStatus.map (·.value) = some text then .ok v
    else do
      let target ← parseDeliveryStatus text
      match v.deliveryStatus with
      | some current =>
        if target ∈ DELIVERY_TRANSITIONS current then .ok { v with deliveryStatus := some target }
        else .error (.validation ("Cannot transition from '" ++ current.value ++ "' to '" ++
          target.value ++ "'."))
      | none => .ok { v with deliveryStatus := some target }

/-- The fields that are stored in a canonical form. -/
def normalisedFields (args : UpdateArgs) (v : GiftVoucherRow) : GiftVoucherRow :=
  { v with
    giftCategory := (args.giftCategory.join.map normaliseGiftCategory).getD v.giftCategory
    paymentProvider := match args.paymentProvider with
      | some provider => (Text.or provider none).bind normalisePaymentProvider
      | none => v.paymentProvider
    paymentThrough := match args.paymentThrough with
      | some through => (Text.or through none).bind normalisePaymentThrough
      | none => v.paymentThrough }

/-- Replace the gifted services and the columns that mirror them. -/
def replaceServices (args : UpdateArgs) (v : GiftVoucherRow) : GiftVoucherRow :=
  let entries := normaliseServices args.services {}
  if entries = [] then v
  else
    let replaced := mirrorLegacyFields entries { v with services := entries }
    if args.totalDuration = none then { replaced with totalDuration := servicesDuration entries }
    else replaced

/-- The remaining fields as they are. -/
def applyFields (args : UpdateArgs) (v : GiftVoucherRow) : GiftVoucherRow :=
  { v with
    serviceId := args.serviceId.getD v.serviceId
    serviceData := args.serviceData.getD v.serviceData
    addons := args.addons.getD v.addons
    extraTime := args.extraTime.getD v.extraTime
    priceForExtraTime := args.priceForExtraTime.getD v.priceForExtraTime
    totalDuration := args.totalDuration.getD v.totalDuration
    totalAmount := args.totalAmount.getD v.totalAmount
    currency := args.currency.getD v.currency
    expireDate := args.expireDate.getD v.expireDate
    bookingId := args.bookingId.getD v.bookingId
    bookingData := args.bookingData.getD v.bookingData
    paymentId := args.paymentId.getD v.paymentId
    paymentData := args.paymentData.getD v.paymentData
    paymentUrl := args.paymentUrl.getD v.paymentUrl
    redeemedBy := args.redeemedBy.getD v.redeemedBy }

/-- The status an update asks for: that of its redemption, or the one it names. -/
def requestedStatus (args : UpdateArgs) : Except Error (Option GiftVoucherStatus) :=
  match args.status with
  | some text => some <$> parseStatus text
  | none => .ok none

/-- The voucher after an update. -/
def updatedVoucher (args : UpdateArgs) (now : Instant) (v : GiftVoucherRow) :
    Except Error GiftVoucherRow := do
  let (recorded, status) ← match args.redemption with
    | some r => (fun x => (x.1, some x.2)) <$> recordRedemption args r now v
    | none => (fun status => (v, status)) <$> requestedStatus args
  let moved ← changeStatus args status now recorded
  let delivering ← changeDelivery args moved
  pure (applyFields args (replaceServices args (normalisedFields args delivering)))

/-- The columns an update may assign, as they are in `w`. -/
def assignUpdated (w v : GiftVoucherRow) : GiftVoucherRow :=
  { w with
    id := v.id
    voucherNumber := v.voucherNumber
    senderId := v.senderId
    deliveryMode := v.deliveryMode
    scheduledDeliveryAt := v.scheduledDeliveryAt
    deliveryScheduleName := v.deliveryScheduleName
    deliveryScheduleArn := v.deliveryScheduleArn
    deliveredAt := v.deliveredAt
    deliveryResult := v.deliveryResult
    rescheduleCount := v.rescheduleCount
    secretCode := v.secretCode
    updateHistory := v.updateHistory }

/-- `update_voucher`, less its entry in the history. -/
def updateVoucher (voucherId : Uuid) (args : UpdateArgs) : Tx (Orm GiftVoucherRow) := do
  let row ← query fun d => Table.get d.giftVouchers voucherId
  match row with
  | none => throw (.notFound ("Gift voucher " ++ uuidStr voucherId ++ " not found."))
  | some row => do
    let now ← ask Env.now
    match updatedVoucher args now row with
    | .error e => throw e
    | .ok updated => do
      let written ← flushVoucher ((Orm.ofRow row).set (assignUpdated updated))
      emitStatusEvent voucherId row.status updated.status
      pure written

/-! ## Runs -/

/-- A call on the voucher at hand. -/
inductive VoucherOp where
  | updateVoucher (args : UpdateArgs)
  | updateStatus (newStatus : GiftVoucherStatus) (args : StatusArgs)

def voucherCode (voucherId : Uuid) : VoucherOp → Tx Unit
  | .updateVoucher args => discard (updateVoucher voucherId args)
  | .updateStatus newStatus args => discard (updateStatus none voucherId newStatus args)

/-- One step of a run: a call, with what the environment answers to its statements. -/
def voucherStep (voucherId : Uuid) (d : Db) (x : VoucherOp × (ℕ → Env)) : Db :=
  Transactions.atomically x.2 (voucherCode voucherId x.1) d

/-! ## What the redemptions record -/

/-- The property as it counts units: no more units of a service are recorded than gifted, and the
status says whether all of them are, or some. -/
structure UnitsMatch (v : GiftVoucherRow) : Prop where
  within : ∀ s ∈ usedServiceIds v, (usedServiceIds v).count s ≤ (giftedIds v).count s
  redeemed : v.status = .redeemed ↔
    ∀ s ∈ giftedIds v, (giftedIds v).count s ≤ (usedServiceIds v).count s
  partiallyRedeemed : v.status = .partiallyRedeemed ↔ usedServiceIds v ≠ [] ∧
    ∃ s ∈ giftedIds v, (usedServiceIds v).count s < (giftedIds v).count s

instance (v : GiftVoucherRow) : Decidable (UnitsMatch v) :=
  decidable_of_iff
    ((∀ s ∈ usedServiceIds v, (usedServiceIds v).count s ≤ (giftedIds v).count s) ∧
      (v.status = .redeemed ↔
        ∀ s ∈ giftedIds v, (giftedIds v).count s ≤ (usedServiceIds v).count s) ∧
      (v.status = .partiallyRedeemed ↔ usedServiceIds v ≠ [] ∧
        ∃ s ∈ giftedIds v, (usedServiceIds v).count s < (giftedIds v).count s))
    ⟨fun ⟨h1, h2, h3⟩ => ⟨h1, h2, h3⟩, fun h => ⟨h.1, h.2, h.3⟩⟩

/-- Every recorded service is gifted and recorded once, so that no more units of it are recorded than
gifted. -/
structure RedemptionsFit (v : GiftVoucherRow) : Prop where
  once : (usedServiceIds v).Nodup
  gifted : ∀ s ∈ usedServiceIds v, s ∈ giftedIds v
  within : ∀ s, (usedServiceIds v).count s ≤ (giftedIds v).count s

/-- The status says what is recorded: nothing, some of the gifted services or all of them. A voucher
redeemed in full may be fulfilled, one redeemed in part may expire or be cancelled. -/
structure StatusFits (v : GiftVoucherRow) : Prop where
  untouched : usedServiceIds v = [] → v.status ∉ [.partiallyRedeemed, .redeemed, .fulfilled]
  partly : usedServiceIds v ≠ [] → remainingServiceIds v ≠ [] →
    v.status ∈ [.partiallyRedeemed, .expired, .cancelled]
  wholly : usedServiceIds v ≠ [] → remainingServiceIds v = [] → v.status ∈ [.redeemed, .fulfilled]

/-- The update gives the voucher other services. -/
def ReplacesServices (args : UpdateArgs) (v : GiftVoucherRow) : Prop :=
  normaliseServices args.services {} ≠ [] ∨
    (v.services = [] ∧ (args.serviceId.isSome ∨ args.serviceData.isSome))

instance (args : UpdateArgs) (v : GiftVoucherRow) : Decidable (ReplacesServices args v) :=
  inferInstanceAs (Decidable (_ ∨ _))

/-- `P` of the voucher at hand, where there is one. -/
def OfVoucher (voucherId : Uuid) (P : GiftVoucherRow → Prop) (d : Db) : Prop :=
  ∀ v, Table.get d.giftVouchers voucherId = some v → P v

instance (voucherId : Uuid) (P : GiftVoucherRow → Prop) [DecidablePred P] (d : Db) :
    Decidable (OfVoucher voucherId P d) :=
  decidable_of_iff (∀ v ∈ Table.get d.giftVouchers voucherId, P v) (by simp [OfVoucher])

/-- The gifted services are replaced only while nothing is recorded. -/
def ReplacesInTime (op : VoucherOp) (v : GiftVoucherRow) : Prop :=
  match op with
  | .updateVoucher args => ReplacesServices args v → usedServiceIds v = [] ∧ args.redemption = none
  | .updateStatus _ _ => True

instance (op : VoucherOp) : DecidablePred (ReplacesInTime op) := fun _ =>
  match op with
  | .updateVoucher _ => inferInstanceAs (Decidable (_ → _ ∧ _))
  | .updateStatus _ _ => .isTrue trivial

/-- The statuses of a redemption are not set without one. -/
def RedeemsByRecord (op : VoucherOp) (v : GiftVoucherRow) : Prop :=
  match op with
  | .updateVoucher args => args.redemption = none → ∀ s ∈ args.status,
      s = GiftVoucherStatus.redeemed.value ∨ s = GiftVoucherStatus.partiallyRedeemed.value →
        s = v.status.value
  | .updateStatus newStatus _ =>
      newStatus = .redeemed ∨ newStatus = .partiallyRedeemed → newStatus = v.status

instance (op : VoucherOp) : DecidablePred (RedeemsByRecord op) := fun _ =>
  match op with
  | .updateVoucher _ => inferInstanceAs (Decidable (_ → ∀ _ ∈ _, _ → _))
  | .updateStatus _ _ => inferInstanceAs (Decidable (_ → _))

end Voucher
