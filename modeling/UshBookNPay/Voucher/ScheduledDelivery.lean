import UshBookNPay.Voucher.VoucherUpdate
import Mathlib.Data.List.Sort

/-!
# Scheduled delivery

The life of a gift voucher whose delivery is scheduled: `create_voucher`,
`activate_scheduled_voucher`, `reschedule_voucher` and `reconcile_overdue_scheduled_vouchers`.
-/

open Transactions.Prog (query queryForUpdate checkedUpdate raiseIf ask call)

namespace Voucher

def microsecondsPerDay : ℤ := 86400 * 10 ^ 6

/-! ## create_voucher -/

/-- `GIFT_VOUCHER_EXPIRE_DAYS`, at its default -/
def GIFT_VOUCHER_EXPIRE_DAYS : ℤ := 60

/-- The arguments of `create_voucher`. -/
structure CreateArgs where
  senderId : Uuid
  senderPhone : String := ""
  services : List ServiceItem := []
  serviceId : Option Uuid := none
  serviceData : Option Json := none
  addons : List Json := []
  extraTime : ℤ := 0
  priceForExtraTime : Option String := none
  totalDuration : ℤ := 0
  totalAmount : Fils
  currency : String := "KWD"
  bookingId : Option Uuid := none
  bookingData : Option Json := none
  createdBy : Option Uuid := none
  paymentId : Option String := none
  paymentData : Option Json := none
  paymentUrl : Option String := none
  paymentProvider : Option String := none
  paymentThrough : Option String := none
  status : Option GiftVoucherStatus := none
  expireDate : Option Instant := none
  validityDays : Option ℤ := none
  validity : Option ℤ := none
  giftCategory : Option String := none
  deliveryStatus : Option DeliveryStatus := none
  deliveryMode : String := "on_activation"
  scheduledDeliveryAt : Option Instant := none

/-- The number of the sender has 8 to 15 digits, and no characters that a number does not have. -/
def validSenderPhone (phone : String) : Bool :=
  let digits := phone.toList.filter Char.isDigit
  digits ≠ [] ∧ 8 ≤ digits.length ∧ digits.length ≤ 15 ∧
    phone.toList.all (· ∈ "+0123456789 -()".toList)

/-- The legacy single service of the arguments. -/
def argumentService (args : CreateArgs) : ServiceItem :=
  { serviceId := args.serviceId
    serviceData := some ((args.serviceData.filter Json.truthy).getD (.obj []))
    addons := args.addons
    extraTime := args.extraTime
    priceForExtraTime := args.priceForExtraTime }

/-- The status of a new voucher: one whose delivery is scheduled is scheduled instead of activated. -/
def initialStatus (args : CreateArgs) : GiftVoucherStatus :=
  let status := args.status.getD .created
  if VoucherDeliveryMode.normalise args.deliveryMode = .scheduled ∧ status = .active then .scheduled
  else status

/-- The end of the validity: the given date, or the given days from now, or the default ones. -/
def resolvedExpireDate (args : CreateArgs) (now : Instant) : Instant :=
  match args.expireDate with
  | some date => date
  | none => match args.validityDays.or args.validity with
    | some days => if 0 < days then now + days * microsecondsPerDay
        else now + GIFT_VOUCHER_EXPIRE_DAYS * microsecondsPerDay
    | none => now + GIFT_VOUCHER_EXPIRE_DAYS * microsecondsPerDay

/-- The columns of a new voucher. -/
def createdVoucher (args : CreateArgs) (id : Uuid) (number : String)
    (schedule : Option (String × String)) (now : Instant) : GiftVoucherRow :=
  let entries := normaliseServices args.services (argumentService args)
  let status := initialStatus args
  let plain : GiftVoucherRow :=
    { id := id
      voucherNumber := some number
      senderId := args.senderId
      status := status
      totalAmount := args.totalAmount
      currency := args.currency
      paymentId := args.paymentId
      paymentData := args.paymentData
      paymentUrl := args.paymentUrl
      paymentProvider := args.paymentProvider.bind normalisePaymentProvider
      paymentThrough := args.paymentThrough.bind normalisePaymentThrough
      deliveryMode := VoucherDeliveryMode.normalise args.deliveryMode
      scheduledDeliveryAt := args.scheduledDeliveryAt
      deliveryScheduleName := schedule.map (·.1)
      deliveryScheduleArn := schedule.map (·.2)
      expireDate := resolvedExpireDate args now
      services := entries
      serviceId := args.serviceId
      serviceData := some (args.serviceData.getD (.obj []))
      addons := args.addons
      extraTime := args.extraTime
      priceForExtraTime := args.priceForExtraTime
      totalDuration := max args.totalDuration (servicesDuration entries)
      giftCategory := normaliseGiftCategory (args.giftCategory.getD "")
      deliveryStatus := args.deliveryStatus
      redeemedAt := if status = .redeemed then some now else none
      redeemedBy := if status = .redeemed then args.createdBy else none
      bookingId := args.bookingId
      bookingData := some (args.bookingData.getD (.obj [])) }
  if args.services ≠ [] then mirrorLegacyFields entries plain else plain

/-- `generate_voucher_number` -/
def generateVoucherNumber : Tx String := do
  let month ← ask Env.month
  let datePrefix := "VOU/" ++ month ++ "/"
  queryForUpdate (fun _ => [.advisory "gift_voucher_number"]) fun _ => ()
  query fun d => nextNumber datePrefix (d.giftVouchers.filterMap (·.voucherNumber))

/-- What the database has against an insert of the voucher. -/
def voucherConflict (d : Db) (v : GiftVoucherRow) : Option Error :=
  if (Table.get d.giftVouchers v.id).isSome then some (.integrity "gift_vouchers_pkey")
  else if v.voucherNumber ≠ none ∧ d.giftVouchers.any (·.voucherNumber = v.voucherNumber) then
    some (.integrity "gift_vouchers_voucher_number_key")
  else none

def insertVoucher (v : GiftVoucherRow) : Tx (Orm GiftVoucherRow) := do
  let v := v.setAttribution v.attribution
  checkedUpdate (voucherConflict · v)
    ([.row "gift_vouchers" v.id] ++ (v.voucherNumber.map (.index "voucher_number")).toList)
    fun d => { d with giftVouchers := d.giftVouchers ++ [v] }
  pure (.ofRow v)

/-- The event of a new voucher. -/
def emitCreatedEvent (v : GiftVoucherRow) : Tx Unit :=
  call (fun _ => if v.status = .active ∨ v.status = .scheduled then [.voucherStatus v.id v.status]
    else []) fun _ => ()

/-- The schedule of the delivery; a scheduler that fails leaves the voucher without one. -/
def newSchedule (args : CreateArgs) : Tx (Option (String × String)) :=
  if initialStatus args = .scheduled ∧ args.scheduledDeliveryAt ≠ none then ask Env.schedule
  else pure none

/-- `create_voucher`, less its entry in the history. -/
def createVoucher (args : CreateArgs) : Tx (Orm GiftVoucherRow) := do
  raiseIf (Text.strip args.senderPhone ≠ "" ∧ ¬ validSenderPhone (Text.strip args.senderPhone))
    (.validation "Sender phone number must be a valid phone number (digits only, 8–15 digits).")
  let schedule ← newSchedule args
  let now ← ask Env.now
  let id ← ask Env.uuid
  let number ← generateVoucherNumber
  let voucher ← insertVoucher (createdVoucher args id number schedule now)
  emitCreatedEvent voucher.row
  pure voucher

/-! ## activate_scheduled_voucher -/

/-- `delivery_result` of a delivery without one. -/
def defaultDeliveryResult (now : Instant) : Json :=
  .obj [("delivered", .bool true), ("activated_at", .str (isoformat now)),
    ("source", .str "scheduler")]

/-- The columns of a delivered voucher, which is valid for 60 days. -/
def activatedColumns (result : Option Json) (now : Instant) (v : GiftVoucherRow) : GiftVoucherRow :=
  { v with
    status := .active
    deliveredAt := some now
    expireDate := now + 60 * microsecondsPerDay
    deliveryResult := if result.any Json.truthy then result else some (defaultDeliveryResult now)
    updateHistory := v.updateHistory ++ [
      { timestamp := now, changedBy := "scheduler", oldStatus := .scheduled, newStatus := .active }] }

/-- `activate_scheduled_voucher`; `known` is the voucher where the session has loaded it before. A
voucher that is not scheduled stays as it is. -/
def activateScheduledVoucher (known : Option (Orm GiftVoucherRow)) (voucherId : Uuid)
    (result : Option Json) : Tx (Orm GiftVoucherRow) := do
  let row ← query fun d => Table.get d.giftVouchers voucherId
  match row with
  | none => throw (.notFound ("Gift voucher " ++ uuidStr voucherId ++ " not found."))
  | some row => do
    let voucher := known.getD (.ofRow row)
    if voucher.row.status ≠ .scheduled then pure voucher
    else do
      let now ← ask Env.now
      let written ← flushVoucher (voucher.set (activatedColumns result now))
      emitStatusEvent voucherId .scheduled .active
      pure written

/-! ## reschedule_voucher -/

/-- A `datetime` argument: one without a time zone, one in UTC or one in another time zone. The first
two are given by their clock time, the third by its instant. -/
inductive DateTimeArg where
  | naive (clock : Instant)
  | utc (clock : Instant)
  | aware (instant : Instant)

def microsecondsPerHour : ℤ := 3600 * 10 ^ 6

/-- A time without a zone and a time in UTC are read as times in Kuwait, which is at UTC+3. -/
def DateTimeArg.kuwait : DateTimeArg → Instant
  | .naive clock => clock - 3 * microsecondsPerHour
  | .utc clock => clock - 3 * microsecondsPerHour
  | .aware instant => instant

/-- The columns of a rescheduled voucher. -/
def rescheduledColumns (at' : Instant) (schedule : String × String) (v : GiftVoucherRow) :
    GiftVoucherRow :=
  { v with
    deliveryScheduleName := if Text.truthy v.deliveryScheduleName then v.deliveryScheduleName
      else some schedule.1
    deliveryScheduleArn := some schedule.2
    scheduledDeliveryAt := some at'
    rescheduleCount := v.rescheduleCount + 1 }

/-- `reschedule_voucher`, less its entry in the history. What the scheduler raises goes through. -/
def rescheduleVoucher (voucherId : Uuid) (newScheduledDeliveryAt : DateTimeArg) :
    Tx (Orm GiftVoucherRow) := do
  let row ← query fun d => Table.get d.giftVouchers voucherId
  match row with
  | none => throw (.notFound ("Gift voucher " ++ uuidStr voucherId ++ " not found."))
  | some v => do
    raiseIf (v.status ≠ .scheduled) (.validation ("Cannot reschedule voucher in status '" ++
      v.status.value ++ "'. Only vouchers in 'scheduled' status can be rescheduled."))
    let now ← ask Env.now
    let at' := newScheduledDeliveryAt.kuwait
    raiseIf (at' ≤ now) (.validation "New scheduled delivery time must be in the future.")
    raiseIf (now + 62 * microsecondsPerDay < at') (.validation
      "New scheduled delivery time cannot be more than 2 months into the future.")
    let schedule ← ask Env.schedule
    match schedule with
    | none => throw (.valueError "schedule")
    | some schedule => flushVoucher ((Orm.ofRow v).set (rescheduledColumns at' schedule))

/-! ## reconcile_overdue_scheduled_vouchers -/

/-- `list_overdue_scheduled`: the scheduled vouchers whose delivery is due, the earliest first. -/
def listOverdueScheduled (now : Instant) (limit : ℕ) (d : Db) : List GiftVoucherRow :=
  ((d.giftVouchers.filter fun v => v.status = .scheduled ∧
    v.scheduledDeliveryAt.any (· ≤ now)).insertionSort fun v w =>
      v.scheduledDeliveryAt.getD 0 ≤ w.scheduledDeliveryAt.getD 0).take limit

/-- Activate the vouchers one after the other; one that fails is left out. -/
def activateEach : List GiftVoucherRow → Tx (List String)
  | [] => pure []
  | v :: vs => do
    let now ← ask Env.now
    let r ← attempt (fun _ => true) (activateScheduledVoucher (some (.ofRow v)) v.id
      (some (.obj [("delivered", .bool true), ("activated_at", .str (isoformat now)),
        ("source", .str "reconciler")])))
    let ids ← activateEach vs
    pure (match r with
      | .ok _ => uuidStr v.id :: ids
      | .error _ => ids)

/-- `reconcile_overdue_scheduled_vouchers` -/
def reconcileOverdueScheduledVouchers (limit : ℕ) : Tx (List String) := do
  let now ← ask Env.now
  let overdue ← query (listOverdueScheduled now limit)
  activateEach overdue

end Voucher
