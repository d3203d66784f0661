import UshBookNPay.Core.Flush

/-!
# GiftVoucherService

`update_status`, which moves a gift voucher along its state machine.
-/

open Transactions.Prog (query raiseIf ask call)

namespace Voucher

/-- The arguments of `update_status`, less those of the delivery. -/
structure StatusArgs where
  paymentId : Option String := none
  paymentData : Option (List (String × Json)) := none
  paymentUrl : Option String := none
  paymentProvider : Option String := none
  paymentThrough : Option String := none
  bookingId : Option Uuid := none
  bookingData : Option Json := none
  redeemedBy : Option Uuid := none
  actorId : Option String := none

/-- A voucher with a scheduled delivery that is not delivered yet is scheduled instead of activated. -/
def redirect (v : GiftVoucherRow) (target : GiftVoucherStatus) : GiftVoucherStatus :=
  if target = .active ∧ v.deliveryMode = .scheduled ∧ v.deliveredAt = none then .scheduled
  else target

/-- `update_status` accepts the transition of the voucher. -/
def Allowed (v : GiftVoucherRow) (newStatus : GiftVoucherStatus) : Prop :=
  validTransition v.status (redirect v newStatus)

instance (v : GiftVoucherRow) (newStatus : GiftVoucherStatus) : Decidable (Allowed v newStatus) :=
  inferInstanceAs (Decidable (validTransition _ _))

/-- The columns of a payment, which an activated or a scheduled voucher records. -/
def paidColumns (args : StatusArgs) (v : GiftVoucherRow) : GiftVoucherRow :=
  { v with
    paymentId := args.paymentId.or v.paymentId
    paymentData := match args.paymentData with
      | some fields => some (Json.withFields v.paymentData fields)
      | none => v.paymentData }

/-- Whether a voucher that becomes `target` gets a delivery schedule. -/
def needsSchedule (v : GiftVoucherRow) (target : GiftVoucherStatus) : Bool :=
  target = .scheduled ∧ v.scheduledDeliveryAt ≠ none ∧ ¬ Text.truthy v.deliveryScheduleName

/-- The columns of a redemption, which a voucher that becomes redeemed records. -/
def redeemedColumns (args : StatusArgs) (now : Instant) (v : GiftVoucherRow) : GiftVoucherRow :=
  { v with
    redeemedAt := some now
    redeemedBookingId := args.bookingId.or v.redeemedBookingId
    bookingId := args.bookingId.or v.bookingId
    bookingData := args.bookingData.or v.bookingData
    redeemedBy := args.redeemedBy.or v.redeemedBy }

/-- The columns `update_status` sets. -/
def statusColumns (target : GiftVoucherStatus) (args : StatusArgs)
    (schedule : Option (String × String)) (now : Instant) (v : GiftVoucherRow) : GiftVoucherRow :=
  let paid := if target = .active ∨ target = .scheduled then paidColumns args v
    else if target = .redeemed then redeemedColumns args now v
    else v
  { paid with
    status := target
    paymentUrl := args.paymentUrl.or v.paymentUrl
    paymentProvider := match args.paymentProvider with
      | some p => normalisePaymentProvider p
      | none => v.paymentProvider
    paymentThrough := match args.paymentThrough with
      | some t => normalisePaymentThrough t
      | none => v.paymentThrough
    deliveryScheduleName := (schedule.map (·.1)).or v.deliveryScheduleName
    deliveryScheduleArn := (schedule.map (·.2)).or v.deliveryScheduleArn
    updateHistory := v.updateHistory ++ [
      { timestamp := now
        changedBy := (Text.or args.actorId (some "staff")).getD "staff"
        oldStatus := v.status
        newStatus := target }] }

/-- The status event of a voucher, which is sent at once. -/
def emitStatusEvent (voucherId : Uuid) (old target : GiftVoucherStatus) : Tx Unit :=
  call (fun _ => if old = target then [] else [.voucherStatus voucherId target]) fun _ => ()

/-- `update_status`; `known` is the voucher where the session has loaded it before. -/
def updateStatus (known : Option (Orm GiftVoucherRow)) (voucherId : Uuid)
    (newStatus : GiftVoucherStatus) (args : StatusArgs) : Tx (Orm GiftVoucherRow) := do
  let row ← query fun d => Table.get d.giftVouchers voucherId
  match row with
  | none => throw (.notFound ("Gift voucher " ++ uuidStr voucherId ++ " not found."))
  | some row => do
    let voucher := known.getD (.ofRow row)
    let target := redirect voucher.row newStatus
    raiseIf (¬ validTransition voucher.row.status target)
      (.validation (transitionError voucher.row.status target))
    let schedule ← (if needsSchedule voucher.row target then ask Env.schedule else pure none)
    let now ← ask Env.now
    let written ← flushVoucher (voucher.set (statusColumns target args schedule now))
    emitStatusEvent voucherId voucher.row.status target
    pure written

end Voucher
