import UshBookNPay.PaymentLinks.Settlement
import UshBookNPay.Voucher.ScheduledDelivery

/-!
# Runs of scheduled vouchers

The calls that write the status or the delivery of a gift voucher, and when a voucher whose delivery
is scheduled may become usable.
-/

namespace PaymentLinks

open Voucher

inductive DeliveryOp where
  | createVoucher (args : CreateArgs)
  | updateStatus (voucherId : Uuid) (newStatus : GiftVoucherStatus) (args : StatusArgs)
  | updateVoucher (voucherId : Uuid) (args : UpdateArgs)
  | rescheduleVoucher (voucherId : Uuid) (newScheduledDeliveryAt : DateTimeArg)
  | activateScheduledVoucher (voucherId : Uuid) (result : Option Json)
  | reconcileOverdueScheduledVouchers (limit : ℕ)
  | settle (linkId : Uuid) (state : GatewayPaymentState) (source : String)

def deliveryCode : DeliveryOp → Tx Unit
  | .createVoucher args => discard (createVoucher args)
  | .updateStatus voucherId newStatus args => discard (updateStatus none voucherId newStatus args)
  | .updateVoucher voucherId args => discard (updateVoucher voucherId args)
  | .rescheduleVoucher voucherId newScheduledDeliveryAt =>
    discard (rescheduleVoucher voucherId newScheduledDeliveryAt)
  | .activateScheduledVoucher voucherId result =>
    discard (activateScheduledVoucher none voucherId result)
  | .reconcileOverdueScheduledVouchers limit => discard (reconcileOverdueScheduledVouchers limit)
  | .settle linkId state source => discard (applyTo linkId state source)

/-- One step of a run: a call, with what the environment answers to its statements. -/
def deliveryStep (d : Db) (x : DeliveryOp × (ℕ → Env)) : Db :=
  Transactions.atomically x.2 (deliveryCode x.1) d

/-- The statuses in which a voucher is usable or has been used. -/
def usableStatuses : List GiftVoucherStatus := [.active, .partiallyRedeemed, .redeemed]

/-- The delivery of the voucher is scheduled, and it is not delivered. -/
def Undelivered (v : GiftVoucherRow) : Prop := v.deliveryMode = .scheduled ∧ v.deliveredAt = none

instance (v : GiftVoucherRow) : Decidable (Undelivered v) := inferInstanceAs (Decidable (_ ∧ _))

/-- An undelivered voucher is not usable. -/
def Dormant (v : GiftVoucherRow) : Prop := Undelivered v → v.status ∉ usableStatuses

instance (v : GiftVoucherRow) : Decidable (Dormant v) := inferInstanceAs (Decidable (_ → _))

/-- The call activates the voucher at its delivery. -/
def Activates (voucherId : Uuid) : DeliveryOp → Prop
  | .activateScheduledVoucher k _ => k = voucherId
  | .reconcileOverdueScheduledVouchers _ => True
  | _ => False

/-- A step that makes an undelivered voucher usable activates it at its delivery, and delivers it. -/
def UsableByActivation (voucherId : Uuid) (d : Db) (x : DeliveryOp × (ℕ → Env)) : Prop :=
  ∀ v, Table.get d.giftVouchers voucherId = some v → Undelivered v →
    ∀ v', Table.get (deliveryStep d x).giftVouchers voucherId = some v' →
      v'.status ∈ usableStatuses → Activates voucherId x.1 ∧ v'.deliveredAt ≠ none

/-- A voucher whose delivery is scheduled is not created as one that is redeemed. -/
def CreatesDormant (args : CreateArgs) : Prop :=
  VoucherDeliveryMode.normalise args.deliveryMode = .scheduled →
    args.status ≠ some .partiallyRedeemed ∧ args.status ≠ some .redeemed

instance (args : CreateArgs) : Decidable (CreatesDormant args) :=
  inferInstanceAs (Decidable (_ → _ ∧ _))

/-- The call makes no voucher usable before its delivery: none is created as redeemed whose delivery is
scheduled, and no `update_voucher` without a redemption activates an undelivered one. -/
def LeavesDormant (d : Db) (x : DeliveryOp × (ℕ → Env)) : Prop :=
  match x.1 with
  | .createVoucher args => CreatesDormant args
  | .updateVoucher voucherId args => args.redemption = none →
      args.status = some GiftVoucherStatus.active.value → OfVoucher voucherId (fun v =>
        Undelivered v → ¬ validTransition v.status .active) d
  | _ => True

instance (d : Db) : ∀ x, Decidable (LeavesDormant d x)
  | (.createVoucher args, _) => inferInstanceAs (Decidable (CreatesDormant args))
  | (.updateVoucher _ args, _) => inferInstanceAs (Decidable (args.redemption = none → _ → _))
  | (.updateStatus .., _) | (.rescheduleVoucher .., _) | (.activateScheduledVoucher .., _)
  | (.reconcileOverdueScheduledVouchers .., _) | (.settle .., _) => .isTrue trivial

end PaymentLinks
