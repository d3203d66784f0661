import UshBookNPay.Lib.Sessions
import UshBookNPay.Voucher.VoucherUpdate

/-!
# Redemptions

Transactions that redeem one gift voucher, interleaved in any order, and what they have committed. A
redemption is an `update_voucher` with a `redemption`; the voucher is loaded without a lock, and its
list of redemptions is written back whole. Until when a voucher is valid is a date, whether it can be
redeemed a status.
-/

open Transactions (exec System Session Event)

namespace Voucher

/-- A call of `update_voucher` with a redemption. -/
structure RedemptionCall where
  redemption : RedemptionRequest
  others : UpdateArgs := {}
  deriving DecidableEq

def redemptionCode (voucherId : Uuid) (call : RedemptionCall) : Tx (Orm GiftVoucherRow) :=
  updateVoucher voucherId { call.others with redemption := some call.redemption }

abbrev RedemptionSystem :=
  System Db LockKey Emission Env Error (Orm GiftVoucherRow) RedemptionCall

/-- The system with what its runs are judged by: the redemptions of the transactions that have
committed, and for each transaction how many these were when it loaded the voucher. -/
structure Counter where
  system : RedemptionSystem
  committed : List Redemption := []
  loaded : ℕ → Option ℕ := fun _ => none

/-- The redemption a session records when it commits: the last one of its voucher. -/
def recordOf (t : Session Db LockKey Emission Env Error (Orm GiftVoucherRow) RedemptionCall) :
    Option Redemption :=
  match t.prog with
  | .ret o => o.row.redemptions.getLast?
  | _ => none

/-- What an event adds to the committed redemptions. -/
def commits (s : RedemptionSystem) : Event RedemptionCall Env → List Redemption
  | .finish sid => ((Table.get s.sessions sid).bind recordOf).toList
  | _ => []

/-- The first statement of a transaction loads the voucher. -/
def loads (c : Counter) : Event RedemptionCall Env → ℕ → Option ℕ
  | .start sid _ =>
    if (Table.get c.system.sessions sid).isSome then c.loaded
    else fun k => if k = sid then none else c.loaded k
  | .exec sid _ => fun k =>
    if k = sid ∧ (Table.get c.system.sessions sid).isSome ∧ c.loaded sid = none then
      some c.committed.length
    else c.loaded k
  | _ => c.loaded

/-- One event of a run. -/
def redemptionStep (voucherId : Uuid) (c : Counter) (ev : Event RedemptionCall Env) : Counter :=
  { system := c.system.step (redemptionCode voucherId) ev
    committed := c.committed ++ commits c.system ev
    loaded := loads c ev }

/-! ## What the redemptions record -/

/-- The services of a redemption. -/
def servicesOf (r : Redemption) : List String := (r.services.map (·.serviceId)).filter (· ≠ "")

/-- No service is redeemed by two of the committed transactions, and each of them is recorded in the
voucher. -/
structure RedemptionsKept (voucherId : Uuid) (c : Counter) : Prop where
  once : c.committed.Pairwise fun r r' => ∀ s ∈ servicesOf r, s ∉ servicesOf r'
  present : ∀ r ∈ c.committed, ∃ v ∈ Table.get c.system.db.giftVouchers voucherId,
    r ∈ v.redemptions

/-- No other redemption commits between the load of a transaction and its own commit. -/
def NotOvertaken (c : Counter) : Event RedemptionCall Env → Prop
  | .finish sid => ∀ t, Table.get c.system.sessions sid = some t → t.committing →
      c.loaded sid = some c.committed.length
  | _ => True

instance (voucherId : Uuid) (c : Counter) : Decidable (RedemptionsKept voucherId c) :=
  decidable_of_iff
    ((c.committed.Pairwise fun r r' => ∀ s ∈ servicesOf r, s ∉ servicesOf r') ∧
      ∀ r ∈ c.committed, ∃ v ∈ Table.get c.system.db.giftVouchers voucherId, r ∈ v.redemptions)
    ⟨fun ⟨h1, h2⟩ => ⟨h1, h2⟩, fun h => ⟨h.1, h.2⟩⟩

/-! ## The validity of a voucher -/

/-- The date of the voucher has passed. -/
def Expired (now : Instant) (v : GiftVoucherRow) : Prop := v.expireDate ≤ now

instance (now : Instant) : DecidablePred (Expired now) :=
  fun v => inferInstanceAs (Decidable (v.expireDate ≤ now))

/-- The statuses of a redemption. -/
def redeemedStatuses : List GiftVoucherStatus := [.redeemed, .partiallyRedeemed]

/-- The call redeems the voucher, by a redemption or by a change of its status. -/
def AsksToRedeem (op : VoucherOp) (v : GiftVoucherRow) : Prop :=
  match op with
  | .updateVoucher args => args.redemption.isSome ∨
      ∃ s ∈ redeemedStatuses, args.status = some s.value ∧ s ≠ v.status
  | .updateStatus newStatus _ => newStatus ∈ redeemedStatuses ∧ newStatus ≠ v.status

instance (op : VoucherOp) : DecidablePred (AsksToRedeem op) := fun v =>
  match op with
  | .updateVoucher args => inferInstanceAs (Decidable (args.redemption.isSome ∨
      ∃ s ∈ redeemedStatuses, args.status = some s.value ∧ s ≠ v.status))
  | .updateStatus _ _ => inferInstanceAs (Decidable (_ ∧ _))

/-- `ValidationError` -/
def Invalid (e : Error) : Prop := ∃ message, e = .validation message

/-- The time of a call: both calls look at the clock in their second statement. -/
def timeOf (x : VoucherOp × (ℕ → Env)) : Instant := (x.2 1).now

/-- A call that redeems the voucher after its date is refused, and leaves its redemptions and its status
as they are. -/
def RefusesExpired (voucherId : Uuid) (d : Db) (x : VoucherOp × (ℕ → Env)) : Prop :=
  OfVoucher voucherId (fun v => Expired (timeOf x) v → AsksToRedeem x.1 v →
    (∃ e, (exec x.2 (voucherCode voucherId x.1) d).1 = .error e ∧ Invalid e) ∧
      OfVoucher voucherId (fun w => w.redemptions = v.redemptions ∧ w.status = v.status)
        (voucherStep voucherId d x)) d

/-! ## What the code checks -/

/-- The delivery can go where the update wants it. -/
def DeliveryOpen (args : UpdateArgs) (v : GiftVoucherRow) : Prop :=
  ∀ text ∈ args.deliveryStatus, v.deliveryStatus.map (·.value) = some text ∨
    ∃ target : DeliveryStatus, target.value = text ∧
      ∀ current ∈ v.deliveryStatus, target ∈ DELIVERY_TRANSITIONS current

/-- The services of a redemption are gifted ones that are asked for once and not used yet. -/
structure ServicesOpen (r : RedemptionRequest) (v : GiftVoucherRow) : Prop where
  some : r.services ≠ []
  once : (r.services.map (·.serviceId)).Nodup
  gifted : ∀ item ∈ r.services, item.serviceId ∈ giftedIds v ∧ item.serviceId ∉ usedServiceIds v

/-- The voucher has a status, services and a delivery that admit the redemption. The date is not looked
at. -/
def Redeemable (op : VoucherOp) (v : GiftVoucherRow) : Prop :=
  match op with
  | .updateVoucher args => DeliveryOpen args v ∧ match args.redemption with
    | some r => (v.status = .active ∨ v.status = .partiallyRedeemed) ∧ ServicesOpen r v
    | none => ∀ s, args.status = some (GiftVoucherStatus.value s) → validTransition v.status s
  | .updateStatus newStatus _ => validTransition v.status newStatus

/-- No voucher whose date has passed is redeemed while its status, its services and its delivery admit
it. -/
def RedeemsInTime (voucherId : Uuid) (d : Db) (x : VoucherOp × (ℕ → Env)) : Prop :=
  OfVoucher voucherId (fun v => Expired (timeOf x) v → AsksToRedeem x.1 v → ¬ Redeemable x.1 v) d

end Voucher
