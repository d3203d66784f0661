import UshBookNPay.Voucher.ScheduledDelivery

/-!
# The legacy columns of a voucher

A voucher lists the services it gifts, and keeps for old clients the columns of a voucher with a single
service. `create_voucher` and the updates write both, and the columns of an update once more as they
are given.
-/

open Transactions (exec)

namespace Voucher

/-! ## What a request gifts -/

/-- The item gifts something: it has an id or data. -/
def IsService (raw : ServiceItem) : Prop := raw.serviceId.isSome ∨ (serviceDataOf raw).truthy

instance : DecidablePred IsService := fun _ => inferInstanceAs (Decidable (_ ∨ _))

def requestedServices (services : List ServiceItem) : List ServiceItem := services.filter IsService

/-- The services a new voucher is to gift: those of the list, or the single one of the legacy
arguments. -/
def requestedAtCreate (args : CreateArgs) : List ServiceItem :=
  if requestedServices args.services = [] then requestedServices [argumentService args]
  else requestedServices args.services

/-! ## The properties of a voucher -/

/-- The number a price is. -/
def priceValue (price : Option String) : Option ℚ := (price.bind parseDecimal).map Decimal.value

/-- The add-ons are the mirrored ones, or are so in their canonical form. -/
def SameAddons (addons mirrored : List Json) : Prop :=
  addons = mirrored ∨ addons.filterMap normaliseAddon = mirrored

instance (addons mirrored : List Json) : Decidable (SameAddons addons mirrored) :=
  inferInstanceAs (Decidable (_ ∨ _))

/-- The columns are those of `mirror_legacy_fields`. -/
structure Mirrors (v mirror : GiftVoucherRow) : Prop where
  serviceId : v.serviceId = mirror.serviceId
  serviceData : v.serviceData = mirror.serviceData
  addons : SameAddons v.addons mirror.addons
  extraTime : v.extraTime = mirror.extraTime
  priceForExtraTime : priceValue v.priceForExtraTime = priceValue mirror.priceForExtraTime

/-- The entry is that of the requested service. -/
def Stores (raw : ServiceItem) (entry : GiftedService) : Prop :=
  normaliseServiceEntry raw entry.position = some entry

/-- The voucher lists the requested services, one for one and in their order, its legacy columns mirror
the list, and it lasts for all of them. -/
structure GiftConsistent (requested : List ServiceItem) (v : GiftVoucherRow) : Prop where
  stored : List.Forall₂ Stores requested v.services
  mirrored : v.services ≠ [] → Mirrors v (mirrorLegacyFields v.services v)
  lasting : v.services ≠ [] → servicesDuration v.services ≤ v.totalDuration

/-! ## Runs -/

/-- The database, and the services the voucher at hand was last asked to gift. -/
structure GiftState where
  db : Db
  requested : List ServiceItem

/-- The voucher a successful `create_voucher` makes, and the state it leaves. -/
def giftCreated (args : CreateArgs) (env : ℕ → Env) (d : Db) : Option (Uuid × GiftState) :=
  match exec env (createVoucher args) d with
  | (.ok o, d', _) => some (o.row.id, { db := d', requested := requestedAtCreate args })
  | (.error _, _, _) => none

/-- The services a voucher was last asked to gift, after one more update. -/
def requestedAfter (args : UpdateArgs) (requested : List ServiceItem) : List ServiceItem :=
  if requestedServices args.services = [] then requested else requestedServices args.services

/-- One update of the voucher; one that fails is rolled back. -/
def giftStep (voucherId : Uuid) (s : GiftState) (x : UpdateArgs × (ℕ → Env)) : GiftState :=
  match exec x.2 (updateVoucher voucherId x.1) s.db with
  | (.ok _, d', _) => { db := d', requested := requestedAfter x.1 s.requested }
  | (.error _, _, _) => s

/-- The voucher at hand is consistent. -/
def KeepsGift (voucherId : Uuid) (s : GiftState) : Prop :=
  OfVoucher voucherId (GiftConsistent s.requested) s.db

/-! ## The requests that keep the properties -/

/-- A new voucher is asked to gift ten services at most. Without a list the extra time is not negative,
and the single service has an id, or its data do not name a UUID. -/
structure CreateFits (args : CreateArgs) : Prop where
  within : (requestedAtCreate args).length ≤ MAX_VOUCHER_SERVICES
  single : args.services = [] → IsService (argumentService args) → 0 ≤ args.extraTime ∧
    (args.serviceId = none →
      (serviceIdStr ((serviceDataOf (argumentService args)).field? "id")).bind parseUuid = none)

/-- The services of the voucher after the update. -/
def servicesAfter (args : UpdateArgs) (v : GiftVoucherRow) : List GiftedService :=
  if requestedServices args.services = [] then v.services else normaliseServices args.services {}

/-- The legacy columns the update names are those of the services, and its duration is enough for
them. -/
structure AgreesWith (args : UpdateArgs) (mirror : GiftVoucherRow) (duration : ℤ) : Prop where
  serviceId : ∀ id ∈ args.serviceId, id = mirror.serviceId
  serviceData : ∀ data ∈ args.serviceData, data = mirror.serviceData
  addons : ∀ addons ∈ args.addons, SameAddons addons mirror.addons
  extraTime : ∀ minutes ∈ args.extraTime, minutes = mirror.extraTime
  priceForExtraTime : ∀ price ∈ args.priceForExtraTime,
    priceValue price = priceValue mirror.priceForExtraTime
  totalDuration : ∀ minutes ∈ args.totalDuration, duration ≤ minutes

/-- The update asks for ten services at most, and names no legacy column or duration at odds with the
services. -/
structure UpdateFits (args : UpdateArgs) (v : GiftVoucherRow) : Prop where
  within : (requestedServices args.services).length ≤ MAX_VOUCHER_SERVICES
  agrees : servicesAfter args v ≠ [] →
    AgreesWith args (mirrorLegacyFields (servicesAfter args v) v)
      (servicesDuration (servicesAfter args v))

/-- Where the update succeeds, it fits the voucher. -/
def FitsGift (voucherId : Uuid) (s : GiftState) (x : UpdateArgs × (ℕ → Env)) : Prop :=
  (exec x.2 (updateVoucher voucherId x.1) s.db).1.isOk →
    OfVoucher voucherId (UpdateFits x.1) s.db

end Voucher
