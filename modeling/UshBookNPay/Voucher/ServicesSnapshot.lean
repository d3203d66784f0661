import UshBookNPay.Voucher.Models

/-!
# The gifted services of a voucher

The canonical list of services, the legacy columns that mirror it and what the redemptions have used.
-/

namespace Voucher

def MAX_VOUCHER_SERVICES : ℕ := 10

/-- `_to_int`: the whole part of a number, 0 for what is none. -/
def toInt (value : Option Json) : ℤ :=
  match value with
  | some (.num lexeme) => ((parseDecimal lexeme).map fun x => x.unscaled.tdiv (10 ^ x.decimals)).getD 0
  | some (.str s) => ((parseDecimal s).map fun x => x.unscaled.tdiv (10 ^ x.decimals)).getD 0
  | some (.bool b) => if b then 1 else 0
  | _ => 0

/-- `a or b` of two numbers. -/
def intOr (a b : ℤ) : ℤ := if a = 0 then b else a

def addonDuration (addon : Json) : ℤ :=
  intOr (toInt (addon.field? "duration_minutes")) (toInt (addon.field? "duration"))

/-- `a or b` of two values of a dict. -/
def fieldOr (a b : Option Json) : Option Json :=
  if a.any Json.truthy then a else b

def normaliseAddon (addon : Json) : Option Json :=
  match addon with
  | .obj _ =>
    let named := match fieldOr (addon.field? "addon_id") (addon.field? "id") with
      | none | some .null => addon
      | some aid => Json.withField (some addon) "addon_id" (.str aid.text)
    some (Json.withField (some named) "duration_minutes" (.num (toString (addonDuration named))))
  | _ => none

/-- A service as a client sends it. -/
structure ServiceItem where
  serviceId : Option Uuid := none
  serviceData : Option Json := none
  addons : List Json := []
  extraTime : ℤ := 0
  priceForExtraTime : Option String := none
  deriving DecidableEq

/-- The UUID in its own spelling, any other text as it is. -/
def serviceIdStr (sid : Option Json) : Option String :=
  match sid with
  | none | some .null | some (.str "") => none
  | some sid => match parseUuid sid.text with
    | some id => some (uuidStr id)
    | none => some sid.text

/-- `service_data`, or without it a snapshot that knows the id only. -/
def serviceDataOf (raw : ServiceItem) : Json :=
  match raw.serviceData with
  | some (.obj fields) => .obj fields
  | _ => match raw.serviceId with
    | some id => .obj [("id", .str (uuidStr id))]
    | none => .obj []

def normaliseServiceEntry (raw : ServiceItem) (position : ℕ) : Option GiftedService :=
  let data := serviceDataOf raw
  let entry : GiftedService :=
    { serviceId := serviceIdStr
        (fieldOr (raw.serviceId.map fun id => .str (uuidStr id)) (data.field? "id"))
      serviceData := data
      addons := raw.addons.filterMap normaliseAddon
      extraTime := max raw.extraTime 0
      priceForExtraTime := raw.priceForExtraTime
      position := position }
  if entry.serviceId = none ∧ ¬ data.truthy then none else some entry

/-- Add the entry of a service, at the position after the entries so far. -/
def addEntry (entries : List GiftedService) (raw : ServiceItem) : List GiftedService :=
  match normaliseServiceEntry raw entries.length with
  | some entry => entries ++ [entry]
  | none => entries

/-- The canonical list; without services the legacy single service makes one entry. -/
def normaliseServices (services : List ServiceItem) (legacy : ServiceItem) : List GiftedService :=
  let entries := services.foldl addEntry []
  let entries := if entries = [] ∧ (legacy.serviceId.isSome ∨ legacy.serviceData.any Json.truthy) then
      addEntry [] legacy
    else entries
  entries.take MAX_VOUCHER_SERVICES

/-- The legacy columns of a list of services. -/
def mirrorLegacyFields (services : List GiftedService) (v : GiftVoucherRow) : GiftVoucherRow :=
  match services with
  | [] => v
  | primary :: _ =>
    { v with
      serviceId := primary.serviceId.bind parseUuid
      serviceData := some primary.serviceData
      addons := services.flatMap (·.addons)
      extraTime := (services.map (·.extraTime)).sum
      priceForExtraTime := primary.priceForExtraTime }

/-- The minutes of services, add-ons and extra time. -/
def servicesDuration (services : List GiftedService) : ℤ :=
  (services.map fun s =>
    intOr (toInt (s.serviceData.field? "duration_minutes")) (toInt (s.serviceData.field? "duration")) +
      (s.addons.map addonDuration).sum + s.extraTime).sum

/-- The single service of the legacy columns. -/
def legacyService (v : GiftVoucherRow) : ServiceItem :=
  { serviceId := v.serviceId
    serviceData := some (if v.serviceData.any Json.truthy then v.serviceData.getD .null else .obj [])
    addons := v.addons
    extraTime := v.extraTime
    priceForExtraTime := v.priceForExtraTime }

/-- The services of a voucher; a legacy one has a single entry. -/
def voucherServicesOf (v : GiftVoucherRow) : List GiftedService :=
  if v.services ≠ [] then v.services else normaliseServices [] (legacyService v)

/-! ## Partial redemption -/

/-- The ids of the gifted services, one for each unit. -/
def giftedIds (v : GiftVoucherRow) : List String :=
  ((voucherServicesOf v).filterMap (·.serviceId)).filter (· ≠ "")

/-- The ids the redemptions have recorded. -/
def usedServiceIds (v : GiftVoucherRow) : List String :=
  ((v.redemptions.flatMap (·.services)).map (·.serviceId)).filter (· ≠ "")

/-- The gifted services that no redemption has recorded. -/
def remainingServiceIds (v : GiftVoucherRow) : List String :=
  (giftedIds v).filter (· ∉ usedServiceIds v)

end Voucher
