import UshBookNPay.Booking.Sessions

/-!
# Services of a session request

What a requested service is merged to with the data of ushauth, and the rules for a package that is
booked by its components.
-/

open Voucher (fieldOr)

namespace Booking

/-- A dict of JSON values. -/
abbrev Dict := List (String × Json)

/-- `d.get(key)`, where the key is there with a value other than `None`. -/
def present (d : Dict) (key : String) : Option Json :=
  match d.lookup key with
  | some .null => none
  | value => value

/-- `d[key] = db[key]`, where `db` has a value there. -/
def takeOver (db d : Dict) (key : String) : Dict :=
  match present db key with
  | some value => Json.setField d key value
  | none => d

/-- The first value that is truthy, or the last resort: `a or b or default`. -/
def orElse (values : List (Option Json)) (default : Json) : Json :=
  ((values.filterMap id).find? Json.truthy).getD default

/-- `int(value)` -/
def intOf (value : Json) : Except Error ℤ :=
  match value with
  | .num lexeme => match parseDecimal lexeme with
    | some x => .ok (x.unscaled.tdiv (10 ^ x.decimals))
    | none => .error (.valueError ("cannot convert float " ++ lexeme ++ " to integer"))
  | .str s => match parseInteger s with
    | some n => .ok n
    | none => .error (.valueError ("invalid literal for int() with base 10: " ++ Json.reprText s))
  | .bool b => .ok (if b then 1 else 0)
  | _ => .error .typeError

/-! ## What is requested and what ushauth knows -/

/-- `BookingServiceItem`; `freshId` is the id drawn for a service that comes without one. -/
structure BookingServiceItem where
  serviceId : Option Uuid := none
  freshId : Uuid := 0
  serviceName : Option String := none
  serviceCategory : Option String := none
  serviceData : Dict := []
  serviceArrangementId : Option Uuid := none
  arrangementName : Option String := none
  arrangementType : Option String := none
  roomName : Option String := none
  serviceArrangementData : Dict := []
  basePrice : Option Json := none
  baseDuration : Option ℕ := none
  isEligibleForLoyalty : Bool := false
  loyaltyPoints : ℕ := 0
  arrangementLoyaltyPoints : Option ℕ := none
  priceInPoints : ℕ := 0
  arrangementPriceInPoints : Option ℕ := none
  packageId : Option Uuid := none
  deriving DecidableEq

/-- The records of ushauth; `none` is a call that fails. -/
structure Records where
  service : Uuid → Option Dict
  arrangement : Uuid → Option Dict

/-- The record of a service, empty where there is none. -/
def Records.serviceData (up : Records) (id : Option Uuid) : Dict := (id.bind up.service).getD []

def Records.arrangementData (up : Records) (id : Option Uuid) : Dict :=
  (id.bind up.arrangement).getD []

/-- The dicts in a list of JSON values. -/
def dictsOf (value : Option Json) : List Dict :=
  match value with
  | some (.arr items) => items.filterMap fun
    | .obj fields => some fields
    | _ => none
  | _ => []

/-- `str(value)` of a field that may be missing -/
def textOf (value : Option Json) : String := (value.getD .null).text

/-! ## _build_one -/

/-- The points of a service: those of ushauth, of the item or of the data the client has sent. -/
def servicePoints (db : Option Json) (item : ℕ) (client : Option Json) : Except Error ℤ := do
  let known ← (match db with
    | some value => intOf value
    | none => .ok 0)
  if 0 < known then pure known
  else if 0 < item then pure item
  else intOf (orElse [client] (.num "0"))

/-- The points of an arrangement, which overrides those of the service. -/
def arrangementPoints (db : Option Json) (item : Option ℕ) (client : Option Json) :
    Except Error Json := do
  let known ← (match db with
    | some value => intOf value
    | none => .ok 0)
  if 0 < known then pure (.num (toString known))
  else match item with
    | some points => pure (.num (toString points))
    | none => pure (client.getD .null)

/-- The entry of the service in its arrangement. -/
def arrangementService (item : BookingServiceItem) (dbArrangement : Dict) : Dict :=
  match item.serviceId with
  | some id => ((dictsOf (dbArrangement.lookup "arrangement_services")).find? fun a =>
      textOf (a.lookup "service_id") = uuidStr id).getD []
  | none => []

def optionText (id : Option Uuid) : Json := .str ((id.map uuidStr).getD "")

/-- The price: of the item, of ushauth or of the data of the client. -/
def chosenPrice (item : BookingServiceItem) (dbService : Dict) : Json :=
  orElse [item.basePrice, dbService.lookup "base_price", item.serviceData.lookup "base_price"]
    (.str "0")

/-- The duration: of the item, of ushauth or of the data of the client. -/
def chosenDuration (item : BookingServiceItem) (dbService : Dict) : Except Error ℤ :=
  let own := item.baseDuration.getD 0
  if own ≠ 0 then .ok own
  else intOf (orElse [dbService.lookup "duration_minutes", item.serviceData.lookup "base_duration",
    item.serviceData.lookup "duration"] (.num "60"))

/-- The stored data of a service. Sessions store the record of ushauth too; what is computed or sent by
the client keeps precedence over it, but for the rate of extra time. -/
def serviceDataOf (item : BookingServiceItem) (dbService : Dict) (computed : Dict)
    (points : Dict) (fullDetails : Bool) : Dict :=
  let merge := fun d fields : Dict => fields.foldl (fun acc kv => Json.setField acc kv.1 kv.2) d
  let own := merge (merge computed item.serviceData) points
  if fullDetails then
    takeOver dbService (takeOver dbService (merge dbService own) "extra_minutes")
      "price_for_extra_minutes"
  else own

/-- The stored data of the arrangement of a service. -/
def entryArrangementData (item : BookingServiceItem) (dbArrangement : Dict)
    (loyaltyPoints priceInPoints : Json) : Json :=
  let ad := item.serviceArrangementData
  let arrangementType := orElse [item.arrangementType.map .str,
    dbArrangement.lookup "arrangement_type", ad.lookup "arrangement_type", ad.lookup "type"] (.str "")
  let roomName := orElse [item.roomName.map .str, item.arrangementName.map .str,
    dbArrangement.lookup "name", ad.lookup "arrangement_name", ad.lookup "room_name",
    ad.lookup "name"] (.str "")
  Json.withFields (some (Json.withFields
    (some (.obj [("id", optionText item.serviceArrangementId), ("arrangement_type", arrangementType),
      ("room_name", roomName), ("arrangement_name", roomName)])) ad))
    [("loyalty_points", loyaltyPoints), ("price_in_points", priceInPoints)]

/-- `_build_one` -/
def buildOne (item : BookingServiceItem) (dbService dbArrangement : Dict) (isLoyaltyBooking : Bool)
    (fullDetails : Bool) : Except Error ServiceEntry := do
  let sd := item.serviceData
  let ad := item.serviceArrangementData
  let override := arrangementService item dbArrangement
  let loyaltyPoints ← servicePoints (present dbService "loyalty_points") item.loyaltyPoints
    (sd.lookup "loyalty_points")
  let priceInPoints ← servicePoints (present dbService "price_in_points") item.priceInPoints
    (sd.lookup "price_in_points")
  let isEligible := match present dbService "is_eligible_for_loyalty" with
    | some value => value.truthy
    | none => item.isEligibleForLoyalty || (sd.lookup "is_eligible_for_loyalty").any Json.truthy
  let arrLoyaltyPoints ← arrangementPoints (present override "loyalty_points")
    item.arrangementLoyaltyPoints (ad.lookup "loyalty_points")
  let arrPriceInPoints ← arrangementPoints (present override "price_in_points")
    item.arrangementPriceInPoints (ad.lookup "price_in_points")
  let serviceName := orElse [item.serviceName.map .str, dbService.lookup "name",
    sd.lookup "service_name", sd.lookup "name"] (.str "")
  let serviceCategory := orElse [item.serviceCategory.map .str, dbService.lookup "category",
    sd.lookup "service_category", sd.lookup "category"] (.str "")
  let basePrice := chosenPrice item dbService
  let baseDuration ← chosenDuration item dbService
  let serviceData := serviceDataOf item dbService
    [("id", optionText item.serviceId), ("name", serviceName), ("category", serviceCategory),
      ("base_price", .str basePrice.text), ("base_duration", .num (toString baseDuration))]
    -- redeeming points to buy a service must never earn points
    [("is_eligible_for_loyalty", .bool (if isLoyaltyBooking then false else isEligible)),
      ("loyalty_points", .num (toString (if isLoyaltyBooking then 0 else loyaltyPoints))),
      ("price_in_points", .num (toString priceInPoints))]
    fullDetails
  let arrangementData := entryArrangementData item dbArrangement
    (if isLoyaltyBooking then .num "0" else arrLoyaltyPoints) arrPriceInPoints
  pure (buildServiceEntry (some (item.serviceId.getD item.freshId)) (.obj serviceData)
    item.serviceArrangementId arrangementData (some (money (toDec (some basePrice)))) baseDuration)

/-! ## resolve_service_entries -/

/-- A service that its arrangement does not offer. -/
def notOffered (up : Records) (item : BookingServiceItem) : Bool :=
  match item.serviceId, item.serviceArrangementId with
  | some id, some arrangementId =>
    let offered := (up.arrangementData (some arrangementId)).lookup "arrangement_services"
    offered.any Json.truthy && ¬ (dictsOf offered).any fun a =>
      ((a.lookup "is_active").getD (.bool true)).truthy ∧
        textOf (a.lookup "service_id") = uuidStr id
  | _, _ => false

/-- The names of the branches of the arrangements. -/
def branchNames (up : Records) (items : List BookingServiceItem) : List String :=
  ((items.filterMap (·.serviceArrangementId)).filterMap fun id =>
    (((up.arrangement id).getD []).lookup "branch_name").filter Json.truthy |>.map fun name =>
      Text.lower (Text.strip name.text)).dedup

/-- `_validate_consistency` -/
def validateConsistency (up : Records) (items : List BookingServiceItem) : Except Error Unit :=
  match items.findIdx? (notOffered up) with
  | some i => .error (.valueError ("services[" ++ toString i ++
      "]: service is not available in the selected arrangement."))
  | none =>
    if 1 < (branchNames up items).length then
      .error (.valueError "All services in a booking must belong to the same branch.")
    else .ok ()

/-- `resolve_service_entries` of a session, which validates a single service too. -/
def resolveServiceEntries (up : Records) (items : List BookingServiceItem) (isLoyaltyBooking : Bool) :
    Except Error (List ServiceEntry) := do
  let entries ← items.mapM fun item => buildOne item (up.serviceData item.serviceId)
    (up.arrangementData item.serviceArrangementId) isLoyaltyBooking true
  validateConsistency up items
  pure entries

/-! ## Packages -/

/-- A package that is booked by its components. -/
structure PackageInfo where
  name : Json
  price : ℚ
  carrier : ℕ × ℕ
  durations : List (String × Option Json)

/-- The services of a request that are components of a package, with their place. -/
def packageRefs (items : List (List BookingServiceItem)) : List (Uuid × (ℕ × ℕ) × Uuid) :=
  items.zipIdx.flatMap fun (services, i) => services.zipIdx.filterMap fun (svc, j) =>
    match svc.packageId, svc.serviceId with
    | some packageId, some serviceId => some (packageId, (i, j), serviceId)
    | _, _ => none

/-- The first place in the order of the sessions. -/
def firstPlace : List (ℕ × ℕ) → ℕ × ℕ
  | [] => (0, 0)
  | place :: rest => rest.foldl (fun p q =>
      if q.1 < p.1 ∨ q.1 = p.1 ∧ q.2 < p.2 then q else p) place

def includedServices (package : Dict) : List Dict := dictsOf (package.lookup "included_services")

/-- What the package says of the durations of its services. -/
def listedDurations (package : Dict) : List (String × Option Json) :=
  (includedServices package).reverse.map fun c =>
    (textOf (c.lookup "id"), c.lookup "duration_minutes")

/-- The context of one package, of which the services `refs` are requested. -/
def packageInfo (up : Records) (id : Uuid) (refs : List ((ℕ × ℕ) × Uuid)) :
    Except Error PackageInfo :=
  match up.service id with
  | none => .error (.valueError ("Package " ++ uuidStr id ++ " could not be loaded."))
  | some package =>
    if ¬ (package.lookup "is_packaged_services").any Json.truthy then
      .error (.valueError ("Service " ++ uuidStr id ++ " is not a package."))
    else if includedServices package = [] then
      .error (.valueError ("Package '" ++ ((package.lookup "name").getD (.str (uuidStr id))).text ++
        "' has no included services."))
    else if ¬ (refs.map fun ref => uuidStr ref.2).isPerm
        ((includedServices package).map fun c => textOf (c.lookup "id")) then
      .error (.valueError ("Package '" ++ ((package.lookup "name").getD (.str (uuidStr id))).text ++
        "' must be booked with each of its included services exactly once."))
    else
      .ok
        { name := orElse [package.lookup "name"] (.str "")
          price := toDec (package.lookup "base_price")
          carrier := firstPlace (refs.map (·.1))
          durations := listedDurations package }

/-- `resolve_package_context` -/
def resolvePackageContext (up : Records) (items : List (List BookingServiceItem)) :
    Except Error (List (Uuid × PackageInfo)) :=
  let refs := packageRefs items
  (refs.map (·.1)).reverse.dedup.reverse.mapM fun id => do
    let info ← packageInfo up id ((refs.filter (·.1 = id)).map (·.2))
    pure (id, info)

/-- What the package makes of the entry of one of its components. -/
def applyPackage (id : Uuid) (info : PackageInfo) (place : ℕ × ℕ) (entry : ServiceEntry) :
    Except Error ServiceEntry := do
  let duration ← (match info.durations.lookup ((entry.serviceId.map uuidStr).getD "") with
    | some (some value) => if value.truthy then intOf value else .ok entry.durationMinutes
    | _ => .ok entry.durationMinutes)
  pure { entry with
    packageId := some id
    packageName := info.name
    packagePrice := money info.price
    componentPrice := entry.basePrice
    durationMinutes := duration
    basePrice := if info.carrier = place then money info.price else 0
    serviceData := Json.withFields (some entry.serviceData)
      [("package_id", .str (uuidStr id)), ("package_name", info.name)] }

/-- `apply_package_context` of the entry at the place `(i, j)` -/
def applyPackageContext (ctx : List (Uuid × PackageInfo)) (item : BookingServiceItem) (i j : ℕ)
    (entry : ServiceEntry) : Except Error ServiceEntry :=
  match item.packageId with
  | some id => match ctx.lookup id with
    | some info => applyPackage id info (i, j) entry
    | none => .ok entry
  | none => .ok entry

/-- `_truthy` of `package_rules` -/
def flagged (value : Option Json) : Bool :=
  match value with
  | some v => Text.lower (Text.strip v.text) ∈ ["true", "1", "yes"]
  | none => false

/-- A service that is a package itself. -/
def isWholePackage (e : ServiceEntry) : Bool :=
  e.packageId = none ∧ flagged (e.serviceData.field? "is_packaged_services")

/-- `validate_package_exclusivity`: a package is booked on its own. -/
def validatePackageExclusivity (sessions : List Session) : Except Error Unit :=
  let entries := sessions.flatMap (·.services)
  let whole := entries.filter isWholePackage
  let packageIds := (entries.filterMap (·.packageId) ++ whole.filterMap (·.serviceId)).dedup
  let plain := entries.filter fun e => e.packageId = none ∧ ¬ isWholePackage e
  if packageIds = [] then .ok ()
  else if 1 < packageIds.length ∨ 1 < whole.length then
    .error (.valueError "Only one package can be booked at a time.")
  else if plain ≠ [] then
    .error (.valueError "A package cannot be combined with other services in one booking.")
  else .ok ()

end Booking
