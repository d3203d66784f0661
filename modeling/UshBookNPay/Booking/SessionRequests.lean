import UshBookNPay.Booking.ServiceResolution
import UshBookNPay.Booking.SessionPlanner

/-!
# Session requests

`plan_sessions` from the request as the client sends it: its services and add-ons are merged with the
data of ushauth. The snapshots of the therapists and the starts of the sessions are taken as they
resolve.
-/

namespace Booking

/-- `BookingSessionItem` -/
structure BookingSessionItem where
  sessionId : Uuid
  therapistId : Uuid
  therapistData : Json := .obj []
  secondaryTherapistId : Option Uuid := none
  secondaryTherapistData : Json := .obj []
  serviceArrangementId : Option Uuid := none
  arrangementName : Option String := none
  arrangementType : Option String := none
  roomName : Option String := none
  serviceArrangementData : Dict := []
  services : List BookingServiceItem
  addons : List Dict := []
  extraMinutes : ℕ := 0
  start : Instant
  deriving DecidableEq

/-- What the availability service is asked about a session in a room. -/
structure AvailabilityQuery where
  serviceArrangementId : Uuid
  start : Instant
  duration : ℤ
  therapistId : Option Uuid
  therapistIds : List Uuid
  required : ℕ
  branchId : Option Uuid
  serviceId : Option Uuid
  excludeBookingId : Option Uuid
  allowSingleTherapist : Bool

/-- ushauth: its records, and what it answers about rooms and therapists. -/
structure Ushauth extends Records where
  room : AvailabilityQuery → AvailabilityAnswer
  therapistFree : Uuid → Instant → ℤ → Bool

/-- The arguments of `plan_sessions`. -/
structure SessionsRequest where
  items : List BookingSessionItem
  day : ℤ
  isLoyaltyBooking : Bool := false
  checkAvailability : Bool := true
  branchId : Option Uuid := none
  excludeBookingId : Option Uuid := none

/-! ## _build_one_session -/

/-- The add-on of an arrangement with an id; of two with one id the last counts. -/
def listedAddon (dbArrangement : Dict) (id : String) : Option Dict :=
  (dictsOf (dbArrangement.lookup "addons")).reverse.find? fun a =>
    textOf (Voucher.fieldOr (a.lookup "id") (a.lookup "addon_id")) = id

/-- The id a client gives of an add-on. -/
def requestedAddonId (addon : Dict) : String :=
  (orElse [addon.lookup "addon_id", addon.lookup "id"] (.str "")).text

/-- `_enrich_addons` of one add-on: name, price and duration of ushauth go before those of the
client. -/
def enrichAddon (dbArrangement : Dict) (addon : Dict) : Dict :=
  match listedAddon dbArrangement (requestedAddonId addon) with
  | some db =>
    takeOver db (takeOver db (Json.setField addon "name"
      (orElse [db.lookup "name"] ((addon.lookup "name").getD .null))) "price") "duration_minutes"
  | none => addon

/-- The services of a session, in its arrangement where it has one. -/
def sessionServices (item : BookingSessionItem) : List BookingServiceItem :=
  item.services.map fun s =>
    { s with serviceArrangementId := item.serviceArrangementId.or s.serviceArrangementId }

/-- The stored data of the arrangement of a session. -/
def sessionArrangementData (item : BookingSessionItem) (dbArrangement : Dict)
    (entries : List ServiceEntry) : Json :=
  let data := Json.withFields (some (.obj
    [("id", optionText item.serviceArrangementId),
      ("arrangement_type", orElse [item.arrangementType.map .str,
        dbArrangement.lookup "arrangement_type"] (.str "")),
      ("room_name", orElse [item.roomName.map .str, item.arrangementName.map .str,
        dbArrangement.lookup "name"] (.str "")),
      ("arrangement_name", orElse [item.arrangementName.map .str, item.roomName.map .str,
        dbArrangement.lookup "name"] (.str ""))])) item.serviceArrangementData
  if (data.field? "arrangement_type").any Json.truthy then data
  else Json.withField (some data) "arrangement_type"
    (((entries.head?.bind fun e => e.serviceArrangementData.field? "arrangement_type")).getD (.str ""))

/-- The data of the first service. -/
def primaryData (entries : List ServiceEntry) : Json :=
  (entries.head?.map (·.serviceData)).getD (.obj [])

/-- What a session is built from, once its services are resolved. -/
def partsOf (up : Records) (item : BookingSessionItem) (entries : List ServiceEntry) : SessionParts :=
  let dbArrangement := up.arrangementData item.serviceArrangementId
  let primary := primaryData entries
  { sessionId := item.sessionId
    start := item.start
    therapistId := item.therapistId
    therapistData := item.therapistData
    secondaryTherapistId := item.secondaryTherapistId
    secondaryTherapistData := item.secondaryTherapistData
    arrangementId := item.serviceArrangementId
    arrangementData := sessionArrangementData item dbArrangement entries
    services := entries
    addons := item.addons.map fun a => .obj (enrichAddon dbArrangement a)
    extraMinutes := item.extraMinutes
    extraUnitMinutes := toInt (primary.field? "extra_minutes")
    extraUnitPrice := toDec (primary.field? "price_for_extra_minutes") }

/-- `_build_one_session`, up to `build_session` -/
def sessionParts (up : Records) (ctx : List (Uuid × PackageInfo)) (isLoyaltyBooking : Bool) (i : ℕ)
    (item : BookingSessionItem) : Except Error SessionParts := do
  let services := sessionServices item
  let resolved ← resolveServiceEntries up services isLoyaltyBooking
  let entries ← (services.zip resolved).zipIdx.mapM fun x =>
    applyPackageContext ctx x.1.1 i x.2 x.1.2
  pure (partsOf up item entries)

/-! ## plan_sessions -/

/-- The therapists a session asks for. -/
def askedTherapists (s : Session) : List Uuid := uniqueIds [s.therapistId, s.secondaryTherapistId]

/-- What the availability service answers for a session; without a room only the therapists are asked
for. -/
def availabilityOf (up : Ushauth) (req : SessionsRequest) (s : Session) : AvailabilityAnswer :=
  match s.serviceArrangementId with
  | none => { available := (askedTherapists s).all fun t =>
      up.therapistFree t s.appointmentStart s.totalSessionDuration }
  | some arrangementId =>
    let required := requiredTherapists s.serviceArrangementData
    let asked := askedTherapists s
    up.room
      { serviceArrangementId := arrangementId
        start := s.appointmentStart
        duration := s.totalSessionDuration
        therapistId := s.therapistId
        therapistIds := if 1 < asked.length then asked else []
        required := required
        branchId := req.branchId
        serviceId := (s.services.filterMap (·.serviceId)).head?
        excludeBookingId := req.excludeBookingId
        allowSingleTherapist := 1 < required ∧ s.secondaryTherapistId = none }

/-- The sessions of the request, built one by one. -/
def buildSessions (up : Records) (ctx : List (Uuid × PackageInfo)) (req : SessionsRequest) :
    Except Error (List Session) :=
  req.items.zipIdx.mapM fun (item, i) => do
    let parts ← sessionParts up ctx req.isLoyaltyBooking i item
    buildSession i parts

/-- What `plan_sessions` does with the sessions once they are built. -/
def finishPlan (up : Ushauth) (packaged : Bool) (req : SessionsRequest) (built : List Session) :
    Except Error (List Session) := do
  validatePackageExclusivity built
  let sessions ← validateSessions built
    (if packaged then MAX_PACKAGE_SESSIONS_PER_BOOKING else MAX_SESSIONS_PER_BOOKING)
  if localDay ((sessions.map (·.appointmentStart)).headD 0) ≠ req.day then
    throw (.valueError ("Session times must be on the booking date (" ++ dateStr req.day ++ ")."))
  else if req.checkAvailability then
    checkAll req.excludeBookingId.isSome (sessions.map (availabilityOf up req)) sessions
  else pure sessions

/-- `plan_sessions` -/
def planSessionItems (up : Ushauth) (req : SessionsRequest) : Except Error (List Session) := do
  let ctx ← resolvePackageContext up.toRecords (req.items.map (·.services))
  let built ← buildSessions up.toRecords ctx req
  finishPlan up (ctx ≠ []) req built

/-! ## Prices and durations -/

/-- The fields in which a client may send a price or a duration of a service. -/
def SERVICE_PRICE_FIELDS : List String :=
  ["base_price", "price", "base_duration", "duration", "duration_minutes", "extra_minutes",
    "price_for_extra_minutes"]

/-- Those of an add-on. -/
def ADDON_PRICE_FIELDS : List String := ["price", "duration", "duration_minutes"]

/-- The dicts are equal but for the given fields. -/
def SameBut (fields : List String) (d d' : Dict) : Prop := ∀ key ∉ fields, d.lookup key = d'.lookup key

/-- The requested services are equal but for prices and durations. -/
def SameService (s s' : BookingServiceItem) : Prop :=
  SameBut SERVICE_PRICE_FIELDS s.serviceData s'.serviceData ∧
    s' = { s with
      basePrice := s'.basePrice
      baseDuration := s'.baseDuration
      serviceData := s'.serviceData }

/-- The requested sessions are equal but for prices and durations. -/
def SameSession (item item' : BookingSessionItem) : Prop :=
  List.Forall₂ SameService item.services item'.services ∧
    List.Forall₂ (SameBut ADDON_PRICE_FIELDS) item.addons item'.addons ∧
    item' = { item with services := item'.services, addons := item'.addons }

/-- The requests are equal but for the prices and durations the client has sent. -/
def SameButPrices (req req' : SessionsRequest) : Prop :=
  List.Forall₂ SameSession req.items req'.items ∧ req' = { req with items := req'.items }

/-- The amounts, the durations and the window of a session. -/
structure SessionFigures where
  appointmentStart : Instant
  appointmentEnd : Instant
  servicesPrice : Fils
  addonsPrice : Fils
  priceForExtraMinutes : Fils
  sessionPrice : Fils
  servicesDuration : ℤ
  addonsDuration : ℤ
  extraMinutes : ℤ
  totalSessionDuration : ℤ
  deriving DecidableEq

def figures (s : Session) : SessionFigures :=
  { appointmentStart := s.appointmentStart
    appointmentEnd := s.appointmentEnd
    servicesPrice := s.servicesPrice
    addonsPrice := s.addonsPrice
    priceForExtraMinutes := s.priceForExtraMinutes
    sessionPrice := s.sessionPrice
    servicesDuration := s.servicesDuration
    addonsDuration := s.addonsDuration
    extraMinutes := s.extraMinutes
    totalSessionDuration := s.totalSessionDuration }

/-- The plans agree on prices, durations, windows and totals. -/
def SamePlan (sessions sessions' : List Session) : Prop :=
  sessions.map figures = sessions'.map figures ∧ bookingTotals sessions = bookingTotals sessions'

/-- ushauth lists a service with its price, its duration in minutes and its rate of extra time. -/
structure ServiceListed (service : Dict) : Prop where
  price : present service "base_price" ≠ none
  duration : ∃ value n, present service "duration_minutes" = some value ∧ intOf value = .ok n
  extraMinutes : present service "extra_minutes" ≠ none
  extraPrice : present service "price_for_extra_minutes" ≠ none

/-- ushauth lists an add-on with its price and its duration. -/
structure AddonListed (dbArrangement : Dict) (addon : Dict) : Prop where
  listed : ∃ db, listedAddon dbArrangement (requestedAddonId addon) = some db ∧
    present db "price" ≠ none ∧ present db "duration_minutes" ≠ none

/-- ushauth lists everything the request asks for. -/
def Listed (up : Records) (req : SessionsRequest) : Prop :=
  ∀ item ∈ req.items,
    (∀ s ∈ item.services, ∃ id service, s.serviceId = some id ∧ up.service id = some service ∧
      ServiceListed service) ∧
    ∀ a ∈ item.addons, AddonListed (up.arrangementData item.serviceArrangementId) a

/-- The service is a component of a package that lists a duration for it, and has a duration of its
own. -/
def PackagePriced (up : Records) (s : BookingServiceItem) : Prop :=
  ∃ packageId package, s.packageId = some packageId ∧ up.service packageId = some package ∧
    (((listedDurations package).lookup ((s.serviceId.map uuidStr).getD "")).bind id).any Json.truthy ∧
    ((up.serviceData s.serviceId).lookup "duration_minutes").any Json.truthy

/-- The duration that ushauth lists for an add-on is not zero. -/
def AddonTimed (dbArrangement : Dict) (addon : Dict) : Prop :=
  ((listedAddon dbArrangement (requestedAddonId addon)).bind
    (·.lookup "duration_minutes")).any Json.truthy

/-- Every service of the request is priced and timed by a package, and every add-on timed by ushauth. -/
def ServerPriced (up : Records) (req : SessionsRequest) : Prop :=
  ∀ item ∈ req.items, (∀ s ∈ item.services, PackagePriced up s) ∧
    ∀ a ∈ item.addons, AddonTimed (up.arrangementData item.serviceArrangementId) a

/-! ## Packages booked by their parts -/

/-- Some service of the request is sent as a part of a package. -/
def HasPackageParts (req : SessionsRequest) : Prop :=
  ∃ item ∈ req.items, ∃ s ∈ item.services, s.packageId ≠ none

/-- The entries of a plan in the stored order. -/
def entriesOf (sessions : List Session) : List ServiceEntry := sessions.flatMap (·.services)

/-- The price of a package, to three decimals. -/
def packagePrice (up : Records) (id : Uuid) : Fils :=
  money (toDec ((up.serviceData (some id)).lookup "base_price"))

/-- The ids of the services a package includes. -/
def includedIds (up : Records) (id : Uuid) : List String :=
  (includedServices (up.serviceData (some id))).map fun c => textOf (c.lookup "id")

def entryIdText (e : ServiceEntry) : String := (e.serviceId.map uuidStr).getD ""

/-- What an entry says of its package. -/
def component (e : ServiceEntry) : Option Uuid × Option Uuid × Fils :=
  (e.packageId, e.serviceId, e.basePrice)

/-- The first entry has the price and the others are free. -/
def PricedFirst (price : Fils) (entries : List ServiceEntry) : Prop :=
  ∃ e rest, entries = e :: rest ∧ e.basePrice = price ∧ ∀ e' ∈ rest, e'.basePrice = 0

/-- The plan books one package, part by part, and nothing else. -/
structure PackageBooked (up : Records) (id : Uuid) (P : List Session) : Prop where
  only : ∀ e ∈ entriesOf P, e.packageId = some id
  once : ((entriesOf P).map entryIdText).Perm (includedIds up id)
  price : ((entriesOf P).map (·.basePrice)).sum = packagePrice up id
  first : PricedFirst (packagePrice up id) (entriesOf P)
  totals : (bookingTotals P).servicesPrice = packagePrice up id
  snapshot : (flattenServices P).map component = (entriesOf P).map component

/-- Every service is sent as a part of a package, and the session that is sent first begins no later
than the others, unless the package costs nothing. -/
structure SentInOrder (up : Records) (req : SessionsRequest) : Prop where
  parts : ∀ item ∈ req.items, ∀ s ∈ item.services, s.packageId ≠ none ∧ s.serviceId ≠ none
  order : (∀ item ∈ req.items, ∀ s ∈ item.services, ∀ id ∈ s.packageId, packagePrice up id = 0) ∨
    ∀ first ∈ req.items.head?, ∀ item ∈ req.items, first.start ≤ item.start

end Booking
