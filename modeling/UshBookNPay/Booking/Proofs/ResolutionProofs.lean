import UshBookNPay.Booking.SessionRequests
import UshBookNPay.Common.Proofs.JsonProofs
import UshBookNPay.Lib.Fallible
import Mathlib.Data.List.Dedup

/-!
# What a requested service resolves to

The price and the duration of an entry, and how far they depend on what the client has sent.
-/

namespace Booking

variable {s s' : BookingServiceItem} {db arr : Dict} {loyal full : Bool} {e e' : ServiceEntry}

/-! ## Dicts -/

theorem sameBut_setField {fields : List String} {key : String} (hkey : key ∈ fields) (d : Dict)
    (value : Json) : SameBut fields d (Json.setField d key value) := by
  intro k hk
  have hne : k ≠ key := fun h => hk (h ▸ hkey)
  rw [Json.lookup_setField, if_neg hne]

theorem SameBut.refl (fields : List String) (d : Dict) : SameBut fields d d := fun _ _ => rfl

theorem lookup_takeOver {key : String} (h : present db key ≠ none) (d : Dict) :
    (takeOver db d key).lookup key = present db key := by
  obtain ⟨value, hvalue⟩ := Option.ne_none_iff_exists'.mp h
  unfold takeOver
  rw [hvalue]
  dsimp only
  rw [Json.lookup_setField, if_pos rfl]

theorem lookup_takeOver_of_ne {key k : String} (h : k ≠ key) (d : Dict) :
    (takeOver db d key).lookup k = d.lookup k := by
  unfold takeOver
  cases present db key with
  | none => rfl
  | some value =>
    dsimp only
    rw [Json.lookup_setField, if_neg h]

/-- The rate of extra time is the one of ushauth. -/
theorem lookup_serviceDataOf {computed points : Dict} {key : String}
    (hkey : key = "extra_minutes" ∨ key = "price_for_extra_minutes")
    (hdb : present db key ≠ none) :
    (serviceDataOf s db computed points true).lookup key = present db key := by
  unfold serviceDataOf
  dsimp only
  rw [if_pos rfl]
  rcases hkey with rfl | rfl
  · rw [lookup_takeOver_of_ne (by decide), lookup_takeOver hdb]
  · rw [lookup_takeOver hdb]

/-! ## _build_one -/

/-- What has been computed for an entry. -/
theorem buildOne_spec (h : buildOne s db arr loyal full = .ok e) :
    chosenDuration s db = .ok e.durationMinutes ∧
      e.basePrice = money (toDec (some (chosenPrice s db))) ∧
      e.serviceId = some (s.serviceId.getD s.freshId) ∧ e.packageId = none ∧
      ∃ computed points, e.serviceData = .obj (serviceDataOf s db computed points full) := by
  unfold buildOne at h
  dsimp only at h
  obtain ⟨_, -, h⟩ := Fallible.bind_eq_ok.mp h
  obtain ⟨_, -, h⟩ := Fallible.bind_eq_ok.mp h
  obtain ⟨_, -, h⟩ := Fallible.bind_eq_ok.mp h
  obtain ⟨_, -, h⟩ := Fallible.bind_eq_ok.mp h
  obtain ⟨d, hd, h⟩ := Fallible.bind_eq_ok.mp h
  obtain rfl := Fallible.pure_eq_ok.mp h
  exact ⟨hd, rfl, rfl, rfl, _, _, rfl⟩

/-- An entry without what depends on prices and durations. -/
def outline (e : ServiceEntry) : ServiceEntry :=
  { e with serviceData := .obj [], basePrice := 0, durationMinutes := 0, componentPrice := 0 }

/-- What the entry of a service has apart from its data, its price and its duration. -/
def outlineOf (s : BookingServiceItem) (arr : Dict) (loyaltyPoints priceInPoints : Json) :
    ServiceEntry :=
  { serviceId := some (s.serviceId.getD s.freshId)
    serviceArrangementId := s.serviceArrangementId
    serviceArrangementData := entryArrangementData s arr loyaltyPoints priceInPoints }

theorem buildOne_of {lp pp d : ℤ} {alp app : Json}
    (h1 : servicePoints (present db "loyalty_points") s.loyaltyPoints
      (s.serviceData.lookup "loyalty_points") = .ok lp)
    (h2 : servicePoints (present db "price_in_points") s.priceInPoints
      (s.serviceData.lookup "price_in_points") = .ok pp)
    (h3 : arrangementPoints (present (arrangementService s arr) "loyalty_points")
      s.arrangementLoyaltyPoints (s.serviceArrangementData.lookup "loyalty_points") = .ok alp)
    (h4 : arrangementPoints (present (arrangementService s arr) "price_in_points")
      s.arrangementPriceInPoints (s.serviceArrangementData.lookup "price_in_points") = .ok app)
    (h5 : chosenDuration s db = .ok d) :
    ∃ e, buildOne s db arr loyal full = .ok e ∧ e.durationMinutes = d ∧
      outline e = outlineOf s arr (if loyal then .num "0" else alp) app := by
  unfold buildOne
  dsimp only
  rw [h1, h2, h3, h4, h5]
  exact ⟨_, rfl, rfl, rfl⟩

/-- Where the duration can be read, a service that differs in prices and durations only resolves to an
entry that does. -/
theorem buildOne_same (hs : SameService s s') (h : buildOne s db arr loyal full = .ok e)
    {d : ℤ} (hd : chosenDuration s' db = .ok d) :
    ∃ e', buildOne s' db arr loyal full = .ok e' ∧ e'.durationMinutes = d ∧
      outline e' = outline e := by
  obtain ⟨hsame, hs'⟩ := hs
  have h1 := hsame "loyalty_points" (by decide)
  have h2 := hsame "price_in_points" (by decide)
  unfold buildOne at h
  dsimp only at h
  obtain ⟨lp, hlp, h⟩ := Fallible.bind_eq_ok.mp h
  obtain ⟨pp, hpp, h⟩ := Fallible.bind_eq_ok.mp h
  obtain ⟨alp, halp, h⟩ := Fallible.bind_eq_ok.mp h
  obtain ⟨app, happ, h⟩ := Fallible.bind_eq_ok.mp h
  obtain ⟨d₀, -, h⟩ := Fallible.bind_eq_ok.mp h
  obtain rfl := Fallible.pure_eq_ok.mp h
  rw [h1] at hlp
  rw [h2] at hpp
  generalize hsd : s'.serviceData = sd at hs' hlp hpp
  generalize s'.basePrice = price at hs'
  generalize s'.baseDuration = duration at hs'
  subst hs'
  exact buildOne_of (s := { s with
    basePrice := price, baseDuration := duration, serviceData := sd }) hlp hpp halp happ hd

/-! ## Choices -/

theorem orElse_of_truthy {value : Json} (h : value.truthy) (rest : List (Option Json))
    (default : Json) : orElse (some value :: rest) default = value := by
  unfold orElse
  simp [h]

theorem orElse_of_falsy {o : Option Json} (h : ¬ o.any Json.truthy) (rest : List (Option Json))
    (default : Json) : orElse (o :: rest) default = orElse rest default := by
  unfold orElse
  cases o with
  | none => simp
  | some value =>
    have hvalue : value.truthy = false := by simpa using h
    simp [hvalue]

/-- With a duration of ushauth a duration can be read, whatever the client has sent. -/
theorem chosenDuration_isOk {value : Json} {n : ℤ} (hlookup : db.lookup "duration_minutes" = some value)
    (htruthy : value.truthy) (hint : intOf value = .ok n) : ∃ d, chosenDuration s db = .ok d := by
  unfold chosenDuration
  dsimp only
  split_ifs
  · exact ⟨_, rfl⟩
  · rw [hlookup, orElse_of_truthy htruthy]
    exact ⟨n, hint⟩

theorem chosenDuration_own {n : ℕ} (h : s.baseDuration = some n) (hn : n ≠ 0) :
    chosenDuration s db = .ok n := by
  unfold chosenDuration
  dsimp only
  rw [h]
  exact if_pos hn

/-! ## Packages -/

theorem packageInfo_spec {up : Records} {id : Uuid} {refs : List ((ℕ × ℕ) × Uuid)} {info : PackageInfo}
    (h : packageInfo up id refs = .ok info) :
    ∃ package, up.service id = some package ∧ info.durations = listedDurations package ∧
      info.price = toDec (package.lookup "base_price") ∧ info.carrier = firstPlace (refs.map (·.1)) ∧
      (refs.map fun ref => uuidStr ref.2).Perm
        ((includedServices package).map fun c => textOf (c.lookup "id")) := by
  unfold packageInfo at h
  cases hpackage : up.service id with
  | none =>
    rw [hpackage] at h
    cases h
  | some package =>
    rw [hpackage] at h
    dsimp only at h
    split_ifs at h with hflag hempty hperm
    cases h
    exact ⟨package, rfl, rfl, rfl, rfl, List.isPerm_iff.mp hperm⟩

/-- What is computed for each id is found under it. -/
theorem lookup_of_mapM {α : Type} {f : Uuid → Except Error α} {ids : List Uuid}
    {ctx : List (Uuid × α)} (h : ids.mapM (fun id => do
      let info ← f id
      pure (id, info)) = .ok ctx) {id : Uuid} (hid : id ∈ ids) :
    ∃ info, f id = .ok info ∧ ctx.lookup id = some info := by
  induction ids generalizing ctx with
  | nil => cases hid
  | cons k ids ih =>
    rw [List.mapM_cons] at h
    obtain ⟨pair, hpair, h⟩ := Fallible.bind_eq_ok.mp h
    obtain ⟨rest, hrest, h⟩ := Fallible.bind_eq_ok.mp h
    obtain ⟨info, hinfo, hpair⟩ := Fallible.bind_eq_ok.mp hpair
    obtain rfl := Fallible.pure_eq_ok.mp hpair
    obtain rfl := Fallible.pure_eq_ok.mp h
    by_cases hk : id = k
    · subst hk
      exact ⟨info, hinfo, by simp⟩
    · have hmem : id ∈ ids := (List.mem_cons.mp hid).resolve_left hk
      obtain ⟨info', hinfo', hlookup⟩ := ih hrest hmem
      have hbeq : (id == k) = false := by simpa using hk
      refine ⟨info', hinfo', ?_⟩
      rw [List.lookup_cons, hbeq]
      exact hlookup

/-- What is found under an id has been computed for it. -/
theorem of_lookup_mapM {α : Type} {f : Uuid → Except Error α} {ids : List Uuid}
    {ctx : List (Uuid × α)} (h : ids.mapM (fun id => do
      let info ← f id
      pure (id, info)) = .ok ctx) {id : Uuid} {info : α} (hlookup : ctx.lookup id = some info) :
    id ∈ ids ∧ f id = .ok info := by
  have hmem : (id, info) ∈ ctx := by
    obtain ⟨before, after, hsplit, -⟩ := List.lookup_eq_some_iff.mp hlookup
    rw [hsplit]
    simp
  obtain ⟨k, hk, hpair⟩ := Fallible.mem_of_mapM_eq_ok h hmem
  obtain ⟨value, hvalue, hpair⟩ := Fallible.bind_eq_ok.mp hpair
  cases Fallible.pure_eq_ok.mp hpair
  exact ⟨hk, hvalue⟩

/-- A component stands in the list under its place. -/
theorem mk_mem_packageRefs {items : List (List BookingServiceItem)}
    {services : List BookingServiceItem} {i j : ℕ} (hi : items[i]? = some services)
    (hj : services[j]? = some s) {packageId serviceId : Uuid} (hpackage : s.packageId = some packageId)
    (hservice : s.serviceId = some serviceId) :
    (packageId, (i, j), serviceId) ∈ packageRefs items := by
  refine List.mem_flatMap.mpr ⟨(services, i), List.mk_mem_zipIdx_iff_getElem?.mpr hi, ?_⟩
  refine List.mem_filterMap.mpr ⟨(s, j), List.mk_mem_zipIdx_iff_getElem?.mpr hj, ?_⟩
  dsimp only
  rw [hpackage, hservice]

theorem mem_packageRefs {items : List (List BookingServiceItem)} {services : List BookingServiceItem}
    (hservices : services ∈ items) (hs : s ∈ services) {packageId serviceId : Uuid}
    (hpackage : s.packageId = some packageId) (hservice : s.serviceId = some serviceId) :
    packageId ∈ (packageRefs items).map (·.1) := by
  obtain ⟨i, hi⟩ := List.mem_iff_getElem?.mp hservices
  obtain ⟨j, hj⟩ := List.mem_iff_getElem?.mp hs
  exact List.mem_map.mpr ⟨_, mk_mem_packageRefs hi hj hpackage hservice, rfl⟩

/-- A component of a package finds the durations of its package. -/
theorem lookup_resolvePackageContext {up : Records} {items : List (List BookingServiceItem)}
    {ctx : List (Uuid × PackageInfo)} (h : resolvePackageContext up items = .ok ctx)
    {services : List BookingServiceItem} (hservices : services ∈ items) (hs : s ∈ services)
    {packageId serviceId : Uuid} (hpackage : s.packageId = some packageId)
    (hservice : s.serviceId = some serviceId) :
    ∃ package info, up.service packageId = some package ∧ ctx.lookup packageId = some info ∧
      info.durations = listedDurations package := by
  have hmem : packageId ∈ ((packageRefs items).map (·.1)).reverse.dedup.reverse := by
    rw [List.mem_reverse, List.mem_dedup, List.mem_reverse]
    exact mem_packageRefs hservices hs hpackage hservice
  obtain ⟨info, hinfo, hlookup⟩ := lookup_of_mapM h hmem
  obtain ⟨package, hup, hdurations, -⟩ := packageInfo_spec hinfo
  exact ⟨package, info, hup, hlookup, hdurations⟩

/-- An entry without its data, which nothing is computed from. -/
def bareEntry (e : ServiceEntry) : ServiceEntry :=
  { e with serviceData := .obj [], componentPrice := 0 }

theorem bareEntry_eq {e e' : ServiceEntry} (houtline : outline e' = outline e)
    (hprice : e'.basePrice = e.basePrice) (hduration : e'.durationMinutes = e.durationMinutes) :
    bareEntry e' = bareEntry e := by
  have h : ∀ x : ServiceEntry, bareEntry x =
      { outline x with basePrice := x.basePrice, durationMinutes := x.durationMinutes } := fun _ => rfl
  rw [h, h, houtline, hprice, hduration]

section Package

variable {packageId : Uuid} {info : PackageInfo} {place : ℕ × ℕ} {x x' : ServiceEntry}

/-- The package lists a duration for the service. -/
def Timed (info : PackageInfo) (serviceId : Option Uuid) : Prop :=
  ((info.durations.lookup ((serviceId.map uuidStr).getD "")).bind id).any Json.truthy

theorem Timed.exists {serviceId : Option Uuid} (h : Timed info serviceId) :
    ∃ value, info.durations.lookup ((serviceId.map uuidStr).getD "") = some (some value) ∧
      value.truthy := by
  unfold Timed at h
  cases hlookup : info.durations.lookup ((serviceId.map uuidStr).getD "") with
  | none => simp [hlookup] at h
  | some o =>
    cases o with
    | none => simp [hlookup] at h
    | some value => exact ⟨value, rfl, by simpa [hlookup] using h⟩

/-- What a package makes of an entry. -/
theorem applyPackage_spec (h : applyPackage packageId info place e = .ok x) :
    x.packageId = some packageId ∧
      x.basePrice = (if info.carrier = place then money info.price else 0) ∧
      x.serviceData = Json.withFields (some e.serviceData)
        [("package_id", .str (uuidStr packageId)), ("package_name", info.name)] ∧
      (¬ Timed info e.serviceId → x.durationMinutes = e.durationMinutes) := by
  unfold applyPackage at h
  obtain ⟨d, hd, h⟩ := Fallible.bind_eq_ok.mp h
  obtain rfl := Fallible.pure_eq_ok.mp h
  refine ⟨rfl, rfl, rfl, fun hnot => ?_⟩
  unfold Timed at hnot
  show d = e.durationMinutes
  cases hlookup : info.durations.lookup ((e.serviceId.map uuidStr).getD "") with
  | none =>
    rw [hlookup] at hd
    cases hd
    rfl
  | some o =>
    cases o with
    | none =>
      rw [hlookup] at hd
      cases hd
      rfl
    | some value =>
      rw [hlookup] at hd hnot
      have hfalsy : ¬ value.truthy := by simpa using hnot
      dsimp only at hd
      rw [if_neg hfalsy] at hd
      cases hd
      rfl

/-- A package that lists a duration sets the price and the duration of its component, whatever they
were. -/
theorem applyPackage_same (h : applyPackage packageId info place e = .ok x)
    (houtline : outline e' = outline e) (htimed : Timed info e.serviceId) :
    ∃ x', applyPackage packageId info place e' = .ok x' ∧ bareEntry x' = bareEntry x := by
  obtain ⟨value, hlookup, htruthy⟩ := htimed.exists
  have hid : e'.serviceId = e.serviceId := congrArg (·.serviceId) houtline
  have hlookup' : info.durations.lookup ((e'.serviceId.map uuidStr).getD "") = some (some value) := by
    rw [hid]
    exact hlookup
  unfold applyPackage at h ⊢
  rw [hlookup] at h
  rw [hlookup']
  dsimp only at h ⊢
  rw [if_pos htruthy] at h ⊢
  obtain ⟨d, hd, h⟩ := Fallible.bind_eq_ok.mp h
  obtain rfl := Fallible.pure_eq_ok.mp h
  rw [hd]
  refine ⟨_, rfl, bareEntry_eq ?_ rfl rfl⟩
  exact congrArg (fun y : ServiceEntry => { y with
    packageId := some packageId
    packageName := info.name
    packagePrice := money info.price }) houtline

end Package

/-! ## An entry of a session -/

/-- The entry of the service at the place `(i, j)`, resolved and priced. -/
def entryOf (up : Records) (ctx : List (Uuid × PackageInfo)) (loyal : Bool) (i j : ℕ)
    (s : BookingServiceItem) : Except Error ServiceEntry := do
  let e ← buildOne s (up.serviceData s.serviceId) (up.arrangementData s.serviceArrangementId) loyal true
  applyPackageContext ctx s i j e

variable {up : Records} {ctx : List (Uuid × PackageInfo)} {i j : ℕ}

/-- What the context knows of the packages of a service. -/
def InContext (up : Records) (ctx : List (Uuid × PackageInfo)) (s : BookingServiceItem) : Prop :=
  ∀ packageId, s.packageId = some packageId → ∃ package info, up.service packageId = some package ∧
    ctx.lookup packageId = some info ∧ info.durations = listedDurations package

/-- A service that is no component of a package keeps its own price and duration. -/
theorem entryOf_plain (hnone : s.packageId = none) (h : entryOf up ctx loyal i j s = .ok e) :
    buildOne s (up.serviceData s.serviceId) (up.arrangementData s.serviceArrangementId) loyal true =
      .ok e := by
  unfold entryOf applyPackageContext at h
  obtain ⟨e₀, he₀, h⟩ := Fallible.bind_eq_ok.mp h
  rw [hnone] at h
  cases h
  exact he₀

/-- The entry of a component, taken apart. -/
theorem entryOf_component {packageId : Uuid} {info : PackageInfo} (hpackage : s.packageId = some packageId)
    (hinfo : ctx.lookup packageId = some info) (h : entryOf up ctx loyal i j s = .ok e) :
    ∃ e₀, buildOne s (up.serviceData s.serviceId) (up.arrangementData s.serviceArrangementId) loyal
      true = .ok e₀ ∧ applyPackage packageId info (i, j) e₀ = .ok e := by
  unfold entryOf applyPackageContext at h
  obtain ⟨e₀, he₀, h⟩ := Fallible.bind_eq_ok.mp h
  rw [hpackage] at h
  dsimp only at h
  rw [hinfo] at h
  exact ⟨e₀, he₀, h⟩

/-- The records list the service. -/
def ServiceKnown (up : Records) (s : BookingServiceItem) : Prop :=
  ∃ id service, s.serviceId = some id ∧ up.service id = some service ∧ ServiceListed service

theorem ServiceKnown.serviceData (h : ServiceKnown up s) :
    ServiceListed (up.serviceData s.serviceId) ∧ s.serviceId ≠ none := by
  obtain ⟨id, service, hid, hservice, hlisted⟩ := h
  have heq : up.serviceData s.serviceId = service := by
    unfold Records.serviceData
    rw [hid]
    show (up.service id).getD [] = service
    rw [hservice]
    rfl
  rw [heq]
  exact ⟨hlisted, by rw [hid]; exact Option.some_ne_none id⟩

theorem lookup_of_present {d : Dict} {key : String} {value : Json} (h : present d key = some value) :
    d.lookup key = some value := by
  unfold present at h
  split at h
  · cases h
  · exact h

/-- The entry of a service that a package prices and times does not depend on what the client says of
prices and durations. -/
theorem entryOf_same (hctx : InContext up ctx s) (hlisted : ServiceKnown up s)
    (hpriced : PackagePriced up s) (hs : SameService s s') (h : entryOf up ctx loyal i j s = .ok e) :
    ∃ e', entryOf up ctx loyal i j s' = .ok e' ∧ bareEntry e' = bareEntry e ∧ e.packageId ≠ none := by
  obtain ⟨packageId, package, hpackage, hup, htimed, htruthy⟩ := hpriced
  obtain ⟨package', info, hup', hinfo, hdurations⟩ := hctx packageId hpackage
  obtain rfl : package = package' := Option.some.inj (hup.symm.trans hup')
  obtain ⟨⟨-, ⟨value, n, hvalue, hint⟩, -, -⟩, hid⟩ := hlisted.serviceData
  obtain ⟨serviceId, hserviceId⟩ := Option.ne_none_iff_exists'.mp hid
  have hlookup := lookup_of_present hvalue
  have hvalueTruthy : value.truthy := by simpa [hlookup] using htruthy
  obtain ⟨e₀, he₀, happly⟩ := entryOf_component hpackage hinfo h
  obtain ⟨-, -, hentry, -⟩ := buildOne_spec he₀
  have hs' := hs.2
  have hid' : s'.serviceId = s.serviceId := congrArg (·.serviceId) hs'
  have harr' : s'.serviceArrangementId = s.serviceArrangementId :=
    congrArg (·.serviceArrangementId) hs'
  have hpackage' : s'.packageId = some packageId :=
    (congrArg (·.packageId) hs').trans hpackage
  obtain ⟨d, hd⟩ := chosenDuration_isOk (s := s') hlookup hvalueTruthy hint
  obtain ⟨e₀', he₀', -, houtline⟩ := buildOne_same hs he₀ hd
  have htimed' : Timed info e₀.serviceId := by
    unfold Timed
    rw [hentry, hserviceId, hdurations]
    rw [hserviceId] at htimed
    exact htimed
  obtain ⟨e', he', hbare⟩ := applyPackage_same happly houtline htimed'
  refine ⟨e', ?_, hbare, ?_⟩
  · unfold entryOf applyPackageContext
    rw [hid', harr', he₀', hpackage']
    dsimp only [bind, Except.bind]
    rw [hinfo]
    exact he'
  · rw [(applyPackage_spec happly).1]
    exact Option.some_ne_none packageId

/-- The rate of extra time of an entry is the one of ushauth. -/
theorem entryOf_rate (hctx : InContext up ctx s) (hlisted : ServiceKnown up s)
    (h : entryOf up ctx loyal i j s = .ok e) {key : String}
    (hkey : key = "extra_minutes" ∨ key = "price_for_extra_minutes") :
    e.serviceData.field? key = present (up.serviceData s.serviceId) key := by
  obtain ⟨⟨-, -, hminutes, hprice⟩, -⟩ := hlisted.serviceData
  have hdb : present (up.serviceData s.serviceId) key ≠ none := by
    rcases hkey with rfl | rfl
    · exact hminutes
    · exact hprice
  have hdata : ∀ e₀, buildOne s (up.serviceData s.serviceId)
      (up.arrangementData s.serviceArrangementId) loyal true = .ok e₀ →
      ∃ d : Dict, e₀.serviceData = .obj d ∧
        d.lookup key = present (up.serviceData s.serviceId) key := by
    intro e₀ he₀
    obtain ⟨-, -, -, -, computed, points, hdata⟩ := buildOne_spec he₀
    exact ⟨_, hdata, lookup_serviceDataOf hkey hdb⟩
  cases hpackage : s.packageId with
  | none =>
    obtain ⟨d, hd, hlookup⟩ := hdata e (entryOf_plain hpackage h)
    rw [hd]
    exact hlookup
  | some packageId =>
    obtain ⟨-, info, -, hinfo, -⟩ := hctx packageId hpackage
    obtain ⟨e₀, he₀, happly⟩ := entryOf_component hpackage hinfo h
    obtain ⟨d, hd, hlookup⟩ := hdata e₀ he₀
    obtain ⟨-, -, hfields, -⟩ := applyPackage_spec happly
    have hne : key ≠ "package_id" ∧ key ≠ "package_name" := by
      rcases hkey with rfl | rfl
      · decide
      · decide
    rw [hfields, hd]
    show (Json.setField (Json.setField d "package_id" _) "package_name" _).lookup key = _
    rw [Json.lookup_setField, if_neg hne.2, Json.lookup_setField, if_neg hne.1]
    exact hlookup

/-! ## Add-ons -/

theorem SameBut.requestedAddonId {a a' : Dict} (h : SameBut ADDON_PRICE_FIELDS a a') :
    requestedAddonId a' = requestedAddonId a := by
  unfold Booking.requestedAddonId
  rw [h "addon_id" (by decide), h "id" (by decide)]

theorem lookup_enrichAddon {arr a d : Dict} (hlisted : listedAddon arr (requestedAddonId a) = some d)
    {key : String} (hkey : key ∈ ["price", "duration_minutes"]) (hd : present d key ≠ none) :
    (enrichAddon arr a).lookup key = present d key := by
  unfold enrichAddon
  rw [hlisted]
  dsimp only
  rcases List.mem_cons.mp hkey with rfl | hkey
  · rw [lookup_takeOver_of_ne (by decide), lookup_takeOver hd]
  · obtain rfl := List.mem_singleton.mp hkey
    rw [lookup_takeOver hd]

/-- What the client says of the duration of an add-on under another name is kept. -/
theorem lookup_enrichAddon_duration {arr a d : Dict}
    (hlisted : listedAddon arr (requestedAddonId a) = some d) :
    (enrichAddon arr a).lookup "duration" = a.lookup "duration" := by
  unfold enrichAddon
  rw [hlisted]
  dsimp only
  rw [lookup_takeOver_of_ne (by decide), lookup_takeOver_of_ne (by decide), Json.lookup_setField,
    if_neg (by decide)]

/-- The price and the duration of an add-on are those of ushauth, where it lists a duration. -/
theorem enrichAddon_same {arr a a' : Dict} (hlisted : AddonListed arr a) (htimed : AddonTimed arr a)
    (h : SameBut ADDON_PRICE_FIELDS a a') :
    addonPrice (.obj (enrichAddon arr a')) = addonPrice (.obj (enrichAddon arr a)) ∧
      addonDuration (.obj (enrichAddon arr a')) = addonDuration (.obj (enrichAddon arr a)) := by
  obtain ⟨d, hd, hprice, hduration⟩ := hlisted.listed
  have hd' : listedAddon arr (requestedAddonId a') = some d := by rw [h.requestedAddonId, hd]
  have hlookup : ∀ key ∈ ["price", "duration_minutes"], present d key ≠ none →
      (Json.obj (enrichAddon arr a')).field? key = present d key ∧
        (Json.obj (enrichAddon arr a)).field? key = present d key := fun key hkey hne =>
    ⟨lookup_enrichAddon hd' hkey hne, lookup_enrichAddon hd hkey hne⟩
  obtain ⟨hp', hp⟩ := hlookup "price" (by simp) hprice
  obtain ⟨hm', hm⟩ := hlookup "duration_minutes" (by simp) hduration
  have htruthy : (present d "duration_minutes").any Json.truthy := by
    obtain ⟨value, hvalue⟩ := Option.ne_none_iff_exists'.mp hduration
    rw [hvalue]
    unfold AddonTimed at htimed
    rw [hd] at htimed
    simpa [lookup_of_present hvalue] using htimed
  constructor
  · unfold addonPrice
    rw [hp', hp]
  · unfold addonDuration
    rw [hm', hm]
    unfold Voucher.fieldOr
    rw [if_pos htruthy, if_pos htruthy]

end Booking
