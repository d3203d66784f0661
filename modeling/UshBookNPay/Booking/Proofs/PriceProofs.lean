import UshBookNPay.Booking.Proofs.ResolutionProofs
import UshBookNPay.Booking.Proofs.SessionProofs

/-!
# Prices and durations of a plan

A plan is compared with the plan of a request in which the client says something else of prices and
durations.
-/

namespace Booking

variable {up : Ushauth} {ctx : List (Uuid × PackageInfo)} {loyal : Bool} {i : ℕ}
  {item item' : BookingSessionItem} {b b' : Session}

/-! ## The services of a session -/

theorem sessionParts_spec {records : Records} {parts : SessionParts} :
    sessionParts records ctx loyal i item = .ok parts ↔ ∃ entries,
      (sessionServices item).zipIdx.mapM (fun x => entryOf records ctx loyal i x.2 x.1) =
        .ok entries ∧
      validateConsistency records (sessionServices item) = .ok () ∧
      parts = partsOf records item entries := by
  have hfuse : ∀ entries : List ServiceEntry, _ ↔ (sessionServices item).zipIdx.mapM
      (fun x => entryOf records ctx loyal i x.2 x.1) = .ok entries := fun entries =>
    Fallible.mapM_zip (f := fun s => buildOne s (records.serviceData s.serviceId)
      (records.arrangementData s.serviceArrangementId) loyal true)
      (g := fun s e j => applyPackageContext ctx s i j e) (l := sessionServices item) (n := 0)
  unfold sessionParts resolveServiceEntries
  dsimp only
  constructor
  · intro h
    obtain ⟨resolved, hresolved, h⟩ := Fallible.bind_eq_ok.mp h
    obtain ⟨mid, hmid, hresolved⟩ := Fallible.bind_eq_ok.mp hresolved
    obtain ⟨⟨⟩, hvalid, hresolved⟩ := Fallible.bind_eq_ok.mp hresolved
    obtain rfl := Fallible.pure_eq_ok.mp hresolved
    obtain ⟨entries, hentries, h⟩ := Fallible.bind_eq_ok.mp h
    exact ⟨entries, (hfuse entries).mp ⟨mid, hmid, hentries⟩, hvalid,
      (Fallible.pure_eq_ok.mp h).symm⟩
  · rintro ⟨entries, hentries, hvalid, rfl⟩
    obtain ⟨mid, hmid, hentries⟩ := (hfuse entries).mpr hentries
    rw [hmid, hvalid]
    exact Fallible.bind_eq_ok.mpr ⟨mid, rfl, Fallible.bind_eq_ok.mpr ⟨entries, hentries, rfl⟩⟩

theorem validateConsistency_congr {records : Records} {l l' : List BookingServiceItem}
    (h : List.Forall₂ (fun s s' => s'.serviceId = s.serviceId ∧
      s'.serviceArrangementId = s.serviceArrangementId) l l') :
    validateConsistency records l' = validateConsistency records l := by
  have hfind : l'.findIdx? (notOffered records) = l.findIdx? (notOffered records) := by
    induction h with
    | nil => rfl
    | cons hx _ ih =>
      rw [List.findIdx?_cons, List.findIdx?_cons, ih]
      unfold notOffered
      rw [hx.1, hx.2]
  have hids : l'.filterMap (·.serviceArrangementId) = l.filterMap (·.serviceArrangementId) :=
    Lists.filterMap_eq_of_forall₂ h fun _ _ hx => hx.2
  unfold validateConsistency branchNames
  rw [hfind, hids]

/-- A service with the arrangement of its session. -/
def inArrangement (arrangementId : Option Uuid) (s : BookingServiceItem) : BookingServiceItem :=
  { s with serviceArrangementId := arrangementId.or s.serviceArrangementId }

theorem sameService_inArrangement {s s' : BookingServiceItem} (h : SameService s s')
    (arrangementId : Option Uuid) :
    SameService (inArrangement arrangementId s) (inArrangement arrangementId s') :=
  ⟨h.1, congrArg (inArrangement arrangementId) h.2⟩

/-- The entries of two requests: alike but for their data, and priced by a package. -/
structure EntryAlike (e e' : ServiceEntry) : Prop where
  bare : bareEntry e' = bareEntry e
  packaged : e.packageId ≠ none
  minutes : e'.serviceData.field? "extra_minutes" = e.serviceData.field? "extra_minutes"
  price : e'.serviceData.field? "price_for_extra_minutes" =
    e.serviceData.field? "price_for_extra_minutes"

theorem entryAlike {records : Records} {s s' : BookingServiceItem} {j : ℕ}
    (hctx : InContext records ctx s) (hlisted : ServiceKnown records s)
    (hpriced : PackagePriced records s) (hs : SameService s s') {e : ServiceEntry}
    (h : entryOf records ctx loyal i j s = .ok e) :
    ∃ e', entryOf records ctx loyal i j s' = .ok e' ∧ EntryAlike e e' := by
  obtain ⟨e', he', hbare, hpackaged⟩ := entryOf_same hctx hlisted hpriced hs h
  have hid : s'.serviceId = s.serviceId := congrArg (·.serviceId) hs.2
  have hpackage : s'.packageId = s.packageId := congrArg (·.packageId) hs.2
  have hctx' : InContext records ctx s' := fun k hk => hctx k (hpackage ▸ hk)
  have hlisted' : ServiceKnown records s' := by
    unfold ServiceKnown
    rw [hid]
    exact hlisted
  refine ⟨e', he', hbare, hpackaged, ?_, ?_⟩
  · rw [entryOf_rate hctx' hlisted' he' (.inl rfl), entryOf_rate hctx hlisted h (.inl rfl), hid]
  · rw [entryOf_rate hctx' hlisted' he' (.inr rfl), entryOf_rate hctx hlisted h (.inr rfl), hid]

/-! ## Sessions without the data of their services -/

/-- A session without its add-ons and the data of its services, which nothing is computed from. -/
def bare (s : Session) : Session := { s with services := s.services.map bareEntry, addons := [] }

theorem map_bareEntry_sessionEntries (arrangementId : Option Uuid) (entries : List ServiceEntry) :
    (sessionEntries arrangementId entries).map bareEntry =
      sessionEntries arrangementId (entries.map bareEntry) := by
  unfold sessionEntries
  rw [List.zipIdx_map, List.map_map, List.map_map]
  rfl

theorem totals_bareEntry (entries : List ServiceEntry) :
    totalServicesPrice (entries.map bareEntry) = totalServicesPrice entries ∧
      totalServicesDuration (entries.map bareEntry) = totalServicesDuration entries := by
  unfold totalServicesPrice totalServicesDuration
  rw [List.map_map, List.map_map]
  exact ⟨rfl, rfl⟩

/-- Sessions built from parts that differ in the data of services and add-ons only. -/
theorem buildSession_alike {p q : SessionParts}
    (hp : q = { p with services := q.services, addons := q.addons })
    (hentries : q.services.map bareEntry = p.services.map bareEntry)
    (hprice : q.addons.map addonPrice = p.addons.map addonPrice)
    (hduration : q.addons.map addonDuration = p.addons.map addonDuration)
    (h : buildSession i p = .ok b) : ∃ b', buildSession i q = .ok b' ∧ bare b' = bare b := by
  have hall : (sessionEntries p.arrangementId q.services).map bareEntry =
      (sessionEntries p.arrangementId p.services).map bareEntry := by
    rw [map_bareEntry_sessionEntries, map_bareEntry_sessionEntries, hentries]
  have hservices : totalServicesPrice (sessionEntries p.arrangementId q.services) =
      totalServicesPrice (sessionEntries p.arrangementId p.services) := by
    rw [← (totals_bareEntry _).1, hall, (totals_bareEntry _).1]
  have hminutes : totalServicesDuration (sessionEntries p.arrangementId q.services) =
      totalServicesDuration (sessionEntries p.arrangementId p.services) := by
    rw [← (totals_bareEntry _).2, hall, (totals_bareEntry _).2]
  generalize q.services = services at hp hentries hall hservices hminutes
  generalize q.addons = addons at hp hprice hduration
  subst hp
  unfold buildSession at h
  dsimp only at h
  split_ifs at h with hne
  cases h
  have hne' : services ≠ [] := by
    rintro rfl
    exact hne (List.map_eq_nil_iff.mp hentries.symm)
  unfold buildSession
  dsimp only
  rw [if_neg hne']
  refine ⟨_, rfl, ?_⟩
  unfold bare
  dsimp only
  rw [hall, hservices, hminutes, hprice, hduration]

/-- The records know everything about a service that a package prices. -/
structure Fixed (records : Records) (ctx : List (Uuid × PackageInfo)) (s : BookingServiceItem) :
    Prop where
  context : InContext records ctx s
  known : ServiceKnown records s
  priced : PackagePriced records s

/-- One session of the request, built. -/
def buildAt (records : Records) (ctx : List (Uuid × PackageInfo)) (loyal : Bool) (i : ℕ)
    (item : BookingSessionItem) : Except Error Session := do
  let parts ← sessionParts records ctx loyal i item
  buildSession i parts

theorem partsOf_alike {records : Records} {entries entries' : List ServiceEntry}
    (hsame : SameSession item item') (hentries : List.Forall₂ EntryAlike entries entries') :
    partsOf records item' entries' = { partsOf records item entries with
      services := (partsOf records item' entries').services
      addons := (partsOf records item' entries').addons } := by
  obtain ⟨-, -, hitem⟩ := hsame
  have hhead : (entries'.head?.bind fun e => e.serviceArrangementData.field? "arrangement_type") =
      entries.head?.bind fun e => e.serviceArrangementData.field? "arrangement_type" := by
    cases hentries with
    | nil => rfl
    | cons hx _ =>
      have hdata := congrArg (·.serviceArrangementData) hx.bare
      exact congrArg (fun j : Json => j.field? "arrangement_type") hdata
  have hrate : ∀ key : String, key = "extra_minutes" ∨ key = "price_for_extra_minutes" →
      (primaryData entries').field? key = (primaryData entries).field? key := by
    intro key hkey
    cases hentries with
    | nil => rfl
    | cons hx _ =>
      rcases hkey with rfl | rfl
      · exact hx.minutes
      · exact hx.price
  generalize hservices : item'.services = services at hitem
  generalize haddons : item'.addons = addons at hitem
  subst hitem
  unfold partsOf sessionArrangementData
  dsimp only
  rw [hhead, hrate _ (.inl rfl), hrate _ (.inr rfl)]

/-- A session that packages price is built alike, whatever the client says of prices and durations. -/
theorem buildAt_alike {records : Records} (hsame : SameSession item item')
    (hfixed : ∀ s ∈ item.services, Fixed records ctx s)
    (haddons : ∀ a ∈ item.addons, AddonListed (records.arrangementData item.serviceArrangementId) a ∧
      AddonTimed (records.arrangementData item.serviceArrangementId) a)
    (h : buildAt records ctx loyal i item = .ok b) :
    ∃ b', buildAt records ctx loyal i item' = .ok b' ∧ bare b' = bare b ∧
      ∀ e ∈ b.services, e.packageId ≠ none := by
  obtain ⟨parts, hparts, hbuild⟩ := Fallible.bind_eq_ok.mp h
  obtain ⟨entries, hentries, hvalid, rfl⟩ := sessionParts_spec.mp hparts
  obtain ⟨hservices, haddonsSame, hitem⟩ := hsame
  have hid : item'.serviceArrangementId = item.serviceArrangementId :=
    congrArg (·.serviceArrangementId) hitem
  have hall : List.Forall₂ (fun s s' => Fixed records ctx s ∧ SameService s s') (sessionServices item)
      (sessionServices item') := by
    show List.Forall₂ _ (item.services.map (inArrangement item.serviceArrangementId))
      (item'.services.map (inArrangement item'.serviceArrangementId))
    rw [hid, List.forall₂_map_left_iff, List.forall₂_map_right_iff]
    refine List.Forall₂.imp ?_ ((List.forall₂_and_left _ _).mpr ⟨hfixed, hservices⟩)
    exact fun s s' hs => ⟨⟨hs.1.context, hs.1.known, hs.1.priced⟩, sameService_inArrangement hs.2 _⟩
  obtain ⟨entries', hentries', halike⟩ := Fallible.mapM_related (R := EntryAlike)
    (g := fun x => entryOf records ctx loyal i x.2 x.1) (m := (sessionServices item').zipIdx)
    ((Lists.forall₂_zipIdx hall 0).imp fun x x' hx e he => by
      rw [hx.2]
      exact entryAlike hx.1.1.context hx.1.1.known hx.1.1.priced hx.1.2 he) hentries
  have hvalid' : validateConsistency records (sessionServices item') = .ok () := by
    rw [validateConsistency_congr (hall.imp fun s s' hs => ⟨congrArg (·.serviceId) hs.2.2,
      congrArg (·.serviceArrangementId) hs.2.2⟩)]
    exact hvalid
  have hadd : List.Forall₂ (fun a a' => (AddonListed (records.arrangementData
      item.serviceArrangementId) a ∧ AddonTimed (records.arrangementData
      item.serviceArrangementId) a) ∧ SameBut ADDON_PRICE_FIELDS a a') item.addons item'.addons :=
    (List.forall₂_and_left _ _).mpr ⟨haddons, haddonsSame⟩
  have haddonsMap : (partsOf records item' entries').addons = item'.addons.map fun a =>
      .obj (enrichAddon (records.arrangementData item.serviceArrangementId) a) := by
    unfold partsOf
    rw [hid]
  obtain ⟨b', hb', hbare⟩ := buildSession_alike (q := partsOf records item' entries')
    (partsOf_alike ⟨hservices, haddonsSame, hitem⟩ halike)
    (Lists.map_eq_of_forall₂ halike fun _ _ hx => hx.bare)
    (by
      rw [haddonsMap, List.map_map]
      show _ = (item.addons.map _).map _
      rw [List.map_map]
      exact Lists.map_eq_of_forall₂ hadd fun _ _ ha => (enrichAddon_same ha.1.1 ha.1.2 ha.2).1)
    (by
      rw [haddonsMap, List.map_map]
      show _ = (item.addons.map _).map _
      rw [List.map_map]
      exact Lists.map_eq_of_forall₂ hadd fun _ _ ha => (enrichAddon_same ha.1.1 ha.1.2 ha.2).2) hbuild
  refine ⟨b', ?_, hbare, ?_⟩
  · have hparts' : sessionParts records ctx loyal i item' = .ok (partsOf records item' entries') :=
      sessionParts_spec.mpr ⟨entries', hentries', hvalid', rfl⟩
    unfold buildAt
    rw [hparts']
    exact hb'
  · have hpackaged : ∀ e ∈ entries, e.packageId ≠ none :=
      ((List.forall₂_and_left (R := EntryAlike) entries entries').mp
        (halike.imp fun x y hx => ⟨hx.packaged, hx⟩)).1
    have hb : b.services = sessionEntries item.serviceArrangementId entries := by
      unfold buildSession at hbuild
      dsimp only at hbuild
      split_ifs at hbuild
      cases hbuild
      rfl
    intro e he
    rw [hb] at he
    obtain ⟨⟨e₀, j⟩, hmem, rfl⟩ := List.mem_map.mp he
    exact hpackaged e₀ (List.fst_mem_of_mem_zipIdx hmem)

/-! ## The plan of bare sessions -/

theorem sessionError_bare (s : Session) (i : ℕ) : sessionError (bare s) i = sessionError s i := by
  unfold sessionError bare
  simp only [List.map_eq_nil_iff]

theorem orderError_bare (day : ℤ) (prevEnd : Option Instant) (i : ℕ) (l : List Session) :
    orderError day prevEnd i (l.map bare) = orderError day prevEnd i l := by
  induction l generalizing prevEnd i with
  | nil => rfl
  | cons s rest ih =>
    rw [List.map_cons]
    unfold orderError
    rw [ih]
    rfl

theorem sortSessions_bare (l : List Session) : sortSessions (l.map bare) = (sortSessions l).map bare := by
  unfold sortSessions
  rw [← List.map_insertionSort (fun s s' : Session => s.appointmentStart ≤ s'.appointmentStart)
    (fun s s' : Session => s.appointmentStart ≤ s'.appointmentStart) bare l fun _ _ _ _ => Iff.rfl,
    List.zipIdx_map, List.map_map, List.map_map]
  rfl

theorem headD_bare (l : List Session) :
    ((l.map bare).map (·.appointmentStart)).headD 0 = (l.map (·.appointmentStart)).headD 0 := by
  cases l with
  | nil => rfl
  | cons s rest => rfl

theorem findSome?_bare (l : List Session) (n : ℕ) :
    (((l.map bare).zipIdx n).findSome? fun x => sessionError x.1 x.2) =
      (l.zipIdx n).findSome? fun x => sessionError x.1 x.2 := by
  induction l generalizing n with
  | nil => rfl
  | cons s rest ih =>
    rw [List.map_cons, List.zipIdx_cons, List.zipIdx_cons, List.findSome?_cons, List.findSome?_cons,
      sessionError_bare, ih]

theorem validateSessions_bare (l : List Session) (n : ℕ) :
    validateSessions (l.map bare) n = List.map bare <$> validateSessions l n := by
  have hfind : ((l.map bare).zipIdx.findSome? fun x => sessionError x.1 x.2) =
      l.zipIdx.findSome? fun x => sessionError x.1 x.2 := findSome?_bare l 0
  unfold validateSessions
  simp only [List.map_eq_nil_iff, List.length_map, sortSessions_bare, headD_bare, orderError_bare,
    hfind]
  split_ifs
  · rfl
  · rfl
  · cases l.zipIdx.findSome? fun x => sessionError x.1 x.2 with
    | some e => rfl
    | none =>
      dsimp only
      cases orderError (localDay (((sortSessions l).map (·.appointmentStart)).headD 0)) none 0
        (sortSessions l) with
      | some e => rfl
      | none => rfl

/-- Where every service is a component of a package, its data does not decide about packages. -/
theorem validatePackageExclusivity_bare {l : List Session}
    (h : ∀ s ∈ l, ∀ e ∈ s.services, e.packageId ≠ none) :
    validatePackageExclusivity (l.map bare) = validatePackageExclusivity l := by
  have hentries : (l.map bare).flatMap (·.services) = (l.flatMap (·.services)).map bareEntry := by
    rw [List.flatMap_map, List.map_flatMap]
    rfl
  have hpackaged : ∀ e ∈ l.flatMap (·.services), e.packageId ≠ none := by
    intro e he
    obtain ⟨s, hs, he⟩ := List.mem_flatMap.mp he
    exact h s hs e he
  unfold validatePackageExclusivity
  rw [hentries]
  generalize l.flatMap (·.services) = entries at hpackaged
  have hbare : ∀ e ∈ entries.map bareEntry, e.packageId ≠ none := by
    intro e he
    obtain ⟨e₀, he₀, rfl⟩ := List.mem_map.mp he
    exact hpackaged e₀ he₀
  have hwhole : ∀ es : List ServiceEntry, (∀ e ∈ es, e.packageId ≠ none) →
      es.filter isWholePackage = [] := by
    intro es hes
    refine List.filter_eq_nil_iff.mpr fun e he => ?_
    simp [isWholePackage, hes e he]
  have hplain : ∀ es : List ServiceEntry, (∀ e ∈ es, e.packageId ≠ none) →
      (es.filter fun e => e.packageId = none ∧ ¬ isWholePackage e) = [] := by
    intro es hes
    refine List.filter_eq_nil_iff.mpr fun e he => ?_
    simp [hes e he]
  have hids : (entries.map bareEntry).filterMap (·.packageId) = entries.filterMap (·.packageId) := by
    rw [List.filterMap_map]
    rfl
  dsimp only
  rw [hwhole _ hbare, hwhole _ hpackaged, hplain _ hbare, hplain _ hpackaged, hids]

theorem availabilityOf_bare (up : Ushauth) (req : SessionsRequest) (s : Session) :
    availabilityOf up req (bare s) = availabilityOf up req s := by
  have hids : (bare s).services.filterMap (·.serviceId) = s.services.filterMap (·.serviceId) := by
    unfold bare
    dsimp only
    rw [List.filterMap_map]
    rfl
  unfold availabilityOf
  rw [hids]
  rfl

theorem takeTherapist_bare (res : AvailabilityAnswer) (s : Session) :
    takeTherapist res (bare s) = bare (takeTherapist res s) := by
  unfold takeTherapist
  cases res.therapistId with
  | none => rfl
  | some chosen =>
    show (if s.therapistId = some chosen then bare s else _) = _
    dsimp only
    split_ifs
    · rfl
    · rfl

theorem takeSecondary_bare (res : AvailabilityAnswer) (s : Session) :
    takeSecondary res (bare s) = bare (takeSecondary res s) := by
  have harr : (bare s).serviceArrangementData = s.serviceArrangementData := rfl
  have hsecond : (bare s).secondaryTherapistId = s.secondaryTherapistId := rfl
  have hfirst : (bare s).therapistId = s.therapistId := rfl
  unfold takeSecondary
  simp only [harr, hsecond, hfirst]
  split_ifs
  · cases (uniqueIds (res.therapistId :: res.therapistIds.map some ++
        [res.secondaryTherapistId]))[1]? with
    | none => rfl
    | some sec =>
      dsimp only
      split_ifs
      · rfl
      · rfl
  · rfl

theorem checkSessionAvailability_bare (edited : Bool) (res : AvailabilityAnswer) (s : Session) :
    checkSessionAvailability edited res (bare s) =
      bare <$> checkSessionAvailability edited res s := by
  have harr : (bare s).serviceArrangementId = s.serviceArrangementId := rfl
  unfold checkSessionAvailability
  simp only [harr, takeTherapist_bare, takeSecondary_bare]
  split_ifs
  · rfl
  · rfl
  · rfl
  · rfl

theorem checkAll_bare (edited : Bool) (answers : List AvailabilityAnswer) (l : List Session) :
    checkAll edited answers (l.map bare) = List.map bare <$> checkAll edited answers l := by
  induction l generalizing answers with
  | nil => rfl
  | cons s rest ih =>
    rw [List.map_cons]
    unfold checkAll
    rw [checkSessionAvailability_bare, ih]
    cases checkSessionAvailability edited (answers.headD {}) s with
    | error e => rfl
    | ok checked =>
      cases checkAll edited answers.tail rest with
      | error e => rfl
      | ok others => rfl

theorem finishPlan_bare {packaged : Bool} {req : SessionsRequest} {built : List Session}
    (h : ∀ s ∈ built, ∀ e ∈ s.services, e.packageId ≠ none) :
    finishPlan up packaged req (built.map bare) = List.map bare <$> finishPlan up packaged req built := by
  unfold finishPlan
  rw [validatePackageExclusivity_bare h, validateSessions_bare]
  cases validatePackageExclusivity built with
  | error e => rfl
  | ok done =>
    cases validateSessions built
      (if packaged then MAX_PACKAGE_SESSIONS_PER_BOOKING else MAX_SESSIONS_PER_BOOKING) with
    | error e => rfl
    | ok sessions =>
      have hanswers : (sessions.map bare).map (availabilityOf up req) =
          sessions.map (availabilityOf up req) := by
        rw [List.map_map]
        exact List.map_congr_left fun s _ => availabilityOf_bare up req s
      dsimp only [bind, Except.bind, Functor.map, Except.map]
      rw [headD_bare, hanswers, checkAll_bare]
      split_ifs
      · rfl
      · rfl
      · rfl

theorem samePlan_of_bare {P P' : List Session} (h : P'.map bare = P.map bare) : SamePlan P P' := by
  have hmap : ∀ {β : Type} (f : Session → β), (∀ s, f (bare s) = f s) → P'.map f = P.map f := by
    intro β f hf
    have hcomp : ∀ l : List Session, l.map f = (l.map bare).map f := by
      intro l
      rw [List.map_map]
      exact List.map_congr_left fun s _ => (hf s).symm
    rw [hcomp P', hcomp P, h]
  refine ⟨(hmap figures fun _ => rfl).symm, ?_⟩
  unfold bookingTotals
  rw [hmap (·.servicesPrice) fun _ => rfl, hmap (·.addonsPrice) fun _ => rfl,
    hmap (·.priceForExtraMinutes) fun _ => rfl, hmap (·.sessionPrice) fun _ => rfl,
    hmap (·.servicesDuration) fun _ => rfl, hmap (·.addonsDuration) fun _ => rfl,
    hmap (·.extraMinutes) fun _ => rfl, hmap (·.totalSessionDuration) fun _ => rfl]

end Booking
