import UshBookNPay.Booking.Proofs.ServerPriceProofs

/-!
# Packages that are booked by their parts

One part of the package carries its price. It is chosen by the order in which the sessions are sent,
before they are sorted by their start.
-/

namespace Booking

variable {up : Ushauth} {records : Records} {req : SessionsRequest} {P : List Session}
  {ctx : List (Uuid × PackageInfo)} {loyal : Bool} {i j : ℕ} {s : BookingServiceItem}
  {e : ServiceEntry} {id : Uuid} {info : PackageInfo}

/-! ## The entry of a part -/

theorem applyPackage_serviceId {place : ℕ × ℕ} {x : ServiceEntry}
    (h : applyPackage id info place e = .ok x) : x.serviceId = e.serviceId := by
  unfold applyPackage at h
  obtain ⟨d, -, h⟩ := Fallible.bind_eq_ok.mp h
  obtain rfl := Fallible.pure_eq_ok.mp h
  rfl

/-- What the entry of the service at `x.2` in the session `i` says of its package. -/
structure PartEntry (ctx : List (Uuid × PackageInfo)) (i : ℕ) (x : BookingServiceItem × ℕ)
    (e : ServiceEntry) : Prop where
  service : e.serviceId = some (x.1.serviceId.getD x.1.freshId)
  package : ∀ id, e.packageId = some id ↔ x.1.packageId = some id ∧ ∃ info, ctx.lookup id = some info
  price : ∀ id info, x.1.packageId = some id → ctx.lookup id = some info →
    e.basePrice = if info.carrier = (i, x.2) then money info.price else 0

theorem partEntry_entryOf (h : entryOf records ctx loyal i j s = .ok e) :
    PartEntry ctx i (s, j) e := by
  unfold entryOf applyPackageContext at h
  obtain ⟨e₀, he₀, h⟩ := Fallible.bind_eq_ok.mp h
  obtain ⟨-, -, hservice, hnone, -⟩ := buildOne_spec he₀
  cases hpackage : s.packageId with
  | none =>
    rw [hpackage] at h
    cases h
    refine ⟨hservice, fun id => ?_, fun id info hid => ?_⟩
    · rw [hnone]
      simp [hpackage]
    · simp [hpackage] at hid
  | some k =>
    rw [hpackage] at h
    dsimp only at h
    cases hlookup : ctx.lookup k with
    | none =>
      rw [hlookup] at h
      cases h
      refine ⟨hservice, fun id => ?_, fun id info hid hinfo => ?_⟩
      · rw [hnone]
        constructor
        · intro h
          cases h
        · rintro ⟨hid, info, hinfo⟩
          obtain rfl : k = id := Option.some.inj (hpackage.symm.trans hid)
          rw [hlookup] at hinfo
          cases hinfo
      · obtain rfl : k = id := Option.some.inj (hpackage.symm.trans hid)
        rw [hlookup] at hinfo
        cases hinfo
    | some info =>
      rw [hlookup] at h
      obtain ⟨hid, hprice, -, -⟩ := applyPackage_spec h
      refine ⟨(applyPackage_serviceId h).trans hservice, fun id => ?_, fun id info' hid' hinfo' => ?_⟩
      · rw [hid]
        constructor
        · intro h
          obtain rfl := Option.some.inj h
          exact ⟨hpackage, info, hlookup⟩
        · rintro ⟨h, -⟩
          exact hpackage.symm.trans h
      · obtain rfl : k = id := Option.some.inj (hpackage.symm.trans hid')
        obtain rfl : info = info' := Option.some.inj (hlookup.symm.trans hinfo')
        exact hprice

/-- What a session is built to, entry by entry. -/
theorem partEntries_buildAt {item : BookingSessionItem} {b : Session}
    (h : buildAt records ctx loyal i item = .ok b) :
    List.Forall₂ (PartEntry ctx i) item.services.zipIdx b.services ∧
      b.appointmentStart = item.start ∧ b.services ≠ [] ∧
      b.servicesPrice = (b.services.map (·.basePrice)).sum := by
  obtain ⟨parts, hparts, hbuild⟩ := Fallible.bind_eq_ok.mp h
  obtain ⟨entries, hentries, -, rfl⟩ := sessionParts_spec.mp hparts
  have hraw := Fallible.forall₂_of_mapM_eq_ok hentries
  have hservices : sessionServices item =
      item.services.map (inArrangement item.serviceArrangementId) := rfl
  rw [hservices, List.zipIdx_map, List.forall₂_map_left_iff] at hraw
  unfold buildSession at hbuild
  dsimp only at hbuild
  split_ifs at hbuild with hempty
  cases hbuild
  refine ⟨?_, rfl, ?_, rfl⟩
  · show List.Forall₂ (PartEntry ctx i) item.services.zipIdx
      (sessionEntries item.serviceArrangementId entries)
    have hnumbered : List.Forall₂ (fun x y => PartEntry ctx i x y.1) item.services.zipIdx
        entries.zipIdx := by
      refine (Lists.forall₂_zipIdx_right.mpr hraw).imp fun x y hxy => ?_
      obtain ⟨hservice, hpackage, hprice⟩ := partEntry_entryOf hxy
      exact ⟨hservice, hpackage, hprice⟩
    unfold sessionEntries
    rw [List.forall₂_map_right_iff]
    exact hnumbered.imp fun x y hxy => ⟨hxy.service, hxy.package, hxy.price⟩
  · show sessionEntries item.serviceArrangementId entries ≠ []
    intro hnil
    have hlen : (sessionEntries item.serviceArrangementId entries).length = entries.length := by
      unfold sessionEntries
      rw [List.length_map, List.length_zipIdx]
    rw [hnil] at hlen
    exact hempty (List.length_eq_zero_iff.mp hlen.symm)

/-! ## What is requested of a package -/

/-- The package and the service of a part. -/
def refOf (s : BookingServiceItem) : Option (Uuid × Uuid) :=
  s.packageId.bind fun packageId => s.serviceId.map fun serviceId => (packageId, serviceId)

/-- Without their places, the parts are those of all sessions in one list. -/
theorem map_packageRefs (items : List (List BookingServiceItem)) :
    (packageRefs items).map (fun ref => (ref.1, ref.2.2)) = items.flatten.filterMap refOf := by
  have hsession : ∀ x : List BookingServiceItem × ℕ,
      (x.1.zipIdx.filterMap fun y => (refOf y.1).map fun ref => (ref.1, (x.2, y.2), ref.2)).map
        (fun ref => (ref.1, ref.2.2)) = x.1.filterMap refOf := by
    intro x
    rw [List.map_filterMap]
    have hfst : x.1.filterMap refOf = (x.1.zipIdx.map Prod.fst).filterMap refOf := by
      rw [List.zipIdx_map_fst]
    rw [hfst, List.filterMap_map]
    refine List.filterMap_congr fun y _ => ?_
    rw [Option.map_map]
    exact Option.map_id'
  have hrefs : packageRefs items = items.zipIdx.flatMap fun x => x.1.zipIdx.filterMap fun y =>
      (refOf y.1).map fun ref => (ref.1, (x.2, y.2), ref.2) := by
    unfold packageRefs
    refine List.flatMap_congr fun x _ => List.filterMap_congr fun y _ => ?_
    obtain ⟨svc, j⟩ := y
    unfold refOf
    dsimp only
    cases svc.packageId with
    | none => rfl
    | some packageId =>
      cases svc.serviceId with
      | none => rfl
      | some serviceId => rfl
  rw [hrefs, List.map_flatMap]
  have hflat : items.flatten.filterMap refOf =
      (items.zipIdx.map Prod.fst).flatMap fun services => services.filterMap refOf := by
    rw [List.zipIdx_map_fst, List.flatMap_def, List.filterMap_flatten]
  rw [hflat, List.flatMap_map]
  exact List.flatMap_congr fun x _ => hsession x

/-- The services that are requested of a package. -/
theorem ids_packageRefs (items : List (List BookingServiceItem)) (id : Uuid) :
    (((packageRefs items).filter (·.1 = id)).map (·.2)).map (·.2) =
      items.flatten.filterMap fun s => if s.packageId = some id then s.serviceId else none := by
  have hpairs : (((packageRefs items).filter (·.1 = id)).map (·.2)).map (·.2) =
      (((packageRefs items).map fun ref => (ref.1, ref.2.2)).filter (·.1 = id)).map (·.2) := by
    rw [List.filter_map, List.map_map, List.map_map]
    rfl
  rw [hpairs, map_packageRefs, List.filter_filterMap, List.map_filterMap]
  refine List.filterMap_congr fun s _ => ?_
  unfold refOf
  cases s.packageId with
  | none => rfl
  | some packageId =>
    cases s.serviceId with
    | none => simp
    | some serviceId =>
      by_cases h : packageId = id
      · simp [h]
      · simp [h]

/-- Nothing comes before the first place of the first session. -/
theorem firstPlace_eq_zero {places : List (ℕ × ℕ)} (h : (0, 0) ∈ places) :
    firstPlace places = (0, 0) := by
  cases places with
  | nil => cases h
  | cons place rest =>
    unfold firstPlace
    -- the earliest place so far is not lost, and the first of all is taken when it comes
    have hstep : ∀ (rest : List (ℕ × ℕ)) (p : ℕ × ℕ), p = (0, 0) ∨ (0, 0) ∈ rest →
        rest.foldl (fun p q => if q.1 < p.1 ∨ q.1 = p.1 ∧ q.2 < p.2 then q else p) p = (0, 0) := by
      intro rest
      induction rest with
      | nil =>
        intro p hp
        rcases hp with rfl | hp
        · rfl
        · cases hp
      | cons q rest ih =>
        intro p hp
        rw [List.foldl_cons]
        apply ih
        rcases hp with rfl | hp
        · left
          rw [if_neg]
          simp
        · rcases List.mem_cons.mp hp with rfl | hp
          · left
            obtain ⟨a, b⟩ := p
            split_ifs with hlt
            · rfl
            · simp only [not_or, not_and] at hlt
              have ha : a = 0 := by omega
              have hb : b = 0 := by
                have := hlt.2 ha.symm
                omega
              rw [ha, hb]
          · exact .inr hp
    apply hstep
    rcases List.mem_cons.mp h with h | h
    · exact .inl h.symm
    · exact .inr h

/-! ## Exclusivity -/

/-- The parts of an accepted plan are parts of one package. -/
theorem one_package {sessions : List Session} (h : validatePackageExclusivity sessions = .ok ())
    {e e' : ServiceEntry} (he : e ∈ entriesOf sessions) (he' : e' ∈ entriesOf sessions) {id id' : Uuid}
    (hid : e.packageId = some id) (hid' : e'.packageId = some id') : id = id' := by
  have hone : ∀ {l : List Uuid}, l.length ≤ 1 → id ∈ l → id' ∈ l → id = id' := by
    intro l hl h h'
    obtain ⟨x, rfl⟩ : ∃ x, l = [x] :=
      List.length_eq_one_iff.mp (le_antisymm hl (List.length_pos_of_mem h))
    rw [List.mem_singleton.mp h, List.mem_singleton.mp h']
  have hmem : ∀ {e : ServiceEntry} {k : Uuid}, e ∈ entriesOf sessions → e.packageId = some k →
      ∀ rest : List Uuid, k ∈ ((entriesOf sessions).filterMap (·.packageId) ++ rest).dedup :=
    fun he hk rest => List.mem_dedup.mpr
      (List.mem_append_left rest (List.mem_filterMap.mpr ⟨_, he, hk⟩))
  unfold validatePackageExclusivity at h
  dsimp only at h
  split_ifs at h with hnil hmany hplain
  · have hin := hmem he hid (((entriesOf sessions).filter isWholePackage).filterMap (·.serviceId))
    unfold entriesOf at hin
    rw [hnil] at hin
    cases hin
  · rw [not_or, not_lt] at hmany
    exact hone hmany.1 (hmem he hid _) (hmem he' hid' _)

/-! ## The context -/

theorem of_lookup_context {items : List (List BookingServiceItem)}
    (h : resolvePackageContext records items = .ok ctx) (hlookup : ctx.lookup id = some info) :
    money info.price = packagePrice records id ∧
      info.carrier = firstPlace ((((packageRefs items).filter (·.1 = id)).map (·.2)).map (·.1)) ∧
      ((items.flatten.filterMap fun s => if s.packageId = some id then s.serviceId else none).map
        uuidStr).Perm (includedIds records id) := by
  obtain ⟨-, hinfo⟩ := of_lookup_mapM h hlookup
  obtain ⟨package, hpackage, -, hprice, hcarrier, hperm⟩ := packageInfo_spec hinfo
  have hdata : records.serviceData (some id) = package := by
    unfold Records.serviceData
    show (records.service id).getD [] = package
    rw [hpackage]
    rfl
  refine ⟨?_, hcarrier, ?_⟩
  · unfold packagePrice
    rw [hdata, hprice]
  · unfold includedIds
    rw [hdata, ← ids_packageRefs, List.map_map]
    exact hperm

/-! ## The first price in the stored order -/

theorem mem_entriesOf_byStart {sessions : List Session} :
    e ∈ entriesOf (byStart sessions) ↔ e ∈ entriesOf sessions := by
  unfold entriesOf byStart
  simp only [List.mem_flatMap, List.mem_insertionSort]

theorem byStart_cons_of_le {first : Session} {rest : List Session}
    (h : ∀ b ∈ rest, first.appointmentStart ≤ b.appointmentStart) :
    byStart (first :: rest) = first :: byStart rest :=
  List.insertionSort_cons_of_forall_rel _ h

/-- Where the first session sent has the price, it comes first exactly if the session does. -/
theorem pricedFirst_byStart_iff {first : Session} {rest : List Session} {price : Fils}
    (hfirst : PricedFirst price first.services)
    (hrest : ∀ b ∈ rest, b.services ≠ [] ∧ ∀ e ∈ b.services, e.basePrice = 0) :
    PricedFirst price (entriesOf (byStart (first :: rest))) ↔
      price = 0 ∨ ∀ b ∈ rest, first.appointmentStart ≤ b.appointmentStart := by
  obtain ⟨e₀, others, hservices, hprice, hfree⟩ := hfirst
  constructor
  · rintro ⟨e, es, hentries, he, -⟩
    by_cases hzero : price = 0
    · exact .inl hzero
    right
    have hmem : ∀ b, b ∈ byStart (first :: rest) ↔ b = first ∨ b ∈ rest := by
      intro b
      unfold byStart
      rw [List.mem_insertionSort, List.mem_cons]
    have hsorted : (byStart (first :: rest)).Pairwise fun s s' =>
      s.appointmentStart ≤ s'.appointmentStart := List.pairwise_insertionSort _ _
    cases hby : byStart (first :: rest) with
    | nil =>
      have hin := (hmem first).mpr (.inl rfl)
      rw [hby] at hin
      cases hin
    | cons b bs =>
      rw [hby] at hentries hsorted hmem
      -- the session with the first entry is not one of the others, whose entries are free
      have hb : b = first := by
        rcases (hmem b).mp List.mem_cons_self with hb | hb
        · exact hb
        · obtain ⟨hne, hall⟩ := hrest b hb
          obtain ⟨x, xs, hx⟩ := List.exists_cons_of_ne_nil hne
          have hhead : x = e := by
            unfold entriesOf at hentries
            rw [List.flatMap_cons, hx] at hentries
            exact (List.cons.inj hentries).1
          have hxzero : x.basePrice = 0 := hall x (by rw [hx]; exact List.mem_cons_self)
          rw [hhead, he] at hxzero
          exact absurd hxzero hzero
      subst hb
      intro b' hb'
      rcases List.mem_cons.mp ((hmem b').mpr (.inr hb')) with rfl | htail
      · exact le_refl _
      · exact (List.pairwise_cons.mp hsorted).1 b' htail
  · have hall : ∀ e ∈ entriesOf rest, e.basePrice = 0 := by
      intro e he
      obtain ⟨b, hb, he⟩ := List.mem_flatMap.mp he
      exact (hrest b hb).2 e he
    rintro (hzero | hle)
    · have hzeros : ∀ e ∈ entriesOf (byStart (first :: rest)), e.basePrice = 0 := by
        intro e he
        rw [mem_entriesOf_byStart] at he
        unfold entriesOf at he
        rw [List.flatMap_cons, List.mem_append, hservices, List.mem_cons] at he
        rcases he with (rfl | he) | he
        · exact hprice.trans hzero
        · exact hfree e he
        · exact hall e he
      cases hentries : entriesOf (byStart (first :: rest)) with
      | nil =>
        have hin : e₀ ∈ entriesOf (byStart (first :: rest)) := by
          rw [mem_entriesOf_byStart]
          refine List.mem_flatMap.mpr ⟨first, List.mem_cons_self, ?_⟩
          rw [hservices]
          exact List.mem_cons_self
        rw [hentries] at hin
        cases hin
      | cons e es =>
        rw [hentries] at hzeros
        refine ⟨e, es, rfl, ?_, fun e' he' => hzeros e' (List.mem_cons_of_mem _ he')⟩
        rw [hzero]
        exact hzeros e List.mem_cons_self
    · rw [byStart_cons_of_le hle]
      refine ⟨e₀, others ++ entriesOf (byStart rest), ?_, hprice, ?_⟩
      · unfold entriesOf
        rw [List.flatMap_cons, hservices]
        rfl
      · intro e he
        rcases List.mem_append.mp he with he | he
        · exact hfree e he
        · exact hall e (mem_entriesOf_byStart.mp he)

/-- The price of the first entry is the sum of all. -/
theorem PricedFirst.sum {price : Fils} {entries : List ServiceEntry} (h : PricedFirst price entries) :
    (entries.map (·.basePrice)).sum = price := by
  obtain ⟨e, rest, rfl, he, hfree⟩ := h
  have hrest : (rest.map (·.basePrice)).sum = 0 := by
    apply List.sum_eq_zero
    intro x hx
    obtain ⟨e', he', rfl⟩ := List.mem_map.mp hx
    exact hfree e' he'
  rw [List.map_cons, List.sum_cons, hrest, he, add_zero]

theorem map_component_flattenServices (P : List Session) :
    (flattenServices P).map component = (entriesOf P).map component := by
  unfold flattenServices entriesOf
  rw [List.map_map, Lists.map_zipIdx (g := component) fun _ _ => rfl, List.map_flatMap,
    List.map_flatMap]
  refine List.flatMap_congr fun s _ => ?_
  rw [List.map_map]
  rfl

/-! ## The parts of an accepted plan -/

/-- Every service is a part of the package. -/
def AllParts (id : Uuid) (items : List BookingSessionItem) : Prop :=
  ∀ item ∈ items, ∀ s ∈ item.services, s.packageId = some id ∧ s.serviceId ≠ none

/-- The sessions are built from the items one by one. -/
def BuiltFrom (records : Records) (ctx : List (Uuid × PackageInfo)) (loyal : Bool)
    (items : List BookingSessionItem) (built : List Session) : Prop :=
  List.Forall₂ (fun x b => buildAt records ctx loyal x.2 x.1 = .ok b) items.zipIdx built

section Parts

variable {items : List BookingSessionItem} {built : List Session}

theorem entry_of_part (hbuilt : BuiltFrom records ctx loyal items built) {item : BookingSessionItem}
    (hitem : item ∈ items) (hs : s ∈ item.services) :
    ∃ e ∈ entriesOf built, ∃ i j, PartEntry ctx i (s, j) e := by
  obtain ⟨i, hi⟩ := List.mem_iff_getElem?.mp hitem
  obtain ⟨j, hj⟩ := List.mem_iff_getElem?.mp hs
  obtain ⟨b, hb, hbuild⟩ := Lists.exists_right_of_forall₂ hbuilt (List.mk_mem_zipIdx_iff_getElem?.mpr hi)
  obtain ⟨e, he, hpart⟩ := Lists.exists_right_of_forall₂ (partEntries_buildAt hbuild).1
    (List.mk_mem_zipIdx_iff_getElem?.mpr hj)
  exact ⟨e, List.mem_flatMap.mpr ⟨b, hb, he⟩, i, j, hpart⟩

theorem part_of_entry (hbuilt : BuiltFrom records ctx loyal items built) (he : e ∈ entriesOf built) :
    ∃ item ∈ items, ∃ s ∈ item.services, ∃ i j, PartEntry ctx i (s, j) e := by
  obtain ⟨b, hb, he⟩ := List.mem_flatMap.mp he
  obtain ⟨x, hx, hbuild⟩ := Lists.exists_left_of_forall₂ hbuilt hb
  obtain ⟨y, hy, hpart⟩ := Lists.exists_left_of_forall₂ (partEntries_buildAt hbuild).1 he
  exact ⟨x.1, List.fst_mem_of_mem_zipIdx hx, y.1, List.fst_mem_of_mem_zipIdx hy, x.2, y.2, hpart⟩

theorem ids_entriesOf (hbuilt : BuiltFrom records ctx loyal items built) :
    (entriesOf built).map entryIdText =
      (items.map (·.services)).flatten.map fun s => uuidStr (s.serviceId.getD s.freshId) := by
  have hsessions : built.map (fun b => b.services.map entryIdText) =
      items.zipIdx.map fun x => x.1.services.map fun s => uuidStr (s.serviceId.getD s.freshId) := by
    refine Lists.map_eq_of_forall₂ hbuilt fun x b hb => ?_
    have hentries : b.services.map entryIdText =
        x.1.services.zipIdx.map fun y => uuidStr (y.1.serviceId.getD y.1.freshId) := by
      refine Lists.map_eq_of_forall₂ (partEntries_buildAt hb).1 fun y e hy => ?_
      unfold entryIdText
      rw [hy.service]
      rfl
    rw [hentries]
    exact Lists.map_zipIdx (fun _ _ => rfl) _ _
  unfold entriesOf
  rw [List.flatMap_def, List.map_flatten, List.map_map]
  show (built.map fun b => b.services.map entryIdText).flatten = _
  rw [hsessions, List.map_flatten, List.map_map]
  exact congrArg List.flatten (Lists.map_zipIdx (fun _ _ => rfl) _ _)

theorem in_context (hctx : resolvePackageContext records (items.map (·.services)) = .ok ctx)
    {item : BookingSessionItem} (hitem : item ∈ items) (hs : s ∈ item.services)
    (hpackage : s.packageId = some id) (hservice : s.serviceId ≠ none) :
    ∃ info, ctx.lookup id = some info := by
  obtain ⟨serviceId, hid⟩ := Option.ne_none_iff_exists'.mp hservice
  obtain ⟨package, info, -, hlookup, -⟩ :=
    lookup_resolvePackageContext hctx (List.mem_map_of_mem hitem) hs hpackage hid
  exact ⟨info, hlookup⟩

/-- Where every service is sent as a part, they are parts of one package. -/
theorem allParts_of_sent (hctx : resolvePackageContext records (items.map (·.services)) = .ok ctx)
    (hbuilt : BuiltFrom records ctx loyal items built)
    (hexclusive : validatePackageExclusivity built = .ok ())
    (hparts : ∀ item ∈ items, ∀ s ∈ item.services, s.packageId ≠ none ∧ s.serviceId ≠ none)
    (hsome : ∃ item ∈ items, ∃ s ∈ item.services, s.packageId ≠ none) :
    ∃ id info, ctx.lookup id = some info ∧ AllParts id items := by
  -- the entry of a part is a part of the same package
  have htagged : ∀ item ∈ items, ∀ s ∈ item.services, ∀ id, s.packageId = some id →
      ∃ e ∈ entriesOf built, e.packageId = some id := by
    intro item hitem s hs id hid
    obtain ⟨e, he, i, j, hpart⟩ := entry_of_part hbuilt hitem hs
    exact ⟨e, he, (hpart.package id).mpr
      ⟨hid, in_context hctx hitem hs hid (hparts item hitem s hs).2⟩⟩
  obtain ⟨item, hitem, s, hs, hpackage⟩ := hsome
  obtain ⟨id, hid⟩ := Option.ne_none_iff_exists'.mp hpackage
  obtain ⟨info, hlookup⟩ := in_context hctx hitem hs hid (hparts item hitem s hs).2
  refine ⟨id, info, hlookup, fun item' hitem' s' hs' => ⟨?_, (hparts item' hitem' s' hs').2⟩⟩
  obtain ⟨id', hid'⟩ := Option.ne_none_iff_exists'.mp (hparts item' hitem' s' hs').1
  obtain ⟨e, he, hetag⟩ := htagged item hitem s hs id hid
  obtain ⟨e', he', hetag'⟩ := htagged item' hitem' s' hs' id' hid'
  rw [hid', one_package hexclusive he he' hetag hetag']

/-- Where the entries are the parts of a package, so are the services that are sent. -/
theorem allParts_of_booked (hctx : resolvePackageContext records (items.map (·.services)) = .ok ctx)
    (hbuilt : BuiltFrom records ctx loyal items built)
    (hsome : ∃ item ∈ items, ∃ s ∈ item.services, s.packageId ≠ none)
    (honly : ∀ e ∈ entriesOf built, e.packageId = some id)
    (honce : ((entriesOf built).map entryIdText).Perm (includedIds records id)) :
    ∃ info, ctx.lookup id = some info ∧ AllParts id items := by
  have htagged : ∀ item ∈ items, ∀ s ∈ item.services, s.packageId = some id ∧
      ∃ info, ctx.lookup id = some info := by
    intro item hitem s hs
    obtain ⟨e, he, i, j, hpart⟩ := entry_of_part hbuilt hitem hs
    exact (hpart.package id).mp (honly e he)
  obtain ⟨item, hitem, s, hs, -⟩ := hsome
  obtain ⟨info, hlookup⟩ := (htagged item hitem s hs).2
  refine ⟨info, hlookup, ?_⟩
  -- there are as many services with an id as there are services
  obtain ⟨-, -, hperm⟩ := of_lookup_context hctx hlookup
  have hlen := hperm.length_eq.trans honce.length_eq.symm
  rw [ids_entriesOf hbuilt, List.length_map, List.length_map,
    List.length_filterMap_eq_countP, List.countP_eq_length] at hlen
  intro item' hitem' s' hs'
  have htag := (htagged item' hitem' s' hs').1
  refine ⟨htag, ?_⟩
  have hcounted := hlen s' (List.mem_flatten.mpr ⟨_, List.mem_map_of_mem hitem', hs'⟩)
  rw [if_pos htag] at hcounted
  exact Option.isSome_iff_ne_none.mp hcounted

/-- The part at the first place carries the price. -/
theorem carrier_eq_zero (hctx : resolvePackageContext records (items.map (·.services)) = .ok ctx)
    (hlookup : ctx.lookup id = some info) {first : BookingSessionItem} {rest : List BookingSessionItem}
    (hitems : items = first :: rest) (hfirst : first.services ≠ []) (hall : AllParts id items) :
    info.carrier = (0, 0) := by
  obtain ⟨s, others, hs⟩ := List.exists_cons_of_ne_nil hfirst
  obtain ⟨hpackage, hservice⟩ := hall first (by rw [hitems]; exact List.mem_cons_self) s
    (by rw [hs]; exact List.mem_cons_self)
  obtain ⟨serviceId, hid⟩ := Option.ne_none_iff_exists'.mp hservice
  have hsession : (items.map (·.services))[0]? = some first.services := by rw [hitems]; rfl
  have hservice₀ : first.services[0]? = some s := by rw [hs]; rfl
  have hplace : (id, (0, 0), serviceId) ∈ packageRefs (items.map (·.services)) :=
    mk_mem_packageRefs hsession hservice₀ hpackage hid
  rw [(of_lookup_context hctx hlookup).2.1]
  apply firstPlace_eq_zero
  have hfiltered : (id, (0, 0), serviceId) ∈
      (packageRefs (items.map (·.services))).filter (·.1 = id) :=
    List.mem_filter.mpr ⟨hplace, by simp⟩
  have hmapped := List.mem_map_of_mem (f := fun ref : Uuid × (ℕ × ℕ) × Uuid => ref.2.1) hfiltered
  rw [List.map_map]
  exact hmapped

/-- The session that is sent first has the price, and the others are free. -/
theorem prices_built (hctx : resolvePackageContext records (items.map (·.services)) = .ok ctx)
    (hbuilt : BuiltFrom records ctx loyal items built) (hlookup : ctx.lookup id = some info)
    (hall : AllParts id items) {first : BookingSessionItem} {rest : List BookingSessionItem}
    (hitems : items = first :: rest) :
    ∃ b bs, built = b :: bs ∧ b.appointmentStart = first.start ∧
      PricedFirst (packagePrice records id) b.services ∧
      List.Forall₂ (fun item b' => b'.appointmentStart = item.start ∧ b'.services ≠ [] ∧
        ∀ e ∈ b'.services, e.basePrice = 0) rest bs := by
  have hbuilt' := hbuilt
  unfold BuiltFrom at hbuilt'
  rw [hitems, List.zipIdx_cons, List.forall₂_cons_left_iff] at hbuilt'
  obtain ⟨b, bs, hb, hbs, rfl⟩ := hbuilt'
  obtain ⟨hentries, hstart, hne, -⟩ := partEntries_buildAt hb
  have hfirst : first.services ≠ [] := by
    intro hnil
    have hentries' := hentries
    dsimp only at hentries'
    rw [hnil] at hentries'
    exact hne (List.forall₂_nil_left_iff.mp hentries')
  have hcarrier := carrier_eq_zero hctx hlookup hitems hfirst hall
  have hprice := (of_lookup_context hctx hlookup).1
  refine ⟨b, bs, rfl, hstart, ?_, ?_⟩
  · obtain ⟨s, others, hs⟩ := List.exists_cons_of_ne_nil hfirst
    dsimp only at hentries
    rw [hs, List.zipIdx_cons, List.forall₂_cons_left_iff] at hentries
    obtain ⟨e, es, he, hes, hservices⟩ := hentries
    have hparts := hall first (by rw [hitems]; exact List.mem_cons_self)
    rw [hs] at hparts
    refine ⟨e, es, hservices, ?_, fun e' he' => ?_⟩
    · rw [he.price id info (hparts s List.mem_cons_self).1 hlookup, if_pos hcarrier, hprice]
    · obtain ⟨y, hy, hpart⟩ := Lists.exists_left_of_forall₂ hes he'
      have hindex : 1 ≤ y.2 := List.le_snd_of_mem_zipIdx hy
      rw [hpart.price id info
        (hparts y.1 (List.mem_cons_of_mem _ (List.fst_mem_of_mem_zipIdx hy))).1 hlookup, hcarrier,
        if_neg]
      intro h
      have hy : 0 = y.2 := congrArg Prod.snd h
      omega
  · have hzeros : List.Forall₂ (fun x b' => b'.appointmentStart = x.1.start ∧ b'.services ≠ [] ∧
        ∀ e ∈ b'.services, e.basePrice = 0) (rest.zipIdx 1) bs := by
      refine ((List.forall₂_and_left _ _).mpr ⟨fun x hx => hx, hbs⟩).imp ?_
      rintro x b' ⟨hx, hb'⟩
      obtain ⟨hentries', hstart', hne', -⟩ := partEntries_buildAt hb'
      refine ⟨hstart', hne', fun e he => ?_⟩
      obtain ⟨y, hy, hpart⟩ := Lists.exists_left_of_forall₂ hentries' he
      have hitem : x.1 ∈ items := by
        rw [hitems]
        exact List.mem_cons_of_mem _ (List.fst_mem_of_mem_zipIdx hx)
      have hindex : 1 ≤ x.2 := List.le_snd_of_mem_zipIdx hx
      rw [hpart.price id info (hall x.1 hitem y.1 (List.fst_mem_of_mem_zipIdx hy)).1 hlookup, hcarrier,
        if_neg]
      intro h
      have hx : 0 = x.2 := congrArg Prod.fst h
      omega
    exact Lists.forall₂_zipIdx_left.mp hzeros

end Parts

/-! ## When the package is booked as it should be -/

/-- An accepted plan, taken apart. -/
theorem plan_parts (hplan : planSessionItems up req = .ok P) : ∃ ctx built,
    resolvePackageContext up.toRecords (req.items.map (·.services)) = .ok ctx ∧
      BuiltFrom up.toRecords ctx req.isLoyaltyBooking req.items built ∧
      validatePackageExclusivity built = .ok () ∧ entriesOf P = entriesOf (byStart built) ∧
      (bookingTotals P).servicesPrice = ((entriesOf P).map (·.basePrice)).sum := by
  obtain ⟨ctx, built, hctx, hbuilt, hfinish⟩ := planSessionItems_spec.mp hplan
  have hfrom : BuiltFrom up.toRecords ctx req.isLoyaltyBooking req.items built :=
    Fallible.forall₂_of_mapM_eq_ok hbuilt
  have hservices : P.map (·.services) = (byStart built).map (·.services) :=
    map_finishPlan hfinish (·.services) (fun _ => rfl) fun _ _ => rfl
  have hentries : entriesOf P = entriesOf (byStart built) := by
    unfold entriesOf
    rw [List.flatMap_def, List.flatMap_def, hservices]
  refine ⟨ctx, built, hctx, hfrom, ?_, hentries, ?_⟩
  · unfold finishPlan at hfinish
    obtain ⟨⟨⟩, hexclusive, -⟩ := Fallible.bind_eq_ok.mp hfinish
    exact hexclusive
  · have hprices : P.map (·.servicesPrice) =
        (byStart built).map fun b => (b.services.map (·.basePrice)).sum := by
      rw [map_finishPlan hfinish (·.servicesPrice) (fun _ => rfl) fun _ _ => rfl]
      refine List.map_congr_left fun b hb => ?_
      obtain ⟨x, hx, hbuild⟩ := Lists.exists_left_of_forall₂ hfrom ((List.mem_insertionSort _).mp hb)
      exact (partEntries_buildAt hbuild).2.2.2
    show (P.map (·.servicesPrice)).sum = _
    rw [hprices, hentries]
    unfold entriesOf
    rw [List.map_flatMap, List.flatMap_def, List.sum_flatten, List.map_map]
    rfl

/-- Among parts of one package only the order of the sessions matters. -/
theorem pricedFirst_iff {built : List Session}
    (hctx : resolvePackageContext records (req.items.map (·.services)) = .ok ctx)
    (hbuilt : BuiltFrom records ctx loyal req.items built) (hlookup : ctx.lookup id = some info)
    (hall : AllParts id req.items) (hparts : HasPackageParts req) :
    PricedFirst (packagePrice records id) (entriesOf (byStart built)) ↔
      SentInOrder records req := by
  obtain ⟨item₀, hitem₀, s₀, hs₀, -⟩ := hparts
  obtain ⟨first, rest, hitems⟩ := List.exists_cons_of_ne_nil (List.ne_nil_of_mem hitem₀)
  obtain ⟨b, bs, rfl, hstart, hfirst, hrest⟩ := prices_built hctx hbuilt hlookup hall hitems
  have hfree : ∀ b' ∈ bs, b'.services ≠ [] ∧ ∀ e ∈ b'.services, e.basePrice = 0 := by
    intro b' hb'
    obtain ⟨item, -, -, hne, hzero⟩ := Lists.exists_left_of_forall₂ hrest hb'
    exact ⟨hne, hzero⟩
  rw [pricedFirst_byStart_iff hfirst hfree]
  constructor
  · intro h
    refine ⟨fun item hitem s hs => ?_, ?_⟩
    · obtain ⟨hpackage, hservice⟩ := hall item hitem s hs
      exact ⟨by rw [hpackage]; exact Option.some_ne_none id, hservice⟩
    · rcases h with hzero | hle
      · left
        intro item hitem s hs id' hid'
        rw [Option.mem_def, (hall item hitem s hs).1] at hid'
        cases hid'
        exact hzero
      · right
        intro first' hfirst' item hitem
        rw [hitems] at hfirst' hitem
        cases hfirst'
        rcases List.mem_cons.mp hitem with rfl | hitem
        · exact le_refl _
        · obtain ⟨b', hb', hstart', -⟩ := Lists.exists_right_of_forall₂ hrest hitem
          rw [← hstart, ← hstart']
          exact hle b' hb'
  · rintro ⟨-, hzero | hle⟩
    · exact .inl (hzero item₀ hitem₀ s₀ hs₀ id (hall item₀ hitem₀ s₀ hs₀).1)
    · right
      intro b' hb'
      obtain ⟨item, hitem, hstart', -⟩ := Lists.exists_left_of_forall₂ hrest hb'
      rw [hstart, hstart']
      refine hle first ?_ item ?_
      · rw [hitems]
        rfl
      · rw [hitems]
        exact List.mem_cons_of_mem _ hitem

/-- A package is booked as a whole and priced by its first part exactly where nothing else is sent and
the session that is sent first begins first. -/
theorem package_booked_iff (hplan : planSessionItems up req = .ok P) (hparts : HasPackageParts req) :
    (∃ id, PackageBooked up.toRecords id P) ↔ SentInOrder up.toRecords req := by
  obtain ⟨ctx, built, hctx, hbuilt, hexclusive, hentries, htotals⟩ := plan_parts hplan
  have hperm : (entriesOf P).Perm (entriesOf built) := by
    rw [hentries]
    exact (List.perm_insertionSort _ built).flatMap_right _
  constructor
  · rintro ⟨id, hbooked⟩
    obtain ⟨info, hlookup, hall⟩ := allParts_of_booked hctx hbuilt hparts
      (fun e he => hbooked.only e (hperm.mem_iff.mpr he))
      (((hperm.map entryIdText).symm).trans hbooked.once)
    have hfirst := hbooked.first
    rw [hentries] at hfirst
    exact (pricedFirst_iff hctx hbuilt hlookup hall hparts).mp hfirst
  · intro hsent
    obtain ⟨id, info, hlookup, hall⟩ :=
      allParts_of_sent hctx hbuilt hexclusive hsent.parts hparts
    have hfirst : PricedFirst (packagePrice up.toRecords id) (entriesOf P) := by
      rw [hentries]
      exact (pricedFirst_iff hctx hbuilt hlookup hall hparts).mpr hsent
    refine ⟨id, ?_, ?_, hfirst.sum, hfirst, htotals.trans hfirst.sum, map_component_flattenServices P⟩
    · intro e he
      obtain ⟨item, hitem, s, hs, i, j, hpart⟩ := part_of_entry hbuilt (hperm.mem_iff.mp he)
      exact (hpart.package id).mpr ⟨(hall item hitem s hs).1, info, hlookup⟩
    · refine (hperm.map entryIdText).trans ?_
      rw [ids_entriesOf hbuilt]
      refine List.Perm.trans (List.Perm.of_eq ?_) (of_lookup_context hctx hlookup).2.2
      have hids : ∀ s ∈ (req.items.map (·.services)).flatten,
          (if s.packageId = some id then s.serviceId else none) =
            some (s.serviceId.getD s.freshId) := by
        intro s hs
        obtain ⟨services, hservices, hs⟩ := List.mem_flatten.mp hs
        obtain ⟨item, hitem, rfl⟩ := List.mem_map.mp hservices
        obtain ⟨hpackage, hservice⟩ := hall item hitem s hs
        obtain ⟨serviceId, hid⟩ := Option.ne_none_iff_exists'.mp hservice
        rw [if_pos hpackage, hid]
        rfl
      rw [List.filterMap_congr hids]
      have hsome : (fun s : BookingServiceItem => some (s.serviceId.getD s.freshId)) =
          some ∘ fun s => s.serviceId.getD s.freshId := rfl
      rw [hsome, List.filterMap_eq_map, List.map_map]
      rfl

/-- A massage and a facial, which together are the package `7` for 35.000. -/
def packageUshauth : Ushauth :=
  { exampleUshauth with
    service := fun id =>
      if id = 7 then some [("name", .str "Spa day"), ("base_price", .str "35.000"),
        ("is_packaged_services", .bool true), ("included_services", .arr
          [.obj [("id", .str (uuidStr 1)), ("duration_minutes", .num "60")],
            .obj [("id", .str (uuidStr 8)), ("duration_minutes", .num "30")]])]
      else if id = 8 then some [("name", .str "Facial"), ("base_price", .str "20.000"),
        ("duration_minutes", .num "30")]
      else exampleUshauth.service id }

/-- One part of the package in a session of its own. -/
def partSession (sessionId serviceId : Uuid) (start : Instant) : BookingSessionItem :=
  { sessionId := sessionId
    therapistId := 5
    serviceArrangementId := some 3
    services := [{ serviceId := some serviceId, packageId := some 7 }]
    start := start }

/-- The massage is sent first, at 12:00, and the facial second. -/
def partsRequest (start : Instant) : SessionsRequest :=
  { items := [partSession 10 1 32400000000, partSession 11 8 start], day := 0 }

theorem hasPackageParts_partsRequest (start : Instant) : HasPackageParts (partsRequest start) :=
  ⟨_, List.mem_cons_self, _, List.mem_cons_self, Option.some_ne_none 7⟩

/-- With the facial at 14:00 the massage, which is sent first, carries the price. -/
theorem package_booked_example : ∃ P, planSessionItems packageUshauth (partsRequest 39600000000) = .ok P ∧
    ∃ id, PackageBooked packageUshauth.toRecords id P := by
  obtain ⟨P, hplan, -⟩ := exists_plan packageUshauth (partsRequest 39600000000)
    (fun P => (entriesOf P).map component) (y := [(some 7, some 1, 35000), (some 7, some 8, 0)])
    (by decide +kernel)
  refine ⟨P, hplan, (package_booked_iff hplan (hasPackageParts_partsRequest _)).mpr ⟨?_, .inr ?_⟩⟩
  · intro item hitem s hs
    rcases List.mem_cons.mp hitem with rfl | hitem
    · obtain rfl := List.mem_singleton.mp hs
      exact ⟨Option.some_ne_none 7, Option.some_ne_none 1⟩
    · obtain rfl := List.mem_singleton.mp hitem
      obtain rfl := List.mem_singleton.mp hs
      exact ⟨Option.some_ne_none 7, Option.some_ne_none 8⟩
  · intro first hfirst item hitem
    cases hfirst
    rcases List.mem_cons.mp hitem with rfl | hitem
    · exact le_refl _
    · obtain rfl := List.mem_singleton.mp hitem
      decide

/-- With the facial at 10:00 the massage still carries the price, though the facial comes first. -/
theorem later_part_priced : HasPackageParts (partsRequest 25200000000) ∧
    ∃ P, planSessionItems packageUshauth (partsRequest 25200000000) = .ok P ∧
      (entriesOf P).map component = [(some 7, some 8, 0), (some 7, some 1, 35000)] ∧
      ¬ ∃ id, PackageBooked packageUshauth.toRecords id P := by
  refine ⟨hasPackageParts_partsRequest _, ?_⟩
  obtain ⟨P, hplan, hentries⟩ := exists_plan packageUshauth (partsRequest 25200000000)
    (fun P => (entriesOf P).map component) (y := [(some 7, some 8, 0), (some 7, some 1, 35000)])
    (by decide +kernel)
  refine ⟨P, hplan, hentries, ?_⟩
  rintro ⟨id, hbooked⟩
  obtain ⟨e, rest, hlist, hprice, -⟩ := hbooked.first
  rw [hlist, List.map_cons] at hentries
  have hhead : component e = (some 7, some 8, 0) := (List.cons.inj hentries).1
  have hid : some id = some 7 := by
    rw [← hbooked.only e (by rw [hlist]; exact List.mem_cons_self)]
    exact congrArg Prod.fst hhead
  have hfree : e.basePrice = 0 := congrArg (fun c => c.2.2) hhead
  cases hid
  rw [hfree] at hprice
  revert hprice
  decide +kernel

end Booking
