import UshBookNPay.Common.Proofs.JsonProofs
import UshBookNPay.Common.Proofs.UuidProofs
import UshBookNPay.Voucher.MirrorRuns
import UshBookNPay.Voucher.Proofs.RedemptionProofs

/-!
# The mirror law

Each update leaves the columns of a voucher as the services say, and then writes the legacy columns it
names over them. So the law lasts as long as these agree with the services.
-/

open Transactions (exec Ensures ensures_bind ensures_bind_query ensures_bind_ask
  ensures_bind_raiseIf ensures_call ensures_checkedUpdate Keeps Leads keeps_ask keeps_pure keeps_query
  keeps_queryForUpdate)
open Transactions.Prog (raiseIf ask)

namespace Voucher

variable {v w : GiftVoucherRow} {args : UpdateArgs} {now : Instant} {requested : List ServiceItem}

/-! ## The stored services -/

theorem uuidStr_ne_empty (id : Uuid) : uuidStr id ≠ "" := by
  intro h
  have hdash : '-' ∈ (uuidStr id).toList := by simp [uuidStr]
  rw [h] at hdash
  simp at hdash

theorem serviceDataOf_obj (raw : ServiceItem) : ∃ fields, serviceDataOf raw = .obj fields := by
  unfold serviceDataOf
  split
  · exact ⟨_, rfl⟩
  · split
    · exact ⟨_, rfl⟩
    · exact ⟨_, rfl⟩

/-- The id of a service that is requested by its id. -/
theorem serviceIdStr_given {raw : ServiceItem} {id : Uuid} (h : raw.serviceId = some id)
    (other : Option Json) :
    serviceIdStr (fieldOr (raw.serviceId.map fun id => .str (uuidStr id)) other) =
      serviceIdStr (some (.str (uuidStr id))) := by
  simp [fieldOr, h, Json.truthy, uuidStr_ne_empty]

theorem serviceIdStr_isSome (id : Uuid) : (serviceIdStr (some (.str (uuidStr id)))).isSome := by
  unfold serviceIdStr
  split
  · rename_i h
    cases h
  · rename_i h
    cases h
  · rename_i h
    exact absurd (Json.str.inj (Option.some.inj h)) (uuidStr_ne_empty id)
  · split <;> rfl

theorem isSome_normaliseServiceEntry (raw : ServiceItem) (position : ℕ) :
    (normaliseServiceEntry raw position).isSome ↔ IsService raw := by
  unfold normaliseServiceEntry IsService
  dsimp only
  cases hid : raw.serviceId with
  | some id =>
    have hgiven := serviceIdStr_given hid ((serviceDataOf raw).field? "id")
    rw [hid] at hgiven
    have hsome := serviceIdStr_isSome id
    rw [hgiven]
    have hne : serviceIdStr (some (.str (uuidStr id))) ≠ none := Option.isSome_iff_ne_none.mp hsome
    simp [hne]
  | none =>
    by_cases hdata : (serviceDataOf raw).truthy
    · simp [hdata]
    · obtain ⟨fields, hobj⟩ := serviceDataOf_obj raw
      have hempty : fields = [] := by simpa [hobj, Json.truthy_obj] using hdata
      have hnone : serviceIdStr (fieldOr none ((serviceDataOf raw).field? "id")) = none := by
        rw [hobj, hempty]
        rfl
      simp [hdata, hnone]

theorem position_normaliseServiceEntry {raw : ServiceItem} {position : ℕ} {entry : GiftedService}
    (h : normaliseServiceEntry raw position = some entry) : Stores raw entry := by
  have hposition : entry.position = position := by
    have h' := h
    unfold normaliseServiceEntry at h'
    dsimp only at h'
    split_ifs at h'
    rw [← Option.some.inj h']
  unfold Stores
  rw [hposition, h]

/-- The entries are those of the requested services. -/
theorem foldl_addEntry (services : List ServiceItem) (entries : List GiftedService) :
    ∃ added, services.foldl addEntry entries = entries ++ added ∧
      List.Forall₂ Stores (requestedServices services) added := by
  induction services generalizing entries with
  | nil => exact ⟨[], by simp, .nil⟩
  | cons raw services ih =>
    unfold requestedServices at ih ⊢
    rw [List.foldl_cons]
    have hiff := isSome_normaliseServiceEntry raw entries.length
    unfold addEntry
    cases hentry : normaliseServiceEntry raw entries.length with
    | none =>
      have hno : ¬ IsService raw := fun h => by simp [hentry] at hiff; exact hiff h
      obtain ⟨added, hadded, hstores⟩ := ih entries
      refine ⟨added, hadded, ?_⟩
      rwa [List.filter_cons_of_neg (by simpa using hno)]
    | some entry =>
      have hyes : IsService raw := hiff.mp (by simp [hentry])
      obtain ⟨added, hadded, hstores⟩ := ih (entries ++ [entry])
      refine ⟨entry :: added, ?_, ?_⟩
      · rw [← List.append_cons] at hadded
        exact hadded
      · rw [List.filter_cons_of_pos (by simpa using hyes)]
        exact .cons (position_normaliseServiceEntry hentry) hstores

/-- Of more than ten services the rest is dropped. -/
theorem stored_take_iff {entries : List GiftedService}
    (h : List.Forall₂ Stores requested entries) :
    List.Forall₂ Stores requested (entries.take MAX_VOUCHER_SERVICES) ↔
      requested.length ≤ MAX_VOUCHER_SERVICES := by
  constructor
  · intro htake
    rw [htake.length_eq, List.length_take]
    exact min_le_left _ _
  · intro hle
    rwa [List.take_of_length_le (h.length_eq ▸ hle)]

/-- What a list of items comes to, next to a legacy service that gifts nothing unless the code takes it. -/
theorem stored_normaliseServices (services : List ServiceItem) (legacy : ServiceItem)
    (hlegacy : legacy.serviceId.isSome ∨ legacy.serviceData.any Json.truthy ↔ IsService legacy) :
    ∃ entries, normaliseServices services legacy = entries.take MAX_VOUCHER_SERVICES ∧
      List.Forall₂ Stores (if requestedServices services = [] then requestedServices [legacy]
        else requestedServices services) entries := by
  obtain ⟨entries, hentries, hstores⟩ := foldl_addEntry services []
  rw [List.nil_append] at hentries
  unfold normaliseServices
  rw [hentries]
  by_cases hnone : requestedServices services = []
  · rw [hnone] at hstores
    obtain rfl := List.forall₂_nil_left_iff.mp hstores
    rw [if_pos hnone]
    by_cases hsome : IsService legacy
    · obtain ⟨added, hadded, hone⟩ := foldl_addEntry [legacy] []
      rw [List.nil_append, List.foldl_cons, List.foldl_nil] at hadded
      refine ⟨added, ?_, hone⟩
      simp only [true_and, if_pos (hlegacy.mpr hsome), hadded]
    · refine ⟨[], ?_, ?_⟩
      · simp only [hlegacy, hsome, and_false, if_false]
      · have hempty : requestedServices [legacy] = [] := by
          simp [requestedServices, hsome]
        rw [hempty]
        exact .nil
  · have hne : entries ≠ [] := by
      rintro rfl
      exact hnone (List.forall₂_nil_right_iff.mp hstores)
    rw [if_neg hnone]
    exact ⟨entries, by simp [hne], hstores⟩

theorem stored_update (args : UpdateArgs) :
    ∃ entries, normaliseServices args.services {} = entries.take MAX_VOUCHER_SERVICES ∧
      List.Forall₂ Stores (requestedServices args.services) entries := by
  obtain ⟨entries, heq, hstores⟩ := stored_normaliseServices args.services {} (by decide)
  have hempty : requestedServices [{}] = [] := by decide
  refine ⟨entries, heq, ?_⟩
  by_cases hnone : requestedServices args.services = []
  · rwa [if_pos hnone, hempty, ← hnone] at hstores
  · rwa [if_neg hnone] at hstores

theorem take_ne_nil {entries : List GiftedService} :
    entries.take MAX_VOUCHER_SERVICES = [] ↔ entries = [] := by
  simp [MAX_VOUCHER_SERVICES]

theorem normaliseServices_eq_nil (args : UpdateArgs) :
    normaliseServices args.services {} = [] ↔ requestedServices args.services = [] := by
  obtain ⟨entries, heq, hstores⟩ := stored_update args
  rw [heq, take_ne_nil]
  constructor
  · rintro rfl
    exact List.forall₂_nil_right_iff.mp hstores
  · intro hnone
    rw [hnone] at hstores
    exact List.forall₂_nil_left_iff.mp hstores

/-! ## The columns of the gift -/

/-- The columns the law is about. -/
structure GiftColumns where
  services : List GiftedService
  serviceId : Option Uuid
  serviceData : Option Json
  addons : List Json
  extraTime : ℤ
  priceForExtraTime : Option String
  totalDuration : ℤ

def giftColumns (v : GiftVoucherRow) : GiftColumns :=
  { services := v.services
    serviceId := v.serviceId
    serviceData := v.serviceData
    addons := v.addons
    extraTime := v.extraTime
    priceForExtraTime := v.priceForExtraTime
    totalDuration := v.totalDuration }

/-- The legacy columns of a list of services do not depend on the row. -/
theorem mirrors_mirrorLegacyFields {services : List GiftedService} (h : services ≠ [])
    (v w u : GiftVoucherRow) :
    Mirrors u (mirrorLegacyFields services v) ↔ Mirrors u (mirrorLegacyFields services w) := by
  cases services with
  | nil => exact absurd rfl h
  | cons primary services =>
    constructor
    · exact fun ⟨h1, h2, h3, h4, h5⟩ => ⟨h1, h2, h3, h4, h5⟩
    · exact fun ⟨h1, h2, h3, h4, h5⟩ => ⟨h1, h2, h3, h4, h5⟩

theorem Mirrors.congr {m : GiftVoucherRow} (h : giftColumns w = giftColumns v) :
    Mirrors w m ↔ Mirrors v m := by
  have hid : w.serviceId = v.serviceId := congrArg GiftColumns.serviceId h
  have hdata : w.serviceData = v.serviceData := congrArg GiftColumns.serviceData h
  have haddons : w.addons = v.addons := congrArg GiftColumns.addons h
  have htime : w.extraTime = v.extraTime := congrArg GiftColumns.extraTime h
  have hprice : w.priceForExtraTime = v.priceForExtraTime := congrArg GiftColumns.priceForExtraTime h
  constructor
  · rintro ⟨h1, h2, h3, h4, h5⟩
    exact ⟨hid ▸ h1, hdata ▸ h2, haddons ▸ h3, htime ▸ h4, hprice ▸ h5⟩
  · rintro ⟨h1, h2, h3, h4, h5⟩
    exact ⟨hid ▸ h1, hdata ▸ h2, haddons ▸ h3, htime ▸ h4, hprice ▸ h5⟩

theorem GiftConsistent.congr (h : giftColumns w = giftColumns v) :
    GiftConsistent requested w ↔ GiftConsistent requested v := by
  have hservices : w.services = v.services := congrArg GiftColumns.services h
  have hduration : w.totalDuration = v.totalDuration := congrArg GiftColumns.totalDuration h
  have hmirrors : w.services ≠ [] → (Mirrors w (mirrorLegacyFields w.services w) ↔
      Mirrors v (mirrorLegacyFields v.services v)) := by
    intro hne
    rw [Mirrors.congr h, hservices, mirrors_mirrorLegacyFields (hservices ▸ hne) w v]
  constructor
  · rintro ⟨hstored, hmirrored, hlasting⟩
    refine ⟨hservices ▸ hstored, fun hne => ?_, fun hne => ?_⟩
    · exact (hmirrors (hservices ▸ hne)).mp (hmirrored (hservices ▸ hne))
    · rw [← hservices, ← hduration]
      exact hlasting (hservices ▸ hne)
  · rintro ⟨hstored, hmirrored, hlasting⟩
    refine ⟨hservices ▸ hstored, fun hne => ?_, fun hne => ?_⟩
    · exact (hmirrors hne).mpr (hmirrored (hservices ▸ hne))
    · rw [hservices, hduration]
      exact hlasting (hservices ▸ hne)

theorem recordRedemption_columns {r : RedemptionRequest} {status : GiftVoucherStatus}
    (h : recordRedemption args r now v = .ok (w, status)) : giftColumns w = giftColumns v := by
  unfold recordRedemption at h
  split_ifs at h
  obtain ⟨entries, -, h⟩ := Fallible.bind_eq_ok.mp h
  split_ifs at h
  rw [← (Prod.mk.inj (Except.ok.inj h)).1]
  rfl

theorem changeStatus_columns {status : Option GiftVoucherStatus}
    (h : changeStatus args status now v = .ok w) : giftColumns w = giftColumns v := by
  unfold changeStatus at h
  cases status with
  | none =>
    cases h
    rfl
  | some target =>
    dsimp only at h
    split_ifs at h with hsame hinvalid hactive hredeemed
    · cases h
      rfl
    · cases h
      rfl
    · cases h
      rfl
    · cases h
      rfl

theorem changeDelivery_columns (h : changeDelivery args v = .ok w) :
    giftColumns w = giftColumns v := by
  obtain ⟨delivery, rfl⟩ := changeDelivery_spec h
  rfl

/-- An update replaces the services and writes the fields over what the steps before it left of the gift. -/
theorem updatedVoucher_columns (h : updatedVoucher args now v = .ok w) :
    ∃ u, giftColumns u = giftColumns v ∧ w = applyFields args (replaceServices args u) := by
  unfold updatedVoucher at h
  cases hr : args.redemption with
  | none =>
    rw [hr] at h
    obtain ⟨⟨recorded, status⟩, hrecord, h⟩ := Fallible.bind_eq_ok.mp h
    obtain ⟨requested, hrequested, ⟨rfl, rfl⟩⟩ := Fallible.map_eq_ok.mp hrecord
    obtain ⟨moved, hmove, h⟩ := Fallible.bind_eq_ok.mp h
    obtain ⟨delivering, hdelivery, h⟩ := Fallible.bind_eq_ok.mp h
    have hcolumns : giftColumns delivering = giftColumns v :=
      (changeDelivery_columns hdelivery).trans (changeStatus_columns hmove)
    exact ⟨normalisedFields args delivering, hcolumns, (Fallible.pure_eq_ok.mp h).symm⟩
  | some r =>
    rw [hr] at h
    obtain ⟨⟨recorded, status⟩, hrecord, h⟩ := Fallible.bind_eq_ok.mp h
    obtain ⟨⟨recorded', derived⟩, hrec, ⟨rfl, rfl⟩⟩ := Fallible.map_eq_ok.mp hrecord
    obtain ⟨moved, hmove, h⟩ := Fallible.bind_eq_ok.mp h
    obtain ⟨delivering, hdelivery, h⟩ := Fallible.bind_eq_ok.mp h
    have hcolumns : giftColumns delivering = giftColumns v :=
      (changeDelivery_columns hdelivery).trans
        ((changeStatus_columns hmove).trans (recordRedemption_columns hrec))
    exact ⟨normalisedFields args delivering, hcolumns, (Fallible.pure_eq_ok.mp h).symm⟩

/-! ## One update -/

/-- A column that is written over with a value, or left as it is. -/
theorem getD_iff {α : Type} (P : α → Prop) (given : Option α) {old : α} (h : given = none → P old) :
    P (given.getD old) ↔ ∀ value ∈ given, P value := by
  cases given with
  | none => exact ⟨fun _ _ hv => (by cases hv), fun _ => h rfl⟩
  | some value => simp

/-- The legacy columns are written over with what agrees with the mirror. -/
theorem mirrors_applyFields {m : GiftVoucherRow} {duration : ℤ} (hmirrors : Mirrors v m)
    (hlasts : args.totalDuration = none → duration ≤ v.totalDuration) :
    Mirrors (applyFields args v) m ∧ duration ≤ (applyFields args v).totalDuration ↔
      AgreesWith args m duration := by
  have hid := getD_iff (· = m.serviceId) args.serviceId fun _ => hmirrors.serviceId
  have hdata := getD_iff (· = m.serviceData) args.serviceData fun _ => hmirrors.serviceData
  have haddons := getD_iff (SameAddons · m.addons) args.addons fun _ => hmirrors.addons
  have htime := getD_iff (· = m.extraTime) args.extraTime fun _ => hmirrors.extraTime
  have hprice := getD_iff (priceValue · = priceValue m.priceForExtraTime) args.priceForExtraTime
    fun _ => hmirrors.priceForExtraTime
  have hduration := getD_iff (duration ≤ ·) args.totalDuration hlasts
  constructor
  · rintro ⟨⟨h1, h2, h3, h4, h5⟩, h6⟩
    exact ⟨hid.mp h1, hdata.mp h2, haddons.mp h3, htime.mp h4, hprice.mp h5, hduration.mp h6⟩
  · rintro ⟨h1, h2, h3, h4, h5, h6⟩
    exact ⟨⟨hid.mpr h1, hdata.mpr h2, haddons.mpr h3, htime.mpr h4, hprice.mpr h5⟩,
      hduration.mpr h6⟩

theorem mirrors_self {services : List GiftedService} (h : services ≠ []) (v w : GiftVoucherRow) :
    Mirrors (mirrorLegacyFields services v) (mirrorLegacyFields services w) := by
  cases services with
  | nil => exact absurd rfl h
  | cons primary services => exact ⟨rfl, rfl, .inl rfl, rfl, rfl⟩

theorem mirrorLegacyFields_services (services : List GiftedService) (v : GiftVoucherRow) :
    (mirrorLegacyFields services v).services = v.services := by
  cases services <;> rfl

/-- The services of the voucher after their replacement, whose legacy columns and duration fit them. -/
theorem replaceServices_spec (args : UpdateArgs) (hv : GiftConsistent requested v) :
    (replaceServices args v).services = servicesAfter args v ∧
      (servicesAfter args v ≠ [] →
        Mirrors (replaceServices args v) (mirrorLegacyFields (servicesAfter args v) v) ∧
        (args.totalDuration = none →
          servicesDuration (servicesAfter args v) ≤ (replaceServices args v).totalDuration)) := by
  unfold replaceServices servicesAfter
  by_cases hnone : requestedServices args.services = []
  · rw [if_pos hnone, if_pos ((normaliseServices_eq_nil args).mpr hnone)]
    exact ⟨rfl, fun hne => ⟨hv.mirrored hne, fun _ => hv.lasting hne⟩⟩
  · have hentries : normaliseServices args.services {} ≠ [] :=
      mt (normaliseServices_eq_nil args).mp hnone
    rw [if_neg hnone, if_neg hentries]
    have hself := mirrors_self hentries
      { v with services := normaliseServices args.services {} } v
    by_cases hduration : args.totalDuration = none
    · rw [if_pos hduration]
      refine ⟨mirrorLegacyFields_services _ _, fun _ => ⟨?_, fun _ => le_rfl⟩⟩
      obtain ⟨h1, h2, h3, h4, h5⟩ := hself
      exact ⟨h1, h2, h3, h4, h5⟩
    · rw [if_neg hduration]
      exact ⟨mirrorLegacyFields_services _ _, fun _ => ⟨hself, fun h => absurd h hduration⟩⟩

theorem stored_servicesAfter (args : UpdateArgs) (hv : GiftConsistent requested v) :
    List.Forall₂ Stores (requestedAfter args requested) (servicesAfter args v) ↔
      (requestedServices args.services).length ≤ MAX_VOUCHER_SERVICES := by
  unfold requestedAfter servicesAfter
  by_cases hnone : requestedServices args.services = []
  · rw [if_pos hnone, if_pos hnone, hnone]
    exact iff_of_true hv.stored (Nat.zero_le _)
  · obtain ⟨entries, heq, hstores⟩ := stored_update args
    rw [if_neg hnone, if_neg hnone, heq]
    exact stored_take_iff hstores

theorem agreesWith_mirrorLegacyFields {services : List GiftedService} (h : services ≠ [])
    (v w : GiftVoucherRow) (duration : ℤ) :
    AgreesWith args (mirrorLegacyFields services v) duration ↔
      AgreesWith args (mirrorLegacyFields services w) duration := by
  cases services with
  | nil => exact absurd rfl h
  | cons primary services =>
    constructor
    · exact fun ⟨h1, h2, h3, h4, h5, h6⟩ => ⟨h1, h2, h3, h4, h5, h6⟩
    · exact fun ⟨h1, h2, h3, h4, h5, h6⟩ => ⟨h1, h2, h3, h4, h5, h6⟩

theorem updateFits_congr (h : giftColumns w = giftColumns v) : UpdateFits args w ↔ UpdateFits args v := by
  have hservices : w.services = v.services := congrArg GiftColumns.services h
  have hafter : servicesAfter args w = servicesAfter args v := by
    unfold servicesAfter
    rw [hservices]
  constructor
  · rintro ⟨hwithin, hagrees⟩
    refine ⟨hwithin, fun hne => ?_⟩
    rw [agreesWith_mirrorLegacyFields hne v w, ← hafter]
    exact hagrees (hafter ▸ hne)
  · rintro ⟨hwithin, hagrees⟩
    refine ⟨hwithin, fun hne => ?_⟩
    rw [agreesWith_mirrorLegacyFields hne w v, hafter]
    exact hagrees (hafter ▸ hne)

/-- Replacing the services and writing the fields keeps the law if and only if the update fits. -/
theorem giftConsistent_applyFields_iff (hv : GiftConsistent requested v) :
    GiftConsistent (requestedAfter args requested) (applyFields args (replaceServices args v)) ↔
      UpdateFits args v := by
  obtain ⟨hreplaced, hfits⟩ := replaceServices_spec args hv
  have hstored := stored_servicesAfter args hv
  have hservices : (applyFields args (replaceServices args v)).services = servicesAfter args v :=
    hreplaced
  have hcore : servicesAfter args v ≠ [] →
      (Mirrors (applyFields args (replaceServices args v))
          (mirrorLegacyFields (servicesAfter args v) v) ∧
        servicesDuration (servicesAfter args v) ≤
          (applyFields args (replaceServices args v)).totalDuration ↔
        AgreesWith args (mirrorLegacyFields (servicesAfter args v) v)
          (servicesDuration (servicesAfter args v))) :=
    fun hne => mirrors_applyFields (hfits hne).1 (hfits hne).2
  generalize applyFields args (replaceServices args v) = w at hservices hcore ⊢
  constructor
  · rintro ⟨h1, h2, h3⟩
    rw [hservices] at h1 h2 h3
    refine ⟨hstored.mp h1, fun hne => (hcore hne).mp ⟨?_, h3 hne⟩⟩
    exact (mirrors_mirrorLegacyFields hne w v w).mp (h2 hne)
  · rintro ⟨hwithin, hagrees⟩
    refine ⟨hservices ▸ hstored.mpr hwithin, fun hne => ?_, fun hne => ?_⟩
    · rw [hservices] at hne ⊢
      exact (mirrors_mirrorLegacyFields hne v w w).mp ((hcore hne).mpr (hagrees hne)).1
    · rw [hservices] at hne ⊢
      exact ((hcore hne).mpr (hagrees hne)).2

theorem giftConsistent_update_iff (hv : GiftConsistent requested v)
    (hupdate : updatedVoucher args now v = .ok w) :
    GiftConsistent (requestedAfter args requested) w ↔ UpdateFits args v := by
  obtain ⟨u, hu, rfl⟩ := updatedVoucher_columns hupdate
  rw [giftConsistent_applyFields_iff ((GiftConsistent.congr hu).mpr hv), updateFits_congr hu]

/-! ## Runs of updates -/

variable {voucherId : Uuid}

theorem giftColumns_written (u v : GiftVoucherRow) (a : PaymentAttribution.Attribution) :
    giftColumns ((assignUpdated u v).setAttribution a) = giftColumns u := rfl

theorem ofVoucher_iff {P : GiftVoucherRow → Prop} {d : Db}
    (h : Table.get d.giftVouchers voucherId = some v) : OfVoucher voucherId P d ↔ P v := by
  unfold OfVoucher
  rw [h]
  exact ⟨fun hall => hall v rfl, fun hv w hw => Option.some.inj hw ▸ hv⟩

theorem giftStep_iff (s : GiftState) (x : UpdateArgs × (ℕ → Env)) (hs : KeepsGift voucherId s) :
    KeepsGift voucherId (giftStep voucherId s x) ↔ FitsGift voucherId s x := by
  have hensures : Ensures _ _ (updateVoucher voucherId x.1) s.db [] :=
    ensures_updateVoucher voucherId x.1
  have hspec := hensures.exec x.2
  unfold giftStep FitsGift
  rcases hrun : exec x.2 (updateVoucher voucherId x.1) s.db with ⟨e | o, d', es⟩
  · exact iff_of_true hs fun h => by cases h
  · rw [hrun] at hspec
    obtain ⟨v, u, now, vouchers, a, hv, hu, hd', hget, ho⟩ := hspec o rfl
    have hvouchers : d'.giftVouchers = vouchers := congrArg Db.giftVouchers hd'
    have hget' : Table.get d'.giftVouchers voucherId = some o.row := hvouchers ▸ hget
    unfold KeepsGift at hs ⊢
    rw [ofVoucher_iff hv] at hs
    rw [ofVoucher_iff hv, ofVoucher_iff hget', ho]
    rw [GiftConsistent.congr (giftColumns_written u v a), giftConsistent_update_iff hs hu]
    exact ⟨fun h _ => h, fun h => h rfl⟩

/-! ## The new voucher -/

/-- The schedule reads and writes nothing. It is kept behind `Leads`, since its condition is a long
computation on texts. -/
theorem leads_schedule (args : CreateArgs) : Leads (fun d d' : Db => d' = d) (newSchedule args) := by
  unfold newSchedule
  generalize initialStatus args = status
  have hkeeps : Keeps (fun d : Db => d) (if status = .scheduled ∧ args.scheduledDeliveryAt ≠ none then
      ask Env.schedule else pure none : Tx (Option (String × String))) :=
    Keeps.ite (keeps_ask _) (keeps_pure _)
  exact hkeeps.leads fun _ _ heq => heq

theorem keeps_db_generateVoucherNumber : Keeps (fun d : Db => d) generateVoucherNumber := by
  unfold generateVoucherNumber
  refine (keeps_ask _).bind fun month => ?_
  exact (keeps_queryForUpdate _ _).bind fun _ => keeps_query _

theorem ensures_insertVoucher (v : GiftVoucherRow) (d : Db) (es : List Emission) :
    Ensures (fun _ => True) (fun r d' _ => ∀ o, r = .ok o → ∃ a,
        o.row = v.setAttribution a ∧ Table.get d'.giftVouchers o.row.id = some o.row)
      (insertVoucher v) d es := by
  unfold insertVoucher
  dsimp only
  generalize v.attribution = a
  rw [ensures_bind, ensures_checkedUpdate]
  refine ⟨trivial, ?_⟩
  cases hconflict : voucherConflict d (v.setAttribution a) with
  | some e =>
    rintro o ⟨⟩
  | none =>
    rintro o ⟨rfl⟩
    have hfree : Table.get d.giftVouchers (v.setAttribution a).id = none := by
      unfold voucherConflict at hconflict
      split_ifs at hconflict with hsome
      exact Option.not_isSome_iff_eq_none.mp hsome
    exact ⟨a, rfl, Table.get_append_new hfree⟩

/-- `create_voucher`, with any program for the schedule and any columns of the new row. -/
theorem ensures_createWith {schedule : Tx (Option (String × String))}
    (hschedule : Leads (fun d d' : Db => d' = d) schedule) (c : Prop) [Decidable c] (e : Error)
    (create : Uuid → String → Option (String × String) → Instant → GiftVoucherRow) (d : Db)
    (es : List Emission) :
    Ensures (fun _ => True) (fun r d' _ => ∀ o, r = .ok o → ∃ id number schedule now a,
        o.row = (create id number schedule now).setAttribution a ∧
        Table.get d'.giftVouchers o.row.id = some o.row)
      (do
        raiseIf c e
        let schedule ← schedule
        let now ← ask Env.now
        let id ← ask Env.uuid
        let number ← generateVoucherNumber
        let voucher ← insertVoucher (create id number schedule now)
        emitCreatedEvent voucher.row
        pure voucher) d es := by
  rw [ensures_bind_raiseIf]
  constructor
  · intro _ o ho
    cases ho
  intro _
  refine (hschedule.ensures d es).bind ?_ ?_
  · intro schedule d1 es1 _
    rw [ensures_bind_ask]
    refine ⟨trivial, fun b => ?_⟩
    rw [ensures_bind_ask]
    refine ⟨trivial, fun c => ?_⟩
    refine (keeps_db_generateVoucherNumber d1 es1).bind ?_ ?_
    · intro number d2 es2 _
      refine (ensures_insertVoucher _ d2 es2).bind ?_ ?_
      · intro o d3 es3 ho
        obtain ⟨a, hrow, hget⟩ := ho o rfl
        unfold emitCreatedEvent
        rw [ensures_bind, ensures_call]
        intro e
        refine ⟨trivial, ?_⟩
        rintro _ ⟨rfl⟩
        exact ⟨c.uuid, number, schedule, b.now, a, hrow, hget⟩
      · intro e d3 es3 _ o ho
        cases ho
    · intro e d2 es2 _ o ho
      cases ho
  · intro e d1 es1 _ o ho
    cases ho

theorem ensures_createVoucher (args : CreateArgs) (d : Db) (es : List Emission) :
    Ensures (fun _ => True) (fun r d' _ => ∀ o, r = .ok o → ∃ id number schedule now a,
        o.row = (createdVoucher args id number schedule now).setAttribution a ∧
        Table.get d'.giftVouchers o.row.id = some o.row)
      (createVoucher args) d es := by
  unfold createVoucher
  exact ensures_createWith (leads_schedule args) _ _ (createdVoucher args) d es

theorem isService_argumentService (args : CreateArgs)
    (hdict : ∀ data ∈ args.serviceData, ∃ fields, data = .obj fields) :
    serviceDataOf (argumentService args) = args.serviceData.getD (.obj []) ∧
      ((argumentService args).serviceId.isSome ∨
        (argumentService args).serviceData.any Json.truthy ↔ IsService (argumentService args)) := by
  have hdata : serviceDataOf (argumentService args) = args.serviceData.getD (.obj []) ∧
      (argumentService args).serviceData = some (args.serviceData.getD (.obj [])) := by
    cases hsome : args.serviceData with
    | none => simp [argumentService, serviceDataOf, hsome]
    | some data =>
      obtain ⟨fields, rfl⟩ := hdict data hsome
      cases fields with
      | nil => simp [argumentService, serviceDataOf, hsome, Option.filter_some, Json.truthy_obj]
      | cons f fields => simp [argumentService, serviceDataOf, hsome, Option.filter_some, Json.truthy_obj]
  refine ⟨hdata.1, ?_⟩
  unfold IsService
  rw [hdata.1, hdata.2]
  rfl

theorem serviceIdStr_uuid {id : Uuid} (h : id < 2 ^ 128) :
    serviceIdStr (some (.str (uuidStr id))) = some (uuidStr id) := by
  unfold serviceIdStr
  split
  · rename_i heq
    cases heq
  · rename_i heq
    cases heq
  · rename_i heq
    exact absurd (Json.str.inj (Option.some.inj heq)) (uuidStr_ne_empty id)
  · rename_i sid _ _ _ heq
    obtain rfl := Option.some.inj heq
    simp [Json.text, parseUuid_uuidStr h]

theorem parseUuid_serviceIdStr {id : Uuid} (h : id < 2 ^ 128) :
    (serviceIdStr (some (.str (uuidStr id)))).bind parseUuid = some id := by
  rw [serviceIdStr_uuid h, Option.bind_some, parseUuid_uuidStr h]

/-- A voucher made from a list mirrors it from the start. -/
theorem createdVoucher_list {args : CreateArgs} (h : args.services ≠ []) (id : Uuid) (number : String)
    (schedule : Option (String × String)) (now : Instant) :
    ∃ plain : GiftVoucherRow,
      createdVoucher args id number schedule now =
        mirrorLegacyFields (normaliseServices args.services (argumentService args)) plain ∧
      plain.services = normaliseServices args.services (argumentService args) ∧
      servicesDuration (normaliseServices args.services (argumentService args)) ≤
        plain.totalDuration := by
  unfold createdVoucher
  dsimp only
  rw [if_pos h]
  exact ⟨_, rfl, rfl, le_max_right _ _⟩

/-- A voucher made from a single service has the columns as they are given. -/
theorem createdVoucher_single {args : CreateArgs} (h : args.services = []) (id : Uuid) (number : String)
    (schedule : Option (String × String)) (now : Instant) :
    giftColumns (createdVoucher args id number schedule now) =
      { services := normaliseServices [] (argumentService args)
        serviceId := args.serviceId
        serviceData := some (args.serviceData.getD (.obj []))
        addons := args.addons
        extraTime := args.extraTime
        priceForExtraTime := args.priceForExtraTime
        totalDuration := max args.totalDuration
          (servicesDuration (normaliseServices [] (argumentService args))) } := by
  unfold createdVoucher
  dsimp only
  rw [if_neg (not_not.mpr h), h]
  rfl

theorem mirrorLegacyFields_totalDuration (services : List GiftedService) (v : GiftVoucherRow) :
    (mirrorLegacyFields services v).totalDuration = v.totalDuration := by
  cases services <;> rfl

theorem normaliseServices_single (args : CreateArgs)
    (hdict : ∀ data ∈ args.serviceData, ∃ fields, data = .obj fields)
    (h : IsService (argumentService args)) :
    ∃ entry, normaliseServiceEntry (argumentService args) 0 = some entry ∧
      normaliseServices [] (argumentService args) = [entry] := by
  obtain ⟨entry, hentry⟩ :=
    Option.isSome_iff_exists.mp ((isSome_normaliseServiceEntry (argumentService args) 0).mpr h)
  refine ⟨entry, hentry, ?_⟩
  unfold normaliseServices
  dsimp only
  rw [List.foldl_nil, if_pos ⟨rfl, (isService_argumentService args hdict).2.mpr h⟩]
  simp [addEntry, hentry, MAX_VOUCHER_SERVICES]

/-- The entry of the single service is mirrored where its extra time is not negative and its id is not
found in the data only. -/
theorem mirrors_single_iff {args : CreateArgs} (hv : giftColumns v =
      { services := normaliseServices [] (argumentService args)
        serviceId := args.serviceId
        serviceData := some (args.serviceData.getD (.obj []))
        addons := args.addons
        extraTime := args.extraTime
        priceForExtraTime := args.priceForExtraTime
        totalDuration := v.totalDuration })
    (hdict : ∀ data ∈ args.serviceData, ∃ fields, data = .obj fields)
    (huuid : ∀ id ∈ args.serviceId, id < 2 ^ 128) {entry : GiftedService}
    (hentry : normaliseServiceEntry (argumentService args) 0 = some entry) :
    Mirrors v (mirrorLegacyFields [entry] v) ↔ 0 ≤ args.extraTime ∧
      (args.serviceId = none →
        (serviceIdStr ((serviceDataOf (argumentService args)).field? "id")).bind parseUuid = none) := by
  have hid : v.serviceId = args.serviceId := congrArg GiftColumns.serviceId hv
  have hdata : v.serviceData = some (args.serviceData.getD (.obj [])) :=
    congrArg GiftColumns.serviceData hv
  have haddons : v.addons = args.addons := congrArg GiftColumns.addons hv
  have htime : v.extraTime = args.extraTime := congrArg GiftColumns.extraTime hv
  have hprice : v.priceForExtraTime = args.priceForExtraTime :=
    congrArg GiftColumns.priceForExtraTime hv
  have hof := (isService_argumentService args hdict).1
  unfold normaliseServiceEntry at hentry
  dsimp only at hentry
  split_ifs at hentry with hnone
  obtain rfl := Option.some.inj hentry
  have hidiff : args.serviceId = (serviceIdStr (fieldOr
        ((argumentService args).serviceId.map fun id => .str (uuidStr id))
        ((serviceDataOf (argumentService args)).field? "id"))).bind parseUuid ↔
      (args.serviceId = none →
        (serviceIdStr ((serviceDataOf (argumentService args)).field? "id")).bind parseUuid = none) := by
    have hargument : (argumentService args).serviceId = args.serviceId := rfl
    cases hgiven : args.serviceId with
    | none =>
      rw [hgiven] at hargument
      rw [hargument]
      exact ⟨fun h _ => h.symm, fun h => (h rfl).symm⟩
    | some id =>
      rw [hgiven] at hargument
      rw [serviceIdStr_given hargument, parseUuid_serviceIdStr (huuid id hgiven)]
      exact iff_of_true rfl fun h => absurd h (Option.some_ne_none id)
  constructor
  · rintro ⟨h1, -, -, h4, -⟩
    rw [hid] at h1
    rw [htime] at h4
    have h4' : args.extraTime = max args.extraTime 0 + 0 := h4
    refine ⟨?_, hidiff.mp h1⟩
    omega
  · rintro ⟨hpositive, hnoid⟩
    refine ⟨hid.trans (hidiff.mpr hnoid), ?_, ?_, ?_, ?_⟩
    · rw [hdata, ← hof]
      rfl
    · refine .inr ?_
      rw [haddons]
      simp [mirrorLegacyFields, argumentService]
    · rw [htime]
      show args.extraTime = max args.extraTime 0 + 0
      omega
    · rw [hprice]
      rfl

/-- A new voucher keeps the law if and only if its request fits. -/
theorem giftConsistent_created_iff (args : CreateArgs)
    (hdict : ∀ data ∈ args.serviceData, ∃ fields, data = .obj fields)
    (huuid : ∀ id ∈ args.serviceId, id < 2 ^ 128) (id : Uuid) (number : String)
    (schedule : Option (String × String)) (now : Instant) :
    GiftConsistent (requestedAtCreate args) (createdVoucher args id number schedule now) ↔
      CreateFits args := by
  obtain ⟨entries, heq, hstores⟩ := stored_normaliseServices args.services (argumentService args)
    (isService_argumentService args hdict).2
  have hstored : List.Forall₂ Stores (requestedAtCreate args)
      (normaliseServices args.services (argumentService args)) ↔
        (requestedAtCreate args).length ≤ MAX_VOUCHER_SERVICES := by
    rw [heq]
    exact stored_take_iff hstores
  by_cases hlist : args.services = []
  · have hcolumns := createdVoucher_single hlist id number schedule now
    generalize createdVoucher args id number schedule now = v at hcolumns ⊢
    have hservices : v.services = normaliseServices [] (argumentService args) :=
      congrArg GiftColumns.services hcolumns
    have hduration : v.totalDuration = max args.totalDuration
        (servicesDuration (normaliseServices [] (argumentService args))) :=
      congrArg GiftColumns.totalDuration hcolumns
    have hv := hcolumns
    rw [← hduration] at hv
    rw [hlist] at hstored
    have hmirrors : IsService (argumentService args) → (Mirrors v (mirrorLegacyFields v.services v) ↔
        0 ≤ args.extraTime ∧ (args.serviceId = none →
          (serviceIdStr ((serviceDataOf (argumentService args)).field? "id")).bind parseUuid = none)) := by
      intro hservice
      obtain ⟨entry, hentry, hsingle⟩ := normaliseServices_single args hdict hservice
      rw [hservices, hsingle]
      exact mirrors_single_iff hv hdict huuid hentry
    constructor
    · rintro ⟨h1, h2, -⟩
      refine ⟨hstored.mp (hservices ▸ h1), fun _ hservice => (hmirrors hservice).mp (h2 ?_)⟩
      obtain ⟨entry, -, hsingle⟩ := normaliseServices_single args hdict hservice
      rw [hservices, hsingle]
      exact List.cons_ne_nil _ _
    · rintro ⟨hwithin, hsingle⟩
      refine ⟨hservices ▸ hstored.mpr hwithin, fun hne => ?_, fun _ => ?_⟩
      · have hservice : IsService (argumentService args) := by
          by_contra hno
          have hnone : normaliseServices [] (argumentService args) = [] := by
            simp [normaliseServices, (isService_argumentService args hdict).2, hno]
          exact hne (hservices.trans hnone)
        exact (hmirrors hservice).mpr (hsingle hlist hservice)
      · rw [hservices, hduration]
        exact le_max_right _ _
  · obtain ⟨plain, hplain, hservices, hlasts⟩ := createdVoucher_list hlist id number schedule now
    have hkept : (createdVoucher args id number schedule now).services =
        normaliseServices args.services (argumentService args) := by
      rw [hplain, mirrorLegacyFields_services, hservices]
    have hduration : (createdVoucher args id number schedule now).totalDuration =
        plain.totalDuration := by
      rw [hplain, mirrorLegacyFields_totalDuration]
    constructor
    · rintro ⟨h1, -, -⟩
      exact ⟨hstored.mp (hkept ▸ h1), fun h => absurd h hlist⟩
    · rintro ⟨hwithin, -⟩
      refine ⟨hkept ▸ hstored.mpr hwithin, fun hne => ?_, fun _ => ?_⟩
      · rw [hkept] at hne ⊢
        rw [hplain]
        exact mirrors_self hne _ _
      · rw [hkept, hduration]
        exact hlasts

theorem keepsGift_created_iff {args : CreateArgs} {env : ℕ → Env} {d : Db} {s : GiftState}
    (hcreated : giftCreated args env d = some (voucherId, s))
    (hdict : ∀ data ∈ args.serviceData, ∃ fields, data = .obj fields)
    (huuid : ∀ id ∈ args.serviceId, id < 2 ^ 128) : KeepsGift voucherId s ↔ CreateFits args := by
  have hspec := (ensures_createVoucher args d []).exec env
  unfold giftCreated at hcreated
  rcases hrun : exec env (createVoucher args) d with ⟨e | o, d', es⟩
  · rw [hrun] at hcreated
    cases hcreated
  · rw [hrun] at hcreated hspec
    obtain ⟨rfl, rfl⟩ := Prod.mk.inj (Option.some.inj hcreated)
    obtain ⟨id, number, schedule, now, a, ho, hget⟩ := hspec o rfl
    have hcolumns : giftColumns o.row = giftColumns (createdVoucher args id number schedule now) := by
      rw [ho]
      rfl
    have hget' : Table.get d'.giftVouchers o.row.id = some o.row := hget
    unfold KeepsGift
    rw [ofVoucher_iff hget', GiftConsistent.congr hcolumns]
    exact giftConsistent_created_iff args hdict huuid id number schedule now

/-- A massage of an hour, and a facial of half an hour. -/
def massage : ServiceItem :=
  { serviceId := some 1, serviceData := some (.obj [("duration_minutes", .num "60")]) }

def facial : ServiceItem :=
  { serviceId := some 2, serviceData := some (.obj [("duration_minutes", .num "30")]) }

def massageGift : CreateArgs := { senderId := 7, services := [massage], totalAmount := 20000 }

theorem massageGift_created : (giftCreated massageGift (fun _ => { uuid := 5 }) {}).isSome := by
  decide +kernel

/-- The voucher of a massage. -/
def massageState : Uuid × GiftState :=
  (giftCreated massageGift (fun _ => { uuid := 5 }) {}).get massageGift_created

theorem massageState_eq :
    giftCreated massageGift (fun _ => { uuid := 5 }) {} =
      some (massageState.1, massageState.2) := (Option.some_get massageGift_created).symm

/-- The gift becomes a massage and a facial. -/
def addFacial : UpdateArgs × (ℕ → Env) := ({ services := [massage, facial] }, fun _ => {})

end Voucher
