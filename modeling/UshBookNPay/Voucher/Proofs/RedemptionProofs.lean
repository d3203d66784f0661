import UshBookNPay.Lib.Fallible
import UshBookNPay.Voucher.Proofs.StatusProofs
import UshBookNPay.Voucher.VoucherUpdate

/-!
# What a redemption records

A redemption records gifted services that are recorded nowhere yet and derives the status from what is
left; every other update leaves the record alone.
-/

open Transactions

namespace Voucher

variable {v w : GiftVoucherRow} {args : UpdateArgs} {now : Instant}

/-! ## What an update leaves alone -/

/-- The entry of a legacy voucher has the id its columns have. -/
theorem serviceId_normaliseServiceEntry {raw raw' : ServiceItem} (hid : raw'.serviceId = raw.serviceId)
    (hdata : raw'.serviceData = raw.serviceData) (position : ℕ) :
    (normaliseServiceEntry raw' position).map (·.serviceId) =
      (normaliseServiceEntry raw position).map (·.serviceId) := by
  have hof : serviceDataOf raw' = serviceDataOf raw := by
    unfold serviceDataOf
    rw [hid, hdata]
  unfold normaliseServiceEntry
  simp only [hof, hid]
  split_ifs <;> rfl

theorem ids_addEntry {raw raw' : ServiceItem} (hid : raw'.serviceId = raw.serviceId)
    (hdata : raw'.serviceData = raw.serviceData) :
    ((addEntry [] raw').map (·.serviceId)) = (addEntry [] raw).map (·.serviceId) := by
  have h := serviceId_normaliseServiceEntry hid hdata 0
  unfold addEntry
  rw [List.length_nil]
  cases hr : normaliseServiceEntry raw 0 <;> cases hr' : normaliseServiceEntry raw' 0
  · rfl
  · simp [hr, hr'] at h
  · simp [hr, hr'] at h
  · simpa [hr, hr'] using h

theorem ids_normaliseServices {raw raw' : ServiceItem} (hid : raw'.serviceId = raw.serviceId)
    (hdata : raw'.serviceData = raw.serviceData) :
    (normaliseServices [] raw').map (·.serviceId) = (normaliseServices [] raw).map (·.serviceId) := by
  unfold normaliseServices
  simp only [List.foldl_nil, hid, hdata, List.map_take]
  congr 1
  split_ifs
  · exact ids_addEntry hid hdata
  · rfl

/-- The gifted ids depend on the services and, without any, on the legacy service. -/
theorem giftedIds_congr (hservices : w.services = v.services)
    (hlegacy : v.services = [] → w.serviceId = v.serviceId ∧ w.serviceData = v.serviceData) :
    giftedIds w = giftedIds v := by
  have hids : (voucherServicesOf w).map (·.serviceId) = (voucherServicesOf v).map (·.serviceId) := by
    unfold voucherServicesOf
    rw [hservices]
    by_cases hv : v.services = []
    · obtain ⟨hid, hdata⟩ := hlegacy hv
      rw [if_neg (not_not.mpr hv), if_neg (not_not.mpr hv)]
      refine ids_normaliseServices hid ?_
      unfold legacyService
      rw [hdata]
    · rw [if_pos hv, if_pos hv]
  have hfilter : ∀ l : List GiftedService,
      l.filterMap (·.serviceId) = (l.map (·.serviceId)).filterMap id := by
    intro l
    simp [List.filterMap_map]
  unfold giftedIds
  rw [hfilter, hfilter, hids]

theorem usedServiceIds_congr (h : w.redemptions = v.redemptions) :
    usedServiceIds w = usedServiceIds v := by
  unfold usedServiceIds
  rw [h]

/-- What is gifted and recorded stays. -/
structure SameRecord (v w : GiftVoucherRow) : Prop where
  gifted : giftedIds w = giftedIds v
  used : usedServiceIds w = usedServiceIds v

theorem SameRecord.trans {u : GiftVoucherRow} (h : SameRecord v w) (h' : SameRecord w u) :
    SameRecord v u :=
  ⟨h'.gifted.trans h.gifted, h'.used.trans h.used⟩

theorem SameRecord.remaining (h : SameRecord v w) :
    remainingServiceIds w = remainingServiceIds v := by
  unfold remainingServiceIds
  rw [h.gifted, h.used]

/-- The columns the record depends on. -/
theorem sameRecord_of_columns (hservices : w.services = v.services)
    (hid : w.serviceId = v.serviceId) (hdata : w.serviceData = v.serviceData)
    (hredemptions : w.redemptions = v.redemptions) : SameRecord v w :=
  ⟨giftedIds_congr hservices fun _ => ⟨hid, hdata⟩, usedServiceIds_congr hredemptions⟩

/-! ## Recording -/

theorem usedEntries_spec {items : List RedemptionItem} {newIds : List String}
    {entries : List UsedService} (h : usedEntries v items newIds = .ok entries) :
    (entries.map (·.serviceId)).Nodup ∧ ∀ s ∈ entries.map (·.serviceId),
      s ∈ giftedIds v ∧ s ∉ usedServiceIds v ∧ s ∉ newIds := by
  induction items generalizing newIds entries with
  | nil =>
    cases h
    exact ⟨List.nodup_nil, by simp⟩
  | cons item items ih =>
    unfold usedEntries at h
    dsimp only at h
    split_ifs at h with hgifted hused
    cases hrest : usedEntries v items (newIds ++ [item.serviceId]) with
    | error e =>
      rw [hrest] at h
      cases h
    | ok rest =>
      rw [hrest] at h
      cases h
      obtain ⟨hnodup, hmem⟩ := ih hrest
      simp only [not_or] at hused
      constructor
      · refine List.nodup_cons.mpr ⟨fun hin => ?_, hnodup⟩
        exact (hmem _ hin).2.2 (by simp)
      · intro s hs
        rcases List.mem_cons.mp hs with rfl | hs
        · exact ⟨hgifted, hused⟩
        · obtain ⟨hg, hu, hn⟩ := hmem s hs
          exact ⟨hg, hu, fun hin => hn (List.mem_append_left _ hin)⟩

/-- What a redemption has recorded: services that are gifted and were not recorded before. -/
structure Recorded (v w : GiftVoucherRow) (status : GiftVoucherStatus) (ids : List String) :
    Prop where
  some : ids ≠ []
  once : ids.Nodup
  open' : ∀ s ∈ ids, s ∈ giftedIds v ∧ s ∉ usedServiceIds v
  used : usedServiceIds w = usedServiceIds v ++ ids
  gifted : giftedIds w = giftedIds v
  before : v.status = .active ∨ v.status = .partiallyRedeemed
  unmoved : w.status = v.status
  services : w.services = v.services
  derived : status = if remainingServiceIds w = [] then .redeemed else .partiallyRedeemed

theorem giftedIds_ne_empty {s : String} (h : s ∈ giftedIds v) : s ≠ "" := by
  simpa using (List.mem_filter.mp h).2

theorem all_mem_iff (ids used : List String) :
    ids.all (· ∈ used) = true ↔ ids.filter (· ∉ used) = [] := by
  simp [List.filter_eq_nil_iff]

/-- A record with the services `entries` adds their ids. -/
theorem usedServiceIds_record {record : Redemption} {entries : List UsedService}
    (hw : w.redemptions = v.redemptions ++ [record]) (hservices : record.services = entries)
    (hne : ∀ s ∈ entries.map (·.serviceId), s ≠ "") :
    usedServiceIds w = usedServiceIds v ++ entries.map (·.serviceId) := by
  have hself : (entries.map (·.serviceId)).filter (· ≠ "") = entries.map (·.serviceId) := by
    rw [List.filter_eq_self]
    intro s hs
    simpa using hne s hs
  unfold usedServiceIds
  rw [hw, List.flatMap_append, List.map_append, List.filter_append, List.flatMap_singleton,
    hservices, hself]

theorem recordRedemption_spec {r : RedemptionRequest} {status : GiftVoucherStatus}
    (h : recordRedemption args r now v = .ok (w, status)) : ∃ ids, Recorded v w status ids := by
  unfold recordRedemption at h
  split_ifs at h with hstatus
  cases hentries : usedEntries v r.services [] with
  | error e =>
    rw [hentries] at h
    cases h
  | ok entries =>
    rw [hentries] at h
    by_cases hempty : entries = []
    · simp [bind, Except.bind, hempty] at h
    have h' := h
    simp only [bind, Except.bind, if_neg hempty, Except.ok.injEq, Prod.mk.injEq] at h'
    obtain ⟨hw, hst⟩ := h'
    obtain ⟨hnodup, hmem⟩ := usedEntries_spec hentries
    have hused : usedServiceIds w = usedServiceIds v ++ entries.map (·.serviceId) := by
      rw [← hw]
      exact usedServiceIds_record rfl rfl fun s hs => giftedIds_ne_empty (hmem s hs).1
    have hgifted : giftedIds w = giftedIds v := by
      rw [← hw]
      exact giftedIds_congr rfl fun _ => ⟨rfl, rfl⟩
    refine ⟨entries.map (·.serviceId), ?_, hnodup, ?_, hused, hgifted, ?_, ?_, ?_, ?_⟩
    · simpa using hempty
    · exact fun s hs => ⟨(hmem s hs).1, (hmem s hs).2.1⟩
    · rw [not_and_or, not_not, not_not] at hstatus
      exact hstatus
    · rw [← hw]
      rfl
    · rw [← hw]
      rfl
    · rw [← hst]
      unfold remainingServiceIds
      rw [hused, hgifted]
      have hall := all_mem_iff (giftedIds v) (usedServiceIds v ++ entries.map (·.serviceId))
      by_cases hc : (giftedIds v).filter (· ∉ usedServiceIds v ++ entries.map (·.serviceId)) = []
      · rw [if_pos (hall.mpr hc), if_pos hc]
      · rw [if_neg (mt hall.mp hc), if_neg hc]

/-! ## The other steps of an update -/

/-- The status moves along the state machine, or stays. -/
theorem changeStatus_spec {status : Option GiftVoucherStatus}
    (h : changeStatus args status now v = .ok w) :
    SameRecord v w ∧ w.services = v.services ∧
      (w.status = v.status ∨ (status = some w.status ∧ validTransition v.status w.status)) := by
  unfold changeStatus at h
  cases status with
  | none =>
    cases h
    exact ⟨⟨rfl, rfl⟩, rfl, .inl rfl⟩
  | some target =>
    dsimp only at h
    split_ifs at h with hsame hinvalid hactive hredeemed
    · cases h
      exact ⟨⟨rfl, rfl⟩, rfl, .inl rfl⟩
    · cases h
      exact ⟨sameRecord_of_columns rfl rfl rfl rfl, rfl, .inr ⟨rfl, hinvalid⟩⟩
    · cases h
      exact ⟨sameRecord_of_columns rfl rfl rfl rfl, rfl, .inr ⟨rfl, hinvalid⟩⟩
    · cases h
      exact ⟨sameRecord_of_columns rfl rfl rfl rfl, rfl, .inr ⟨rfl, hinvalid⟩⟩

theorem changeStatus_target {status : GiftVoucherStatus}
    (h : changeStatus args (some status) now v = .ok w) : w.status = status := by
  unfold changeStatus at h
  dsimp only at h
  split_ifs at h with hsame hinvalid hactive hredeemed
  · cases h
    exact hsame.symm
  · cases h
    rfl
  · cases h
    rfl
  · cases h
    rfl

theorem changeDelivery_spec (h : changeDelivery args v = .ok w) :
    ∃ delivery, w = { v with deliveryStatus := delivery } := by
  unfold changeDelivery at h
  cases hd : args.deliveryStatus with
  | none =>
    rw [hd] at h
    cases h
    exact ⟨_, rfl⟩
  | some text =>
    rw [hd] at h
    dsimp only at h
    split_ifs at h with hsame
    · cases h
      exact ⟨_, rfl⟩
    · cases hp : parseDeliveryStatus text with
      | error e =>
        rw [hp] at h
        cases h
      | ok target =>
        rw [hp] at h
        cases hc : v.deliveryStatus with
        | none =>
          rw [hc] at h
          cases h
          exact ⟨_, rfl⟩
        | some current =>
          rw [hc] at h
          simp only [bind, Except.bind] at h
          split_ifs at h
          cases h
          exact ⟨_, rfl⟩

/-- Unless it gives the voucher other services, the rest of an update keeps what is gifted. -/
theorem applyFields_same (h : ¬ ReplacesServices args v) :
    SameRecord v (applyFields args (replaceServices args (normalisedFields args v))) := by
  unfold ReplacesServices at h
  simp only [not_or, not_and, not_not, Bool.not_eq_true, Option.isSome_eq_false_iff,
    Option.isNone_iff_eq_none] at h
  obtain ⟨hentries, hlegacy⟩ := h
  unfold replaceServices
  rw [if_pos hentries]
  refine ⟨giftedIds_congr rfl fun hv => ?_, usedServiceIds_congr rfl⟩
  obtain ⟨hid, hdata⟩ := hlegacy hv
  unfold applyFields
  rw [hid, hdata]
  exact ⟨rfl, rfl⟩

theorem mirrorLegacyFields_kept (services : List GiftedService) (v : GiftVoucherRow) :
    (mirrorLegacyFields services v).redemptions = v.redemptions ∧
      (mirrorLegacyFields services v).status = v.status := by
  cases services <;> exact ⟨rfl, rfl⟩

/-- What the rest of an update leaves in any case. -/
theorem applyFields_kept (args : UpdateArgs) (v : GiftVoucherRow) :
    (applyFields args (replaceServices args (normalisedFields args v))).redemptions = v.redemptions ∧
      (applyFields args (replaceServices args (normalisedFields args v))).status = v.status := by
  show (replaceServices args (normalisedFields args v)).redemptions = v.redemptions ∧
    (replaceServices args (normalisedFields args v)).status = v.status
  unfold replaceServices
  dsimp only
  split_ifs
  · exact ⟨rfl, rfl⟩
  · exact mirrorLegacyFields_kept _ _
  · exact mirrorLegacyFields_kept _ _

/-! ## The whole update -/

/-- A redemption of the services `ids`, with the status that follows from what is left. -/
structure Redeems (v w : GiftVoucherRow) (ids : List String) : Prop where
  some : ids ≠ []
  once : ids.Nodup
  fresh : ∀ s ∈ ids, s ∈ giftedIds v ∧ s ∉ usedServiceIds v
  used : usedServiceIds w = usedServiceIds v ++ ids
  gifted : giftedIds w = giftedIds v
  derived : w.status = if remainingServiceIds w = [] then .redeemed else .partiallyRedeemed

theorem parseStatus_value {text : String} {status : GiftVoucherStatus}
    (h : parseStatus text = .ok status) : text = status.value := by
  unfold parseStatus at h
  cases hf : List.find? (fun s : GiftVoucherStatus => decide (s.value = text)) [.created,
      .paymentPending, .scheduled, .active, .partiallyRedeemed, .redeemed, .fulfilled, .expired,
      .cancelled] with
  | none =>
    rw [hf] at h
    cases h
  | some found =>
    rw [hf] at h
    cases h
    have := List.find?_some hf
    exact (of_decide_eq_true this).symm

/-- What an update has done before it applies the remaining fields. -/
structure Moved (args : UpdateArgs) (v u : GiftVoucherRow) : Prop where
  services : u.services = v.services
  moved : validTransition v.status u.status
  record : (args.redemption.isSome ∧ ∃ ids, Redeems v u ids) ∨
    (args.redemption = none ∧ SameRecord v u ∧
      (u.status = v.status ∨ args.status = some u.status.value))

theorem moved_of_redemption {r : RedemptionRequest} {recorded moved : GiftVoucherRow}
    {status : GiftVoucherStatus} (hr : args.redemption = some r)
    (hrecord : recordRedemption args r now v = .ok (recorded, status))
    (hmove : changeStatus args (some status) now recorded = .ok moved) : Moved args v moved := by
  obtain ⟨ids, hrec⟩ := recordRedemption_spec hrecord
  obtain ⟨hsame, hservices, hstatus⟩ := changeStatus_spec hmove
  refine ⟨hservices.trans hrec.services, ?_, .inl ⟨by rw [hr]; rfl, ids, ?_⟩⟩
  · rw [← hrec.unmoved]
    rcases hstatus with h | ⟨-, h⟩
    · exact .inl h.symm
    · exact h
  · refine ⟨hrec.some, hrec.once, hrec.open', hsame.used.trans hrec.used,
      hsame.gifted.trans hrec.gifted, ?_⟩
    rw [changeStatus_target hmove, hrec.derived, hsame.remaining]

theorem moved_of_status {moved : GiftVoucherRow} {status : Option GiftVoucherStatus}
    (hr : args.redemption = none) (hrequested : requestedStatus args = .ok status)
    (hmove : changeStatus args status now v = .ok moved) : Moved args v moved := by
  obtain ⟨hsame, hservices, hstatus⟩ := changeStatus_spec hmove
  refine ⟨hservices, ?_, .inr ⟨hr, hsame, ?_⟩⟩
  · rcases hstatus with h | ⟨-, h⟩
    · exact .inl h.symm
    · exact h
  · rcases hstatus with h | ⟨h, -⟩
    · exact .inl h
    · right
      unfold requestedStatus at hrequested
      cases hs : args.status with
      | none =>
        rw [hs, h] at hrequested
        cases hrequested
      | some text =>
        rw [hs, h] at hrequested
        obtain ⟨found, hp, ⟨rfl⟩⟩ := Fallible.map_eq_ok.mp hrequested
        rw [parseStatus_value hp]

theorem Moved.delivering {moved u : GiftVoucherRow} (h : Moved args v moved)
    (hdelivery : changeDelivery args moved = .ok u) : Moved args v u := by
  obtain ⟨delivery, rfl⟩ := changeDelivery_spec hdelivery
  have hsame : SameRecord moved { moved with deliveryStatus := delivery } :=
    sameRecord_of_columns rfl rfl rfl rfl
  refine ⟨h.services, h.moved, ?_⟩
  rcases h.record with ⟨hr, ids, hred⟩ | ⟨hr, hsame', hst⟩
  · refine .inl ⟨hr, ids, hred.some, hred.once, hred.fresh, hsame.used.trans hred.used,
      hsame.gifted.trans hred.gifted, ?_⟩
    rw [hsame.remaining]
    exact hred.derived
  · exact .inr ⟨hr, hsame'.trans hsame, hst⟩

/-- The steps of an update in order. -/
theorem updatedVoucher_cases (h : updatedVoucher args now v = .ok w) :
    ∃ u, Moved args v u ∧ w = applyFields args (replaceServices args (normalisedFields args u)) := by
  unfold updatedVoucher at h
  cases hr : args.redemption with
  | none =>
    rw [hr] at h
    obtain ⟨⟨recorded, status⟩, hrecord, h⟩ := Fallible.bind_eq_ok.mp h
    obtain ⟨requested, hrequested, ⟨rfl, rfl⟩⟩ := Fallible.map_eq_ok.mp hrecord
    obtain ⟨moved, hmove, h⟩ := Fallible.bind_eq_ok.mp h
    obtain ⟨u, hdelivery, h⟩ := Fallible.bind_eq_ok.mp h
    have hmoved : Moved args v moved := moved_of_status hr hrequested hmove
    exact ⟨u, hmoved.delivering hdelivery, (Fallible.pure_eq_ok.mp h).symm⟩
  | some r =>
    rw [hr] at h
    obtain ⟨⟨recorded, status⟩, hrecord, h⟩ := Fallible.bind_eq_ok.mp h
    obtain ⟨⟨recorded', derived⟩, hrec, ⟨rfl, rfl⟩⟩ := Fallible.map_eq_ok.mp hrecord
    obtain ⟨moved, hmove, h⟩ := Fallible.bind_eq_ok.mp h
    obtain ⟨u, hdelivery, h⟩ := Fallible.bind_eq_ok.mp h
    have hmoved : Moved args v moved := moved_of_redemption hr hrec hmove
    exact ⟨u, hmoved.delivering hdelivery, (Fallible.pure_eq_ok.mp h).symm⟩

/-! ## The two properties under one call -/

/-- A list without repetitions has each element once, which is not more than another list that has it. -/
theorem count_le_of_nodup {used gifted : List String} (hnodup : used.Nodup)
    (hsub : ∀ s ∈ used, s ∈ gifted) (s : String) : used.count s ≤ gifted.count s := by
  by_cases hs : s ∈ used
  · calc used.count s ≤ 1 := List.nodup_iff_count_le_one.mp hnodup s
      _ ≤ gifted.count s := List.count_pos_iff.mpr (hsub s hs)
  · rw [List.count_eq_zero_of_not_mem hs]
    exact Nat.zero_le _

theorem redemptionsFit_iff :
    RedemptionsFit v ↔ (usedServiceIds v).Nodup ∧ ∀ s ∈ usedServiceIds v, s ∈ giftedIds v := by
  constructor
  · exact fun h => ⟨h.once, h.gifted⟩
  · exact fun ⟨hnodup, hsub⟩ => ⟨hnodup, hsub, count_le_of_nodup hnodup hsub⟩

theorem RedemptionsFit.same (h : RedemptionsFit v) (hsame : SameRecord v w) : RedemptionsFit w := by
  rw [redemptionsFit_iff, hsame.used, hsame.gifted]
  exact ⟨h.once, h.gifted⟩

theorem redemptionsFit_untouched (h : usedServiceIds v = []) : RedemptionsFit v := by
  rw [redemptionsFit_iff, h]
  exact ⟨List.nodup_nil, by simp⟩

theorem RedemptionsFit.redeems {ids : List String} (h : RedemptionsFit v) (hred : Redeems v w ids) :
    RedemptionsFit w := by
  rw [redemptionsFit_iff, hred.used, hred.gifted]
  constructor
  · refine List.nodup_append.mpr ⟨h.once, hred.once, ?_⟩
    rintro s hs _ hs' rfl
    exact (hred.fresh s hs').2 hs
  · intro s hs
    rcases List.mem_append.mp hs with hs | hs
    · exact h.gifted s hs
    · exact (hred.fresh s hs).1

theorem StatusFits.same (h : StatusFits v) (hsame : SameRecord v w) (hstatus : w.status = v.status) :
    StatusFits w := by
  obtain ⟨huntouched, hpartly, hwholly⟩ := h
  rw [← hstatus, ← hsame.used] at huntouched
  rw [← hstatus, ← hsame.used, ← hsame.remaining] at hpartly hwholly
  exact ⟨huntouched, hpartly, hwholly⟩

/-- A redemption leaves the status that fits, whatever it was before. -/
theorem statusFits_redeems {ids : List String} (hred : Redeems v w ids) : StatusFits w := by
  have hused : usedServiceIds w ≠ [] := by
    rw [hred.used]
    exact List.append_ne_nil_of_right_ne_nil _ hred.some
  refine ⟨fun h => absurd h hused, fun _ hleft => ?_, fun _ hleft => ?_⟩
  · rw [hred.derived, if_neg hleft]
    exact List.mem_cons_self
  · rw [hred.derived, if_pos hleft]
    exact List.mem_cons_self

/-- A move of the state machine that is not to a status of a redemption keeps the status fitting. -/
theorem StatusFits.moves (h : StatusFits v) (hsame : SameRecord v w)
    (hmove : validTransition v.status w.status)
    (hown : w.status = .redeemed ∨ w.status = .partiallyRedeemed → w.status = v.status) :
    StatusFits w := by
  by_cases hstatus : w.status = v.status
  · exact h.same hsame hstatus
  obtain ⟨hnot, hnot'⟩ : w.status ≠ .redeemed ∧ w.status ≠ .partiallyRedeemed :=
    ⟨fun hs => hstatus (hown (.inl hs)), fun hs => hstatus (hown (.inr hs))⟩
  have hmove' : w.status ∈ TRANSITIONS v.status := hmove.resolve_left (Ne.symm hstatus)
  refine ⟨?_, ?_, ?_⟩
  · rw [hsame.used]
    intro hused
    have hbefore := h.untouched hused
    revert hmove' hbefore hnot hnot'
    cases v.status <;> cases w.status <;> decide
  · rw [hsame.used, hsame.remaining]
    intro hused hleft
    have hbefore := h.partly hused hleft
    revert hmove' hbefore hnot hnot'
    cases v.status <;> cases w.status <;> decide
  · rw [hsame.used, hsame.remaining]
    intro hused hleft
    have hbefore := h.wholly hused hleft
    revert hmove' hbefore hnot hnot'
    cases v.status <;> cases w.status <;> decide

theorem GiftVoucherStatus.value_injective {s s' : GiftVoucherStatus} (h : s.value = s'.value) :
    s = s' := by
  revert h
  cases s <;> cases s' <;> decide

theorem replacesServices_congr (h : w.services = v.services) :
    ReplacesServices args w ↔ ReplacesServices args v := by
  unfold ReplacesServices
  rw [h]

/-- Where an update does not replace the services, its remaining fields keep the record; where it does,
nothing is recorded. -/
theorem Moved.applied {u : GiftVoucherRow} (h : Moved args v u)
    (hintime : ReplacesInTime (.updateVoucher args) v) :
    SameRecord u (applyFields args (replaceServices args (normalisedFields args u))) ∨
      (args.redemption = none ∧
        usedServiceIds (applyFields args (replaceServices args (normalisedFields args u))) = []) := by
  by_cases hrep : ReplacesServices args u
  · right
    obtain ⟨hused, hnone⟩ := hintime ((replacesServices_congr h.services).mp hrep)
    refine ⟨hnone, ?_⟩
    rw [usedServiceIds_congr (applyFields_kept args u).1]
    rcases h.record with ⟨hr, -⟩ | ⟨-, hsame, -⟩
    · rw [hnone] at hr
      cases hr
    · rw [hsame.used, hused]
  · exact .inl (applyFields_same hrep)

theorem redemptionsFit_updatedVoucher (h : updatedVoucher args now v = .ok w)
    (hfit : RedemptionsFit v) (hintime : ReplacesInTime (.updateVoucher args) v) :
    RedemptionsFit w := by
  obtain ⟨u, hmoved, rfl⟩ := updatedVoucher_cases h
  rcases hmoved.applied hintime with hsame | ⟨-, hused⟩
  · have hu : RedemptionsFit u := by
      rcases hmoved.record with ⟨-, ids, hred⟩ | ⟨-, hsame', -⟩
      · exact hfit.redeems hred
      · exact hfit.same hsame'
    exact hu.same hsame
  · exact redemptionsFit_untouched hused

theorem statusFits_updatedVoucher (h : updatedVoucher args now v = .ok w) (hfit : StatusFits v)
    (hintime : ReplacesInTime (.updateVoucher args) v)
    (hrecords : RedeemsByRecord (.updateVoucher args) v) : StatusFits w := by
  obtain ⟨u, hmoved, rfl⟩ := updatedVoucher_cases h
  have hu : StatusFits u := by
    rcases hmoved.record with ⟨-, ids, hred⟩ | ⟨hnone, hsame, hstatus⟩
    · exact statusFits_redeems hred
    · refine hfit.moves hsame hmoved.moved fun hown => ?_
      rcases hstatus with hstatus | hstatus
      · exact hstatus
      · refine GiftVoucherStatus.value_injective (hrecords hnone _ hstatus ?_)
        rcases hown with hown | hown
        · exact .inl (congrArg _ hown)
        · exact .inr (congrArg _ hown)
  have hkept := (applyFields_kept args u).2
  rcases hmoved.applied hintime with hsame | ⟨hnone, hused⟩
  · exact hu.same hsame hkept
  · refine ⟨fun _ => ?_, fun hne => absurd hused hne, fun hne => absurd hused hne⟩
    rw [hkept]
    rw [usedServiceIds_congr (applyFields_kept args u).1] at hused
    exact hu.untouched hused

/-! ### `update_status` -/

theorem statusColumns_same (target : GiftVoucherStatus) (args : StatusArgs)
    (schedule : Option (String × String)) (now : Instant) (v : GiftVoucherRow) :
    SameRecord v (statusColumns target args schedule now v) := by
  unfold statusColumns paidColumns redeemedColumns
  refine sameRecord_of_columns ?_ ?_ ?_ ?_
  all_goals
    dsimp only
    split_ifs <;> rfl

/-- A redirected activation aside, the status is the requested one. -/
theorem redirect_redeems {newStatus : GiftVoucherStatus}
    (h : redirect v newStatus = .redeemed ∨ redirect v newStatus = .partiallyRedeemed) :
    redirect v newStatus = newStatus := by
  unfold redirect at h ⊢
  split_ifs at h ⊢
  · rcases h with h | h <;> cases h
  · rfl

theorem statusFits_statusColumns {newStatus : GiftVoucherStatus} {args : StatusArgs}
    (hfit : StatusFits v) (hallowed : Allowed v newStatus)
    (hrecords : RedeemsByRecord (.updateStatus newStatus args) v)
    (schedule : Option (String × String)) (now : Instant) :
    StatusFits (statusColumns (redirect v newStatus) args schedule now v) := by
  refine hfit.moves (statusColumns_same _ _ _ _ _) hallowed ?_
  show redirect v newStatus = .redeemed ∨ redirect v newStatus = .partiallyRedeemed →
    redirect v newStatus = v.status
  intro hown
  have hsame := redirect_redeems hown
  rw [hsame] at hown ⊢
  exact hrecords hown

theorem setAttribution_same (v : GiftVoucherRow) (a : PaymentAttribution.Attribution) :
    SameRecord v (v.setAttribution a) := sameRecord_of_columns rfl rfl rfl rfl

/-! ## Runs -/

variable {d : Db} {es : List Emission} {voucherId : Uuid}

/-- What an update leaves of the voucher: the updated columns, with the attribution computed anew. -/
theorem ensures_updateVoucher (voucherId : Uuid) (args : UpdateArgs) :
    Ensures (fun _ => True) (fun r d' _ => ∀ o, r = .ok o → ∃ v u now vouchers a,
        Table.get d.giftVouchers voucherId = some v ∧ updatedVoucher args now v = .ok u ∧
        d' = { d with giftVouchers := vouchers } ∧ Table.get vouchers voucherId = some o.row ∧
        o.row = (assignUpdated u v).setAttribution a)
      (updateVoucher voucherId args) d es := by
  unfold updateVoucher
  rw [ensures_bind_query]
  refine ⟨trivial, ?_⟩
  cases hrow : Table.get d.giftVouchers voucherId with
  | none =>
    rintro o ⟨⟩
  | some row =>
    dsimp only
    rw [ensures_bind_ask]
    refine ⟨trivial, fun a => ?_⟩
    cases hu : updatedVoucher args a.now row with
    | error e =>
      rintro o ⟨⟩
    | ok u =>
      have hstep : InStep ((Orm.ofRow row).set (assignUpdated u)) d.giftVouchers :=
        (inStep_ofRow hrow).set fun _ => rfl
      have hid : row.id = voucherId := (Table.get_some hrow).2
      refine (ensures_flushVoucher hstep).bind_returns ?_
      rintro o d' es' ⟨rfl, ho, vouchers, rfl, hget⟩
      unfold emitStatusEvent
      rw [ensures_bind, ensures_call]
      intro b
      refine ⟨trivial, ?_⟩
      rintro _ ⟨rfl⟩
      rw [Orm.set_row, Orm.ofRow_row] at ho hget
      exact ⟨row, u, a.now, vouchers, _, rfl, hu, rfl, hid ▸ hget, ho⟩

/-- An update records what `updated_voucher` says. -/
theorem assignUpdated_same (u v : GiftVoucherRow) (a : PaymentAttribution.Attribution) :
    SameRecord u ((assignUpdated u v).setAttribution a) := by
  have hassigned : SameRecord u (assignUpdated u v) := sameRecord_of_columns rfl rfl rfl rfl
  exact hassigned.trans (setAttribution_same _ _)

/-- A property of the voucher that each call keeps holds after the call. -/
theorem ofVoucher_step {P : GiftVoucherRow → Prop} {Q : VoucherOp → GiftVoucherRow → Prop}
    (hsame : ∀ v w, P v → SameRecord v w → w.status = v.status → P w)
    (hupdate : ∀ args now v u, updatedVoucher args now v = .ok u → P v →
      Q (.updateVoucher args) v → P u)
    (hstatus : ∀ newStatus args v, Allowed v newStatus → P v → Q (.updateStatus newStatus args) v →
      ∀ schedule now, P (statusColumns (redirect v newStatus) args schedule now v))
    (x : VoucherOp × (ℕ → Env)) (hP : OfVoucher voucherId P d)
    (hQ : OfVoucher voucherId (Q x.1) d) : OfVoucher voucherId P (voucherStep voucherId d x) := by
  unfold voucherStep
  refine Ensures.atomically ?_ x.2
  obtain ⟨op, env⟩ := x
  cases op with
  | updateVoucher args =>
    refine (ensures_updateVoucher voucherId args).bind ?_ ?_
    · intro o d' es' h
      obtain ⟨v, u, now, vouchers, a, hv, hu, rfl, hget, ho⟩ := h o rfl
      intro w hw
      cases hget.symm.trans hw
      rw [ho]
      exact hsame _ _ (hupdate args now v u hu (hP v hv) (hQ v hv)) (assignUpdated_same u v a) rfl
    · exact fun _ _ _ _ => hP
  | updateStatus newStatus args =>
    have hknown : ∀ o : Orm GiftVoucherRow, none = some o →
        InStep o d.giftVouchers ∧ o.row.id = voucherId := by
      rintro _ ⟨⟩
    refine (ensures_updateStatus_columns hknown).bind ?_ ?_
    · intro o d' es' h
      obtain ⟨-, v, vouchers, hv, hallowed, rfl, hget, schedule, now, a, ho⟩ := h.2 o rfl
      intro w hw
      cases hget.symm.trans hw
      rw [ho]
      refine hsame _ _ (hstatus newStatus args v hallowed (hP v hv) (hQ v hv) schedule now)
        (setAttribution_same _ _) (GiftVoucherRow.setAttribution_status _ _)
    · exact fun _ _ _ _ => hP

theorem redemptionsFit_step (x : VoucherOp × (ℕ → Env)) (hfit : OfVoucher voucherId RedemptionsFit d)
    (hstep : OfVoucher voucherId (ReplacesInTime x.1) d) :
    OfVoucher voucherId RedemptionsFit (voucherStep voucherId d x) := by
  refine ofVoucher_step (Q := ReplacesInTime) ?_ ?_ ?_ x hfit hstep
  · exact fun v w h hsame _ => h.same hsame
  · exact fun args now v u hu hv hq => redemptionsFit_updatedVoucher hu hv hq
  · exact fun newStatus args v _ hv _ schedule now => hv.same (statusColumns_same _ _ _ _ _)

theorem statusFits_step (x : VoucherOp × (ℕ → Env)) (hfit : OfVoucher voucherId StatusFits d)
    (hstep : OfVoucher voucherId (fun v => ReplacesInTime x.1 v ∧ RedeemsByRecord x.1 v) d) :
    OfVoucher voucherId StatusFits (voucherStep voucherId d x) := by
  refine ofVoucher_step (Q := fun op v => ReplacesInTime op v ∧ RedeemsByRecord op v) ?_ ?_ ?_ x hfit
    hstep
  · exact fun v w h hsame hstatus => h.same hsame hstatus
  · exact fun args now v u hu hv hq => statusFits_updatedVoucher hu hv hq.1 hq.2
  · exact fun newStatus args v hallowed hv hq schedule now =>
      statusFits_statusColumns hv hallowed hq.2 schedule now

/-- The redemption of the services `ids`. -/
def redeemServices (ids : List String) : VoucherOp × (ℕ → Env) :=
  (.updateVoucher { redemption := some { services := ids.map fun s => { serviceId := s } } },
    fun _ => {})

/-- An active voucher that gifts the services `ids`. -/
def activeVoucher (ids : List String) : Db :=
  { giftVouchers :=
    [{ id := 1, senderId := 2, status := .active, totalAmount := 0
       services := ids.map fun s => { serviceId := some s } }] }

end Voucher
