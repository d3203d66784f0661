import UshBookNPay.Lib.Runs
import UshBookNPay.Voucher.RedemptionRuns
import UshBookNPay.Voucher.Proofs.RedemptionProofs

/-!
# Expired vouchers are redeemed

What the checks of a redemption look at, step by step: the status, the services and the delivery of the
voucher, and nowhere its date.
-/

open Fallible (Decides)
open Transactions (Ensures exec)
open Transactions

namespace Voucher

variable {args : UpdateArgs} {now : Instant} {v w : GiftVoucherRow}

/-! ## The checks of an update -/

/-- The services are gifted, not used yet, and none of them comes twice. -/
theorem decides_usedEntries (items : List RedemptionItem) (newIds : List String) :
    Decides Invalid ((items.map (·.serviceId)).Nodup ∧ ∀ item ∈ items,
        item.serviceId ∈ giftedIds v ∧ item.serviceId ∉ usedServiceIds v ∧ item.serviceId ∉ newIds)
      (usedEntries v items newIds) := by
  induction items generalizing newIds with
  | nil => exact ⟨List.nodup_nil, fun _ h => by cases h⟩
  | cons item items ih =>
    unfold usedEntries
    dsimp only
    by_cases hgifted : item.serviceId ∈ giftedIds v
    swap
    · rw [if_pos hgifted]
      exact ⟨⟨_, rfl⟩, fun h => hgifted (h.2 item List.mem_cons_self).1⟩
    rw [if_neg (not_not.mpr hgifted)]
    by_cases hused : item.serviceId ∈ usedServiceIds v ∨ item.serviceId ∈ newIds
    · rw [if_pos hused]
      refine ⟨⟨_, rfl⟩, fun h => ?_⟩
      obtain ⟨-, hu, hn⟩ := h.2 item List.mem_cons_self
      exact hused.elim hu hn
    rw [if_neg hused]
    refine ((ih (newIds ++ [item.serviceId])).map _).congr ?_
    rw [List.map_cons, List.nodup_cons, List.forall_mem_cons]
    rw [not_or] at hused
    constructor
    · rintro ⟨hnodup, hrest⟩
      refine ⟨⟨fun hin => ?_, hnodup⟩, ⟨hgifted, hused⟩, fun i hi => ?_⟩
      · obtain ⟨i, hi, heq⟩ := List.mem_map.mp hin
        exact (hrest i hi).2.2 (List.mem_append_right _ (List.mem_singleton.mpr heq))
      · obtain ⟨hg, hu, hn⟩ := hrest i hi
        exact ⟨hg, hu, fun hin => hn (List.mem_append_left _ hin)⟩
    · rintro ⟨⟨hfresh, hnodup⟩, -, hrest⟩
      refine ⟨hnodup, fun i hi => ?_⟩
      obtain ⟨hg, hu, hn⟩ := hrest i hi
      refine ⟨hg, hu, fun hin => ?_⟩
      rcases List.mem_append.mp hin with hold | hnew
      · exact hn hold
      · exact hfresh (List.mem_map.mpr ⟨i, hi, List.mem_singleton.mp hnew⟩)

theorem usedEntries_eq_nil {items : List RedemptionItem} {newIds : List String}
    {entries : List UsedService} (h : usedEntries v items newIds = .ok entries) :
    entries = [] ↔ items = [] := by
  cases items with
  | nil =>
    cases h
    exact iff_of_true rfl rfl
  | cons item items =>
    unfold usedEntries at h
    dsimp only at h
    split_ifs at h
    obtain ⟨rest, -, rfl⟩ := Fallible.map_eq_ok.mp h
    exact iff_of_false (List.cons_ne_nil _ _) (List.cons_ne_nil _ _)

theorem decides_recordRedemption (r : RedemptionRequest) :
    Decides Invalid ((v.status = .active ∨ v.status = .partiallyRedeemed) ∧ ServicesOpen r v)
      (recordRedemption args r now v) := by
  unfold recordRedemption
  by_cases hstatus : v.status ≠ .active ∧ v.status ≠ .partiallyRedeemed
  · rw [if_pos hstatus]
    exact ⟨⟨_, rfl⟩, fun h => h.1.elim hstatus.1 hstatus.2⟩
  rw [if_neg hstatus]
  rw [not_and_or, not_not, not_not] at hstatus
  refine ((decides_usedEntries r.services []).bind (c := r.services ≠ []) fun entries hentries =>
    ?_).congr ?_
  · by_cases hempty : entries = []
    · rw [if_pos hempty]
      exact ⟨⟨_, rfl⟩, fun h => h ((usedEntries_eq_nil hentries).mp hempty)⟩
    · rw [if_neg hempty]
      exact fun h => hempty ((usedEntries_eq_nil hentries).mpr h)
  · constructor
    · rintro ⟨⟨hnodup, hgifted⟩, hsome⟩
      exact ⟨hstatus, hsome, hnodup, fun i hi => ⟨(hgifted i hi).1, (hgifted i hi).2.1⟩⟩
    · rintro ⟨-, hopen⟩
      refine ⟨⟨hopen.once, fun i hi => ?_⟩, hopen.some⟩
      obtain ⟨hg, hu⟩ := hopen.gifted i hi
      exact ⟨hg, hu, List.not_mem_nil⟩

/-- The status moves where the state machine allows it. -/
theorem decides_changeStatus (status : Option GiftVoucherStatus) :
    Decides Invalid (∀ s, status = some s → validTransition v.status s)
      (changeStatus args status now v) := by
  unfold changeStatus
  cases status with
  | none => exact fun _ h => by cases h
  | some target =>
    dsimp only
    have hiff : (∀ s, some target = some s → validTransition v.status s) ↔
        validTransition v.status target :=
      ⟨fun h => h target rfl, fun h s hs => Option.some.inj hs ▸ h⟩
    by_cases hsame : target = v.status
    · rw [if_pos hsame]
      exact hiff.mpr (.inl hsame.symm)
    rw [if_neg hsame]
    by_cases hvalid : validTransition v.status target
    · rw [if_neg (not_not.mpr hvalid)]
      exact hiff.mpr hvalid
    · rw [if_pos hvalid]
      exact ⟨⟨_, rfl⟩, fun h => hvalid (hiff.mp h)⟩

theorem DeliveryStatus.value_injective {s s' : DeliveryStatus} (h : s.value = s'.value) : s = s' := by
  cases s <;> cases s' <;> first | rfl | exact absurd h (by decide)

theorem decides_parseDeliveryStatus (text : String) :
    Decides Invalid (∃ target : DeliveryStatus, target.value = text) (parseDeliveryStatus text) := by
  unfold parseDeliveryStatus
  cases hf : List.find? (fun s : DeliveryStatus => decide (s.value = text)) [.ordered, .readyToGo,
      .onTheWay, .delivered, .received] with
  | some target =>
    have hfound := List.find?_some hf
    exact ⟨target, of_decide_eq_true hfound⟩
  | none =>
    refine ⟨⟨_, rfl⟩, ?_⟩
    rintro ⟨target, htarget⟩
    rw [List.find?_eq_none] at hf
    refine hf target ?_ (decide_eq_true htarget)
    cases target <;> decide

theorem parseDeliveryStatus_value {text : String} {target : DeliveryStatus}
    (h : parseDeliveryStatus text = .ok target) : target.value = text := by
  unfold parseDeliveryStatus at h
  cases hf : List.find? (fun s : DeliveryStatus => decide (s.value = text)) [.ordered, .readyToGo,
      .onTheWay, .delivered, .received] with
  | some found =>
    rw [hf] at h
    cases h
    have hfound := List.find?_some hf
    exact of_decide_eq_true hfound
  | none =>
    rw [hf] at h
    cases h

theorem decides_changeDelivery : Decides Invalid (DeliveryOpen args v) (changeDelivery args v) := by
  unfold changeDelivery DeliveryOpen
  cases hd : args.deliveryStatus with
  | none => exact fun _ h => by cases h
  | some text =>
    dsimp only
    have hiff : ∀ P : String → Prop, (∀ t ∈ some text, P t) ↔ P text :=
      fun P => ⟨fun h => h text rfl, fun h t ht => Option.some.inj ht ▸ h⟩
    rw [hiff]
    by_cases hsame : v.deliveryStatus.map (·.value) = some text
    · rw [if_pos hsame]
      exact .inl hsame
    rw [if_neg hsame]
    refine ((decides_parseDeliveryStatus text).bind (c := ∃ target : DeliveryStatus,
      target.value = text ∧ ∀ current ∈ v.deliveryStatus, target ∈ DELIVERY_TRANSITIONS current)
      fun target htarget => ?_).congr ?_
    · have hvalue := parseDeliveryStatus_value htarget
      have hunique : (∃ target : DeliveryStatus, target.value = text ∧
          ∀ current ∈ v.deliveryStatus, target ∈ DELIVERY_TRANSITIONS current) ↔
          ∀ current ∈ v.deliveryStatus, target ∈ DELIVERY_TRANSITIONS current := by
        constructor
        · rintro ⟨t, ht, hopen⟩
          rwa [← DeliveryStatus.value_injective (ht.trans hvalue.symm)]
        · exact fun h => ⟨target, hvalue, h⟩
      rw [hunique]
      cases v.deliveryStatus with
      | none => exact fun _ h => by cases h
      | some current =>
        dsimp only
        by_cases hopen : target ∈ DELIVERY_TRANSITIONS current
        · rw [if_pos hopen]
          exact fun c hc => Option.some.inj hc ▸ hopen
        · rw [if_neg hopen]
          exact ⟨⟨_, rfl⟩, fun h => hopen (h current rfl)⟩
    · constructor
      · exact fun h => .inr h.2
      · rintro (h | h)
        · exact absurd h hsame
        · obtain ⟨target, htarget, -⟩ := id h
          exact ⟨⟨target, htarget⟩, h⟩

/-! ## The checks of a call -/

theorem deliveryOpen_congr (h : w.deliveryStatus = v.deliveryStatus) :
    DeliveryOpen args w ↔ DeliveryOpen args v := by
  unfold DeliveryOpen
  rw [h]

theorem recordRedemption_delivery {r : RedemptionRequest} {status : GiftVoucherStatus}
    (h : recordRedemption args r now v = .ok (w, status)) : w.deliveryStatus = v.deliveryStatus := by
  unfold recordRedemption at h
  split_ifs at h
  obtain ⟨entries, -, h⟩ := Fallible.bind_eq_ok.mp h
  split_ifs at h
  obtain ⟨rfl, -⟩ := Prod.mk.inj (Except.ok.inj h)
  rfl

theorem changeStatus_delivery {status : Option GiftVoucherStatus}
    (h : changeStatus args status now v = .ok w) : w.deliveryStatus = v.deliveryStatus := by
  unfold changeStatus at h
  cases status with
  | none =>
    cases h
    rfl
  | some target =>
    dsimp only at h
    split_ifs at h <;> cases h <;> rfl

/-- The status and the delivery move after the redemption or the requested status. -/
theorem decides_moves (recorded : GiftVoucherRow) {status : Option GiftVoucherStatus}
    (hdelivery : recorded.deliveryStatus = v.deliveryStatus) (hstatus : recorded.status = v.status) :
    Decides Invalid
      ((∀ s, status = some s → validTransition v.status s) ∧ DeliveryOpen args v)
      (do
        let moved ← changeStatus args status now recorded
        let delivering ← changeDelivery args moved
        pure (applyFields args (replaceServices args (normalisedFields args delivering)))) := by
  have hmove : Decides Invalid (∀ s, status = some s → validTransition v.status s)
      (changeStatus args status now recorded) := by
    rw [← hstatus]
    exact decides_changeStatus status
  refine hmove.bind fun moved hmoved => ?_
  refine (decides_changeDelivery.bind (c := True) fun delivering _ => ?_).congr ?_
  · trivial
  · rw [and_true]
    exact deliveryOpen_congr ((changeStatus_delivery hmoved).trans hdelivery)

theorem parseStatus_of_redeemed {s : GiftVoucherStatus} (h : s ∈ redeemedStatuses) :
    parseStatus s.value = .ok s := by
  simp only [redeemedStatuses, List.mem_cons, List.not_mem_nil, or_false] at h
  rcases h with rfl | rfl
  · decide
  · decide

theorem decides_updatedVoucher (now : Instant) (hasks : AsksToRedeem (.updateVoucher args) v) :
    Decides Invalid (Redeemable (.updateVoucher args) v) (updatedVoucher args now v) := by
  unfold updatedVoucher Redeemable
  dsimp only
  cases hr : args.redemption with
  | some r =>
    dsimp only
    refine (((decides_recordRedemption r).map _).bind (c := DeliveryOpen args v)
      fun x hx => ?_).congr and_comm
    obtain ⟨⟨recorded, derived⟩, hrecord, rfl⟩ := Fallible.map_eq_ok.mp hx
    obtain ⟨ids, hrec⟩ := recordRedemption_spec hrecord
    refine (decides_moves recorded (recordRedemption_delivery hrecord) hrec.unmoved).congr ?_
    refine and_iff_right fun s hs => ?_
    -- the state machine allows what the redemption derives
    have hderived : s = .redeemed ∨ s = .partiallyRedeemed := by
      rw [← Option.some.inj hs, hrec.derived]
      split_ifs
      · exact .inl rfl
      · exact .inr rfl
    rcases hrec.before with hv | hv <;> rcases hderived with rfl | rfl <;> rw [hv] <;> decide
  | none =>
    dsimp only
    obtain ⟨s, hs, htext, -⟩ : ∃ s ∈ redeemedStatuses, args.status = some s.value ∧ s ≠ v.status := by
      rcases hasks with h | h
      · rw [hr] at h
        cases h
      · exact h
    have hrequested : requestedStatus args = .ok (some s) := by
      unfold requestedStatus
      rw [htext]
      dsimp only
      rw [parseStatus_of_redeemed hs]
      rfl
    rw [hrequested]
    refine (decides_moves v (v := v) rfl rfl).congr ?_
    rw [and_comm]
    refine and_congr_right fun _ => ?_
    rw [htext]
    constructor
    · exact fun h s' hs' => h s' (congrArg some (GiftVoucherStatus.value_injective
        (Option.some.inj hs')))
    · exact fun h s' hs' => h s' (congrArg (fun x => x.map (·.value)) hs')

/-! ## Runs -/

variable {d : Db} {es : List Emission} {voucherId : Uuid}

theorem ensures_updateVoucher_decides (hv : Table.get d.giftVouchers voucherId = some v)
    (hasks : AsksToRedeem (.updateVoucher args) v) :
    Ensures (fun _ => True) (fun r _ _ => Decides Invalid (Redeemable (.updateVoucher args) v) r)
      (updateVoucher voucherId args) d es := by
  unfold updateVoucher
  rw [ensures_bind_query]
  refine ⟨trivial, ?_⟩
  rw [hv]
  dsimp only
  rw [ensures_bind_ask]
  refine ⟨trivial, fun a => ?_⟩
  have hdecides := decides_updatedVoucher a.now hasks
  cases hu : updatedVoucher args a.now v with
  | error e =>
    rw [hu] at hdecides
    exact hdecides
  | ok u =>
    rw [hu] at hdecides
    have hstep : InStep ((Orm.ofRow v).set (assignUpdated u)) d.giftVouchers :=
      (inStep_ofRow hv).set fun _ => rfl
    refine (ensures_flushVoucher hstep).bind_returns fun o d' es' _ => ?_
    unfold emitStatusEvent
    rw [ensures_bind, ensures_call]
    exact fun _ => ⟨trivial, hdecides⟩

theorem ensures_updateStatus_decides {newStatus : GiftVoucherStatus} {args : StatusArgs}
    (hv : Table.get d.giftVouchers voucherId = some v) (hredeems : newStatus ∈ redeemedStatuses) :
    Ensures (fun _ => True) (fun r _ _ => Decides Invalid (validTransition v.status newStatus) r)
      (updateStatus none voucherId newStatus args) d es := by
  have hother : newStatus ≠ .active ∧ newStatus ≠ .scheduled := by
    simp only [redeemedStatuses, List.mem_cons, List.not_mem_nil, or_false] at hredeems
    rcases hredeems with rfl | rfl
    · decide
    · decide
  have htarget : redirect v newStatus = newStatus := by
    unfold redirect
    rw [if_neg fun h => hother.1 h.1]
  unfold updateStatus
  rw [ensures_bind_query]
  refine ⟨trivial, ?_⟩
  rw [hv]
  dsimp only
  rw [Option.getD_none, Orm.ofRow_row, htarget, ensures_bind_raiseIf]
  refine ⟨fun hinvalid => ⟨⟨_, rfl⟩, hinvalid⟩, fun hallowed => ?_⟩
  have hvalid : validTransition v.status newStatus := not_not.mp hallowed
  have hno : ¬ needsSchedule v newStatus = true := by
    simp [needsSchedule, hother.2]
  rw [if_neg hno, ensures_bind, ensures_pure]
  dsimp only
  rw [ensures_bind_ask]
  refine ⟨trivial, fun a => ?_⟩
  have hstep : InStep ((Orm.ofRow v).set (statusColumns newStatus args none a.now))
      d.giftVouchers := (inStep_ofRow hv).set fun _ => (statusColumns_kept _ _ _ _ _).1
  refine (ensures_flushVoucher hstep).bind_returns fun o d' es' _ => ?_
  unfold emitStatusEvent
  rw [ensures_bind, ensures_call]
  exact fun _ => ⟨trivial, hvalid⟩

/-- A call that redeems the voucher goes through where its checks hold and is refused elsewhere. -/
theorem decides_redeem {op : VoucherOp} (hv : Table.get d.giftVouchers voucherId = some v)
    (hasks : AsksToRedeem op v) (env : ℕ → Env) :
    Decides Invalid (Redeemable op v) (exec env (voucherCode voucherId op) d).1 := by
  have hcode : Ensures (fun _ => True) (fun r _ _ => Decides Invalid (Redeemable op v) r)
      (voucherCode voucherId op) d [] := by
    cases op with
    | updateVoucher args =>
      refine (ensures_discard _ _ _).mpr ?_
      refine (ensures_updateVoucher_decides hv hasks).mono (fun _ h => h) ?_
      rintro (e | o) d' es' h
      · exact h
      · exact h
    | updateStatus newStatus args =>
      refine (ensures_discard _ _ _).mpr ?_
      refine (ensures_updateStatus_decides hv hasks.1).mono (fun _ h => h) ?_
      rintro (e | o) d' es' h
      · exact h
      · exact h
  exact hcode.exec env

/-- A refused call is rolled back. -/
theorem voucherStep_of_error {x : VoucherOp × (ℕ → Env)} {e : Error}
    (h : (exec x.2 (voucherCode voucherId x.1) d).1 = .error e) : voucherStep voucherId d x = d := by
  unfold voucherStep atomically
  rcases hr : exec x.2 (voucherCode voucherId x.1) d with ⟨e' | a, d', es⟩
  · rfl
  · rw [hr] at h
    cases h

theorem refusesExpired_iff (x : VoucherOp × (ℕ → Env)) :
    RefusesExpired voucherId d x ↔ RedeemsInTime voucherId d x := by
  refine forall₂_congr fun v hv => forall₂_congr fun _ hasks => ?_
  have hdecides := decides_redeem hv hasks x.2
  cases hr : (exec x.2 (voucherCode voucherId x.1) d).1 with
  | ok a =>
    rw [hr] at hdecides
    refine iff_of_false ?_ (not_not.mpr hdecides)
    rintro ⟨⟨e, he, -⟩, -⟩
    cases he
  | error e =>
    rw [hr] at hdecides
    refine iff_of_true ⟨⟨e, rfl, hdecides.1⟩, ?_⟩ hdecides.2
    rw [voucherStep_of_error hr]
    intro w hw
    obtain rfl : v = w := Option.some.inj (hv.symm.trans hw)
    exact ⟨rfl, rfl⟩

/-- Expired vouchers are never redeemed exactly in the runs in which nobody redeems one that has a
status, services and a delivery that admit it. -/
theorem expired_refused_iff (voucherId : Uuid) (d : Db) (ops : List (VoucherOp × (ℕ → Env))) :
    Runs.AllSteps (voucherStep voucherId) (RefusesExpired voucherId) d ops ↔
      Runs.AllSteps (voucherStep voucherId) (RedeemsInTime voucherId) d ops := by
  induction ops generalizing d with
  | nil => exact Iff.rfl
  | cons x ops ih => exact and_congr (refusesExpired_iff x) (ih _)

/-- A day after the date of an active voucher, its service is redeemed: by a redemption, or by its
status. -/
theorem expired_redeemed :
    (activeVoucher ["a"]).giftVouchers.all (Expired 86400) = true ∧
      ¬ Runs.AllSteps (voucherStep 1) (RefusesExpired 1) (activeVoucher ["a"])
        [((redeemServices ["a"]).1, fun _ => { now := 86400 })] ∧
      ¬ Runs.AllSteps (voucherStep 1) (RefusesExpired 1) (activeVoucher ["a"])
        [(.updateStatus .redeemed {}, fun _ => { now := 86400 })] := by
  have hget : ∀ v, (activeVoucher ["a"]).giftVouchers.head? = some v →
      Table.get (activeVoucher ["a"]).giftVouchers 1 = some v := fun v h => h
  refine ⟨by decide +kernel, fun h => ?_, fun h => ?_⟩
  · obtain ⟨⟨e, he, -⟩, -⟩ := h.1 _ (hget _ rfl) (by decide +kernel) (by decide +kernel)
    have hok : (exec (fun _ => { now := 86400 }) (voucherCode 1 (redeemServices ["a"]).1)
      (activeVoucher ["a"])).1.isOk = true := by decide +kernel
    rw [he] at hok
    cases hok
  · obtain ⟨⟨e, he, -⟩, -⟩ := h.1 _ (hget _ rfl) (by decide +kernel) (by decide +kernel)
    have hok : (exec (fun _ => { now := 86400 }) (voucherCode 1 (.updateStatus .redeemed {}))
      (activeVoucher ["a"])).1.isOk = true := by decide +kernel
    rw [he] at hok
    cases hok

end Voucher
