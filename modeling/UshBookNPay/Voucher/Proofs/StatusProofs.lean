import UshBookNPay.Core.Rules
import UshBookNPay.Voucher.VoucherService

/-!
# What `update_status` does

The status of the voucher goes along the state machine, no other table changes, and at most one event
is sent.
-/

open Transactions

namespace Voucher

theorem redirect_active (v : GiftVoucherRow) :
    redirect v .active = .active ∨ redirect v .active = .scheduled := by
  unfold redirect
  split_ifs
  · exact .inr rfl
  · exact .inl rfl

/-- The columns no status sets. -/
theorem statusColumns_kept (target : GiftVoucherStatus) (args : StatusArgs)
    (schedule : Option (String × String)) (now : Instant) (v : GiftVoucherRow) :
    (statusColumns target args schedule now v).id = v.id ∧
      (statusColumns target args schedule now v).deliveryMode = v.deliveryMode ∧
      (statusColumns target args schedule now v).deliveredAt = v.deliveredAt := by
  unfold statusColumns paidColumns redeemedColumns
  refine ⟨?_, ?_, ?_⟩
  all_goals split_ifs <;> rfl

variable {d : Db} {es : List Emission}

theorem ensures_flushVoucher {o : Orm GiftVoucherRow} (ho : InStep o d.giftVouchers) :
    Ensures (fun _ => True) (Returns fun w d' es' => es' = es ∧
        w.row = o.row.setAttribution o.row.attribution ∧
        ∃ vouchers, d' = { d with giftVouchers := vouchers } ∧
          Table.get vouchers o.row.id = some w.row)
      (flushVoucher o) d es := by
  unfold flushVoucher
  rw [ensures_bind, ensures_update]
  refine ⟨trivial, rfl, rfl, _, rfl, ?_⟩
  obtain ⟨r, hr, hc⟩ := ho.row
  have hf : ∀ v : GiftVoucherRow, Table.Keyed.key ((o.changes v).setAttribution o.row.attribution) =
      Table.Keyed.key v := by
    intro v
    show ((o.changes v).setAttribution _).id = v.id
    rw [GiftVoucherRow.setAttribution_id]
    exact ho.key v
  have hr' : Table.get d.giftVouchers o.row.id = some r := hr
  rw [Table.get_modify_self hf, hr', Option.map_some, hc]
  rw [Orm.ofRow_row]

/-- The columns `update_status` leaves, with the attribution the mapper event computes. -/
theorem ensures_updateStatus_columns {known : Option (Orm GiftVoucherRow)} {voucherId : Uuid}
    {newStatus : GiftVoucherStatus} {args : StatusArgs}
    (hk : ∀ o, known = some o → InStep o d.giftVouchers ∧ o.row.id = voucherId) :
    Ensures (fun _ => True) (fun r d' es' => (∀ e, r = .error e → es' = es ∧ d' = d ∧
          ∀ row, Table.get d.giftVouchers voucherId = some row →
            ¬ Allowed (known.getD (.ofRow row)).row newStatus) ∧
        ∀ w, r = .ok w → (es' = es ∨ ∃ s, es' = es ++ [.voucherStatus voucherId s]) ∧
          ∃ row vouchers, Table.get d.giftVouchers voucherId = some row ∧
            Allowed (known.getD (.ofRow row)).row newStatus ∧
            d' = { d with giftVouchers := vouchers } ∧ Table.get vouchers voucherId = some w.row ∧
            ∃ schedule now a, w.row = (statusColumns
              (redirect (known.getD (.ofRow row)).row newStatus) args schedule now
              (known.getD (.ofRow row)).row).setAttribution a)
      (updateStatus known voucherId newStatus args) d es := by
  unfold updateStatus
  rw [ensures_bind_query]
  refine ⟨trivial, ?_⟩
  cases hrow : Table.get d.giftVouchers voucherId with
  | none => exact ⟨fun _ _ => ⟨rfl, rfl, fun _ h => by cases h⟩, fun _ h => by cases h⟩
  | some row =>
    dsimp only
    generalize hv : known.getD (.ofRow row) = voucher
    have hvoucher : InStep voucher d.giftVouchers ∧ voucher.row.id = voucherId := by
      cases hknown : known with
      | none =>
        rw [hknown] at hv
        subst hv
        exact ⟨inStep_ofRow hrow, (Table.get_some hrow).2⟩
      | some o =>
        rw [hknown] at hv
        subst hv
        exact hk o hknown
    obtain ⟨hstep, hid⟩ := hvoucher
    rw [ensures_bind_raiseIf]
    refine ⟨fun hinvalid => ⟨fun _ _ => ⟨rfl, rfl, ?_⟩, fun _ h => by cases h⟩, fun hallowed => ?_⟩
    · rintro _ ⟨rfl⟩
      rw [hv]
      exact hinvalid
    rw [ensures_bind]
    have hallowed' : Allowed voucher.row newStatus := not_not.mp hallowed
    have hwrite : ∀ schedule : Option (String × String), Ensures (fun _ => True)
        (fun r d' es' => (∀ e, r = .error e → es' = es ∧ d' = d ∧
            ∀ row', some row = some row' → ¬ Allowed (known.getD (.ofRow row')).row newStatus) ∧
          ∀ w, r = .ok w → (es' = es ∨ ∃ s, es' = es ++ [.voucherStatus voucherId s]) ∧
            ∃ row' vouchers, some row = some row' ∧
              Allowed (known.getD (.ofRow row')).row newStatus ∧
              d' = { d with giftVouchers := vouchers } ∧ Table.get vouchers voucherId = some w.row ∧
              ∃ schedule now a, w.row = (statusColumns
                (redirect (known.getD (.ofRow row')).row newStatus) args schedule now
                (known.getD (.ofRow row')).row).setAttribution a)
        (do
          let now ← Prog.ask Env.now
          let written ← flushVoucher (voucher.set
            (statusColumns (redirect voucher.row newStatus) args schedule now))
          emitStatusEvent voucherId voucher.row.status (redirect voucher.row newStatus)
          pure written) d es := by
      intro schedule
      rw [ensures_bind_ask]
      refine ⟨trivial, fun a => ?_⟩
      have hset : InStep (voucher.set (statusColumns (redirect voucher.row newStatus) args schedule
          a.now)) d.giftVouchers := hstep.set fun _ => by
        unfold statusColumns paidColumns
        split_ifs <;> rfl
      have hsetid : (voucher.set (statusColumns (redirect voucher.row newStatus) args schedule
          a.now)).row.id = voucherId := by
        rw [← hid, Orm.set_row]
        unfold statusColumns paidColumns
        split_ifs <;> rfl
      refine (ensures_flushVoucher hset).bind_returns ?_
      rintro w d' es' ⟨rfl, hw, vouchers, rfl, hget⟩
      rw [hsetid] at hget
      unfold emitStatusEvent
      rw [ensures_bind, ensures_call]
      intro b
      refine ⟨trivial, fun _ h => (by cases h), ?_⟩
      rintro _ ⟨rfl⟩
      refine ⟨?_, row, vouchers, rfl, hv ▸ hallowed', rfl, hget, ?_⟩
      · by_cases heq : voucher.row.status = redirect voucher.row newStatus
        · left
          rw [if_pos heq, List.append_nil]
        · right
          rw [if_neg heq]
          exact ⟨_, rfl⟩
      · rw [hv, hw, Orm.set_row]
        exact ⟨_, _, _, rfl⟩
    by_cases hn : needsSchedule voucher.row (redirect voucher.row newStatus)
    · rw [if_pos hn, ensures_ask]
      exact ⟨trivial, fun a => hwrite a.schedule⟩
    · rw [if_neg hn]
      exact hwrite none

@[simp] theorem statusColumns_status (target : GiftVoucherStatus) (args : StatusArgs)
    (schedule : Option (String × String)) (now : Instant) (v : GiftVoucherRow) :
    (statusColumns target args schedule now v).status = target := rfl

theorem ensures_updateStatus {known : Option (Orm GiftVoucherRow)} {voucherId : Uuid}
    {newStatus : GiftVoucherStatus} {args : StatusArgs}
    (hk : ∀ o, known = some o → InStep o d.giftVouchers ∧ o.row.id = voucherId) :
    Ensures (fun _ => True) (fun r d' es' => (∀ e, r = .error e → es' = es ∧ d' = d ∧
          ∀ row, Table.get d.giftVouchers voucherId = some row →
            ¬ Allowed (known.getD (.ofRow row)).row newStatus) ∧
        ∀ w, r = .ok w → (es' = es ∨ ∃ s, es' = es ++ [.voucherStatus voucherId s]) ∧
          ∃ row vouchers, Table.get d.giftVouchers voucherId = some row ∧
            Allowed (known.getD (.ofRow row)).row newStatus ∧
            d' = { d with giftVouchers := vouchers } ∧ Table.get vouchers voucherId = some w.row ∧
            w.row.status = redirect (known.getD (.ofRow row)).row newStatus)
      (updateStatus known voucherId newStatus args) d es := by
  refine (ensures_updateStatus_columns hk).mono (fun _ h => h) ?_
  rintro r d' es' ⟨herr, hok⟩
  refine ⟨herr, fun w hr => ?_⟩
  obtain ⟨hes, row, vouchers, hrow, hallowed, hd, hget, schedule, now, a, hw⟩ := hok w hr
  refine ⟨hes, row, vouchers, hrow, hallowed, hd, hget, ?_⟩
  rw [hw, GiftVoucherRow.setAttribution_status, statusColumns_status]

end Voucher
