import UshBookNPay.Loyalty.Expiry
import UshBookNPay.Loyalty.Proofs.LedgerProofs

/-!
# Expired points stay expired

As long as points are added before the deadline of the account, or to an account that has none left,
a redemption spends live points only and no live point expires.
-/

open Transactions

namespace Loyalty

variable {expiryDays : ExpiryDays} {c : Uuid} {s : Timed} {d' : Db}

/-- The balance is made of expired and live points; live ones are there before the deadline only and
expired ones after it only. -/
structure Settled (c : Uuid) (s : Timed) : Prop where
  wellFormed : WellFormed s.db
  balance : balanceOf s.db c = s.expired + s.live
  expired_nonneg : 0 ≤ s.expired
  live_nonneg : 0 ≤ s.live
  passed : s.passed c = true → s.live = 0
  running : s.passed c = false → s.expired = 0

theorem isAccountExpired_mono {t t' : Instant} (h : t ≤ t') {deadline : Option Instant}
    (hexp : isAccountExpired t deadline = true) : isAccountExpired t' deadline = true := by
  cases deadline with
  | none => exact hexp
  | some deadline =>
    simp only [isAccountExpired, decide_eq_true_eq] at hexp ⊢
    exact hexp.trans h

theorem Settled.wait (h : Settled c s) (elapsed : ℕ) : Settled c (s.wait c elapsed) := by
  have hlater : s.passed c = true → ({ s with now := s.now + elapsed } : Timed).passed c = true :=
    isAccountExpired_mono (le_add_of_nonneg_right (Int.natCast_nonneg elapsed))
  unfold Timed.wait
  dsimp only
  split_ifs with hcross
  · refine ⟨h.wellFormed, ?_, ?_, le_rfl, fun _ => rfl, fun hrun => ?_⟩
    · rw [h.balance, add_zero]
    · exact add_nonneg h.expired_nonneg h.live_nonneg
    · have hpassed := hcross.2
      exact absurd hpassed (by simpa [Timed.passed] using hrun)
  · refine ⟨h.wellFormed, h.balance, h.expired_nonneg, h.live_nonneg, fun hpassed => ?_,
      fun hrun => ?_⟩
    · by_cases hbefore : s.passed c = true
      · exact h.passed hbefore
      · exact absurd ⟨hbefore, hpassed⟩ hcross
    · refine h.running ?_
      by_contra hbefore
      have := hlater (by simpa using hbefore)
      rw [hrun] at this
      cases this

/-! ## Recording a call -/

/-- A call that leaves the account of the customer alone. -/
theorem Settled.record_kept (h : Settled c s) (hwf : WellFormed d')
    (hbal : balanceOf d' c = balanceOf s.db c) (hdeadline : deadlineOf d' c = deadlineOf s.db c)
    (op : LoyaltyOp) : Settled c (s.record c op d') := by
  have hrecord : s.record c op d' = { s with db := d' } := by
    unfold Timed.record
    simp only [hbal, sub_self, le_refl, if_true, add_zero]
    cases op <;> rfl
  have hpassed : ({ s with db := d' } : Timed).passed c = s.passed c := by
    unfold Timed.passed
    rw [hdeadline]
  rw [hrecord]
  refine ⟨hwf, hbal.trans h.balance, h.expired_nonneg, h.live_nonneg, ?_, ?_⟩
  · rw [hpassed]
    exact h.passed
  · rw [hpassed]
    exact h.running

/-- A call that takes points and leaves the deadline alone. -/
theorem Settled.record_taken (h : Settled c s) (hwf : WellFormed d')
    (hle : balanceOf d' c ≤ balanceOf s.db c) (hpos : 0 ≤ balanceOf d' c)
    (hdeadline : deadlineOf d' c = deadlineOf s.db c) {op : LoyaltyOp}
    (hop : ∀ customerId cost bookingId bookingNumber createdBy,
      op ≠ .redeemPoints customerId cost bookingId bookingNumber createdBy) :
    Settled c (s.record c op d') := by
  by_cases heq : balanceOf d' c = balanceOf s.db c
  · exact h.record_kept hwf heq hdeadline op
  have hrecord : s.record c op d' =
      { s with
        db := d'
        expired := s.expired - min s.expired (balanceOf s.db c - balanceOf d' c)
        live := s.live + (balanceOf d' c - balanceOf s.db c) +
          min s.expired (balanceOf s.db c - balanceOf d' c) } := by
    unfold Timed.record
    have hneg : ¬ 0 ≤ balanceOf d' c - balanceOf s.db c := by omega
    have hswap : -(balanceOf d' c - balanceOf s.db c) = balanceOf s.db c - balanceOf d' c := by ring
    cases op with
    | redeemPoints customerId cost bookingId bookingNumber createdBy =>
      exact absurd rfl (hop customerId cost bookingId bookingNumber createdBy)
    | _ => simp only [if_neg hneg, hswap]
  have hb := h.balance
  have he := h.expired_nonneg
  have hl := h.live_nonneg
  have hpassed : (s.record c op d').passed c = s.passed c := by
    rw [hrecord]
    unfold Timed.passed
    rw [hdeadline]
  refine ⟨?_, ?_, ?_, ?_, fun hp => ?_, fun hp => ?_⟩
  · rw [hrecord]
    exact hwf
  · rw [hrecord]
    dsimp only
    omega
  · rw [hrecord]
    dsimp only
    omega
  · rw [hrecord]
    dsimp only
    cases hp : s.passed c with
    | true =>
      have := h.passed hp
      omega
    | false =>
      have := h.running hp
      omega
  · rw [hpassed] at hp
    have := h.passed hp
    rw [hrecord]
    dsimp only
    omega
  · rw [hpassed] at hp
    have := h.running hp
    rw [hrecord]
    dsimp only
    omega

/-- A call that adds points, after which the deadline has not passed. -/
theorem Settled.record_added (h : Settled c s) (hwf : WellFormed d')
    (hle : balanceOf s.db c ≤ balanceOf d' c) (hexpired : s.expired = 0)
    (hrun : isAccountExpired s.now (deadlineOf d' c) = false) {op : LoyaltyOp}
    (hop : ∀ customerId cost bookingId bookingNumber createdBy,
      op ≠ .redeemPoints customerId cost bookingId bookingNumber createdBy) :
    Settled c (s.record c op d') := by
  have hrecord : s.record c op d' =
      { s with db := d', live := s.live + (balanceOf d' c - balanceOf s.db c) } := by
    unfold Timed.record
    have hpos : 0 ≤ balanceOf d' c - balanceOf s.db c := by omega
    cases op with
    | redeemPoints customerId cost bookingId bookingNumber createdBy =>
      exact absurd rfl (hop customerId cost bookingId bookingNumber createdBy)
    | _ => simp only [if_pos hpos]
  have hb := h.balance
  have hl := h.live_nonneg
  rw [hrecord]
  refine ⟨hwf, ?_, h.expired_nonneg, ?_, fun hp => ?_, fun _ => hexpired⟩
  · dsimp only
    omega
  · dsimp only
    omega
  · have hp' : isAccountExpired s.now (deadlineOf d' c) = true := hp
    rw [hrun] at hp'
    cases hp'

/-! ## One call -/

theorem deadlineOf_congr {d d' : Db} (h : accountOf d' c = accountOf d c) :
    deadlineOf d' c = deadlineOf d c := by
  unfold deadlineOf
  rw [h]

theorem deadlineOf_some {d : Db} {a : LoyaltyAccountRow} (h : accountOf d c = some a) :
    deadlineOf d c = a.pointsExpireAt := by
  unfold deadlineOf
  rw [h]
  rfl

theorem deadlineOf_none {d : Db} (h : accountOf d c = none) : deadlineOf d c = none := by
  unfold deadlineOf
  rw [h]
  rfl

theorem Posted.deadline_before {d : Db} {before after : LoyaltyAccountRow}
    {txn : LoyaltyTransactionRow} (h : Posted d d' before after txn) :
    deadlineOf d before.customerId = before.pointsExpireAt := by
  rcases h.found with hf | ⟨hf, hempty⟩
  · exact deadlineOf_some hf
  · rw [deadlineOf_none hf, hempty]

/-- A redemption is of an account whose deadline has not passed. -/
theorem Settled.record_redeemed (h : Settled c s) (hwf : WellFormed d')
    (hpos : 0 ≤ balanceOf d' c) (hdeadline : deadlineOf d' c = deadlineOf s.db c)
    (hrun : s.passed c = false)
    {customerId : Uuid} {cost : ℤ} {bookingId : Option Uuid}
    {bookingNumber createdBy : Option String} :
    Settled c (s.record c (.redeemPoints customerId cost bookingId bookingNumber createdBy) d') ∧
      balanceOf s.db c - balanceOf d' c ≤ s.live := by
  have hb := h.balance
  have hexpired := h.running hrun
  have hrun' : isAccountExpired s.now (deadlineOf d' c) = false := by
    rw [hdeadline]
    exact hrun
  refine ⟨⟨hwf, ?_, h.expired_nonneg, ?_, fun hp => ?_, fun _ => hexpired⟩, by omega⟩
  · show balanceOf d' c = s.expired + (s.live + (balanceOf d' c - balanceOf s.db c))
    omega
  · show 0 ≤ s.live + (balanceOf d' c - balanceOf s.db c)
    omega
  · have hp' : isAccountExpired s.now (deadlineOf d' c) = true := hp
    rw [hrun'] at hp'
    cases hp'

theorem Settled.spendsLive_kept (h : Settled c s) (hbal : balanceOf d' c = balanceOf s.db c)
    (op : LoyaltyOp) : SpendsLive c s op d' := by
  have hb := h.balance
  have he := h.expired_nonneg
  have hl := h.live_nonneg
  unfold SpendsLive
  cases op with
  | redeemPoints =>
    dsimp only
    omega
  | getAccount =>
    dsimp only
    omega
  | _ => trivial

/-- An entry of the customer. -/
theorem Settled.posted (h : Settled c s) (hwf : WellFormed d') {before after : LoyaltyAccountRow}
    {txn : LoyaltyTransactionRow} (hp : Posted s.db d' before after txn)
    (hc : before.customerId = c) {op : LoyaltyOp}
    (hentry : Entry expiryDays (· = s.now) s.db before after txn op)
    (hadds : AddsInTime c s op) :
    Settled c (s.record c op d') ∧ SpendsLive c s op d' := by
  subst hc
  have hbefore := hp.balance_before
  have hafter := hp.balance_after
  have hb := h.balance
  have he := h.expired_nonneg
  have hl := h.live_nonneg
  have hdeadline := hp.deadline_before
  have hdeadline' : deadlineOf d' before.customerId = after.pointsExpireAt :=
    deadlineOf_some hp.stored
  have hpassed : s.passed before.customerId = isAccountExpired s.now before.pointsExpireAt := by
    unfold Timed.passed
    rw [hdeadline]
  obtain ⟨hpos', -⟩ := hentry.balance (by omega)
  rw [← hafter] at hpos'
  cases op with
  | creditPoints customerId loyaltyPoints arrangementLoyaltyPoints bookingId =>
    obtain ⟨hcust, hawards, -, -, -, hbal, now, rfl, hexp⟩ := hentry
    have hpoints := hawards.2.1
    have hexpired : s.expired = 0 := by
      cases hpd : s.passed before.customerId with
      | true =>
        have := hadds hcust.symm hawards hpd
        omega
      | false => exact h.running hpd
    refine ⟨h.record_added hwf (by omega) hexpired ?_ (by simp), trivial⟩
    rw [hdeadline', hexp]
    simpa [isAccountExpired] using lt_computeExpiry s.now expiryDays
  | redeemPoints customerId cost bookingId =>
    obtain ⟨-, -, hcost, hle, ⟨now, rfl, hlive⟩, -, -, -, hbal, hexp⟩ := hentry
    exact h.record_redeemed hwf hpos' (by rw [hdeadline', hexp, hdeadline])
      (by rw [hpassed, hlive])
  | cancelBookingPoints customerId points bookingId =>
    obtain ⟨-, -, hpoints, -, -, -, hbal, hexp⟩ := hentry
    exact ⟨h.record_taken hwf (by omega) hpos' (by rw [hdeadline', hexp, hdeadline]) (by simp),
      trivial⟩
  | adjustPoints customerId delta =>
    obtain ⟨hcust, -, -, -, hbal, hexp⟩ := hentry
    refine ⟨?_, trivial⟩
    have hsame : deadlineOf d' before.customerId = deadlineOf s.db before.customerId := by
      rw [hdeadline', hexp, hdeadline]
    by_cases hadd : 0 < delta
    · have hrun : s.passed before.customerId = false := by simpa using hadds hcust.symm hadd
      have hmove : adjustment before delta = delta := if_pos hadd
      refine h.record_added hwf (by omega) (h.running hrun) ?_ (by simp)
      rw [hsame]
      exact hrun
    · have hmove : adjustment before delta = -(min |delta| before.balancePoints) := if_neg hadd
      have hmin : 0 ≤ min |delta| before.balancePoints := le_min (abs_nonneg _) (by omega)
      exact h.record_taken hwf (by omega) hpos' hsame (by simp)
  | getAccount customerId =>
    obtain ⟨-, -, hpos, ⟨now, rfl, hexp⟩, -, -, -, hzero, hsame⟩ := hentry
    have hlive : s.live = 0 := h.passed (by rw [hpassed, hexp])
    refine ⟨h.record_taken hwf (by omega) hpos' (by rw [hdeadline', hsame, hdeadline]) (by simp), ?_⟩
    show s.live ≤ balanceOf d' before.customerId
    omega
  | bookings rows => exact hentry.elim

theorem Settled.effect (h : Settled c s) (hwf : WellFormed d') {op : LoyaltyOp}
    (heffect : Effect expiryDays (· = s.now) s.db op d') (hadds : AddsInTime c s op) :
    Settled c (s.record c op d') ∧ SpendsLive c s op d' := by
  cases heffect with
  | kept => exact ⟨h.record_kept hwf rfl rfl op, h.spendsLive_kept rfl op⟩
  | bookings rows => exact ⟨h.record_kept hwf rfl rfl op, h.spendsLive_kept rfl op⟩
  | opened d' account hop ho =>
    have hbal : balanceOf d' c = balanceOf s.db c ∧ deadlineOf d' c = deadlineOf s.db c := by
      by_cases hc : c = account.customerId
      · subst hc
        rw [balanceOf_some ho.stored, balanceOf_none ho.fresh, deadlineOf_some ho.stored,
          deadlineOf_none ho.fresh, ho.empty]
        exact ⟨rfl, rfl⟩
      · exact ⟨balanceOf_congr (ho.others c hc), deadlineOf_congr (ho.others c hc)⟩
    exact ⟨h.record_kept hwf hbal.1 hbal.2 op, h.spendsLive_kept hbal.1 op⟩
  | posted d' before after txn hp hentry =>
    by_cases hc : c = before.customerId
    · exact h.posted hwf hp hc.symm hentry hadds
    · have hsame := hp.others c hc
      exact ⟨h.record_kept hwf (balanceOf_congr hsame) (deadlineOf_congr hsame) op,
        h.spendsLive_kept (balanceOf_congr hsame) op⟩

/-! ## Runs -/

/-- One call in time keeps the account settled and spends live points only. -/
theorem Settled.step (h : Settled c s) {x : TimedCall} (hadds : CallAddsInTime c s x) :
    Settled c (timedStep expiryDays c s x) ∧ CallSpendsLive expiryDays c s x := by
  have hwait := h.wait x.elapsed
  obtain ⟨hwf, heffect⟩ := effect_of_step expiryDays (· = (s.wait c x.elapsed).now)
    hwait.wellFormed (x.op, fun n => { x.env n with now := (s.wait c x.elapsed).now }) fun _ => rfl
  exact hwait.effect hwf heffect hadds

theorem settled_withoutAccounts (d : Db) (now : Instant) :
    Settled c { db := withoutAccounts d, now := now } :=
  ⟨wellFormed_withoutAccounts d, rfl, le_rfl, le_rfl, fun _ => rfl, fun _ => rfl⟩

/-- In a run that adds points in time, points that have expired are never spent and no other point
expires. -/
theorem expired_points_stay_expired (expiryDays : ExpiryDays) (d : Db) (now : Instant) (c : Uuid)
    (calls : List TimedCall)
    (hadds : Runs.AllSteps (timedStep expiryDays c) (CallAddsInTime c)
      { db := withoutAccounts d, now := now } calls) :
    Runs.AllSteps (timedStep expiryDays c) (CallSpendsLive expiryDays c)
      { db := withoutAccounts d, now := now } calls :=
  Runs.allSteps_of_allSteps (fun _ _ hs hq => hs.step hq) (settled_withoutAccounts d now) hadds

/-- Half a year in microseconds. -/
def halfYear : ℕ := 180 * 24 * 3600 * 10 ^ 6

def pointsEnv : ℕ → Env := fun _ => { uuid := 7 }

/-- 10 points are spent before they expire; the 5 of an adjustment before the deadline of 20 later
points are spent as well. -/
theorem expired_points_stay_expired_example :
    let calls : List TimedCall :=
      [⟨.creditPoints 1 10 none none none none, 0, pointsEnv⟩,
       ⟨.redeemPoints 1 10 none none none, 1000, pointsEnv⟩,
       ⟨.creditPoints 1 20 none none none none, halfYear, pointsEnv⟩,
       ⟨.adjustPoints 1 5 none none, 1000, pointsEnv⟩,
       ⟨.redeemPoints 1 25 none none none, 1000, pointsEnv⟩,
       ⟨.getAccount 1, halfYear, pointsEnv⟩]
    Runs.AllSteps (timedStep {} 1) (CallSpendsLive {} 1)
      { db := withoutAccounts {}, now := 0 } calls :=
  expired_points_stay_expired {} {} 0 1 _ (by decide +kernel)

/-- 10 points have expired when 5 are credited, and a redemption spends all 15. 10 points have
expired when a refund pays 5 points out, and the account is read: all 15 are gone. -/
theorem expired_points_spent :
    let credited : List TimedCall :=
      [⟨.creditPoints 1 10 none none none none, 0, pointsEnv⟩,
       ⟨.creditPoints 1 5 none none none none, halfYear, pointsEnv⟩,
       ⟨.redeemPoints 1 15 none none none, 1000, pointsEnv⟩]
    let refunded : List TimedCall :=
      [⟨.creditPoints 1 10 none none none none, 0, pointsEnv⟩,
       ⟨.adjustPoints 1 5 (some "Refund RFD/2026/10/000001 approved as loyalty points") none,
         halfYear, pointsEnv⟩,
       ⟨.getAccount 1, 1000, pointsEnv⟩]
    let finalBalance := fun calls : List TimedCall =>
      balanceOf (Runs.run (timedStep {} 1) { db := {}, now := 0 } calls).db 1
    (¬ Runs.AllSteps (timedStep {} 1) (CallSpendsLive {} 1) { db := {}, now := 0 } credited ∧
      finalBalance credited = 0) ∧
    ¬ Runs.AllSteps (timedStep {} 1) (CallSpendsLive {} 1) { db := {}, now := 0 } refunded ∧
      finalBalance refunded = 0 := by
  decide +kernel

end Loyalty
