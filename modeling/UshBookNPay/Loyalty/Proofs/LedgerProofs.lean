import UshBookNPay.Loyalty.Proofs.EffectProofs

/-!
# The ledger reproduces the balance

Every call adds at most one transaction to the ledger of its customer, and the balance moves as that
transaction says. A reversal records its original points and takes at most the balance; a negative
adjustment records the points it takes without a sign.
-/

open Transactions

namespace Loyalty

variable {expiryDays : ExpiryDays} {clock : Instant → Prop} {d d' : Db} {c : Uuid}

/-! ## One call -/

theorem effect_of_step (expiryDays : ExpiryDays) (clock : Instant → Prop) (hwf : WellFormed d)
    (x : LoyaltyOp × (ℕ → Env)) (hclock : ∀ n, clock (x.2 n).now) :
    WellFormed (loyaltyStep expiryDays d x) ∧
      Effect expiryDays clock d x.1 (loyaltyStep expiryDays d x) := by
  have h := (done_loyaltyCode expiryDays clock hwf x.1 []).exec hclock
  unfold loyaltyStep atomically
  rcases hr : exec x.2 (loyaltyCode expiryDays x.1) d with ⟨e | a, d', es⟩
  · exact ⟨hwf, .kept⟩
  · rw [hr] at h
    exact h a rfl

theorem balanceOf_congr (h : accountOf d' c = accountOf d c) : balanceOf d' c = balanceOf d c := by
  unfold balanceOf
  rw [h]

theorem balanceOf_some {a : LoyaltyAccountRow} (h : accountOf d c = some a) :
    balanceOf d c = a.balancePoints := by
  unfold balanceOf
  rw [h]
  rfl

theorem balanceOf_none (h : accountOf d c = none) : balanceOf d c = 0 := by
  unfold balanceOf
  rw [h]
  rfl

theorem ledgerOf_congr (h : d'.loyaltyTransactions = d.loyaltyTransactions) :
    ledgerOf d' c = ledgerOf d c := by
  unfold ledgerOf
  rw [h]

/-- The balance an entry is posted on. -/
theorem Posted.balance_before {before after : LoyaltyAccountRow} {txn : LoyaltyTransactionRow}
    (h : Posted d d' before after txn) : balanceOf d before.customerId = before.balancePoints := by
  rcases h.found with hf | ⟨hf, hempty⟩
  · exact balanceOf_some hf
  · rw [balanceOf_none hf, hempty]

theorem Posted.balance_after {before after : LoyaltyAccountRow} {txn : LoyaltyTransactionRow}
    (h : Posted d d' before after txn) : balanceOf d' before.customerId = after.balancePoints :=
  balanceOf_some h.stored

theorem Posted.ledgerOf_self {before after : LoyaltyAccountRow} {txn : LoyaltyTransactionRow}
    (h : Posted d d' before after txn) :
    ledgerOf d' before.customerId = ledgerOf d before.customerId ++ [txn] := by
  unfold ledgerOf
  rw [h.ledger, List.filter_append]
  simp [h.customer]

theorem Posted.ledgerOf_of_ne {before after : LoyaltyAccountRow} {txn : LoyaltyTransactionRow}
    (h : Posted d d' before after txn) (hc : c ≠ before.customerId) :
    ledgerOf d' c = ledgerOf d c := by
  have hne : ¬ txn.customerId = c := by
    rw [h.customer]
    exact fun e => hc e.symm
  unfold ledgerOf
  rw [h.ledger, List.filter_append]
  simp [hne]

theorem adjustment_of_neg {a : LoyaltyAccountRow} {delta : ℤ} (h : delta < 0) :
    adjustment a delta = -(min (-delta) a.balancePoints) := by
  unfold adjustment
  rw [if_neg (by omega), abs_of_neg h]

theorem adjustment_of_nonneg {a : LoyaltyAccountRow} {delta : ℤ} (h : 0 ≤ delta)
    (hpos : 0 ≤ a.balancePoints) : adjustment a delta = delta := by
  unfold adjustment
  split_ifs
  · rfl
  · have hzero : delta = 0 := by omega
    rw [hzero, abs_zero, min_eq_left hpos, neg_zero]

/-- The balance moves as the posted transaction says. -/
theorem Entry.balance {before after : LoyaltyAccountRow} {txn : LoyaltyTransactionRow}
    {op : LoyaltyOp} (h : Entry expiryDays clock d before after txn op)
    (hpos : 0 ≤ before.balancePoints) :
    0 ≤ after.balancePoints ∧
      after.balancePoints = afterEntry op.takesPoints before.balancePoints txn := by
  unfold afterEntry
  cases op with
  | creditPoints customerId loyaltyPoints arrangementLoyaltyPoints bookingId =>
    obtain ⟨-, hawards, htype, hpoints, -, hbal, -⟩ := h
    have := hawards.2.1
    rw [htype, hpoints]
    exact ⟨by omega, hbal⟩
  | redeemPoints customerId cost bookingId =>
    obtain ⟨-, -, hcost, hle, -, htype, hpoints, -, hbal, -⟩ := h
    rw [htype, hpoints]
    exact ⟨by omega, hbal⟩
  | cancelBookingPoints customerId points bookingId =>
    obtain ⟨-, -, hp, htype, hpoints, -, hbal, -⟩ := h
    rw [htype, hpoints]
    unfold cancelDeduction at hbal
    dsimp only
    constructor <;> omega
  | adjustPoints customerId delta =>
    obtain ⟨-, htype, hpoints, -, hbal, -⟩ := h
    rw [htype, hpoints]
    show _ ∧ after.balancePoints = if decide (delta < 0) then _ else _
    by_cases hneg : delta < 0
    · rw [adjustment_of_neg hneg] at hbal ⊢
      have hmin : 0 ≤ min (-delta) before.balancePoints := le_min (by omega) hpos
      rw [if_pos (by simpa using hneg), abs_neg, abs_of_nonneg hmin]
      constructor <;> omega
    · rw [adjustment_of_nonneg (not_lt.mp hneg) hpos] at hbal ⊢
      rw [if_neg (by simpa using hneg), abs_of_nonneg (not_lt.mp hneg)]
      exact ⟨by omega, hbal⟩
  | getAccount customerId =>
    obtain ⟨-, -, hp, -, htype, hpoints, -, hbal, -⟩ := h
    rw [htype, hpoints, hbal]
    exact ⟨le_rfl, (sub_self _).symm⟩
  | bookings rows => exact h.elim

/-- One call adds `rows` to the ledger of the customer and moves the balance as they say. -/
theorem Effect.ledger {op : LoyaltyOp} (h : Effect expiryDays clock d op d')
    (hpos : 0 ≤ balanceOf d c) :
    0 ≤ balanceOf d' c ∧ ∃ rows, ledgerOf d' c = ledgerOf d c ++ rows ∧
      balanceOf d' c = rows.foldl (afterEntry op.takesPoints) (balanceOf d c) ∧
      (rows ≠ [] → op.customer = some c) := by
  cases h with
  | kept => exact ⟨hpos, [], by simp⟩
  | bookings rows hop => exact ⟨hpos, [], by simp [ledgerOf, balanceOf, accountOf]⟩
  | opened d' account hop ho =>
    have hbal : balanceOf d' c = balanceOf d c := by
      by_cases hc : c = account.customerId
      · subst hc
        rw [balanceOf_some ho.stored, balanceOf_none ho.fresh, ho.empty]
      · exact balanceOf_congr (ho.others c hc)
    exact ⟨by rw [hbal]; exact hpos, [], by simp [ledgerOf_congr ho.ledger], by simpa using hbal, by simp⟩
  | posted d' before after txn hp hentry =>
    by_cases hc : c = before.customerId
    · subst hc
      have hbefore := hp.balance_before
      rw [hbefore] at hpos ⊢
      obtain ⟨hnonneg, hbal⟩ := hentry.balance hpos
      rw [hp.balance_after]
      refine ⟨hnonneg, [txn], hp.ledgerOf_self, hbal, fun _ => ?_⟩
      cases op with
      | bookings rows => exact hentry.elim
      | _ => exact congrArg some hentry.1.symm
    · have hbal := balanceOf_congr (hp.others c hc)
      exact ⟨by rw [hbal]; exact hpos, [], by simp [hp.ledgerOf_of_ne hc], by simpa using hbal,
        by simp⟩

/-! ## Runs -/

/-- What a run adds to the ledger of the customer, and the balance it leaves. -/
theorem run_replays (expiryDays : ExpiryDays) (hwf : WellFormed d) (hpos : 0 ≤ balanceOf d c)
    (ops : List (LoyaltyOp × (ℕ → Env))) :
    0 ≤ balanceOf (Runs.run (loyaltyStep expiryDays) d ops) c ∧
      ledgerOf (Runs.run (loyaltyStep expiryDays) d ops) c =
        ledgerOf d c ++ (entries expiryDays c d ops).map (·.2) ∧
      balanceOf (Runs.run (loyaltyStep expiryDays) d ops) c =
        (entries expiryDays c d ops).foldl (fun b e => afterEntry e.1.takesPoints b e.2)
          (balanceOf d c) ∧
      ∀ e ∈ entries expiryDays c d ops, e.1.customer = some c ∧ ∃ x ∈ ops, x.1 = e.1 := by
  induction ops generalizing d with
  | nil => simp [entries, hpos]
  | cons x ops ih =>
    obtain ⟨hwf', heffect⟩ := effect_of_step expiryDays (fun _ => True) hwf x fun _ =>
      trivial
    obtain ⟨hpos', rows, hledger, hbal, hrows⟩ := heffect.ledger hpos
    obtain ⟨hend, hledgers, hbals, hmem⟩ := ih hwf' hpos'
    have hnew : (ledgerOf (loyaltyStep expiryDays d x) c).drop (ledgerOf d c).length = rows := by
      rw [hledger, List.drop_left]
    rw [Runs.run_cons]
    unfold entries
    simp only [hnew]
    refine ⟨hend, ?_, ?_, ?_⟩
    · rw [hledgers, hledger]
      simp
    · rw [hbals, hbal, List.foldl_append, List.foldl_map]
    · intro e he
      rcases List.mem_append.mp he with he | he
      · obtain ⟨t, ht, rfl⟩ := List.mem_map.mp he
        exact ⟨hrows (List.ne_nil_of_mem ht), x, List.mem_cons_self, rfl⟩
      · obtain ⟨hcust, y, hy, hye⟩ := hmem e he
        exact ⟨hcust, y, List.mem_cons_of_mem _ hy, hye⟩

theorem wellFormed_withoutAccounts (d : Db) : WellFormed (withoutAccounts d) :=
  ⟨List.nodup_nil, List.nodup_nil⟩

/-- The balance of every customer is never negative and the replay of the ledger, where an adjustment
moves the points the way its call does and a reversal takes what is there at most. A ledger without
negative adjustments determines the balance alone. -/
theorem balance_replays (expiryDays : ExpiryDays) (d : Db) (ops : List (LoyaltyOp × (ℕ → Env)))
    (c : Uuid) :
    let d' := Runs.run (loyaltyStep expiryDays) (withoutAccounts d) ops
    let added := entries expiryDays c (withoutAccounts d) ops
    0 ≤ balanceOf d' c ∧
      ledgerOf d' c = added.map (·.2) ∧
      balanceOf d' c = added.foldl (fun b e => afterEntry e.1.takesPoints b e.2) 0 ∧
      ((∀ x ∈ ops, x.1.customer = some c → x.1.takesPoints = false) →
        balanceOf d' c = (ledgerOf d' c).foldl (afterEntry false) 0) := by
  intro d' added
  have hstart : balanceOf (withoutAccounts d) c = 0 := rfl
  obtain ⟨hpos, hledger, hbal, hmem⟩ := run_replays expiryDays
    (wellFormed_withoutAccounts d) hstart.ge ops
  have hledger' : ledgerOf d' c = added.map (·.2) := hledger
  refine ⟨hpos, hledger', hbal, fun hadds => ?_⟩
  have hfold : balanceOf d' c = added.foldl (fun b e => afterEntry e.1.takesPoints b e.2) 0 := hbal
  rw [hfold, hledger', List.foldl_map]
  refine List.foldl_ext _ _ _ fun b e he => ?_
  obtain ⟨hcust, x, hx, hxe⟩ := hmem e he
  rw [← hxe] at hcust ⊢
  rw [hadds x hx hcust]

/-- A reversal of 10 points meets a balance of 2 and is recorded in full: the balance is 0, and the
sum of the transactions is -8. Two adjustments of 5 points leave the same ledger whether the second
one adds or takes them. -/
theorem reversal_recorded_in_full :
    let env : ℕ → Env := fun _ => { uuid := 7 }
    let reversed : List (LoyaltyOp × (ℕ → Env)) :=
      [(.creditPoints 1 10 none none none none, env), (.redeemPoints 1 8 none none none, env),
       (.cancelBookingPoints 1 10 none none none, env)]
    let adjusted : ℤ → List (LoyaltyOp × (ℕ → Env)) := fun delta =>
      [(.adjustPoints 1 5 none none, env), (.adjustPoints 1 delta none none, env)]
    let balanceAfter := fun ops => balanceOf (Runs.run (loyaltyStep {}) {} ops) 1
    (balanceAfter reversed = 0 ∧
      (entries {} 1 {} reversed).foldl (fun b e => afterWholeEntry e.1.takesPoints b e.2) 0 = -8) ∧
    ledgerOf (Runs.run (loyaltyStep {}) {} (adjusted 5)) 1 =
      ledgerOf (Runs.run (loyaltyStep {}) {} (adjusted (-5))) 1 ∧
    balanceAfter (adjusted 5) = 10 ∧ balanceAfter (adjusted (-5)) = 0 := by
  decide +kernel

end Loyalty
