import UshBookNPay.Core.Rules
import UshBookNPay.Loyalty.Ledger

/-!
# The effect of the calls

Every call keeps the unique keys of the accounts and has one of the effects of `Effect`.
-/

open Transactions

namespace Loyalty

variable {d : Db} {es : List Emission} {clock : Instant → Prop}

/-! ## Accounts by customer -/

theorem accountOf_customer {c : Uuid} {a : LoyaltyAccountRow} (h : accountOf d c = some a) :
    a.customerId = c := by
  simpa using List.find?_some h

theorem accountOf_mem {c : Uuid} {a : LoyaltyAccountRow} (h : accountOf d c = some a) :
    a ∈ d.loyaltyAccounts := List.mem_of_find?_eq_some h

/-- In a well-formed table an account that is there is the account of its customer. -/
theorem accountOf_eq_of_mem (hwf : WellFormed d) {a : LoyaltyAccountRow}
    (h : a ∈ d.loyaltyAccounts) : accountOf d a.customerId = some a := by
  cases hf : accountOf d a.customerId with
  | none => simpa using List.find?_eq_none.mp hf a h
  | some b =>
    have hb : b.customerId = a.customerId := accountOf_customer hf
    exact congrArg some (List.inj_on_of_nodup_map hwf.customers (accountOf_mem hf) h hb)

theorem accountOf_none {c : Uuid} (h : accountOf d c = none) {a : LoyaltyAccountRow}
    (ha : a ∈ d.loyaltyAccounts) : a.customerId ≠ c := by
  simpa using List.find?_eq_none.mp h a ha

theorem accountOf_append {c : Uuid} {a : LoyaltyAccountRow} {d' : Db}
    (h : d'.loyaltyAccounts = d.loyaltyAccounts ++ [a]) (hnone : accountOf d a.customerId = none) :
    accountOf d' c = if c = a.customerId then some a else accountOf d c := by
  unfold accountOf at hnone ⊢
  rw [h, List.find?_append]
  by_cases hc : c = a.customerId
  · subst hc
    simp [hnone]
  · have hne : ¬ a.customerId = c := fun e => hc e.symm
    simp [hc, hne]

/-- A change of one account that keeps its customer is a change of the account of the customer. -/
theorem accountOf_modify (hwf : WellFormed d) {c : Uuid} {a : LoyaltyAccountRow}
    (ha : a ∈ d.loyaltyAccounts) {set : LoyaltyAccountRow → LoyaltyAccountRow}
    (hset : ∀ r, (set r).customerId = r.customerId) {d' : Db}
    (h : d'.loyaltyAccounts = Table.modify d.loyaltyAccounts a.id set) :
    accountOf d' c = if c = a.customerId then some (set a) else accountOf d c := by
  have hfind : accountOf d' c = (accountOf d c).map fun r => if r.id = a.id then set r else r := by
    have hcust : ∀ r, (if r.id = a.id then set r else r).customerId = r.customerId := by
      intro r
      split_ifs
      · exact hset r
      · rfl
    unfold accountOf
    rw [h]
    unfold Table.modify
    rw [List.find?_map]
    simp only [Function.comp_def, Table.Keyed.key, hcust]
  rw [hfind]
  by_cases hc : c = a.customerId
  · subst hc
    rw [accountOf_eq_of_mem hwf ha]
    simp
  · rw [if_neg hc]
    cases hf : accountOf d c with
    | none => rfl
    | some r =>
      have hne : r.id ≠ a.id := by
        intro hid
        have hra : r = a := Table.eq_of_key_eq hwf.ids (accountOf_mem hf) ha hid
        exact hc (by rw [← accountOf_customer hf, hra])
      simp [hne]

theorem WellFormed.append (hwf : WellFormed d) {a : LoyaltyAccountRow} {d' : Db}
    (h : d'.loyaltyAccounts = d.loyaltyAccounts ++ [a])
    (hid : Table.get d.loyaltyAccounts a.id = none) (hnone : accountOf d a.customerId = none) :
    WellFormed d' := by
  constructor
  · rw [h]
    exact hwf.ids.append hid
  · rw [h, List.map_append, List.nodup_append]
    refine ⟨hwf.customers, by simp, ?_⟩
    intro x hx y hy
    obtain ⟨r, hr, rfl⟩ := List.mem_map.mp hx
    have hy' : y = a.customerId := by simpa using hy
    rw [hy']
    exact accountOf_none hnone hr

theorem WellFormed.modify (hwf : WellFormed d) {k : Uuid}
    {set : LoyaltyAccountRow → LoyaltyAccountRow} (hid : ∀ r, (set r).id = r.id)
    (hset : ∀ r, (set r).customerId = r.customerId) {d' : Db}
    (h : d'.loyaltyAccounts = Table.modify d.loyaltyAccounts k set) : WellFormed d' := by
  constructor
  · rw [h]
    exact hwf.ids.modify hid k
  · rw [h, Table.map_modify_of_eq hset]
    exact hwf.customers

theorem WellFormed.congr (hwf : WellFormed d) {d' : Db}
    (h : d'.loyaltyAccounts = d.loyaltyAccounts) : WellFormed d' := by
  constructor
  · rw [h]
    exact hwf.ids
  · rw [h]
    exact hwf.customers

/-! ## Opening an account -/

/-- The account a call works on: found, or opened. -/
structure Ready (d d' : Db) (customerId : Uuid) (a : LoyaltyAccountRow) : Prop where
  customer : a.customerId = customerId
  stored : accountOf d' customerId = some a
  wellFormed : WellFormed d'
  effect : d' = d ∨ Opened d d' a

theorem Ready.found {d d' : Db} {c : Uuid} {a : LoyaltyAccountRow} (h : Ready d d' c a) :
    accountOf d c = some a ∨ (accountOf d c = none ∧ a = { id := a.id, customerId := c }) := by
  rcases h.effect with rfl | ho
  · exact .inl h.stored
  · right
    have hcust := h.customer
    subst hcust
    exact ⟨ho.fresh, ho.empty⟩

theorem Ready.ledger {d d' : Db} {c : Uuid} {a : LoyaltyAccountRow} (h : Ready d d' c a) :
    d'.loyaltyTransactions = d.loyaltyTransactions := by
  rcases h.effect with rfl | ho
  · rfl
  · exact ho.ledger

theorem Ready.bookings {d d' : Db} {c : Uuid} {a : LoyaltyAccountRow} (h : Ready d d' c a) :
    d'.bookings = d.bookings := by
  rcases h.effect with rfl | ho
  · rfl
  · exact ho.bookings

theorem Ready.others {d d' : Db} {c : Uuid} {a : LoyaltyAccountRow} (h : Ready d d' c a) {c' : Uuid}
    (hc : c' ≠ c) : accountOf d' c' = accountOf d c' := by
  rcases h.effect with rfl | ho
  · rfl
  · exact ho.others c' (by rw [h.customer]; exact hc)

theorem ensures_getOrCreate (hwf : WellFormed d) {c : Uuid} :
    Ensures (fun _ => True) (fun r d' _ => ∀ a, r = .ok a → Ready d d' c a)
      (getOrCreateAccount c) d es := by
  unfold getOrCreateAccount
  rw [ensures_bind_query]
  refine ⟨trivial, ?_⟩
  cases hf : accountOf d c with
  | some a =>
    have hq : d.loyaltyAccounts.find? (·.customerId = c) = some a := hf
    rw [hq]
    rintro _ ⟨rfl⟩
    exact ⟨accountOf_customer hf, hf, hwf, .inl rfl⟩
  | none =>
    have hq : d.loyaltyAccounts.find? (·.customerId = c) = none := hf
    rw [hq]
    dsimp only
    rw [ensures_bind_ask]
    refine ⟨trivial, fun e => ?_⟩
    unfold insertAccount
    rw [ensures_bind, ensures_checkedUpdate]
    refine ⟨trivial, ?_⟩
    by_cases hid : (Table.get d.loyaltyAccounts e.uuid).isSome
    · simp only [hid, if_true]
      rintro _ ⟨⟩
    · have hany : d.loyaltyAccounts.any (fun r => r.customerId = c) = false := by
        simpa using List.find?_eq_none.mp hq
      have hid' : Table.get d.loyaltyAccounts e.uuid = none := by simpa using hid
      simp only [hid, hany, Bool.false_eq_true, if_false]
      rintro _ ⟨rfl⟩
      generalize hd : ({ d with loyaltyAccounts := d.loyaltyAccounts ++
        [{ id := e.uuid, customerId := c }] } : Db) = d'
      have hrows : d'.loyaltyAccounts = d.loyaltyAccounts ++
          [{ id := e.uuid, customerId := c }] := by rw [← hd]
      have hof : ∀ c', accountOf d' c' = if c' = c then some { id := e.uuid, customerId := c }
          else accountOf d c' := fun c' => accountOf_append hrows hf
      refine ⟨rfl, ?_, hwf.append hrows hid' hf, .inr ⟨hf, rfl, ?_, ?_, ?_, ?_⟩⟩
      · exact (hof c).trans (if_pos rfl)
      · exact (hof c).trans (if_pos rfl)
      · exact fun c' hc' => (hof c').trans (if_neg hc')
      · rw [← hd]
      · rw [← hd]

theorem ready_of_stored (hwf : WellFormed d) {c : Uuid} {a : LoyaltyAccountRow}
    (h : accountOf d c = some a) : Ready d d c a :=
  ⟨accountOf_customer h, h, hwf, .inl rfl⟩

/-! ## Posting a transaction -/

/-- An account written with a transaction of its customer. -/
theorem Ready.posted {d d₁ d' : Db} {c : Uuid} {a : LoyaltyAccountRow} (h : Ready d d₁ c a)
    {set : LoyaltyAccountRow → LoyaltyAccountRow} (hid : ∀ r, (set r).id = r.id)
    (hset : ∀ r, (set r).customerId = r.customerId) {txn : LoyaltyTransactionRow}
    (htxn : txn.customerId = c)
    (haccounts : d'.loyaltyAccounts = Table.modify d₁.loyaltyAccounts a.id set)
    (hledger : d'.loyaltyTransactions = d₁.loyaltyTransactions ++ [txn])
    (hbookings : d'.bookings = d₁.bookings) :
    WellFormed d' ∧ Posted d d' a (set a) txn := by
  have hcust := h.customer
  subst hcust
  have hof : ∀ c', accountOf d' c' = if c' = a.customerId then some (set a) else accountOf d₁ c' :=
    fun c' => accountOf_modify h.wellFormed (accountOf_mem h.stored) hset haccounts
  refine ⟨h.wellFormed.modify hid hset haccounts, h.found, ?_, ?_, ?_, htxn, ?_⟩
  · exact (hof _).trans (if_pos rfl)
  · intro c' hc'
    rw [hof, if_neg hc', h.others hc']
  · rw [hledger, h.ledger]
  · rw [hbookings, h.bookings]

theorem ensures_writeLedger {d₁ : Db} {c : Uuid} {a : LoyaltyAccountRow} (h : Ready d d₁ c a)
    {set : LoyaltyAccountRow → LoyaltyAccountRow} (hid : ∀ r, (set r).id = r.id)
    (hset : ∀ r, (set r).customerId = r.customerId) {txn : LoyaltyTransactionRow}
    (htxn : txn.customerId = c) :
    Ensures (fun _ => True) (fun r d' _ => ∀ a', r = .ok a' →
        a' = set a ∧ WellFormed d' ∧ Posted d d' a (set a) txn)
      (writeLedger a set txn) d₁ es := by
  unfold writeLedger
  rw [ensures_bind, ensures_checkedUpdate]
  refine ⟨trivial, ?_⟩
  cases ledgerConflict d₁ (set a) txn with
  | some e =>
    rintro _ ⟨⟩
  | none =>
    rintro _ ⟨rfl⟩
    exact ⟨rfl, h.posted hid hset htxn rfl rfl rfl⟩

/-! ## The calls -/

/-- What a call has to establish at its end: an effect, or an exception. -/
def Done {α : Type} (expiryDays : ExpiryDays) (clock : Instant → Prop) (d : Db) (op : LoyaltyOp) :
    Except Error α → Db → List Emission → Prop :=
  fun r d' _ => ∀ a, r = .ok a → WellFormed d' ∧ Effect expiryDays clock d op d'

theorem Ready.done {α : Type} {expiryDays : ExpiryDays} {d' : Db} {op : LoyaltyOp} {c : Uuid}
    {a : LoyaltyAccountRow} (h : Ready d d' c a) (hop : op.customer = some c) (r : Except Error α)
    (es : List Emission) : Done expiryDays clock d op r d' es := by
  intro _ _
  refine ⟨h.wellFormed, ?_⟩
  rcases h.effect with rfl | ho
  · exact .kept
  · exact .opened d' a (by rw [hop, h.customer]) ho

variable {expiryDays : ExpiryDays}

theorem done_of_posted {α : Type} {d' : Db} {op : LoyaltyOp} {before after : LoyaltyAccountRow}
    {txn : LoyaltyTransactionRow} {r : Except Error α}
    (h : WellFormed d' ∧ Posted d d' before after txn)
    (hentry : Entry expiryDays clock d before after txn op) : Done expiryDays clock d op r d' es :=
  fun _ _ => ⟨h.1, .posted d' before after txn h.2 hentry⟩

theorem done_getOrCreate (hwf : WellFormed d) {op : LoyaltyOp} {c : Uuid}
    (hop : op.customer = some c) :
    EnsuresUnder (fun e => clock e.now) (Done expiryDays clock d op) (getOrCreateAccount c) d es := by
  refine (ensures_getOrCreate hwf).under.mono ?_
  intro r d' es' h a ha
  exact (h a ha).done hop r es' a ha

theorem done_creditPoints (hwf : WellFormed d) {c : Uuid} {loyaltyPoints : ℤ}
    {arrangementLoyaltyPoints : Option ℤ} {bookingId : Option Uuid}
    {bookingNumber createdBy : Option String} :
    EnsuresUnder (fun e => clock e.now)
      (Done expiryDays clock d (.creditPoints c loyaltyPoints arrangementLoyaltyPoints bookingId
        bookingNumber createdBy))
      (LoyaltyService.creditPoints expiryDays c loyaltyPoints arrangementLoyaltyPoints bookingId
        bookingNumber createdBy) d es := by
  unfold LoyaltyService.creditPoints
  refine ensuresUnder_bind_query _ _ ?_
  by_cases hpaid : paidByRedemption d bookingId = true
  · rw [if_pos hpaid]
    exact done_getOrCreate hwf rfl
  rw [if_neg hpaid]
  by_cases hpos : resolveEarnPoints loyaltyPoints arrangementLoyaltyPoints ≤ 0
  · rw [if_pos hpos]
    exact done_getOrCreate hwf rfl
  rw [if_neg hpos]
  refine ensuresUnder_bind_query _ _ ?_
  by_cases halready : alreadyCredited d c bookingId = true
  · rw [if_pos halready]
    exact done_getOrCreate hwf rfl
  rw [if_neg halready, ensuresUnder_bind_ask]
  intro env hnow
  have hawards : Awards d c (resolveEarnPoints loyaltyPoints arrangementLoyaltyPoints) bookingId :=
    ⟨by simpa using hpaid, by omega, by simpa using halready⟩
  unfold creditPoints
  rw [ensuresUnder_bind_raiseIf]
  refine ⟨fun h => absurd h hpos, fun _ => ?_⟩
  refine (ensures_getOrCreate hwf).under.bind ?_ ?_
  · intro a d₁ es₁ hready
    have hr := hready a rfl
    rw [ensuresUnder_bind_ask]
    intro env' _
    refine (ensures_writeLedger hr ?_ ?_ rfl).under.mono ?_
    · exact fun _ => rfl
    · exact fun _ => rfl
    · intro r d' _ hw a' ha'
      obtain ⟨-, hwf', hposted⟩ := hw a' ha'
      refine ⟨hwf', .posted d' _ _ _ hposted ?_⟩
      exact ⟨hr.customer, hawards, rfl, rfl, rfl, rfl, env.now, hnow, rfl⟩
  · intro e d₁ es₁ _ a ha
    cases ha

/-- The expiry check of an account: nothing happens, or its points expire. -/
def Checked (expiryDays : ExpiryDays) (clock : Instant → Prop) (d : Db) (a : LoyaltyAccountRow)
    (d' : Db) (a' : LoyaltyAccountRow) : Prop :=
  (a' = a ∧ d' = d ∧
    ∃ now, clock now ∧ (isAccountExpired now a.pointsExpireAt = false ∨ a.balancePoints ≤ 0)) ∨
  (a'.balancePoints = 0 ∧ WellFormed d' ∧
    ∃ txn, Posted d d' a a' txn ∧ Entry expiryDays clock d a a' txn (.getAccount a.customerId))

theorem ensures_expireAccountIfNeeded (expiryDays : ExpiryDays) (hwf : WellFormed d) {c : Uuid}
    {a : LoyaltyAccountRow} (ha : accountOf d c = some a) {createdBy : Option String} :
    EnsuresUnder (fun e => clock e.now)
      (fun r d' _ => ∀ p, r = .ok p → Checked expiryDays clock d a d' p.1)
      (expireAccountIfNeeded a createdBy) d es := by
  have hr : Ready d d c a := ready_of_stored hwf ha
  have hcust : a.customerId = c := hr.customer
  subst hcust
  unfold expireAccountIfNeeded
  rw [ensuresUnder_bind_ask]
  intro env hnow
  by_cases hexp : isAccountExpired env.now a.pointsExpireAt = true
  · rw [if_neg (not_not.mpr hexp)]
    by_cases hpos : 0 < a.balancePoints
    · rw [if_pos hpos, ensuresUnder_bind_ask]
      intro env' _
      refine (ensures_writeLedger hr ?_ ?_ rfl).under.bind ?_ ?_
      · exact fun _ => rfl
      · exact fun _ => rfl
      · rintro a' d' es' hw _ ⟨rfl⟩
        obtain ⟨rfl, hwf', hposted⟩ := hw a' rfl
        right
        exact ⟨rfl, hwf', _, hposted, rfl, ha, hpos, ⟨env.now, hnow, hexp⟩, rfl, rfl, rfl, rfl, rfl⟩
      · intro e d' es' _ p hp
        cases hp
    · rw [if_neg hpos]
      rintro _ ⟨rfl⟩
      exact .inl ⟨rfl, rfl, env.now, hnow, .inr (by omega)⟩
  · rw [if_pos hexp]
    rintro _ ⟨rfl⟩
    exact .inl ⟨rfl, rfl, env.now, hnow, .inl (by simpa using hexp)⟩

/-- What `get_account` leaves. -/
theorem ensures_getAccount (expiryDays : ExpiryDays) (hwf : WellFormed d) {c : Uuid} :
    EnsuresUnder (fun e => clock e.now) (fun r d' _ => ∀ o, r = .ok o →
        (o = none ∧ d' = d) ∨
        ∃ a a', o = some a' ∧ accountOf d c = some a ∧ Checked expiryDays clock d a d' a')
      (getAccount c) d es := by
  unfold getAccount
  refine ensuresUnder_bind_query _ _ ?_
  have hq : d.loyaltyAccounts.find? (·.customerId = c) = accountOf d c := rfl
  rw [hq]
  cases hf : accountOf d c with
  | none =>
    rintro _ ⟨rfl⟩
    exact .inl ⟨rfl, rfl⟩
  | some a =>
    refine (ensures_expireAccountIfNeeded expiryDays hwf hf).bind ?_ ?_
    · rintro p d' es' hp _ ⟨rfl⟩
      exact .inr ⟨a, p.1, rfl, rfl, hp p rfl⟩
    · intro e d' es' _ o ho
      cases ho

theorem done_getAccount (hwf : WellFormed d) {c : Uuid} :
    EnsuresUnder (fun e => clock e.now) (Done expiryDays clock d (.getAccount c))
      (getAccount c) d es := by
  refine (ensures_getAccount expiryDays hwf).mono ?_
  intro r d' es' h o ho
  rcases h o ho with ⟨-, rfl⟩ | ⟨a, a', -, hf, hchecked⟩
  · exact ⟨hwf, .kept⟩
  · rcases hchecked with ⟨-, rfl, -⟩ | ⟨-, hwf', txn, hposted, hentry⟩
    · exact ⟨hwf, .kept⟩
    · rw [accountOf_customer hf] at hentry
      exact ⟨hwf', .posted d' a a' txn hposted hentry⟩

/-- A debit that goes through is of an account whose balance covers it. -/
theorem ensures_debitPoints {d₁ : Db} {c : Uuid} {a : LoyaltyAccountRow} (h : Ready d d₁ c a)
    {cost : ℤ} {bookingId : Option Uuid} {bookingNumber description createdBy : Option String} :
    Ensures (fun _ => True) (fun r d' _ => ∀ a', r = .ok a' → 0 < cost ∧ cost ≤ a.balancePoints ∧
        WellFormed d' ∧ ∃ txn, Posted d d' a a' txn ∧ txn.transactionType = .redeem ∧
          txn.points = cost ∧ txn.bookingId = bookingId ∧
          a'.balancePoints = a.balancePoints - cost ∧ a'.pointsExpireAt = a.pointsExpireAt)
      (debitPoints a cost bookingId bookingNumber description createdBy) d₁ es := by
  unfold debitPoints assertSufficientBalance
  rw [ensures_bind, ensures_bind_raiseIf]
  constructor
  · rintro _ _ ⟨⟩
  intro hcost
  rw [ensures_raiseIf]
  constructor
  · rintro _ _ ⟨⟩
  intro hbalance
  dsimp only
  rw [ensures_bind_ask]
  refine ⟨trivial, fun env => ?_⟩
  refine (ensures_writeLedger h ?_ ?_ h.customer).mono (fun _ h => h) ?_
  · exact fun _ => rfl
  · exact fun _ => rfl
  · intro r d' _ hw a' ha'
    obtain ⟨rfl, hwf', hposted⟩ := hw a' ha'
    exact ⟨by omega, by omega, hwf', _, hposted, rfl, rfl, rfl, rfl, rfl⟩

theorem done_redeemPoints (hwf : WellFormed d) {c : Uuid} {cost : ℤ} {bookingId : Option Uuid}
    {bookingNumber createdBy : Option String} :
    EnsuresUnder (fun e => clock e.now)
      (Done expiryDays clock d (.redeemPoints c cost bookingId bookingNumber createdBy))
      (LoyaltyService.redeemPoints c cost bookingId bookingNumber createdBy) d es := by
  unfold LoyaltyService.redeemPoints
  refine (ensures_getAccount expiryDays hwf).bind ?_ ?_
  swap
  · intro e d' es' _ a ha
    cases ha
  intro o d₁ es₁ hget
  rcases hget o rfl with ⟨rfl, -⟩ | ⟨a, a₁, rfl, hf, hchecked⟩
  · rintro _ ⟨⟩
  dsimp only
  rcases hchecked with ⟨rfl, rfl, now, hnow, hvalid⟩ | ⟨hzero, hwf₁, txn, hposted, -⟩
  · have hr : Ready d₁ d₁ c a₁ := ready_of_stored hwf hf
    refine (ensures_debitPoints hr).under.mono ?_
    intro r d' _ hdebit a' ha'
    obtain ⟨hpos, hle, hwf', txn, hposted, htype, hpoints, hbooking, hbal, hexp⟩ := hdebit a' ha'
    have hlive : isAccountExpired now a₁.pointsExpireAt = false := by
      rcases hvalid with h | h
      · exact h
      · omega
    exact ⟨hwf', .posted d' a₁ a' txn hposted
      ⟨hr.customer, hf, hpos, hle, ⟨now, hnow, hlive⟩, htype, hpoints, hbooking, hbal, hexp⟩⟩
  · -- the points have just expired, and the debit is refused
    have hr : Ready d₁ d₁ a.customerId a₁ := ready_of_stored hwf₁ hposted.stored
    refine (ensures_debitPoints hr).under.mono ?_
    intro r d' _ hdebit a' ha'
    obtain ⟨hpos, hle, -⟩ := hdebit a' ha'
    omega

theorem done_cancelBookingPoints (hwf : WellFormed d) {c : Uuid} {points : ℤ}
    {bookingId : Option Uuid} {bookingNumber createdBy : Option String} :
    EnsuresUnder (fun e => clock e.now)
      (Done expiryDays clock d (.cancelBookingPoints c points bookingId bookingNumber createdBy))
      (LoyaltyService.cancelBookingPoints c points bookingId bookingNumber createdBy) d es := by
  unfold LoyaltyService.cancelBookingPoints
  by_cases hpos : points ≤ 0
  · rw [if_pos hpos]
    exact fun _ _ => ⟨hwf, .kept⟩
  rw [if_neg hpos]
  unfold cancelPoints
  refine ensuresUnder_bind_query _ _ ?_
  have hq : d.loyaltyAccounts.find? (·.customerId = c) = accountOf d c := rfl
  rw [hq]
  cases hf : accountOf d c with
  | none => exact fun _ _ => ⟨hwf, .kept⟩
  | some a =>
    dsimp only
    rw [ensuresUnder_bind_ask]
    intro env _
    have hr : Ready d d c a := ready_of_stored hwf hf
    refine (ensures_writeLedger hr ?_ ?_ rfl).under.bind ?_ ?_
    · intro r
      split_ifs <;> rfl
    · intro r
      split_ifs <;> rfl
    · rintro a' d' es' hw _ _
      obtain ⟨rfl, hwf', hposted⟩ := hw a' rfl
      refine ⟨hwf', .posted d' _ _ _ hposted ?_⟩
      refine ⟨hr.customer, hf, by omega, rfl, rfl, rfl, ?_, ?_⟩
      · split_ifs with h
        · show a.balancePoints - _ = _
          rw [max_eq_right h.le]
        · rw [max_eq_left (by omega), sub_zero]
      · split_ifs <;> rfl
    · intro e d' es' _ o ho
      cases ho

theorem ensures_adjust (hwf : WellFormed d) {c : Uuid} {delta : ℤ}
    {description createdBy : Option String} :
    Ensures (fun _ => True) (Done expiryDays clock d (.adjustPoints c delta description createdBy))
      (adjustPoints c delta description createdBy) d es := by
  unfold adjustPoints
  refine (ensures_getOrCreate hwf).bind ?_ ?_
  swap
  · intro e d₁ es₁ _ a ha
    cases ha
  intro a d₁ es₁ hready
  have hr := hready a rfl
  rw [ensures_bind_ask]
  refine ⟨trivial, fun env => ?_⟩
  rw [ensures_checkedUpdate]
  refine ⟨trivial, ?_⟩
  split
  · rintro _ ⟨⟩
  · exact done_of_posted (hr.posted (by intro r; rfl) (by intro r; rfl) rfl rfl rfl rfl)
      ⟨hr.customer, rfl, rfl, rfl, rfl, rfl⟩

/-- Every call keeps the unique keys and has one of the effects. -/
theorem done_loyaltyCode (expiryDays : ExpiryDays) (clock : Instant → Prop) (hwf : WellFormed d)
    (op : LoyaltyOp) (es : List Emission) :
    EnsuresUnder (fun e => clock e.now) (Done expiryDays clock d op) (loyaltyCode expiryDays op)
      d es := by
  have hdiscard : ∀ {α : Type} {p : Tx α}, EnsuresUnder (fun e => clock e.now)
      (Done expiryDays clock d op) p d es → EnsuresUnder (fun e => clock e.now)
      (Done expiryDays clock d op) (discard p) d es := by
    intro α p hp
    refine hp.bind ?_ ?_
    · intro a d' es' h u _
      exact h a rfl
    · intro e d' es' _ u hu
      cases hu
  cases op with
  | creditPoints => exact hdiscard (done_creditPoints hwf)
  | redeemPoints => exact hdiscard (done_redeemPoints hwf)
  | cancelBookingPoints => exact hdiscard (done_cancelBookingPoints hwf)
  | adjustPoints => exact (ensures_adjust hwf).under
  | getAccount => exact hdiscard (done_getAccount hwf)
  | bookings rows =>
    intro _ _ _ _
    exact ⟨hwf.congr rfl, .bookings rows rfl⟩

end Loyalty
