import UshBookNPay.Loyalty.PointsRuns
import UshBookNPay.Loyalty.Proofs.LedgerProofs

/-!
# Calls of one customer, one at a time

Alone, every call keeps what the ledger of the customer says. The writers read the balance without a
lock and the reversal looks for no earlier one, so that neither interleaved calls nor a repeated
reversal keep it.
-/

open Transactions

namespace Loyalty

variable {expiryDays : ExpiryDays} {clock : Instant → Prop} {c b : Uuid} {d d' : Db}

/-! ## Adding a transaction -/

@[simp] theorem pointsOf_append (type : TransactionType) (rows rows' : List LoyaltyTransactionRow) :
    pointsOf type (rows ++ rows') = pointsOf type rows + pointsOf type rows' :=
  Table.total_append _ rows rows'

@[simp] theorem pointsOf_singleton (type : TransactionType) (t : LoyaltyTransactionRow) :
    pointsOf type [t] = if t.transactionType = type then t.points else 0 :=
  Table.total_singleton _ t

theorem rowsFor_append (type : TransactionType) (rows : List LoyaltyTransactionRow)
    (t : LoyaltyTransactionRow) :
    rowsFor type b (rows ++ [t]) =
      rowsFor type b rows ++
        if t.transactionType = type ∧ t.bookingId = some b then [t] else [] := by
  unfold rowsFor
  rw [List.filter_append]
  congr 1
  by_cases h : t.transactionType = type ∧ t.bookingId = some b <;> simp [h]

/-- What the ledger says, with the balance within what was earned and not redeemed. -/
structure Sound (c b : Uuid) (d : Db) : Prop where
  wellFormed : WellFormed d
  nonneg : 0 ≤ balanceOf d c
  within : balanceOf d c + pointsOf .redeem (ledgerOf d c) ≤ pointsOf .earn (ledgerOf d c)
  kept : PointsKept c b d

theorem alreadyCredited_false {rows : List LoyaltyTransactionRow} (hrows : ledgerOf d c = rows)
    (h : alreadyCredited d c (some b) = false) : rowsFor .earn b rows = [] := by
  subst hrows
  unfold rowsFor ledgerOf
  rw [List.filter_filter, List.filter_eq_nil_iff]
  intro t ht
  have := List.any_eq_false.mp h t ht
  simp only [decide_eq_true_eq] at this
  simp only [Bool.and_eq_true, decide_eq_true_eq]
  tauto

/-- A call that leaves balance and ledger alone. -/
theorem Sound.congr (h : Sound c b d) (hwf : WellFormed d')
    (hbal : balanceOf d' c = balanceOf d c) (hledger : ledgerOf d' c = ledgerOf d c) :
    Sound c b d' := by
  obtain ⟨-, hpos, hwithin, hkept⟩ := h
  rw [← hbal] at hpos hwithin
  rw [← hledger] at hwithin
  refine ⟨hwf, hpos, hwithin, ?_⟩
  obtain ⟨h1, h2, h3, h4, h5⟩ := hkept
  rw [← hledger] at h1 h2 h3 h4 h5
  rw [← hbal] at h5
  exact ⟨h1, h2, h3, h4, h5⟩

/-- A posted transaction moves the balance as it says. -/
theorem Sound.replayed (h : Sound c b d) {t : LoyaltyTransactionRow}
    (hledger : ledgerOf d' c = ledgerOf d c ++ [t])
    (hbal : balanceOf d' c = afterEntry false (balanceOf d c) t) :
    balanceOf d' c = (ledgerOf d' c).foldl (afterEntry false) 0 := by
  rw [hledger, List.foldl_append, ← h.kept.replayed, hbal]
  rfl

/-- A transaction for another booking, or of a type that neither credits nor reverses. -/
theorem Sound.post_other (h : Sound c b d) (hwf : WellFormed d') {t : LoyaltyTransactionRow}
    (hledger : ledgerOf d' c = ledgerOf d c ++ [t]) (hpos : 0 ≤ balanceOf d' c)
    (hbal : balanceOf d' c = afterEntry false (balanceOf d c) t)
    (hwithin : balanceOf d' c + pointsOf .redeem [t] ≤ balanceOf d c + pointsOf .earn [t])
    (hearn : ¬ (t.transactionType = .earn ∧ t.bookingId = some b))
    (hcancel : ¬ (t.transactionType = .cancel ∧ t.bookingId = some b)) : Sound c b d' := by
  have hw := h.within
  have hreplayed := h.replayed hledger hbal
  obtain ⟨h1, h2, h3, h4, h5⟩ := h.kept
  have hw' : balanceOf d' c + pointsOf .redeem (ledgerOf d' c) ≤ pointsOf .earn (ledgerOf d' c) := by
    rw [hledger, pointsOf_append, pointsOf_append]
    omega
  refine ⟨hwf, hpos, hw', ?_, ?_, ?_, by omega, hreplayed⟩
  · rw [hledger, rowsFor_append, if_neg hearn, List.append_nil]
    exact h1
  · rw [hledger, rowsFor_append, if_neg hcancel, List.append_nil]
    exact h2
  · rw [hledger, rowsFor_append, rowsFor_append, if_neg hearn, if_neg hcancel, List.append_nil,
      List.append_nil]
    exact h3

/-- The first credit of the booking. -/
theorem Sound.post_earn (h : Sound c b d) (hwf : WellFormed d') {t : LoyaltyTransactionRow}
    (hledger : ledgerOf d' c = ledgerOf d c ++ [t]) (hpos : 0 ≤ balanceOf d' c)
    (hbal : balanceOf d' c = balanceOf d c + t.points) (hpoints : 0 < t.points)
    (htype : t.transactionType = .earn) (hbooking : t.bookingId = some b)
    (hfirst : rowsFor .earn b (ledgerOf d c) = []) : Sound c b d' := by
  have hcancel : ¬ (t.transactionType = .cancel ∧ t.bookingId = some b) := by
    rw [htype]
    rintro ⟨⟨⟩, -⟩
  have hw := h.within
  have hreplayed := h.replayed hledger (by rw [hbal]; unfold afterEntry; rw [htype])
  obtain ⟨h1, h2, h3, h4, h5⟩ := h.kept
  have hw' : balanceOf d' c + pointsOf .redeem (ledgerOf d' c) ≤ pointsOf .earn (ledgerOf d' c) := by
    rw [hledger, pointsOf_append, pointsOf_append]
    simp [htype]
    omega
  refine ⟨hwf, hpos, hw', ?_, ?_, ?_, by omega, hreplayed⟩
  · rw [hledger, rowsFor_append, if_pos ⟨htype, hbooking⟩, hfirst]
    simp
  · rw [hledger, rowsFor_append, if_neg hcancel, List.append_nil]
    exact h2
  · rw [hledger, rowsFor_append, if_neg hcancel, List.append_nil, rowsFor_append,
      if_pos ⟨htype, hbooking⟩, pointsOf_append]
    simp [htype]
    omega

/-- The first reversal of the booking. -/
theorem Sound.post_cancel (h : Sound c b d) (hwf : WellFormed d') {t : LoyaltyTransactionRow}
    (hledger : ledgerOf d' c = ledgerOf d c ++ [t]) (hpos : 0 ≤ balanceOf d' c)
    (hbal : balanceOf d' c = max 0 (balanceOf d c - t.points)) (hpoints : 0 < t.points)
    (htype : t.transactionType = .cancel) (hbooking : t.bookingId = some b)
    (hfirst : rowsFor .cancel b (ledgerOf d c) = [])
    (hle : t.points ≤ pointsOf .earn (rowsFor .earn b (ledgerOf d c))) : Sound c b d' := by
  have hearn : ¬ (t.transactionType = .earn ∧ t.bookingId = some b) := by
    rw [htype]
    rintro ⟨⟨⟩, -⟩
  have hw := h.within
  have hn := h.nonneg
  have hreplayed := h.replayed hledger (by rw [hbal]; unfold afterEntry; rw [htype])
  obtain ⟨h1, h2, h3, h4, h5⟩ := h.kept
  have hw' : balanceOf d' c + pointsOf .redeem (ledgerOf d' c) ≤ pointsOf .earn (ledgerOf d' c) := by
    rw [hledger, pointsOf_append, pointsOf_append]
    simp [htype]
    omega
  refine ⟨hwf, hpos, hw', ?_, ?_, ?_, by omega, hreplayed⟩
  · rw [hledger, rowsFor_append, if_neg hearn, List.append_nil]
    exact h1
  · rw [hledger, rowsFor_append, if_pos ⟨htype, hbooking⟩, hfirst]
    simp
  · rw [hledger, rowsFor_append, if_pos ⟨htype, hbooking⟩, hfirst, rowsFor_append, if_neg hearn,
      List.append_nil]
    simpa [htype] using hle

/-! ## One call alone -/

theorem Sound.posted (h : Sound c b d) (hwf : WellFormed d') {before after : LoyaltyAccountRow}
    {txn : LoyaltyTransactionRow} (hp : Posted d d' before after txn) {call : PointsCall}
    (hentry : Entry expiryDays clock d before after txn (call.op c))
    (hok : ReversesOnce c b d call) : Sound c b d' := by
  have hc : before.customerId = c := by
    cases call <;> exact hentry.1
  subst hc
  have hledger := hp.ledgerOf_self
  have hbefore := hp.balance_before
  have hafter := hp.balance_after
  have hnonneg := h.nonneg
  obtain ⟨hpos, hbal⟩ := hentry.balance (by omega)
  rw [← hafter] at hpos hbal
  rw [← hbefore] at hbal
  have htakes : (call.op before.customerId).takesPoints = false := by cases call <;> rfl
  rw [htakes] at hbal
  cases call with
  | creditPoints loyaltyPoints arrangementLoyaltyPoints booking =>
    obtain ⟨-, hawards, htype, hpoints, hbooking, hsum, -⟩ := hentry
    have hpositive := hawards.2.1
    by_cases hb : booking = some b
    · refine h.post_earn hwf hledger hpos (by omega) (by omega) htype (by rw [hbooking, hb]) ?_
      refine alreadyCredited_false rfl ?_
      rw [← hb]
      exact hawards.2.2
    · refine h.post_other hwf hledger hpos hbal ?_ ?_ ?_
      · simp [htype]
        omega
      · rw [hbooking]
        exact fun hh => hb hh.2
      · simp [htype]
  | redeemPoints cost booking =>
    obtain ⟨-, -, hcost, hle, -, htype, hpoints, -, hsum, -⟩ := hentry
    refine h.post_other hwf hledger hpos hbal ?_ ?_ ?_
    · simp [htype]
      omega
    · simp [htype]
    · simp [htype]
  | cancelBookingPoints points booking =>
    obtain ⟨-, -, hpositive, htype, hpoints, hbooking, hsum, -⟩ := hentry
    have hmax : balanceOf d' before.customerId =
        max 0 (balanceOf d before.customerId - txn.points) := by
      rw [hbal]
      unfold afterEntry
      rw [htype]
    by_cases hb : booking = some b
    · obtain ⟨hfirst, hle⟩ := hok hb hpositive
      exact h.post_cancel hwf hledger hpos hmax (by omega) htype (by rw [hbooking, hb]) hfirst
        (by omega)
    · refine h.post_other hwf hledger hpos hbal ?_ ?_ ?_
      · simp [htype]
        omega
      · simp [htype]
      · rw [hbooking]
        exact fun hh => hb hh.2

theorem Sound.effect (h : Sound c b d) (hwf : WellFormed d') {call : PointsCall}
    (heffect : Effect expiryDays clock d (call.op c) d') (hok : ReversesOnce c b d call) :
    Sound c b d' := by
  cases heffect with
  | kept => exact h
  | bookings rows => exact h.congr hwf rfl rfl
  | opened d' account hop ho =>
    refine h.congr hwf ?_ (ledgerOf_congr ho.ledger)
    by_cases hc : c = account.customerId
    · subst hc
      rw [balanceOf_some ho.stored, balanceOf_none ho.fresh, ho.empty]
    · exact balanceOf_congr (ho.others c hc)
  | posted d' before after txn hp hentry => exact h.posted hwf hp hentry hok

theorem sound_withoutAccounts (d : Db) : Sound c b (withoutAccounts d) :=
  ⟨wellFormed_withoutAccounts d, le_rfl, le_rfl,
    ⟨Nat.zero_le _, Nat.zero_le _, le_rfl, le_rfl, rfl⟩⟩

/-- A call alone restores what the ledger says. -/
theorem ensures_pointsCall (h : Sound c b d) {call : PointsCall} (hok : ReversesOnce c b d call)
    (es : List Emission) :
    Ensures (fun _ => PointsKept c b d) (Restores fun d' _ => Sound c b d')
      (loyaltyCode expiryDays (call.op c)) d es := by
  have hdone := (done_loyaltyCode expiryDays (fun _ => True) h.wellFormed (call.op c) es).ensures
    fun _ => trivial
  refine hdone.mono (fun _ _ => h.kept) ?_
  intro r d' es' hr
  cases r with
  | error e => trivial
  | ok a =>
    obtain ⟨hwf, heffect⟩ := hr a rfl
    exact h.effect hwf heffect hok

/-- Where the calls of the customer follow one another and each reversal for the booking is its first,
of no more than it earned, the booking is credited and reversed at most once, no more is redeemed
than earned and no transaction is lost, after every statement of any number of calls. -/
theorem points_kept (expiryDays : ExpiryDays) (d : Db) (c b : Uuid)
    (evs : List (Event PointsCall Env))
    (h : Runs.AllSteps (pointsStep expiryDays c) (PointsOneAtATime c b)
      { db := withoutAccounts d } evs) :
    Runs.Always (pointsStep expiryDays c) (fun s => PointsKept c b s.db)
      { db := withoutAccounts d } evs := by
  have hgood : ∀ (d : Db) (_ : List Emission), Sound c b d → PointsKept c b d :=
    fun _ _ hI => hI.kept
  have hvoid : ∀ (d : Db) (_ es' : List Emission), Sound c b d → es'.all (fun _ => true) →
      Sound c b d := fun _ _ _ hI _ => hI
  have hcode : ∀ (d : Db) (es : List Emission) (call : PointsCall), Sound c b d →
      ReversesOnce c b d call → Ensures (fun _ => PointsKept c b d)
        (Restores fun d' _ => Sound c b d') (loyaltyCode expiryDays (call.op c)) d es :=
    fun _ es _ hI hok => ensures_pointsCall hI hok es
  exact always_of_serial hgood hvoid hcode (sound_withoutAccounts d) h

/-- The statements of one call and its end. -/
def callAlone (sid : ℕ) (call : PointsCall) (statements : ℕ) : List (Event PointsCall Env) :=
  .start sid call :: List.replicate statements (.exec sid { uuid := 7 }) ++ [.finish sid]

theorem points_kept_example :
    let evs : List (Event PointsCall Env) :=
      callAlone 1 (.creditPoints 10 none (some 5) none none) 8 ++
      callAlone 2 (.creditPoints 10 none (some 5) none none) 8 ++
      callAlone 3 (.redeemPoints 4 none none none) 8 ++
      callAlone 4 (.cancelBookingPoints 10 (some 5) none none) 8
    let d : Db := { bookings :=
      [{ id := 5, customerId := 1, therapistId := 3, appointmentStart := 0, appointmentEnd := 0,
         totalAmount := 0 }] }
    Runs.Always (pointsStep {} 1) (fun s => PointsKept 1 5 s.db)
      { db := withoutAccounts d } evs :=
  points_kept {} _ 1 5 _ (by decide +kernel)

/-- Two deliveries of one credit whose checks both find nothing: the booking is credited twice, and
one of the credits is lost. A reversal of the first of two credited bookings that comes twice takes
the points of the second. -/
theorem points_not_kept :
    let start : PointsSystem := { db := { bookings :=
      [{ id := 5, customerId := 1, therapistId := 3, appointmentStart := 0, appointmentEnd := 0,
         totalAmount := 0 },
       { id := 6, customerId := 1, therapistId := 3, appointmentStart := 0, appointmentEnd := 0,
         totalAmount := 0 }] } }
    let credit : Uuid → PointsCall := fun b => .creditPoints 10 none (some b) none none
    let next : ℕ → List (Event PointsCall Env) := fun sid => List.replicate 8 (.exec sid { uuid := 7 })
    let twice : List (Event PointsCall Env) :=
      callAlone 1 (credit 6) 8 ++ [.start 2 (credit 5), .start 3 (credit 5)] ++
      List.replicate 2 (.exec 2 {}) ++ List.replicate 4 (.exec 3 {}) ++ next 2 ++ [.finish 2] ++
      next 3 ++ [.finish 3]
    let repeated : List (Event PointsCall Env) :=
      callAlone 1 (credit 5) 8 ++ callAlone 2 (credit 6) 8 ++
      callAlone 3 (.cancelBookingPoints 10 (some 5) none none) 8 ++
      callAlone 4 (.cancelBookingPoints 10 (some 5) none none) 8
    let doubled := (Runs.run (pointsStep {} 1) start twice).db
    let reversed := (Runs.run (pointsStep {} 1) start repeated).db
    (¬ PointsKept 1 5 doubled ∧ (rowsFor .earn 5 (ledgerOf doubled 1)).length = 2 ∧
      balanceOf doubled 1 = 20) ∧
    ¬ PointsKept 1 5 reversed ∧ balanceOf reversed 1 = 0 := by
  decide +kernel

end Loyalty
