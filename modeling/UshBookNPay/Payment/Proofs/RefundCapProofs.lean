import UshBookNPay.Payment.Proofs.TransitionProofs

/-!
# The cumulative refund cap over runs of transitions

Along a run the refunds of a payment in a committed status stay within its total exactly when every
approval as loyalty points, and every update of amounts that is not given the refund's own payment,
stays within the cap.
-/

open Transactions (Prog Ensures)
open Transactions

namespace Payment

/-! ## The committed sum -/

/-- What a refund adds to the committed sum of the payment `pid`. -/
def committedShare (pid : Uuid) (r : RefundRow) : Fils :=
  if r.paymentId = some pid ∧ r.status ∈ committedStatuses then r.refundedAmount else 0

theorem total_filter_eq (P : RefundRow → Prop) [DecidablePred P] (w : RefundRow → ℤ)
    (rows : List RefundRow) :
    Table.total w (rows.filter fun r => P r) = Table.total (fun r => if P r then w r else 0) rows := by
  induction rows with
  | nil => rfl
  | cons r rows ih =>
    simp only [Table.total, List.map_cons, List.sum_cons, List.filter_cons] at ih ⊢
    by_cases h : P r <;> simp [h, ih]

theorem sumOf_none (d : Db) (pid : Uuid) :
    sumOf d pid committedStatuses none = Table.total (committedShare pid) d.refunds := by
  unfold sumOf
  rw [total_filter_eq]
  exact Table.total_congr fun r _ => by simp [committedShare]

theorem sumOf_some (d : Db) (pid k : Uuid) :
    sumOf d pid committedStatuses (some k) =
      Table.total (committedShare pid) (Table.erase d.refunds k) := by
  unfold sumOf Table.erase
  rw [total_filter_eq, total_filter_eq]
  refine Table.total_congr fun r _ => ?_
  have hkey : Table.Keyed.key r = r.id := rfl
  by_cases hk : r.id = k <;> simp [committedShare, hkey, hk]

theorem exceeds_iff (a b : Fils) : exceeds a b ↔ b < a := by
  unfold exceeds toDecimal TOLERANCE
  have h := FixedPoint.le_add_half_iff a b
  constructor
  · intro hlt
    by_contra hle
    have := h.mpr (not_lt.mp hle)
    linarith
  · intro hlt
    by_contra hle
    have : (a : ℚ) ≤ b + 1 / 2 := by linarith
    exact absurd (h.mp this) (not_le.mpr hlt)

theorem withinCap_iff {d : Db} {pid : Uuid} {excludeId : Option Uuid} {net : Fils} {p : PaymentRow}
    (hp : Table.get d.payments pid = some p) :
    WithinCap d pid excludeId net ↔
      sumOf d pid committedStatuses excludeId + net ≤ p.totalAmount := by
  simp [WithinCap, hp, exceeds_iff]

theorem capHolds_iff {d : Db} {pid : Uuid} {p : PaymentRow}
    (hp : Table.get d.payments pid = some p) :
    CapHolds pid d ↔ Table.total (committedShare pid) d.refunds ≤ p.totalAmount := by
  have h : CapHolds pid d ↔ ¬ exceeds (sumOf d pid committedStatuses none) p.totalAmount := by
    simp [CapHolds, hp, exceeds]
  rw [h, exceeds_iff, sumOf_none, not_lt]

/-! ## What every transition keeps -/

/-- The payment `pid` is there with its total, refund ids are unique and the committed refunds of the
payment are not negative. -/
structure RefundsWf (pid : Uuid) (total : Fils) (d : Db) : Prop where
  payment : ∃ p, Table.get d.payments pid = some p ∧ p.totalAmount = total
  unique : Table.Unique d.refunds
  nonneg : ∀ r ∈ d.refunds, r.paymentId = some pid → 0 ≤ r.refundedAmount

variable {pid : Uuid} {total : Fils} {d d' : Db}

theorem Frame.totalAmount (h : Frame d d') {p : PaymentRow}
    (hp : Table.get d.payments pid = some p) :
    ∃ p', Table.get d'.payments pid = some p' ∧ p'.totalAmount = p.totalAmount := by
  have := h.getPayment pid
  rw [hp] at this
  simp only [Option.map_some, Option.map_eq_some_iff] at this
  obtain ⟨p', hp', heq⟩ := this
  have htotal : (fixedPayment p').totalAmount = (fixedPayment p).totalAmount := by rw [heq]
  exact ⟨p', hp', htotal⟩

theorem RefundsWf.capHolds_iff (h : RefundsWf pid total d) :
    CapHolds pid d ↔ Table.total (committedShare pid) d.refunds ≤ total := by
  obtain ⟨p, hp, rfl⟩ := h.payment
  exact Payment.capHolds_iff hp

theorem RefundsWf.withinCap_iff (h : RefundsWf pid total d) {excludeId : Option Uuid} {net : Fils} :
    WithinCap d pid excludeId net ↔ sumOf d pid committedStatuses excludeId + net ≤ total := by
  obtain ⟨p, hp, rfl⟩ := h.payment
  exact Payment.withinCap_iff hp

theorem RefundsWf.frame (h : RefundsWf pid total d) (hframe : Frame d d')
    (hrows : d'.refunds = d.refunds) : RefundsWf pid total d' := by
  obtain ⟨p, hp, rfl⟩ := h.payment
  exact ⟨hframe.totalAmount hp, hrows ▸ h.unique, hrows ▸ h.nonneg⟩

/-- A refund replaced by one of the same payment: the committed sum is that of the other refunds and
the share of the new row. -/
theorem RefundsWf.replaces (h : RefundsWf pid total d) {k : Uuid} {r' : RefundRow}
    (hframe : Frame d d') (hrep : Table.Replaces d.refunds k r' d'.refunds)
    (hpos : r'.paymentId = some pid → 0 ≤ r'.refundedAmount) :
    RefundsWf pid total d' ∧
      (CapHolds pid d' ↔ sumOf d pid committedStatuses (some k) + committedShare pid r' ≤ total) := by
  obtain ⟨p, hp, rfl⟩ := h.payment
  have hwf : RefundsWf pid p.totalAmount d' := by
    refine ⟨hframe.totalAmount hp, hrep.unique h.unique, fun r hr hpay => ?_⟩
    rcases hrep.mem h.unique hr with rfl | ⟨hr, -⟩
    · exact hpos hpay
    · exact h.nonneg r hr hpay
  refine ⟨hwf, ?_⟩
  rw [hwf.capHolds_iff, hrep.total h.unique, sumOf_some]

/-- A new refund adds its share. -/
theorem RefundsWf.insert (h : RefundsWf pid total d) {r : RefundRow} (hframe : Frame d d')
    (hrows : d'.refunds = d.refunds ++ [r]) (hnew : Table.get d.refunds r.id = none)
    (hpos : r.paymentId = some pid → 0 ≤ r.refundedAmount) :
    RefundsWf pid total d' ∧
      (CapHolds pid d' ↔ sumOf d pid committedStatuses none + committedShare pid r ≤ total) := by
  obtain ⟨p, hp, rfl⟩ := h.payment
  have hwf : RefundsWf pid p.totalAmount d' := by
    refine ⟨hframe.totalAmount hp, hrows ▸ Table.Unique.append h.unique hnew, fun x hx hpay => ?_⟩
    rw [hrows, List.mem_append, List.mem_singleton] at hx
    rcases hx with hx | rfl
    · exact h.nonneg x hx hpay
    · exact hpos hpay
  refine ⟨hwf, ?_⟩
  rw [hwf.capHolds_iff, hrows, Table.total_append, Table.total_singleton, sumOf_none]

/-- A refund whose share does not grow keeps the cap. -/
theorem RefundsWf.shrink (h : RefundsWf pid total d) {k : Uuid} {r r' : RefundRow}
    (hr : Table.get d.refunds k = some r) (hframe : Frame d d')
    (hrep : Table.Replaces d.refunds k r' d'.refunds)
    (hpos : r'.paymentId = some pid → 0 ≤ r'.refundedAmount)
    (hle : committedShare pid r' ≤ committedShare pid r) (hcap : CapHolds pid d) :
    RefundsWf pid total d' ∧ CapHolds pid d' := by
  obtain ⟨hwf, hiff⟩ := h.replaces hframe hrep hpos
  refine ⟨hwf, hiff.mpr ?_⟩
  rw [h.capHolds_iff, Table.total_eq_erase_add h.unique hr, ← sumOf_some] at hcap
  exact le_trans (Int.add_le_add_left hle _) hcap

/-! ## One step -/

/-- A step keeps the well-formedness, and it keeps the cap exactly when it meets `KeepsCap`. -/
def StepOk (pid : Uuid) (total : Fils) (d : Db) (x : LifecycleOp × (ℕ → Env)) (d' : Db) : Prop :=
  RefundsWf pid total d' ∧ (CapHolds pid d → (CapHolds pid d' ↔ KeepsCap pid d x))

theorem stepOk_of_keeps {x : LifecycleOp × (ℕ → Env)}
    (h : RefundsWf pid total d') (hcap : CapHolds pid d → CapHolds pid d')
    (hkeeps : KeepsCap pid d x) : StepOk pid total d x d' :=
  ⟨h, fun hd => ⟨fun _ => hkeeps, fun _ => hcap hd⟩⟩

/-- A run of a transition on a loaded refund. -/
theorem ensures_bind_loadRefund {α : Type} {mid : List Emission → Prop}
    {post : Except Error α → Db → List Emission → Prop} {es : List Emission} {k : Uuid}
    {f : Orm RefundRow → Tx α} (hmid : mid es)
    (hsome : ∀ r, Table.get d.refunds k = some r → Ensures mid post (f (.ofRow r)) d es)
    (hnone : Table.get d.refunds k = none → ∀ e, post (.error e) d es) :
    Ensures mid post (loadRefund k >>= f) d es := by
  unfold loadRefund load
  rw [ensures_bind, ensures_map, ensures_bind_query]
  refine ⟨hmid, ?_⟩
  cases hr : Table.get d.refunds k with
  | none => exact hnone hr _
  | some r => exact hsome r hr

/-- A run of a transition on the payment argument, where it is given. -/
theorem ensures_bind_loadPayment {α : Type} {mid : List Emission → Prop}
    {post : Except Error α → Db → List Emission → Prop} {es : List Emission} {k : Option Uuid}
    {f : Option PaymentRow → Tx α} (hmid : mid es)
    (habsent : k = none → Ensures mid post (f none) d es)
    (hsome : ∀ q p, k = some q → Table.get d.payments q = some p →
      Ensures mid post (f (some p)) d es)
    (hnone : ∀ q, k = some q → Table.get d.payments q = none → ∀ e, post (.error e) d es) :
    Ensures mid post (loadPayment k >>= f) d es := by
  unfold loadPayment load
  cases k with
  | none => exact habsent rfl
  | some q =>
    dsimp only
    rw [ensures_bind, ensures_map, ensures_bind_query]
    refine ⟨hmid, ?_⟩
    cases hp : Table.get d.payments q with
    | none => exact hnone q rfl hp _
    | some p => exact hsome q p rfl hp

/-- A transition that replaces the refund by one of no larger share keeps the cap. -/
theorem stepOk_shrink {x : LifecycleOp × (ℕ → Env)} (h : RefundsWf pid total d) {k : Uuid}
    {r r' : RefundRow} (hr : Table.get d.refunds k = some r) (hframe : Frame d d')
    (hrep : Table.Replaces d.refunds r.id r' d'.refunds) (hpay : r'.paymentId = r.paymentId)
    (hamount : r'.refundedAmount = r.refundedAmount)
    (hstatus : r'.status ∈ committedStatuses → r.status ∈ committedStatuses)
    (hkeeps : KeepsCap pid d x) : StepOk pid total d x d' := by
  obtain ⟨hmem, hid⟩ := Table.get_some hr
  have hkey : r.id = k := hid
  rw [hkey] at hrep
  have hpos : r'.paymentId = some pid → 0 ≤ r'.refundedAmount := by
    intro hp
    rw [hamount]
    exact h.nonneg r hmem (hpay ▸ hp)
  have hle : committedShare pid r' ≤ committedShare pid r := by
    unfold committedShare
    by_cases hc : r'.paymentId = some pid ∧ r'.status ∈ committedStatuses
    · rw [if_pos hc, if_pos ⟨hpay ▸ hc.1, hstatus hc.2⟩, hamount]
    · rw [if_neg hc]
      split_ifs with hc'
      · exact h.nonneg r hmem hc'.1
      · exact le_refl _
  obtain ⟨hwf, -⟩ := h.replaces hframe hrep hpos
  exact stepOk_of_keeps hwf (fun hcap => (h.shrink hr hframe hrep hpos hle hcap).2) hkeeps

/-- A transition that gives the refund the amount `net`: the cap holds afterwards exactly when the
refund's payment has room for it. -/
theorem capHolds_of_amount (h : RefundsWf pid total d) {k : Uuid} {r r' : RefundRow}
    (hr : Table.get d.refunds k = some r) (hframe : Frame d d')
    (hrep : Table.Replaces d.refunds r.id r' d'.refunds) (hpay : r'.paymentId = r.paymentId)
    (hnet : 0 < r'.refundedAmount) (hstatus : r'.status ∈ committedStatuses) :
    RefundsWf pid total d' ∧ (CapHolds pid d → (CapHolds pid d' ↔
      (r.paymentId = some pid → WithinCap d pid (some k) r'.refundedAmount))) := by
  have hkey : r.id = k := (Table.get_some hr).2
  rw [hkey] at hrep
  obtain ⟨hwf, hiff⟩ := h.replaces hframe hrep fun _ => le_of_lt hnet
  refine ⟨hwf, fun hcap => ?_⟩
  rw [hiff, h.withinCap_iff]
  by_cases hp : r.paymentId = some pid
  · have hshare : committedShare pid r' = r'.refundedAmount :=
      if_pos ⟨hpay.trans hp, hstatus⟩
    rw [hshare]
    exact ⟨fun hle _ => hle, fun hle => hle hp⟩
  · have hshare : committedShare pid r' = 0 := if_neg fun hc => hp (hpay ▸ hc.1)
    have hshare' : committedShare pid r = 0 := if_neg fun hc => hp hc.1
    rw [h.capHolds_iff, Table.total_eq_erase_add h.unique hr, ← sumOf_some, hshare'] at hcap
    rw [hshare]
    exact ⟨fun _ hp' => absurd hp' hp, fun _ => hcap⟩

/-- An exception rolls the transaction back. -/
theorem stepOk_self {x : LifecycleOp × (ℕ → Env)} (h : RefundsWf pid total d)
    (hkeeps : CapHolds pid d → KeepsCap pid d x) : StepOk pid total d x d :=
  ⟨h, fun hd => ⟨fun _ => hkeeps hd, fun _ => hd⟩⟩

theorem stepOk_reject (h : RefundsWf pid total d) (env : ℕ → Env) (k : Uuid)
    (reason actorId : Option String) :
    StepOk pid total d (.reject k reason actorId, env)
      (lifecycleStep d (.reject k reason actorId, env)) := by
  have hself : StepOk pid total d (.reject k reason actorId, env) d := stepOk_self h fun _ => trivial
  refine Ensures.atomically ?_ env
  refine ensures_bind_loadRefund trivial (fun r hr => ?_) fun _ _ => hself
  refine (ensures_reject trivial (inStep_ofRow hr)).bind ?_ fun _ _ _ _ => hself
  rintro o d' es' ⟨-, ho⟩
  rcases ho o rfl with ⟨-, rfl, -⟩ | ⟨hreq, hframe, now, rfl, hrep⟩
  · exact hself
  · exact stepOk_shrink h hr hframe hrep rfl rfl (fun hc => nomatch hc) trivial

theorem stepOk_markProcessing (h : RefundsWf pid total d) (env : ℕ → Env) (k : Uuid)
    (providerRefundId : Option String) (gatewayResponse : Option Json) (actorId : Option String) :
    StepOk pid total d (.markProcessing k providerRefundId gatewayResponse actorId, env)
      (lifecycleStep d (.markProcessing k providerRefundId gatewayResponse actorId, env)) := by
  have hself : StepOk pid total d (.markProcessing k providerRefundId gatewayResponse actorId, env)
      d := stepOk_self h fun _ => trivial
  refine Ensures.atomically ?_ env
  refine ensures_bind_loadRefund trivial (fun r hr => ?_) fun _ _ => hself
  refine (ensures_markProcessing trivial (inStep_ofRow hr)).bind ?_
    fun _ _ _ _ => hself
  rintro o d' es' ⟨-, ho⟩
  rcases ho o rfl with ⟨-, rfl, -⟩ | ⟨hreq, hframe, now, rfl, hrep⟩
  · exact hself
  · refine stepOk_shrink h hr hframe hrep rfl rfl (fun _ => ?_) trivial
    rcases hreq with hs | hs <;> rw [Orm.ofRow_row] at hs <;> simp [hs, committedStatuses,
      OPEN_STATUSES]

theorem stepOk_complete (h : RefundsWf pid total d) (env : ℕ → Env) (k : Uuid) (source : String)
    (providerReference : Option String) (gatewayResponse : Option Json) (actorId : Option String)
    (publishEvent : Bool) :
    StepOk pid total d
      (.complete k source providerReference gatewayResponse actorId publishEvent, env)
      (lifecycleStep d
        (.complete k source providerReference gatewayResponse actorId publishEvent, env)) := by
  have hself : StepOk pid total d
      (.complete k source providerReference gatewayResponse actorId publishEvent, env) d :=
    stepOk_self h fun _ => trivial
  refine Ensures.atomically ?_ env
  refine ensures_bind_loadRefund trivial (fun r hr => ?_) fun _ _ => hself
  refine (ensures_complete trivial (fun _ => trivial) (inStep_ofRow hr)).bind ?_
    fun _ _ _ _ => hself
  rintro c d' es' ⟨-, hc⟩
  rcases hc c rfl with ⟨-, rfl, -⟩ | ⟨hopen, hframe, -, now, hrow, hrep⟩
  · exact hself
  · rw [hrow] at hrep
    exact stepOk_shrink h hr hframe hrep rfl rfl (fun _ => List.mem_cons_of_mem _ hopen) trivial

theorem stepOk_fail (h : RefundsWf pid total d) (env : ℕ → Env) (k : Uuid) (reason source : String)
    (providerReference : Option String) (gatewayResponse : Option Json) (actorId : Option String) :
    StepOk pid total d (.fail k reason source providerReference gatewayResponse actorId, env)
      (lifecycleStep d
        (.fail k reason source providerReference gatewayResponse actorId, env)) := by
  have hself : StepOk pid total d
      (.fail k reason source providerReference gatewayResponse actorId, env) d :=
    stepOk_self h fun _ => trivial
  refine Ensures.atomically ?_ env
  refine ensures_bind_loadRefund trivial (fun r hr => ?_) fun _ _ => hself
  refine (ensures_fail trivial (inStep_ofRow hr)).bind ?_ fun _ _ _ _ => hself
  rintro o d' es' ⟨-, ho⟩
  rcases ho o rfl with ⟨-, rfl, -⟩ | ⟨-, hframe, rfl, hrep⟩
  · exact hself
  · exact stepOk_shrink h hr hframe hrep rfl rfl (fun hc => nomatch hc) trivial

theorem stepOk_request (h : RefundsWf pid total d) (env : ℕ → Env) (bookingId : Uuid)
    (paymentId : Option Uuid) (refundAmount cancellationFee : ℚ) (refundType refundMethod : String)
    (reason notes idempotencyKey actorId : Option String) :
    StepOk pid total d (.request bookingId paymentId refundAmount cancellationFee refundType
        refundMethod reason notes idempotencyKey actorId, env)
      (lifecycleStep d (.request bookingId paymentId refundAmount cancellationFee refundType
        refundMethod reason notes idempotencyKey actorId, env)) := by
  have hself : StepOk pid total d (.request bookingId paymentId refundAmount cancellationFee
      refundType refundMethod reason notes idempotencyKey actorId, env) d :=
    stepOk_self h fun _ => trivial
  refine Ensures.atomically ?_ env
  unfold lifecycleCode load
  rw [ensures_bind, ensures_bind_query]
  refine ⟨trivial, ?_⟩
  cases Table.get d.bookings bookingId with
  | none => exact hself
  | some booking =>
    have hrun : ∀ p, (∀ q, p = some q → Table.get d.payments q.id = some q) →
        Ensures (fun _ => True) (OnCommit (StepOk pid total d (.request bookingId paymentId
          refundAmount cancellationFee refundType refundMethod reason notes idempotencyKey actorId,
          env)) d)
          (discard (request booking p refundAmount cancellationFee refundType refundMethod reason
            notes idempotencyKey actorId)) d [] := by
      intro p hp
      refine (ensures_request trivial).bind ?_ fun _ _ _ _ => hself
      rintro ⟨o, created⟩ d' es' ⟨-, ho⟩
      rcases ho o created rfl with
        ⟨rfl, -⟩ | ⟨-, hnet, hcap, hframe, id, number, now, rfl, hrows, hnew, -⟩
      · exact hself
      · obtain ⟨hwf, hiff⟩ := h.insert hframe hrows hnew fun _ => le_of_lt hnet
        refine stepOk_of_keeps hwf (fun hd => hiff.mpr ?_) trivial
        by_cases hpay : p.map (·.id) = some pid
        · obtain ⟨q, rfl, rfl⟩ := Option.map_eq_some_iff.mp hpay
          have hroom := h.withinCap_iff.mp ((Payment.withinCap_iff (hp q rfl)).mpr
            (not_lt.mp fun hlt => hcap q rfl ((exceeds_iff _ _).mpr hlt)))
          refine le_trans (Int.add_le_add_left ?_ _) hroom
          unfold committedShare
          split_ifs
          · exact le_refl _
          · exact le_of_lt hnet
        · have hshare : committedShare pid (requestedRow booking p (dec refundAmount)
              (dec cancellationFee) refundType refundMethod reason notes idempotencyKey actorId id
              number now) = 0 := if_neg fun hc => hpay hc.1
          rw [Orm.ofRow_row, hshare, add_zero, sumOf_none]
          exact h.capHolds_iff.mp hd
    refine ensures_bind_loadPayment trivial (fun _ => hrun none (by simp)) (fun q p _ hp => ?_)
      fun _ _ _ _ => hself
    refine hrun (some p) fun q' hq' => ?_
    cases hq'
    rw [show p.id = q from (Table.get_some hp).2, hp]

theorem fits_approvedColumns (method : RefundMethod) (net : Fils) (notes actorId : Option String)
    (now : Instant) (r : RefundRow) :
    fits (approvedColumns method net notes actorId now r) =
      fits (requestedColumns net r.cancellationFee r) := rfl

theorem stepOk_approve (h : RefundsWf pid total d) (env : ℕ → Env) (k : Uuid)
    (refundMethod : String) (approvedAmount : ℚ) (notes actorId : Option String) :
    StepOk pid total d (.approve k refundMethod approvedAmount notes actorId, env)
      (lifecycleStep d (.approve k refundMethod approvedAmount notes actorId, env)) := by
  have hself : (∀ r, Table.get d.refunds k = some r → r.status = .requested →
      0 < dec approvedAmount → RefundMethod.normalise refundMethod = .loyaltyPoints →
      ¬ fits (requestedColumns (dec approvedAmount) r.cancellationFee r)) →
      StepOk pid total d (.approve k refundMethod approvedAmount notes actorId, env) d := by
    refine fun hno => stepOk_self h fun _ hloyal ⟨r, hr, _, hreq, hnet, hfits⟩ => ?_
    exact absurd hfits (hno r hr hreq hnet hloyal)
  refine Ensures.atomically ?_ env
  refine ensures_bind_loadRefund trivial (fun r hr => ?_) fun hnone _ => hself (by simp [hnone])
  refine (ensures_approve trivial (agrees_empty d) (inStep_ofRow hr)).bind ?_ ?_
  · rintro o d' es' ⟨-, ho⟩
    rcases ho with ⟨happ, -, rfl⟩ | ⟨hreq, hnet, hcap, hframe, now, rfl, hfits, hrep⟩
    · refine hself fun r' hr' hreq => ?_
      rw [hr] at hr'
      cases hr'
      rw [Orm.ofRow_row, hreq] at happ
      nomatch happ
    · obtain ⟨hwf, hiff⟩ := capHolds_of_amount h hr hframe hrep rfl hnet (by
        simp [approvedColumns, stamp, committedStatuses, OPEN_STATUSES])
      refine ⟨hwf, fun hd => (hiff hd).trans ⟨fun hroom _ hadj => ?_, fun hkeeps hp => ?_⟩⟩
      · obtain ⟨r', hr', hp, -⟩ := hadj
        rw [hr] at hr'
        cases hr'
        exact hroom hp
      · by_cases hloyal : RefundMethod.normalise refundMethod = .loyaltyPoints
        · refine hkeeps hloyal ⟨r, hr, hp, hreq, hnet, ?_⟩
          rw [← fits_approvedColumns]
          exact hfits
        · have hid : r.id = k := (Table.get_some hr).2
          have := hcap hloyal pid hp
          rwa [Orm.ofRow_row, hid] at this
  · rintro e d' es' ⟨-, -, hno⟩
    refine hself fun r' hr' hreq hnet hloyal => ?_
    rw [hr] at hr'
    cases hr'
    obtain ⟨now, hfits⟩ := hno hreq hnet fun hne => absurd hloyal hne
    rwa [← fits_approvedColumns]

theorem stepOk_updateRequestedAmounts (h : RefundsWf pid total d) (env : ℕ → Env) (k : Uuid)
    (paymentId : Option Uuid) (refundAmount cancellationFee : ℚ) :
    StepOk pid total d (.updateRequestedAmounts k paymentId refundAmount cancellationFee, env)
      (lifecycleStep d
        (.updateRequestedAmounts k paymentId refundAmount cancellationFee, env)) := by
  -- a step that changes nothing, because a guard of an adjustable refund has failed
  have hself : (∀ r, Table.get d.refunds k = some r → r.status = .requested → 0 < dec refundAmount →
      fits (requestedColumns (dec refundAmount) (dec cancellationFee) r) → paymentId ≠ some pid →
      ∃ q, paymentId = some q ∧ (Table.get d.payments q = none ∨
        ¬ WithinCap d q (some k) (dec refundAmount))) →
      StepOk pid total d (.updateRequestedAmounts k paymentId refundAmount cancellationFee, env)
        d := by
    refine fun hno => stepOk_self h fun _ hne hgiven ⟨r, hr, _, hreq, hnet, hfits⟩ => ?_
    obtain ⟨q, hq, hbad⟩ := hno r hr hreq hnet hfits hne
    rcases hbad with hbad | hbad
    · exact absurd hbad (hgiven q hq).1
    · exact absurd (hgiven q hq).2 hbad
  refine Ensures.atomically ?_ env
  refine ensures_bind_loadRefund trivial (fun r hr => ?_) fun hnone _ => hself (by simp [hnone])
  have hrun : ∀ p : Option PaymentRow, p.map (·.id) = paymentId →
      (∀ q, p = some q → Table.get d.payments q.id = some q) →
      Ensures (fun _ => True) (OnCommit (StepOk pid total d (.updateRequestedAmounts k paymentId
        refundAmount cancellationFee, env)) d)
        (do
          let refund ← updateRequestedAmounts (.ofRow r) p refundAmount cancellationFee
          discard (flushRefund refund)) d [] := by
    rintro p rfl hp
    refine (ensures_updateRequestedAmounts trivial).bind ?_ ?_
    · rintro o d es ⟨rfl, rfl, hok, ho⟩
      obtain rfl := ho o rfl
      simp only [reduceCtorEq, exists_false, false_iff, not_or, not_not, not_le] at hok
      obtain ⟨hreq, hnet, hcap⟩ := hok
      have hs := (inStep_ofRow hr).set
        (f := requestedColumns (dec refundAmount) (dec cancellationFee)) fun _ => rfl
      refine (ensures_flushRefund trivial hs).bind ?_ ?_
      · rintro o d' es' ⟨rfl, rfl, hframe, -, -, hrep, hfits⟩
        have hcommitted : (requestedColumns (dec refundAmount) (dec cancellationFee) r).status ∈
            committedStatuses := by
          have : r.status = .requested := hreq
          simp [requestedColumns, this, committedStatuses, OPEN_STATUSES]
        obtain ⟨hwf, hiff⟩ := capHolds_of_amount h hr hframe hrep rfl hnet hcommitted
        have hid : r.id = k := (Table.get_some hr).2
        have hroom : ∀ q, p = some q → WithinCap d q.id (some k) (dec refundAmount) := by
          intro q hq
          rw [withinCap_iff (hp q hq), ← not_lt, ← exceeds_iff, ← hid]
          exact fun hex => hcap ⟨q, hq, hex⟩
        refine ⟨hwf, fun hd => (hiff hd).trans ⟨fun hle _ _ hadj => ?_, fun hkeeps hpay => ?_⟩⟩
        · obtain ⟨r', hr', hpay, -⟩ := hadj
          rw [hr] at hr'
          cases hr'
          exact hle hpay
        · by_cases hown : p.map (·.id) = some pid
          · obtain ⟨q, rfl, rfl⟩ := Option.map_eq_some_iff.mp hown
            exact hroom q rfl
          · refine hkeeps hown (fun i hi => ?_) ⟨r, hr, hpay, hreq, hnet, hfits⟩
            obtain ⟨q, rfl, rfl⟩ := Option.map_eq_some_iff.mp hi
            exact ⟨by simp [hp q rfl], hroom q rfl⟩
      · rintro e d' es' ⟨-, hno⟩
        refine hself fun r' hr' _ _ hfits => ?_
        rw [hr] at hr'
        cases hr'
        exact absurd hfits hno
    · rintro e d es ⟨rfl, rfl, herr, -⟩
      refine hself fun r' hr' hreq hnet _ _ => ?_
      rw [hr] at hr'
      cases hr'
      rcases herr.mp ⟨e, rfl⟩ with hst | hle | ⟨q, hq, hex⟩
      · exact absurd hreq hst
      · exact absurd hle (not_le.mpr hnet)
      · refine ⟨q.id, by simp [hq], .inr ?_⟩
        rw [withinCap_iff (hp q hq), not_le, ← exceeds_iff]
        rwa [Orm.ofRow_row, show r.id = k from (Table.get_some hr).2] at hex
  refine ensures_bind_loadPayment trivial (fun hk => hrun none hk.symm (by simp))
    (fun q p hk hp => ?_) (fun q hk hq _ => hself fun _ _ _ _ _ _ => ⟨q, hk, .inl hq⟩)
  have hid : p.id = q := (Table.get_some hp).2
  refine hrun (some p) (by rw [hk, ← hid]; rfl) fun q' hq' => ?_
  cases hq'
  rw [hid, hp]

/-- One step lemma for every transition. -/
theorem stepOk (h : RefundsWf pid total d) (x : LifecycleOp × (ℕ → Env)) :
    StepOk pid total d x (lifecycleStep d x) := by
  obtain ⟨op, env⟩ := x
  cases op with
  | request => exact stepOk_request h env ..
  | updateRequestedAmounts => exact stepOk_updateRequestedAmounts h env ..
  | reject => exact stepOk_reject h env ..
  | approve => exact stepOk_approve h env ..
  | markProcessing => exact stepOk_markProcessing h env ..
  | complete => exact stepOk_complete h env ..
  | fail => exact stepOk_fail h env ..

/-! ## Runs -/

def payment10 : PaymentRow :=
  { id := 1, bookingId := some 7, totalAmount := 10000, status := some .success }

/-- A cancelled booking, paid with 10.000. -/
def paidBooking : Db where
  payments := [payment10]
  bookings := [
    { id := 7
      customerId := 3
      therapistId := 4
      appointmentStart := 0
      appointmentEnd := 0
      totalAmount := 10000
      status := .cancelled
      paymentStatus := .success }]

def answers : ℕ → Env := fun _ => { uuid := 21 }

/-- The refund of the whole amount is requested and approved in cash. -/
def refundInCash : List (LifecycleOp × (ℕ → Env)) :=
  [(.request 7 (some 1) 10 0 "manual" "other" none none none none, answers),
    (.approve 21 "cash" 10 none none, answers),
    (.complete 21 "ushdesk_manual_refund" none none none false, answers)]

/-- The refund of 10.000 is approved as 100 loyalty points. -/
def refundAsPoints : List (LifecycleOp × (ℕ → Env)) :=
  [(.request 7 (some 1) 10 0 "manual" "other" none none none none, answers),
    (.approve 21 "loyalty_points" 100 none none, answers)]

end Payment
