import UshBookNPay.PaymentLinks.Proofs.DeemaRefundProofs

/-!
# Refunds marked as the provider says

In a run of deliveries to the endpoint of Deema a refund in processing follows the provider exactly
as long as each delivery about it does to it what the provider says.
-/

open Transactions (Ledger)

namespace PaymentLinks.Deema

open Payment (fits UniqueIds)

variable {e : Endpoint} {s : Ledger Db Emission} {x : Delivery} {r : RefundRow}

/-! ## What was delivered -/

theorem not_failed_of_final {status : String} (h : status ∈ PROVIDER_FINAL_REFUND_STATUSES) :
    status ∉ REFUND_FAIL_STATUSES := by
  revert status
  decide

/-- One more webhook: about the refund it decides what is due, unless it is neither final nor a
failure. -/
theorem due_append {gatewayRefundId : Option String} {ws : List RefundWebhook} {w : RefundWebhook} :
    Due gatewayRefundId (ws ++ [w]) ↔
      if w.IsAbout gatewayRefundId then
        w.status ∈ PROVIDER_FINAL_REFUND_STATUSES ∨
          (w.status ∉ REFUND_FAIL_STATUSES ∧ Due gatewayRefundId ws)
      else Due gatewayRefundId ws := by
  constructor
  · rintro ⟨earlier, u, later, heq, habout, hfinal, hlater⟩
    rcases List.eq_nil_or_concat later with rfl | ⟨later, w', rfl⟩
    · obtain ⟨-, hu⟩ := List.append_inj' heq rfl
      cases hu
      rw [if_pos habout]
      exact .inl hfinal
    · rw [List.concat_eq_append] at heq hlater
      rw [← List.cons_append, ← List.append_assoc] at heq
      obtain ⟨rfl, hw⟩ := List.append_inj' heq rfl
      cases hw
      have hdue : Due gatewayRefundId (earlier ++ u :: later) :=
        ⟨earlier, u, later, rfl, habout, hfinal, fun w' hw' =>
          hlater w' (List.mem_append_left _ hw')⟩
      split_ifs with hw
      · exact .inr ⟨hlater w (by simp) hw, hdue⟩
      · exact hdue
  · intro h
    have hkept : Due gatewayRefundId ws →
        (w.IsAbout gatewayRefundId → w.status ∉ REFUND_FAIL_STATUSES) →
        Due gatewayRefundId (ws ++ [w]) := by
      rintro ⟨earlier, u, later, rfl, habout, hfinal, hlater⟩ hw
      refine ⟨earlier, u, later ++ [w], by simp, habout, hfinal, fun w' hw' => ?_⟩
      rcases List.mem_append.mp hw' with hmem | hmem
      · exact hlater w' hmem
      · rw [List.mem_singleton.mp hmem]
        exact hw
    split_ifs at h with hw
    · rcases h with hfinal | ⟨hnot, hdue⟩
      · exact ⟨ws, w, [], rfl, hw, hfinal, by simp⟩
      · exact hkept hdue fun _ => hnot
    · exact hkept h fun habout => absurd habout hw

theorem not_due_nil {gatewayRefundId : Option String} : ¬ Due gatewayRefundId [] := by
  rintro ⟨earlier, w, later, heq, -⟩
  simp at heq

theorem delivered_accepted {xs : List Delivery} (h : e.Accepts x) :
    e.delivered (xs ++ [x]) = e.delivered xs ++ [x.1] := by
  simp [Endpoint.delivered, h]

theorem delivered_turned_away {xs : List Delivery} (h : ¬ e.Accepts x) :
    e.delivered (xs ++ [x]) = e.delivered xs := by
  simp [Endpoint.delivered, h]

/-! ## One delivery -/

theorem statusTold_completed_iff {d : Db} {w : RefundWebhook} :
    e.statusTold d w r = .completed ↔
      (w.status ∈ REFUND_OK_STATUSES ∧ e.Finds d w r ∧ fits r) ∨
        (r.status = .completed ∧
          ¬ (w.status ∈ REFUND_FAIL_STATUSES ∧ e.Finds d w r ∧ e.FitsReverted d w r)) := by
  unfold Endpoint.statusTold
  split_ifs with hfinds hok hfail
  · exact iff_of_true rfl (.inl ⟨hok.1, hfinds, hok.2⟩)
  · refine iff_of_false (by decide) ?_
    rintro (⟨hok', -, hfits⟩ | ⟨-, hnot⟩)
    · exact hok ⟨hok', hfits⟩
    · exact hnot ⟨hfail.1, hfinds, hfail.2⟩
  · constructor
    · intro h
      exact .inr ⟨h, fun hf => hfail ⟨hf.1, hf.2.2⟩⟩
    · rintro (⟨hok', -, hfits⟩ | ⟨h, -⟩)
      · exact absurd ⟨hok', hfits⟩ hok
      · exact h
  · constructor
    · intro h
      exact .inr ⟨h, fun hf => hfinds hf.2.1⟩
    · rintro (⟨-, hf, -⟩ | ⟨h, -⟩)
      · exact absurd hf hfinds
      · exact h

/-- What an accepted webhook about the refund does to it is what the provider says, exactly under
the condition. -/
theorem keepsAsTold_iff (hr : Table.get s.db.refunds r.id = some r) (h : e.Accepts x)
    (habout : x.1.IsAbout r.gatewayRefundId) :
    (e.statusTold s.db x.1 r = .completed ↔
        x.1.status ∈ PROVIDER_FINAL_REFUND_STATUSES ∨
          (x.1.status ∉ REFUND_FAIL_STATUSES ∧ r.status = .completed)) ↔
      e.KeepsAsTold r.id s x := by
  unfold Endpoint.KeepsAsTold
  rw [hr, statusTold_completed_iff]
  simp only [Option.mem_some_iff, forall_eq', h, habout, forall_const]
  by_cases hfailed : x.1.status ∈ REFUND_FAIL_STATUSES
  · -- a failure takes a completed refund back
    have hok : x.1.status ∉ REFUND_OK_STATUSES := fun hok => not_failed_of_ok hok hfailed
    have hnot : x.1.status ∉ PROVIDER_FINAL_REFUND_STATUSES := fun hfinal =>
      not_failed_of_final hfinal hfailed
    simp only [hok, hnot, hfailed, false_and, true_and, false_or, not_true_eq_false, iff_false,
      forall_const, false_imp_iff, and_true]
    rw [not_and, not_not]
  by_cases hfinal : x.1.status ∈ PROVIDER_FINAL_REFUND_STATUSES
  · -- a final success leaves it completed
    simp only [hfailed, hfinal, false_and, not_false_eq_true, and_true, true_or, iff_true,
      forall_const, false_imp_iff, not_true_eq_false, imp_true_iff]
    exact or_comm
  · -- else a completion has been before
    simp only [hfailed, hfinal, false_and, not_false_eq_true, and_true, true_and, false_or,
      forall_const, false_imp_iff]
    constructor
    · intro h hok
      by_contra hno
      rw [not_or, not_not] at hno
      exact hno.1 (h.mp (.inl ⟨hok, hno.2⟩))
    · intro h
      refine ⟨fun hdone => ?_, .inr⟩
      rcases hdone with ⟨hok, hmarked⟩ | hdone
      · exact (h hok).resolve_right (not_not.mpr hmarked)
      · exact hdone

/-- The refund as it was, but for its status, which is the one of the provider so far. -/
structure Follows (e : Endpoint) (r : RefundRow) (x : Ledger Db Emission × List Delivery) :
    Prop where
  unique : UniqueIds x.1.db
  refund : ∃ status, Table.get x.1.db.refunds r.id = some (setRefundStatus status r) ∧
    (status = .completed ↔ Due r.gatewayRefundId (e.delivered x.2))

theorem Follows.asDelivered {t : Ledger Db Emission × List Delivery} (h : Follows e r t) :
    e.AsDelivered r t := by
  obtain ⟨status, hget, hdue⟩ := h.refund
  unfold Endpoint.AsDelivered
  rw [← hdue]
  constructor
  · rintro ⟨r', hr', hdone⟩
    rw [hget] at hr'
    cases hr'
    exact hdone
  · intro hdone
    exact ⟨_, hget, hdone⟩

/-- One delivery keeps to the provider exactly under the condition. -/
theorem Follows.step_iff {t : Ledger Db Emission × List Delivery} (h : Follows e r t) :
    (e.KeepsAsTold r.id t.1 x → Follows e r (Runs.recorded e.deliver t x)) ∧
      (e.AsDelivered r (Runs.recorded e.deliver t x) → e.KeepsAsTold r.id t.1 x) := by
  obtain ⟨s, taken⟩ := t
  obtain ⟨hids, status, hget, hdue⟩ := h
  dsimp only at hids hget hdue
  have hids' : UniqueIds (e.deliver s x).db := deliver_unique hids
  by_cases haccepted : e.Accepts x
  swap
  · refine ⟨fun _ => ⟨hids', status, ?_, ?_⟩, fun _ => ?_⟩
    · show Table.get (e.deliver s x).db.refunds r.id = _
      rw [deliver_turned_away haccepted]
      exact hget
    · show _ ↔ Due _ (e.delivered (taken ++ [x]))
      rw [delivered_turned_away haccepted]
      exact hdue
    · exact fun _ _ h => absurd h haccepted
  have htold := deliver_tells hids haccepted hget
  have hdelivered : e.delivered (taken ++ [x]) = e.delivered taken ++ [x.1] :=
    delivered_accepted haccepted
  have hexact : (e.statusTold s.db x.1 (setRefundStatus status r) = .completed ↔
      Due r.gatewayRefundId (e.delivered (taken ++ [x]))) ↔ e.KeepsAsTold r.id s x := by
    rw [hdelivered, due_append]
    by_cases habout : x.1.IsAbout r.gatewayRefundId
    · rw [if_pos habout, ← hdue]
      exact keepsAsTold_iff hget haccepted habout
    · have hnot : ¬ e.Finds s.db x.1 (setRefundStatus status r) := fun hf =>
        habout (isAbout_of_finds (r := setRefundStatus status r) hf.2)
      rw [if_neg habout, Endpoint.statusTold, if_neg hnot]
      refine iff_of_true hdue fun q hq _ hq' => absurd ?_ habout
      rw [hget] at hq
      cases hq
      exact hq'
  constructor
  · intro hkeeps
    exact ⟨hids', _, htold, hexact.mpr hkeeps⟩
  · intro hdone
    refine hexact.mp (Iff.trans ?_ hdone)
    constructor
    · intro h
      exact ⟨_, htold, h⟩
    · rintro ⟨r', hr', h⟩
      have hr'' : Table.get (e.deliver s x).db.refunds r.id = some r' := hr'
      rw [htold] at hr''
      cases hr''
      exact h

/-- A delivery that keeps to the provider marks the refund for a final success only. -/
theorem marksFinal_of_keeps {k : Uuid} (hids : UniqueIds s.db) (h : e.KeepsAsTold k s x) :
    e.MarksFinal k s x := by
  intro r r' hr hopen hr' hdone
  have haccepted : e.Accepts x := by
    by_contra hno
    rw [deliver_turned_away hno, hr] at hr'
    cases hr'
    exact hopen hdone
  rw [deliver_tells hids haccepted hr] at hr'
  cases hr'
  rcases statusTold_completed_iff.mp hdone with ⟨hok, hfinds, hfits⟩ | ⟨hcompleted, -⟩
  · have habout := isAbout_of_finds hfinds.2
    refine ⟨haccepted, habout, ?_⟩
    by_contra hnot
    rcases (h r hr haccepted habout).2.2 hok hnot with hcompleted | hno
    · exact hopen hcompleted
    · exact hno ⟨hfinds, hfits⟩
  · exact absurd hcompleted hopen

/-! ## Runs -/

/-- In a run of deliveries a refund in processing is marked for final successes only, and is
completed if and only if a final success was delivered and no failure after it, exactly where every
delivery does to it what the provider says. -/
theorem refund_follows_provider_iff (e : Endpoint) {s : Ledger Db Emission} {r : RefundRow}
    (hunique : Table.Unique s.db.refunds) (hpayments : Table.Unique s.db.payments)
    (hr : Table.get s.db.refunds r.id = some r) (hprocessing : r.status = .processing)
    (xs : List Delivery) :
    (Runs.AllSteps e.deliver (e.MarksFinal r.id) s xs ∧
        Runs.Always (Runs.recorded e.deliver) (e.AsDelivered r) (s, []) xs) ↔
      Runs.AllSteps e.deliver (e.KeepsAsTold r.id) s xs := by
  have hstart : Follows e r (s, []) := by
    refine ⟨⟨hunique, hpayments⟩, r.status, hr, iff_of_false ?_ not_due_nil⟩
    rw [hprocessing]
    decide
  have hruns : Runs.Always (Runs.recorded e.deliver) (e.AsDelivered r) (s, []) xs ↔
      Runs.AllSteps e.deliver (e.KeepsAsTold r.id) s xs := by
    rw [← Runs.allSteps_recorded]
    exact Runs.always_iff_of_invariant (fun _ h => h.asDelivered)
      (fun _ _ h => h.step_iff.1) (fun _ _ h => h.step_iff.2) hstart
  rw [hruns]
  refine and_iff_right_of_imp fun hkeeps => ?_
  refine Runs.allSteps_of_allSteps (I := fun s => UniqueIds s.db) ?_ ⟨hunique, hpayments⟩ hkeeps
  exact fun s x hids hx => ⟨deliver_unique hids, marksFinal_of_keeps hids hx⟩

/-! ## Webhooks about one refund -/

def refundFields (status : String) : List (String × Json) :=
  [("object", .str "refund"), ("id", .str "re_1"), ("status", .str status),
    ("charge_id", .str "900")]

def refundBody (status : String) : String :=
  "\x7b\"object\":\"refund\",\"id\":\"re_1\",\"status\":\"" ++ status ++
    "\",\"charge_id\":\"900\"\x7d"

/-- The signature of a refund event, under the secret key "k" put before the signed string. -/
def signedHeaders (status : String) : List (String × String) :=
  [("hashstring", "k" ++ (buildSignatureString (.obj (refundFields status)) true).getD "")]

def production : Endpoint := { mac := (· ++ ·), secret := "k", settings := {} }

def initiated : RefundWebhook where
  headers := signedHeaders "INITIATED"
  rawBody := refundBody "INITIATED"
  fields := refundFields "INITIATED"
  loads := by decide +kernel
  isRefund := by decide +kernel

def succeeded : RefundWebhook where
  headers := signedHeaders "SUCCEEDED"
  rawBody := refundBody "SUCCEEDED"
  fields := refundFields "SUCCEEDED"
  loads := by decide +kernel
  isRefund := by decide +kernel

def failed : RefundWebhook where
  headers := signedHeaders "FAILED"
  rawBody := refundBody "FAILED"
  fields := refundFields "FAILED"
  loads := by decide +kernel
  isRefund := by decide +kernel

/-- The provider has accepted a refund of 4 of a payment of 10. -/
def inProcessing : RefundRow where
  id := 21
  refundNumber := "REF-1"
  bookingId := some 7
  paymentId := some 1
  refundMethod := "deema"
  status := .processing
  requestedAmount := 4000
  refundedAmount := 4000
  gatewayRefundId := some "re_1"

def beforeNotices : Ledger Db Emission where
  db := { paidThrough "Deema" with refunds := [inProcessing] }

/-- The refund succeeds at the provider, and fails after all. -/
def takenBack : List Delivery := [(succeeded, Payment.answers), (failed, Payment.answers)]

theorem refund_follows_provider_back :
    Runs.AllSteps production.deliver (production.MarksFinal 21) beforeNotices takenBack ∧
      Runs.Always (Runs.recorded production.deliver) (production.AsDelivered inProcessing)
        (beforeNotices, []) takenBack :=
  (refund_follows_provider_iff production (s := beforeNotices) (r := inProcessing)
    (by simp [Table.Unique, beforeNotices]) (by simp [Table.Unique, beforeNotices, paidThrough])
    (by decide) rfl takenBack).mpr (by decide +kernel)

/-- A refund the provider has only initiated is marked as completed. -/
theorem initiated_refund_completed :
    ¬ production.MarksFinal 21 beforeNotices (initiated, Payment.answers) ∧
      ¬ Runs.Always (Runs.recorded production.deliver) (production.AsDelivered inProcessing)
        (beforeNotices, []) [(initiated, Payment.answers)] := by
  have hmarked : ∃ r' ∈ Table.get
      (production.deliver beforeNotices (initiated, Payment.answers)).db.refunds 21,
      r'.status = .completed := by decide +kernel
  have hstatus : initiated.status ∉ PROVIDER_FINAL_REFUND_STATUSES := by decide +kernel
  obtain ⟨r', hr', hdone⟩ := hmarked
  constructor
  · intro h
    exact hstatus (h inProcessing r' rfl (by decide) hr' hdone).2.2
  · rintro ⟨-, h⟩
    obtain ⟨earlier, w, later, hall, -, hfinal, -⟩ := h.mp ⟨r', hr', hdone⟩
    have hmem : w ∈ production.delivered [(initiated, Payment.answers)] := by
      have hdelivered : production.delivered [(initiated, Payment.answers)] =
          earlier ++ w :: later := hall
      rw [hdelivered]
      simp
    obtain ⟨x, hx, rfl⟩ := List.mem_map.mp hmem
    rw [List.mem_singleton.mp (List.mem_filter.mp hx).1] at hfinal
    exact hstatus hfinal

end PaymentLinks.Deema
