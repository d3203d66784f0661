import UshBookNPay.Payment.GatewayReports

/-!
# Gateway payloads told as they report

The status of a parsed payload, read off the three things the parser looks at, beside what the payload
reports.
-/

namespace Payment

/-! ## The status, case by case -/

section

variable {isPaidFlag : Bool} {invoiceStatus txnStatus : String}

theorem responseStatus_success_iff :
    responseStatus isPaidFlag invoiceStatus txnStatus = .success ↔
      isPaidFlag ∨ invoiceStatus ∈ PAID_STATUSES ∨ Text.isIn "succ" txnStatus := by
  have hpaid : invoiceStatus ∈ PAID_STATUSES ↔
      invoiceStatus = "paid" ∨ invoiceStatus ∈ ["success", "captured"] := by
    simp [PAID_STATUSES]
  unfold responseStatus
  rw [hpaid]
  constructor
  · intro h
    split_ifs at h with hsuccess hfailed hcancelled hpending hflag
    · rcases hsuccess with h | h | h | h
      exacts [.inl h, .inr (.inl (.inl h)), .inr (.inr h), .inr (.inl (.inr h))]
    · exact absurd (.inl hflag) hsuccess
  · intro h
    rw [if_pos]
    rcases h with h | (h | h) | h
    exacts [.inl h, .inr (.inl h), .inr (.inr (.inr h)), .inr (.inr (.inl h))]

/-- What is told as cancelled rather than as failed or pending. -/
theorem responseStatus_cancelled_iff
    (h : responseStatus isPaidFlag invoiceStatus txnStatus ≠ .success) :
    (responseStatus isPaidFlag invoiceStatus txnStatus ≠ .failed ∧
      responseStatus isPaidFlag invoiceStatus txnStatus ≠ .pending) ↔
      invoiceStatus ∈ ["cancelled", "canceled"] ∧ ¬Text.isIn "fail" txnStatus := by
  have hnoflag : ¬isPaidFlag := fun hflag => h (responseStatus_success_iff.mpr (.inl hflag))
  unfold responseStatus at h ⊢
  split_ifs at h ⊢ with hsuccess hfailed hcancelled hpending
  · exact absurd rfl h
  · -- failed
    refine ⟨fun hne => absurd rfl hne.1, ?_⟩
    rintro ⟨hcancelled, hnofail⟩
    rcases hfailed with hfailed | hfailed
    · simp only [List.mem_cons, List.not_mem_nil, or_false] at hfailed hcancelled
      rcases hfailed with rfl | rfl
      all_goals simp at hcancelled
    · exact absurd hfailed hnofail
  · -- cancelled
    refine ⟨fun _ => ⟨hcancelled, fun hfail => hfailed (.inr hfail)⟩, fun _ => ⟨by decide, by decide⟩⟩
  · exact ⟨fun hne => absurd rfl hne.2, fun hc => absurd hc.1 hcancelled⟩
  · exact ⟨fun hne => absurd rfl hne.2, fun hc => absurd hc.1 hcancelled⟩

end

/-- What a parsed payload is told as depends on the three readings alone. -/
theorem parseGatewayResponse_status_eq {payload : Json} {r : GatewayResponse}
    (h : parseGatewayResponse payload = some r) :
    r.status =
      responseStatus (isPaidFlag payload) (invoiceStatus payload) (firstStatus payload) := by
  cases payload with
  | obj fields =>
    simp only [parseGatewayResponse, Option.some.injEq] at h
    rw [← h]
    unfold firstStatus invoiceTransactions responseData
    generalize firstTrue [(asDict (firstTrue [(Json.obj fields).field? "data",
        (Json.obj fields).field? "Data"])).field? "InvoiceTransactions",
      (asDict (firstTrue [(Json.obj fields).field? "data",
        (Json.obj fields).field? "Data"])).field? "invoice_transactions"] = txns
    cases txns with
    | none => rfl
    | some txns =>
      cases txns with
      | arr txns =>
        cases txns with
        | nil => rfl
        | cons txn txns => rfl
      | null | bool | num | str | obj => rfl
  | null | bool | num | str | arr => cases h

/-- What is not a dict is read as an empty one. -/
theorem readings_of_none {payload : Json} (h : parseGatewayResponse payload = none) :
    invoiceStatus payload = "" ∧ invoiceTransactions payload = [] ∧ isPaidFlag payload = false ∧
      firstStatus payload = "" := by
  cases payload with
  | obj fields => cases h
  | null | bool | num | str | arr => exact ⟨rfl, rfl, rfl, rfl⟩

/-- The payloads that are told as they report. -/
theorem told_right_iff (payload : Json) : ToldRight payload ↔ ReadAsReported payload := by
  unfold ToldRight ReadAsReported
  cases hparse : parseGatewayResponse payload with
  | none =>
    obtain ⟨hinvoice, htxns, hflag, hfirst⟩ := readings_of_none hparse
    rw [hinvoice, htxns, hflag, hfirst]
    simp only [reduceCtorEq, false_imp_iff, implies_true, true_iff]
    exact .inr (by decide)
  | some r =>
    have hstatus := parseGatewayResponse_status_eq hparse
    have hsuccess : r.status = .success ↔ isPaidFlag payload ∨
        invoiceStatus payload ∈ PAID_STATUSES ∨ Text.isIn "succ" (firstStatus payload) := by
      rw [hstatus]
      exact responseStatus_success_iff
    have hcancelled : r.status ≠ .success → ((r.status ≠ .failed ∧ r.status ≠ .pending) ↔
        invoiceStatus payload ∈ ["cancelled", "canceled"] ∧
          ¬Text.isIn "fail" (firstStatus payload)) := by
      rw [hstatus]
      exact responseStatus_cancelled_iff
    have hone : (∀ r', some r = some r' → (r'.status = .success → ReportsPaid payload) ∧
        (ReportsPaid payload → r'.status ≠ .failed ∧ r'.status ≠ .pending)) ↔
        (r.status = .success → ReportsPaid payload) ∧
          (ReportsPaid payload → r.status ≠ .failed ∧ r.status ≠ .pending) := by
      constructor
      · intro h
        exact h r rfl
      · rintro h _ ⟨⟩
        exact h
    rw [hone]
    have hkept : r.status = .success → r.status ≠ .failed ∧ r.status ≠ .pending := by
      intro h
      rw [h]
      decide
    by_cases hinvoice : invoiceStatus payload ∈ PAID_STATUSES
    · -- the status alone reports the payment, and is told
      have hpaid : ReportsPaid payload := .inl hinvoice
      have hs : r.status = .success := hsuccess.mpr (.inr (.inl hinvoice))
      exact ⟨fun _ => .inl hinvoice, fun _ => ⟨fun _ => hpaid, fun _ => hkept hs⟩⟩
    by_cases htxn : ∃ txn ∈ invoiceTransactions payload, Successful txn
    · -- a transaction reports it
      have hpaid : ReportsPaid payload := .inr htxn
      simp only [if_pos htxn, hinvoice, false_or]
      constructor
      · rintro ⟨-, hnot⟩
        by_cases hs : r.status = .success
        · exact (hsuccess.mp hs).imp id fun h => .inl (h.resolve_left hinvoice)
        · exact .inr (.inr ((hcancelled hs).mp (hnot hpaid)))
      · intro h
        refine ⟨fun _ => hpaid, fun _ => ?_⟩
        by_cases hs : r.status = .success
        · exact hkept hs
        rcases h with hflag | hsucc | hcan
        · exact absurd (hsuccess.mpr (.inl hflag)) hs
        · exact absurd (hsuccess.mpr (.inr (.inr hsucc))) hs
        · exact (hcancelled hs).mpr hcan
    · -- nothing reports it
      have hunpaid : ¬ReportsPaid payload := fun h => h.elim hinvoice htxn
      simp only [if_neg htxn, hinvoice, false_or]
      constructor
      · rintro ⟨honly, -⟩
        exact ⟨fun hflag => hunpaid (honly (hsuccess.mpr (.inl hflag))),
          fun hsucc => hunpaid (honly (hsuccess.mpr (.inr (.inr hsucc))))⟩
      · rintro ⟨hflag, hsucc⟩
        refine ⟨fun hs => ?_, fun h => absurd h hunpaid⟩
        rcases hsuccess.mp hs with h | h | h
        exacts [absurd h hflag, absurd h hinvoice, absurd h hsucc]

/-! ## Payloads told otherwise -/

/-- The answer of the gateway to a lookup of an invoice nobody has paid. -/
def pendingLookup : Json :=
  .obj [("IsSuccess", .bool true), ("Data", .obj [("InvoiceStatus", .str "Pending")])]

/-- An invoice paid at the second attempt. -/
def paidAtSecond : Json :=
  .obj [("Data", .obj [("InvoiceStatus", .str "Pending"), ("InvoiceTransactions",
    .arr [.obj [("TransactionStatus", .str "Failed")],
      .obj [("TransactionStatus", .str "Succss")]])])]

/-- A success that is none, and a payment that is told as failed. -/
theorem told_otherwise : ¬ToldRight pendingLookup ∧ ¬ToldRight paidAtSecond := by
  have hunpaid : ¬ReportsPaid pendingLookup := by decide
  have hpaid : ReportsPaid paidAtSecond := by decide
  constructor
  · intro h
    exact hunpaid ((h _ rfl).1 rfl)
  · intro h
    exact ((h _ rfl).2 hpaid).1 rfl

end Payment
