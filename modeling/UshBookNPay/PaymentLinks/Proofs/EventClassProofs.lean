import UshBookNPay.PaymentLinks.MyFatoorahWebhook
import UshBookNPay.Common.Proofs.JsonProofs
import UshBookNPay.Lib.Fallible

/-!
# The class of a MyFatoorah event

`parse_event` takes an event that names an invoice for a payment event, whatever its code, and knows a
refund by its number only. The signature goes by the code alone.
-/

namespace PaymentLinks.MyFatoorah

variable {payload data : Json} {values : List Json} {s : Source} {c : EventClass}
  {event : GatewayWebhookEvent}

/-! ## Values -/

theorem orLast_eq (values : List Json) :
    orLast values = (values.find? Json.truthy).getD (values.getLastD .null) := by
  induction values with
  | nil => rfl
  | cons j rest ih =>
    cases rest with
    | nil =>
      unfold orLast
      cases hj : j.truthy <;> simp [hj]
    | cons k rest =>
      unfold orLast
      cases hj : j.truthy with
      | true => simp [hj]
      | false =>
        have hnot : ¬ j.truthy = true := by simp [hj]
        have hlast : (j :: k :: rest).getLastD .null = (k :: rest).getLastD .null := rfl
        rw [if_neg (by simp), ih, List.find?_cons_of_neg hnot, hlast]

/-- What is false has no text only where it is missing. -/
theorem toStr_of_not_truthy {j : Json} (h : j.truthy = false) :
    toStr j = "" ↔ isMissing j = true := by
  cases j with
  | null => exact iff_of_true rfl rfl
  | bool b =>
    cases b with
    | true => cases h
    | false => decide +kernel
  | num lexeme =>
    have hne : lexeme ≠ "" := by
      rintro rfl
      have htrue : Json.truthy (.num "") = true := by decide +kernel
      rw [htrue] at h
      cases h
    have htext : toStr (.num lexeme) = lexeme := rfl
    rw [htext]
    simp [isMissing, hne]
  | str x =>
    have htext : toStr (.str x) = x := rfl
    rw [htext]
    simp [isMissing]
  | arr items =>
    have hnil : items = [] := by simpa [Json.truthy_arr] using h
    subst hnil
    simp only [isMissing, toStr]
    decide +kernel
  | obj fields =>
    have hnil : fields = [] := by simpa [Json.truthy_obj] using h
    subst hnil
    simp only [isMissing, toStr]
    decide +kernel

theorem toStr_of_truthy {j : Json} (h : j.truthy = true) : toStr j = j.text := by
  unfold toStr
  rw [if_neg]
  rintro rfl
  cases h

theorem orNone_eq_none_iff {x : String} : Text.orNone x = none ↔ x = "" := by
  unfold Text.orNone
  split_ifs with h <;> simp [h]

/-- A label is made of values of which some names something. -/
theorem label_eq_none_iff (hvalues : values ≠ []) : label values = none ↔ NoneNamed values := by
  unfold label NoneNamed
  rw [orNone_eq_none_iff, orLast_eq]
  cases hfind : values.find? Json.truthy with
  | some j =>
    have hj : j.truthy = true := List.find?_some hfind
    simp [toStr_of_truthy hj]
  | none =>
    have hlast : (values.getLastD .null).truthy = false := by
      rw [List.getLastD_eq_getLast?, List.getLast?_eq_getLast_of_ne_nil hvalues]
      have hnone := List.find?_eq_none.mp hfind _ (List.getLast_mem hvalues)
      simpa using hnone
    have htext := toStr_of_not_truthy hlast
    simpa using htext

/-! ## Codes -/

/-- The codes of the two classes. -/
theorem classOf_eq_some {code : String} (h : classOf code = some c) :
    code ∈ ["1", "TransactionsStatusChanged", "PAYMENT_STATUS_CHANGED"] ∧ c = .payment ∨
      code ∈ ["2", "RefundStatusChanged", "REFUND_STATUS_CHANGED"] ∧ c = .refund := by
  unfold classOf at h
  split_ifs at h with hpayment hrefund
  · exact .inl ⟨hpayment, (Option.some.inj h).symm⟩
  · exact .inr ⟨hrefund, (Option.some.inj h).symm⟩

/-- What is false is no code. -/
theorem truthy_of_classOf {j : Json} (h : classOf j.text = some c) : j.truthy = true := by
  have hcode : j.text ∈ ["1", "TransactionsStatusChanged", "PAYMENT_STATUS_CHANGED", "2",
      "RefundStatusChanged", "REFUND_STATUS_CHANGED"] := by
    rcases classOf_eq_some h with ⟨hmem, -⟩ | ⟨hmem, -⟩
    · exact List.mem_append_left ["2", "RefundStatusChanged", "REFUND_STATUS_CHANGED"] hmem
    · exact List.mem_append_right
        ["1", "TransactionsStatusChanged", "PAYMENT_STATUS_CHANGED"] hmem
  by_contra hfalse
  have hnot : ∀ lexeme ∈ ["1", "TransactionsStatusChanged", "PAYMENT_STATUS_CHANGED", "2",
      "RefundStatusChanged", "REFUND_STATUS_CHANGED"], Json.truthy (.num lexeme) = true := by
    decide +kernel
  cases j with
  | null => revert hcode; decide +kernel
  | bool b =>
    cases b with
    | true => exact hfalse rfl
    | false => revert hcode; decide +kernel
  | num lexeme => exact hfalse (hnot lexeme hcode)
  | str x =>
    have hempty : x = "" := by simpa [Json.truthy_str] using hfalse
    subst hempty
    revert hcode
    decide +kernel
  | arr items =>
    have hnil : items = [] := by simpa [Json.truthy_arr] using hfalse
    subst hnil
    revert hcode
    decide +kernel
  | obj fields =>
    have hnil : fields = [] := by simpa [Json.truthy_obj] using hfalse
    subst hnil
    revert hcode
    decide +kernel

/-- A code of a class is read as it is signed. -/
theorem readCode_eq_signedCode (h : signedClass payload = some c) :
    readCode payload = signedCode payload := by
  unfold readCode
  unfold signedClass at h
  unfold signedCode at h ⊢
  split_ifs at h ⊢ with hevent
  · rfl
  · generalize getKey payload "EventCode" = a at h ⊢
    generalize getKey payload "Event" = b at h ⊢
    unfold orLast orLast at h ⊢
    by_cases ha : a.truthy = true
    · rw [if_pos ha, if_pos ha]
    · rw [if_neg ha] at h
      have hb := truthy_of_classOf h
      rw [if_neg ha, if_neg ha, if_pos hb]

/-! ## The event -/

theorem parseEvent_eq : parseEvent payload = (sourceOf payload).map Source.event := by
  unfold parseEvent
  cases sourceOf payload <;> rfl

theorem sourceOf_isOk_iff : (∃ s, sourceOf payload = .ok s) ↔ Readable payload := by
  unfold sourceOf Readable
  cases invoiceTransactions (dataOf payload) with
  | error e =>
    constructor
    · rintro ⟨s, hs⟩
      cases hs
    · intro h
      cases h
  | ok txList => exact ⟨fun _ => rfl, fun _ => ⟨_, rfl⟩⟩

theorem payload_of_sourceOf (h : sourceOf payload = .ok s) : s.payload = payload := by
  obtain ⟨txList, -, h⟩ := Fallible.bind_eq_ok.mp h
  obtain rfl := Fallible.pure_eq_ok.mp h
  rfl

theorem namesNoPayment_iff : NamesNoPayment s ↔ s.invoiceId = none ∧ s.paymentId = none := by
  constructor
  · rintro ⟨hinvoice, hpayment⟩
    exact ⟨(label_eq_none_iff (by simp)).mpr hinvoice, (label_eq_none_iff (by simp)).mpr hpayment⟩
  · rintro ⟨hinvoice, hpayment⟩
    exact ⟨(label_eq_none_iff (by simp)).mp hinvoice, (label_eq_none_iff (by simp)).mp hpayment⟩

/-- A payment event is one by its code or by what it names. -/
theorem event_kind_of_payment (h : classOf (readCode s.payload) = some .payment) :
    s.event.kind = .paymentStatus := by
  unfold Source.event
  rw [if_pos (.inl h)]
  rfl

/-- An event with the code of a refund is read as one exactly where the code is the number and neither
an invoice nor a payment is named. -/
theorem event_of_refund (h : classOf (readCode s.payload) = some .refund) :
    (s.event.kind = .refundStatus ↔ readCode s.payload = "2" ∧ NamesNoPayment s) ∧
      (s.event.kind = .refundStatus → ¬ SaysPaid s.event) := by
  rw [namesNoPayment_iff]
  unfold Source.event
  by_cases hnamed : s.invoiceId.isSome ∨ s.paymentId.isSome
  · rw [if_pos (.inr hnamed)]
    have hkind : s.paymentEvent.kind ≠ .refundStatus := by
      intro hkind
      cases hkind
    refine ⟨iff_of_false hkind ?_, fun hrefund => absurd hrefund hkind⟩
    rintro ⟨-, hinvoice, hpayment⟩
    rw [hinvoice, hpayment] at hnamed
    simp at hnamed
  · have hnot : ¬ (classOf (readCode s.payload) = some .payment ∨ s.invoiceId.isSome ∨
        s.paymentId.isSome) := by
      rw [h]
      rintro (hpayment | hid)
      · cases hpayment
      · exact hnamed hid
    rw [if_neg hnot]
    have hnone : s.invoiceId = none ∧ s.paymentId = none := by simpa using hnamed
    by_cases hcode : readCode s.payload = "2"
    · rw [if_pos hcode]
      refine ⟨iff_of_true rfl ⟨hcode, hnone⟩, ?_⟩
      rintro - (hstatus | ⟨state, hstate, -⟩)
      · cases hstatus
      · cases hstate
    · rw [if_neg hcode]
      have hkind : (WebhookEventKind.ignored : WebhookEventKind) ≠ .refundStatus := by decide
      exact ⟨iff_of_false hkind fun hboth => hcode hboth.1, fun hrefund => absurd hrefund hkind⟩

/-- The event that is made of a payload which is signed has the class of the signature. -/
theorem event_kind_iff (hs : sourceOf payload = .ok s) (h : signedClass payload = some c) :
    s.event.kind = c.kind ↔ (c = .refund → signedCode payload = "2" ∧ NamesNoPayment s) := by
  have hcode : readCode s.payload = signedCode payload := by
    rw [payload_of_sourceOf hs]
    exact readCode_eq_signedCode h
  have hclass : classOf (readCode s.payload) = some c := by
    rw [hcode]
    exact h
  cases c with
  | payment =>
    refine iff_of_true (event_kind_of_payment hclass) fun hrefund => ?_
    cases hrefund
  | refund =>
    have hiff := (event_of_refund hclass).1
    rw [hcode] at hiff
    exact hiff.trans ⟨fun hboth _ => hboth, fun himp => himp rfl⟩

/-- A payload is read as it is signed exactly where its transactions can be gone through and, as a
refund, it has the number of a refund and names neither an invoice nor a payment. -/
theorem read_as_signed_iff (fields : List (String × Json)) :
    ReadAsSigned (.obj fields) ↔
      ∀ c, SignedAs c (.obj fields) → Readable (.obj fields) ∧
        (c = .refund → signedCode (.obj fields) = "2" ∧
          ∀ s, sourceOf (.obj fields) = .ok s → NamesNoPayment s) := by
  generalize Json.obj fields = payload
  constructor
  · intro hread c hsigned
    obtain ⟨event, hevent, hkind⟩ := hread.same c hsigned
    obtain ⟨s, hs, hevent⟩ := Fallible.bind_eq_ok.mp hevent
    obtain rfl := Fallible.pure_eq_ok.mp hevent
    have hiff := (event_kind_iff hs hsigned.1).mp hkind
    refine ⟨sourceOf_isOk_iff.mp ⟨s, hs⟩, fun hrefund => ⟨(hiff hrefund).1, fun s' hs' => ?_⟩⟩
    obtain rfl : s = s' := Except.ok.inj (hs.symm.trans hs')
    exact (hiff hrefund).2
  · intro hcond
    have hevent : ∀ c, SignedAs c payload →
        ∃ s, sourceOf payload = .ok s ∧ s.event.kind = c.kind := by
      intro c hsigned
      obtain ⟨hreadable, hrefund⟩ := hcond c hsigned
      obtain ⟨s, hs⟩ := sourceOf_isOk_iff.mpr hreadable
      refine ⟨s, hs, (event_kind_iff hs hsigned.1).mpr fun hc => ?_⟩
      exact ⟨(hrefund hc).1, (hrefund hc).2 s hs⟩
    refine ⟨fun c hsigned => ?_, fun hsigned event hparse => ?_⟩
    · obtain ⟨s, hs, hkind⟩ := hevent c hsigned
      exact ⟨s.event, by rw [parseEvent_eq, hs]; rfl, hkind⟩
    · obtain ⟨s, hs, hkind⟩ := hevent .refund hsigned
      rw [parseEvent_eq, hs] at hparse
      obtain rfl := Except.ok.inj hparse
      have hcode : readCode s.payload = signedCode payload := by
        rw [payload_of_sourceOf hs]
        exact readCode_eq_signedCode hsigned.1
      refine (event_of_refund ?_).2 hkind
      rw [hcode]
      exact hsigned.1

/-- A refund in the flat layout, whose invoice has a flat name. -/
def flatRefund : Json :=
  .obj [
    ("EventCode", .num "2"),
    ("EventName", .str "RefundStatusChanged"),
    ("Data", .obj [
      ("InvoiceId", .num "5620277"),
      ("RefundId", .str "111147"),
      ("RefundStatus", .str "REFUNDED"),
      ("InvoiceValue", .str "30")])]

/-- It is signed as a refund, and read as the payment of its invoice, which is paid. -/
theorem refund_read_as_paid :
    signedClass flatRefund = some .refund ∧
      buildSignatureString flatRefund = .ok (some ("Refund.Id=111147,Refund.Status=REFUNDED," ++
        "Amount.ValueInBaseCurrency=30,ReferencedInvoice.Id=5620277")) ∧
      (parseEvent flatRefund).map (fun e => (e.kind, e.invoiceId, e.status)) =
        .ok (.paymentStatus, some "5620277", some .paid) ∧
      ¬ ReadAsSigned flatRefund := by
  have hclass : signedClass flatRefund = some .refund := by decide +kernel
  have hsigned : buildSignatureString flatRefund = .ok (some ("Refund.Id=111147," ++
      "Refund.Status=REFUNDED,Amount.ValueInBaseCurrency=30,ReferencedInvoice.Id=5620277")) := by
    decide +kernel
  have hkind : (parseEvent flatRefund).map (fun e => (e.kind, e.invoiceId, e.status)) =
      .ok (.paymentStatus, some "5620277", some .paid) := by decide +kernel
  refine ⟨hclass, hsigned, hkind, fun hread => ?_⟩
  obtain ⟨event, hevent, hrefund⟩ := hread.same .refund ⟨hclass, _, hsigned⟩
  rw [hevent] at hkind
  have hpayment : event.kind = .paymentStatus := congrArg Prod.fst (Except.ok.inj hkind)
  rw [hpayment] at hrefund
  cases hrefund

end PaymentLinks.MyFatoorah
