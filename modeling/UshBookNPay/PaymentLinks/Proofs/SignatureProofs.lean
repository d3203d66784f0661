import UshBookNPay.PaymentLinks.Proofs.EventClassProofs
import UshBookNPay.PaymentLinks.SignedWebhooks

/-!
# What a signature does not cover

To every payload that is signed there are two others with the same signed string which are read in
different ways: MyFatoorah signs the first transaction and reads the one that went well, and both
gateways read fields they do not sign.
-/

namespace PaymentLinks

variable {payload data j value : Json} {key k : String}

/-! ## Mappings -/

@[simp] theorem getKey_nil : getKey (.obj []) key = .null := rfl

@[simp] theorem getKey_cons {rest : List (String × Json)} :
    getKey (.obj ((k, value) :: rest)) key =
      if key = k then value else getKey (.obj rest) key := by
  unfold getKey Json.field?
  dsimp only
  rw [List.lookup_cons]
  by_cases h : key = k
  · simp [h]
  · have hbeq : (key == k) = false := by simpa using h
    rw [hbeq, if_neg h]

@[simp] theorem hasKey_nil : hasKey (.obj []) key = false := rfl

@[simp] theorem hasKey_cons {rest : List (String × Json)} :
    hasKey (.obj ((k, value) :: rest)) key = (decide (key = k) || hasKey (.obj rest) key) := by
  unfold hasKey Json.field?
  dsimp only
  rw [List.lookup_cons]
  by_cases h : key = k
  · simp [h]
  · have hbeq : (key == k) = false := by simpa using h
    simp [hbeq, h]

@[simp] theorem isMapping_obj (fields : List (String × Json)) : isMapping (.obj fields) = true :=
  rfl

@[simp] theorem putKey_obj (fields : List (String × Json)) :
    putKey (.obj fields) key value = .obj (Json.setField fields key value) := rfl

@[simp] theorem getKey_setField (fields : List (String × Json)) :
    getKey (.obj (Json.setField fields k value)) key =
      if key = k then value else getKey (.obj fields) key := by
  unfold getKey Json.field?
  dsimp only
  rw [Json.lookup_setField]
  split_ifs <;> rfl

namespace MyFatoorah

/-! ## Nested texts -/

/-- A text at the end of the path is found, unless it is empty and there is another value. -/
theorem toStr_dig_of_walk {f : Field} {x : String} (hwalk : walk data f.path = .str x)
    (hflat : ∀ key ∈ f.flatFallbacks, getKey data key = .null) : toStr (dig data f) = x := by
  unfold dig
  rw [hwalk]
  have htext : toStr (.str x) = x := by simp [toStr, Json.text]
  have hnone : (f.flatFallbacks.map (getKey data)).find? (fun j => ¬ isMissing j) = none := by
    rw [List.find?_eq_none]
    intro j hj
    obtain ⟨key, hkey, rfl⟩ := List.mem_map.mp hj
    simp [hflat key hkey, isMissing]
  rw [hnone]
  split_ifs <;> exact htext

/-- So is a text under the first of the flat names, where the path leads nowhere. -/
theorem toStr_dig_of_flat {f : Field} {x : String} {rest : List String}
    (hwalk : walk data f.path = .null) (hnames : f.flatFallbacks = key :: rest)
    (hkey : getKey data key = .str x) (hrest : ∀ k ∈ rest, getKey data k = .null) :
    toStr (dig data f) = x := by
  have hnone : (rest.map (getKey data)).find? (fun j => ¬ isMissing j) = none := by
    rw [List.find?_eq_none]
    intro j hj
    obtain ⟨k, hk, rfl⟩ := List.mem_map.mp hj
    simp [hrest k hk, isMissing]
  have hmapping : isMapping data = true := by
    cases data with
    | obj fields => rfl
    | _ => cases hkey
  unfold dig
  rw [hwalk, hnames, List.map_cons, hkey, if_neg (by simp [isMissing]), if_pos hmapping]
  by_cases hx : x = ""
  · subst hx
    rw [List.find?_cons_of_neg (by simp [isMissing]), hnone]
    rfl
  · rw [List.find?_cons_of_pos (by simp [isMissing, hx])]
    simp [toStr, Json.text]

/-- What is signed depends on the class and the texts of its fields. -/
theorem buildSignatureString_congr {c : EventClass} {payload' data' : Json}
    (hdata : signedData payload = .ok data) (hdata' : signedData payload' = .ok data')
    (hclass : signedClass payload = some c) (hclass' : signedClass payload' = some c)
    (htexts : ∀ f ∈ c.fields, toStr (dig data' f) = toStr (dig data f)) :
    buildSignatureString payload' = buildSignatureString payload := by
  have hparts : c.fields.map (signedPart data') = c.fields.map (signedPart data) := by
    apply List.map_congr_left
    intro f hf
    unfold signedPart
    rw [htexts f hf]
  unfold buildSignatureString
  rw [hdata, hdata', hclass, hclass']
  show Except.ok (some (Text.join "," _)) = Except.ok (some (Text.join "," _))
  rw [hparts]

theorem dig_of_walk {f : Field} {x : String} (hwalk : walk data f.path = .str x) (hx : x ≠ "") :
    dig data f = .str x := by
  unfold dig
  rw [hwalk, if_pos]
  simp [isMissing, hx]

theorem label_str {x : String} (hx : x ≠ "") (rest : List Json) :
    label (.str x :: rest) = some x := by
  have hlast : orLast (.str x :: rest) = .str x := by
    rw [orLast_eq, List.find?_cons_of_pos (by simpa [Json.truthy_str] using hx)]
    rfl
  unfold label
  rw [hlast]
  simp [toStr, Json.text, Text.orNone, hx]

/-- What a payload that names an invoice or a payment is acted upon by, its transactions being
known. -/
theorem read_of_named {txList : List Json} {s : Source}
    (h : invoiceTransactions (dataOf payload) = .ok txList)
    (hs : s = { payload := payload
                data := readData payload txList
                transaction := successTransaction txList })
    (hnamed : s.invoiceId.isSome ∨ s.paymentId.isSome) :
    ∃ acted, Adapter.read .myFatoorah payload = .ok acted ∧ acted.invoiceId = s.invoiceId ∧
      acted.paymentId = s.paymentId := by
  have hparse : parseEvent payload = .ok s.event := by
    unfold parseEvent sourceOf
    rw [h, hs]
    rfl
  have hevent : s.event = s.paymentEvent := if_pos (.inr hnamed)
  refine ⟨actedUpon s.paymentEvent, ?_, rfl, rfl⟩
  rw [← hevent]
  show (parseEvent payload).map actedUpon = _
  rw [hparse]
  rfl

/-! ## A payment that is read from another transaction -/

/-- The transaction that is signed. -/
def signedTransaction (text : Field → String) : Json :=
  .obj [
    ("Status", .str (text .transactionStatus)),
    ("PaymentId", .str (text .transactionPaymentId))]

/-- A transaction that went well. -/
def successfulTransaction (paymentId : String) : Json :=
  .obj [("TransactionStatus", .str "Success"), ("PaymentId", .str paymentId)]

/-- The data of a payment with the given texts, and a second transaction, which went well. -/
def paymentTwinData (text : Field → String) (paymentId : String) : List (String × Json) :=
  [("Invoice", .obj [
      ("Id", .str (text .invoiceId)),
      ("Status", .str (text .invoiceStatus)),
      ("ExternalIdentifier", .str (text .invoiceExternalIdentifier))]),
    ("InvoiceTransactions", .arr [signedTransaction text, successfulTransaction paymentId])]

def paymentTwin (text : Field → String) (paymentId : String) : List (String × Json) :=
  [("EventCode", .str "1"), ("Data", .obj (paymentTwinData text paymentId))]

theorem dataOf_paymentTwin (text : Field → String) (paymentId : String) :
    dataOf (.obj (paymentTwin text paymentId)) = .obj (paymentTwinData text paymentId) := by
  simp [dataOf, paymentTwin, paymentTwinData, orLast, Json.truthy_obj]

theorem invoiceTransactions_paymentTwin (text : Field → String) (paymentId : String) :
    invoiceTransactions (dataOf (.obj (paymentTwin text paymentId))) =
      .ok [signedTransaction text, successfulTransaction paymentId] := by
  rw [dataOf_paymentTwin]
  rfl

theorem signed_paymentTwin (text : Field → String) (paymentId : String) :
    ∃ data, signedData (.obj (paymentTwin text paymentId)) = .ok data ∧
      signedClass (.obj (paymentTwin text paymentId)) = some .payment ∧
      ∀ f ∈ EventClass.payment.fields, toStr (dig data f) = text f := by
  refine ⟨putKey (.obj (paymentTwinData text paymentId)) "Transaction" (signedTransaction text),
    ?_, ?_, ?_⟩
  · unfold signedData
    rw [invoiceTransactions_paymentTwin, dataOf_paymentTwin]
    rfl
  · have hcode : signedCode (.obj (paymentTwin text paymentId)) = "1" := rfl
    unfold signedClass
    rw [hcode]
    decide +kernel
  · intro f hf
    simp only [EventClass.fields, List.mem_cons, List.not_mem_nil, or_false] at hf
    rcases hf with rfl | rfl | rfl | rfl | rfl
    all_goals
      apply toStr_dig_of_walk
      · simp [Field.path, walk, paymentTwinData, signedTransaction]
      · simp [Field.flatFallbacks, paymentTwinData]

theorem successTransaction_paymentTwin (text : Field → String) (paymentId : String) :
    successTransaction [signedTransaction text, successfulTransaction paymentId] =
      successfulTransaction paymentId := by
  unfold successTransaction
  rw [List.find?_cons_of_neg, List.find?_cons_of_pos]
  · rfl
  · unfold successfulTransaction
    rw [getKey_cons, if_pos rfl]
    decide +kernel
  · have hmissing : getKey (signedTransaction text) "TransactionStatus" = .null := by
      simp [signedTransaction]
    rw [hmissing]
    decide +kernel

/-- It is read as the payment of the second transaction. -/
theorem read_paymentTwin (text : Field → String) (paymentId : String) (h : paymentId ≠ "") :
    ∃ acted, Adapter.read .myFatoorah (.obj (paymentTwin text paymentId)) = .ok acted ∧
      acted.paymentId = some paymentId := by
  have hread : readData (.obj (paymentTwin text paymentId))
      [signedTransaction text, successfulTransaction paymentId] =
      putKey (.obj (paymentTwinData text paymentId)) "Transaction"
        (successfulTransaction paymentId) := by
    unfold readData
    rw [successTransaction_paymentTwin, dataOf_paymentTwin, if_pos]
    simp [paymentTwinData]
  have hwalk : walk (putKey (.obj (paymentTwinData text paymentId)) "Transaction"
      (successfulTransaction paymentId)) Field.transactionPaymentId.path = .str paymentId := by
    simp [Field.path, walk, paymentTwinData, successfulTransaction]
  have hpayment : Source.paymentId
      { payload := .obj (paymentTwin text paymentId)
        data := readData (.obj (paymentTwin text paymentId))
          [signedTransaction text, successfulTransaction paymentId]
        transaction :=
          successTransaction [signedTransaction text, successfulTransaction paymentId] } =
      some paymentId := by
    unfold Source.paymentId
    rw [hread, dig_of_walk hwalk h]
    exact label_str h _
  obtain ⟨acted, hacted, -, heq⟩ := read_of_named (invoiceTransactions_paymentTwin text paymentId)
    rfl (.inr (by rw [hpayment]; rfl))
  exact ⟨acted, hacted, heq.trans hpayment⟩

/-! ## A refund that is read as a payment -/

/-- The data of a refund with the given texts. -/
def refundTwinData (text : Field → String) : List (String × Json) :=
  [("Refund", .obj [("Id", .str (text .refundId)), ("Status", .str (text .refundStatus))]),
    ("InvoiceValueInBaseCurrency", .str (text .amountValue)),
    ("ReferencedInvoice", .obj [("Id", .str (text .referencedInvoiceId))])]

/-- The refund in a payload that names an invoice. -/
def refundTwin (text : Field → String) (invoiceId : String) : List (String × Json) :=
  [("EventCode", .str "2"), ("Data", .obj (refundTwinData text)), ("InvoiceId", .str invoiceId)]

theorem dataOf_refundTwin (text : Field → String) (invoiceId : String) :
    dataOf (.obj (refundTwin text invoiceId)) = .obj (refundTwinData text) := by
  simp [dataOf, refundTwin, refundTwinData, orLast, Json.truthy_obj]

theorem signed_refundTwin (text : Field → String) (invoiceId : String) :
    ∃ data, signedData (.obj (refundTwin text invoiceId)) = .ok data ∧
      signedClass (.obj (refundTwin text invoiceId)) = some .refund ∧
      ∀ f ∈ EventClass.refund.fields, toStr (dig data f) = text f := by
  refine ⟨.obj (refundTwinData text), ?_, ?_, ?_⟩
  · unfold signedData
    rw [dataOf_refundTwin]
    rfl
  · have hcode : signedCode (.obj (refundTwin text invoiceId)) = "2" := rfl
    unfold signedClass
    rw [hcode]
    decide +kernel
  · intro f hf
    simp only [EventClass.fields, List.mem_cons, List.not_mem_nil, or_false] at hf
    rcases hf with rfl | rfl | rfl | rfl
    case inr.inr.inl =>
      apply toStr_dig_of_flat (by simp [Field.path, walk, refundTwinData, isMapping]) rfl
      · simp [refundTwinData]
      · simp [refundTwinData]
    all_goals
      apply toStr_dig_of_walk
      · simp [Field.path, walk, refundTwinData]
      · simp [Field.flatFallbacks, refundTwinData]

/-- It is read as the payment of the invoice. -/
theorem read_refundTwin (text : Field → String) (invoiceId : String) (h : invoiceId ≠ "") :
    ∃ acted, Adapter.read .myFatoorah (.obj (refundTwin text invoiceId)) = .ok acted ∧
      acted.invoiceId = some invoiceId := by
  have htransactions :
      invoiceTransactions (dataOf (.obj (refundTwin text invoiceId))) = .ok [] := by
    rw [dataOf_refundTwin]
    rfl
  have hread : readData (.obj (refundTwin text invoiceId)) [] = .obj (refundTwinData text) := by
    unfold readData
    rw [dataOf_refundTwin, if_neg]
    simp
  have hinvoice : Source.invoiceId
      { payload := .obj (refundTwin text invoiceId)
        data := readData (.obj (refundTwin text invoiceId)) []
        transaction := successTransaction [] } = some invoiceId := by
    have hnested : dig (.obj (refundTwinData text)) .invoiceId = .null := by
      simp [dig, Field.path, Field.flatFallbacks, walk, refundTwinData, isMissing, isMapping]
    have hflat : getKey (.obj (refundTwin text invoiceId)) "InvoiceId" = .str invoiceId := by
      simp [refundTwin]
    unfold Source.invoiceId
    rw [hread, hnested, hflat]
    exact label_str h _
  obtain ⟨acted, hacted, heq, -⟩ := read_of_named htransactions rfl (.inl (by rw [hinvoice]; rfl))
  exact ⟨acted, hacted, heq.trans hinvoice⟩

/-! ## Twins -/

/-- A payload that is accepted is signed as an event of a class. -/
theorem signed_of_accepted {mac : String → String → String} {secret : String}
    {headers : List (String × String)}
    (h : verifySignature mac secret headers payload = .ok true) :
    ∃ c data, signedClass payload = some c ∧ signedData payload = .ok data ∧
      buildSignatureString payload =
        .ok (some (Text.join "," (c.fields.map (signedPart data)))) := by
  unfold verifySignature at h
  split_ifs at h
  · cases Fallible.pure_eq_ok.mp h
  obtain ⟨signatureString, hbuild, h⟩ := Fallible.bind_eq_ok.mp h
  obtain ⟨data, hdata, hclass⟩ := Fallible.bind_eq_ok.mp hbuild
  cases hc : signedClass payload with
  | none =>
    rw [hc] at hclass
    obtain rfl := Fallible.pure_eq_ok.mp hclass
    cases Fallible.pure_eq_ok.mp h
  | some c =>
    rw [hc] at hclass
    obtain rfl := Fallible.pure_eq_ok.mp hclass
    exact ⟨c, data, rfl, hdata, hbuild⟩

theorem verifySignature_congr {mac : String → String → String} {secret : String}
    {headers : List (String × String)} {payload' : Json}
    (h : buildSignatureString payload' = buildSignatureString payload) :
    verifySignature mac secret headers payload' = verifySignature mac secret headers payload := by
  unfold verifySignature
  rw [h]

/-- Two payloads are signed like the given one and read in different ways. -/
theorem exists_twins {c : EventClass} (hclass : signedClass payload = some c)
    (hdata : signedData payload = .ok data) : ∃ fields fields',
      buildSignatureString (.obj fields) = buildSignatureString payload ∧
      buildSignatureString (.obj fields') = buildSignatureString payload ∧
      Adapter.read .myFatoorah (.obj fields) ≠ Adapter.read .myFatoorah (.obj fields') := by
  cases c with
  | payment =>
    have hsame : ∀ x, buildSignatureString (.obj (paymentTwin (fun f => toStr (dig data f)) x)) =
        buildSignatureString payload := by
      intro x
      obtain ⟨data', hdata', hclass', htexts⟩ :=
        signed_paymentTwin (fun f => toStr (dig data f)) x
      exact buildSignatureString_congr hdata hdata' hclass hclass' htexts
    refine ⟨_, _, hsame "a", hsame "b", fun heq => ?_⟩
    obtain ⟨acted, hacted, ha⟩ := read_paymentTwin (fun f => toStr (dig data f)) "a" (by decide)
    obtain ⟨acted', hacted', hb⟩ := read_paymentTwin (fun f => toStr (dig data f)) "b" (by decide)
    rw [hacted, hacted'] at heq
    rw [Except.ok.inj heq, hb] at ha
    exact absurd ha (by decide)
  | refund =>
    have hsame : ∀ x, buildSignatureString (.obj (refundTwin (fun f => toStr (dig data f)) x)) =
        buildSignatureString payload := by
      intro x
      obtain ⟨data', hdata', hclass', htexts⟩ :=
        signed_refundTwin (fun f => toStr (dig data f)) x
      exact buildSignatureString_congr hdata hdata' hclass hclass' htexts
    refine ⟨_, _, hsame "a", hsame "b", fun heq => ?_⟩
    obtain ⟨acted, hacted, ha⟩ := read_refundTwin (fun f => toStr (dig data f)) "a" (by decide)
    obtain ⟨acted', hacted', hb⟩ := read_refundTwin (fun f => toStr (dig data f)) "b" (by decide)
    rw [hacted, hacted'] at heq
    rw [Except.ok.inj heq, hb] at ha
    exact absurd ha (by decide)

end MyFatoorah

namespace Deema

/-! ## A charge that is read as a refund -/

/-- The payload as the refund of a charge. -/
def refundOf (fields : List (String × Json)) (chargeId : String) : List (String × Json) :=
  Json.setField (Json.setField fields "object" (.str "refund")) "charge_id" (.str chargeId)

theorem getKey_refundOf (fields : List (String × Json)) (chargeId : String)
    (h : key ≠ "object" ∧ key ≠ "charge_id") :
    getKey (.obj (refundOf fields chargeId)) key = getKey (.obj fields) key := by
  unfold refundOf
  rw [getKey_setField, if_neg h.2, getKey_setField, if_neg h.1]

/-- Neither field is signed. -/
theorem buildSignatureString_refundOf (fields : List (String × Json)) (chargeId : String) :
    buildSignatureString (.obj (refundOf fields chargeId)) =
      buildSignatureString (.obj fields) := by
  funext formatted
  unfold buildSignatureString mappingAt
  simp (disch := decide) only [getKey_refundOf]

theorem read_refundOf (fields : List (String × Json)) (chargeId : String)
    (hstrip : Text.strip chargeId = chargeId) (hne : chargeId ≠ "") :
    ∃ acted, Adapter.read .deema (.obj (refundOf fields chargeId)) = .ok acted ∧
      acted.invoiceId = some chargeId := by
  have hobject : getKey (.obj (refundOf fields chargeId)) "object" = .str "refund" := by
    simp [refundOf]
  have hcharge : getKey (.obj (refundOf fields chargeId)) "charge_id" = .str chargeId := by
    simp [refundOf]
  have htype : Text.lower (toStr (.str "refund")) = "refund" := by decide +kernel
  have hid : Text.orNone (toStr (orLast [.str chargeId,
      getKey (mappingAt (.obj (refundOf fields chargeId)) "charge") "id"])) = some chargeId := by
    have htrue : Json.truthy (.str chargeId) = true := by simpa [Json.truthy_str] using hne
    unfold orLast toStr
    rw [if_pos htrue, if_neg (by simp)]
    show Text.orNone (Text.strip chargeId) = some chargeId
    rw [hstrip]
    exact if_neg hne
  refine ⟨_, rfl, ?_⟩
  unfold parseEvent
  rw [hobject, hcharge]
  dsimp only
  rw [if_pos (.inl htype)]
  exact hid

theorem verifySignature_congr {mac : String → String → String} {secret : String}
    {headers : List (String × String)} {payload' : Json}
    (h : buildSignatureString payload' = buildSignatureString payload) :
    verifySignature mac secret headers payload' = verifySignature mac secret headers payload := by
  unfold verifySignature
  rw [h]

/-- A payload that is accepted has a signed string. -/
theorem signed_of_accepted {mac : String → String → String} {secret : String}
    {headers : List (String × String)} (h : verifySignature mac secret headers payload = true) :
    ∃ s, s ∈ Adapter.signedStrings .deema payload := by
  unfold verifySignature at h
  split_ifs at h
  cases hheader : headers.find? fun kv => Text.lower kv.1 ∈ SIGNATURE_HEADERS ∧ kv.2 ≠ "" with
  | none =>
    rw [hheader] at h
    cases h
  | some kv =>
    rw [hheader] at h
    obtain ⟨formatted, hmem, hany⟩ := List.any_eq_true.mp h
    obtain ⟨s, hs, -⟩ := (Option.any_eq_true _ _).mp hany
    exact ⟨s, List.mem_filterMap.mpr ⟨formatted, hmem, hs⟩⟩

/-- Two payloads are signed like the given one and read in different ways. -/
theorem exists_twins (fields : List (String × Json)) : ∃ fields₁ fields₂,
    buildSignatureString (.obj fields₁) = buildSignatureString (.obj fields) ∧
      buildSignatureString (.obj fields₂) = buildSignatureString (.obj fields) ∧
      Adapter.read .deema (.obj fields₁) ≠ Adapter.read .deema (.obj fields₂) := by
  refine ⟨_, _, buildSignatureString_refundOf fields "a", buildSignatureString_refundOf fields "b",
    fun heq => ?_⟩
  obtain ⟨acted, hacted, ha⟩ := read_refundOf fields "a" (by decide +kernel) (by decide)
  obtain ⟨acted', hacted', hb⟩ := read_refundOf fields "b" (by decide +kernel) (by decide)
  rw [hacted, hacted'] at heq
  rw [Except.ok.inj heq, hb] at ha
  exact absurd ha (by decide)

end Deema

/-! ## Coverage -/

/-- Whatever passes under some headers has two others beside it that pass under the same for the
same string and are read in different ways. -/
theorem exists_indistinguishable {mac : String → String → String} {secret : String} {g : Adapter}
    {headers : List (String × String)} {fields : List (String × Json)}
    (h : g.Accepts mac secret headers (.obj fields)) : ∃ fields₁ fields₂,
      (g.Accepts mac secret headers (.obj fields₁) ∧ g.Accepts mac secret headers (.obj fields₂)) ∧
      (∃ s ∈ g.signedStrings (.obj fields),
        s ∈ g.signedStrings (.obj fields₁) ∧ s ∈ g.signedStrings (.obj fields₂)) ∧
      g.read (.obj fields₁) ≠ g.read (.obj fields₂) := by
  cases g with
  | myFatoorah =>
    have hverified : MyFatoorah.verifySignature mac secret headers (.obj fields) = .ok true := h
    obtain ⟨c, data, hclass, hdata, hbuild⟩ := MyFatoorah.signed_of_accepted hverified
    obtain ⟨fields₁, fields₂, h₁, h₂, hread⟩ := MyFatoorah.exists_twins hclass hdata
    have hstrings : ∀ payload, MyFatoorah.buildSignatureString payload =
        MyFatoorah.buildSignatureString (.obj fields) →
        Adapter.signedStrings .myFatoorah payload =
          [Text.join "," (c.fields.map (MyFatoorah.signedPart data))] := by
      intro payload hsame
      unfold Adapter.signedStrings
      dsimp only
      rw [hsame, hbuild]
      rfl
    refine ⟨fields₁, fields₂, ⟨?_, ?_⟩, ?_, hread⟩
    · exact (MyFatoorah.verifySignature_congr h₁).trans hverified
    · exact (MyFatoorah.verifySignature_congr h₂).trans hverified
    · rw [hstrings _ rfl, hstrings _ h₁, hstrings _ h₂]
      have hmem := List.mem_singleton_self
        (Text.join "," (c.fields.map (MyFatoorah.signedPart data)))
      exact ⟨_, hmem, hmem, hmem⟩
  | deema =>
    have hverified : Deema.verifySignature mac secret headers (.obj fields) = true := h
    obtain ⟨s, hs⟩ := Deema.signed_of_accepted hverified
    obtain ⟨fields₁, fields₂, h₁, h₂, hread⟩ := Deema.exists_twins fields
    have hstrings : ∀ payload, Deema.buildSignatureString payload =
        Deema.buildSignatureString (.obj fields) →
        s ∈ Adapter.signedStrings .deema payload := by
      intro payload hsame
      unfold Adapter.signedStrings
      dsimp only
      rw [hsame]
      exact hs
    refine ⟨fields₁, fields₂, ⟨?_, ?_⟩, ⟨s, hs, hstrings _ h₁, hstrings _ h₂⟩, hread⟩
    · exact (Deema.verifySignature_congr h₁).trans hverified
    · exact (Deema.verifySignature_congr h₂).trans hverified

/-- The signature covers no payload that can pass: what is acted upon is covered exactly where no
headers let the payload through. -/
theorem covered_iff (mac : String → String → String) (secret : String) (g : Adapter)
    (fields : List (String × Json)) :
    g.Covered mac secret (.obj fields) ↔
      ∀ headers, ¬ g.Accepts mac secret headers (.obj fields) := by
  constructor
  · intro hcovered headers haccepted
    obtain ⟨fields₁, fields₂, ⟨h₁, h₂⟩, ⟨s, hs, hs₁, hs₂⟩, hread⟩ :=
      exists_indistinguishable haccepted
    apply hread
    have hsame₁ := hcovered headers fields₁ haccepted h₁ ⟨s, hs, hs₁⟩
    have hsame₂ := hcovered headers fields₂ haccepted h₂ ⟨s, hs, hs₂⟩
    exact hsame₁.trans hsame₂.symm
  · intro hnever headers fields' haccepted
    exact absurd haccepted (hnever headers)

/-! ## Two transactions, and a charge -/

/-- A payment whose first transaction failed. -/
def secondAttempt (paymentId : String) : List (String × Json) :=
  [("EventCode", .num "1"),
    ("Data", .obj [
      ("InvoiceId", .num "7254211"),
      ("InvoiceStatus", .str "Pending"),
      ("InvoiceTransactions", .arr [
        .obj [("PaymentId", .str "071"), ("TransactionStatus", .str "Failed")],
        .obj [("PaymentId", .str paymentId), ("TransactionStatus", .str "Succss")]])])]

/-- An object of the charges API. -/
def tapObject (kind : String) : List (String × Json) :=
  [("id", .str "chg_1"), ("object", .str kind), ("status", .str "CAPTURED"), ("amount", .num "5"),
    ("currency", .str "KWD")]

/-- The headers with the signature of the text, the secret being `k`. -/
def signedHeaders (name text : String) : List (String × String) := [(name, "k" ++ text)]

/-- The payment of the invoice and the kind of the object can be changed under a signature. -/
theorem unsigned_fields_read :
    ¬ Adapter.Covered (· ++ ·) "k" .myFatoorah (.obj (secondAttempt "072")) ∧
      ¬ Adapter.Covered (· ++ ·) "k" .deema (.obj (tapObject "charge")) := by
  constructor
  · intro hcovered
    have hread := hcovered
      (signedHeaders "MyFatoorah-Signature" ("Invoice.Id=7254211,Invoice.Status=Pending," ++
        "Transaction.Status=,Transaction.PaymentId=071,Invoice.ExternalIdentifier="))
      (secondAttempt "073") (by unfold Adapter.Accepts; decide +kernel)
      (by unfold Adapter.Accepts; decide +kernel) (by decide +kernel)
    revert hread
    decide +kernel
  · intro hcovered
    have hread := hcovered
      (signedHeaders "hashstring" ("x_idchg_1x_amount5.000x_currencyKWDx_gateway_reference" ++
        "x_payment_referencex_statusCAPTUREDx_created"))
      (tapObject "refund") (by unfold Adapter.Accepts; decide +kernel)
      (by unfold Adapter.Accepts; decide +kernel) (by decide +kernel)
    revert hread
    decide +kernel

end PaymentLinks
