import UshBookNPay.Payment.RefundService
import UshBookNPay.PaymentLinks.Proofs.HeldProofs
import UshBookNPay.PaymentLinks.WebhookService

/-!
# The way back of a payment

The payment a settled link leaves carries a canonical provider, and keeps one over all its later saves.
The refund webhook looks for the display label of its gateway, so it never finds such a payment.
-/

open Transactions (Prog Ensures exec)
open Transactions

namespace PaymentLinks

/-- The refund provider behind a gateway. -/
def PaymentLinkGateway.provider (gw : PaymentLinkGateway) : Payment.Provider :=
  if gw.providerLabel = "MyFatoorah" then .myfatoorah
  else if gw.providerLabel = "Deema" then .deema
  else .tap

/-- A payment after later changes, each written by a save of its own. -/
def savedAgain (changes : List (PaymentRow → PaymentRow)) (p : PaymentRow) : PaymentRow :=
  changes.foldl (fun q change => (change q).beforeWrite) p

/-- Refunds of the payment go through the gateway and are confirmed by it: the refund webhook of the
gateway finds the payment by its invoice, and the refund service picks the gateway and its key. -/
structure RoutedBack (gw : PaymentLinkGateway) (p : PaymentRow) (d : Db) (env : ℕ → Env) : Prop where
  found : (exec env (findPaymentForUpdate gw p.invoiceId) d).1 = .ok (some p)
  provider : Payment.resolveGatewayProvider p = gw.provider
  key : Payment.gatewayPaymentId (Text.lower (Text.orEmpty
    (Text.or p.paymentProvider p.paymentGateway))) p = p.invoiceId

/-! ## Lookups -/

theorem ensures_findPaymentForUpdate {gw : PaymentLinkGateway} {invoiceId : Option String} {d : Db}
    {es : List Emission} :
    Ensures (fun _ => True) (Returns fun r d' es' => d' = d ∧ es' = es ∧
        ∀ p, r = some p → p ∈ d.payments ∧ p.invoiceId = invoiceId ∧
          p.paymentProvider = some gw.providerLabel)
      (findPaymentForUpdate gw invoiceId) d es := by
  unfold findPaymentForUpdate
  by_cases hkey : ¬ Text.truthy invoiceId
  · rw [if_pos hkey]
    exact ⟨rfl, rfl, fun _ h => by cases h⟩
  · rw [if_neg hkey]
    dsimp only
    rw [ensures_queryForUpdate]
    refine ⟨trivial, rfl, rfl, fun p hp => ?_⟩
    have hmem := List.mem_of_getLast? hp
    rw [List.mem_filter] at hmem
    have hcols := of_decide_eq_true hmem.2
    exact ⟨hmem.1, hcols.1, hcols.2⟩

/-- The labels of the gateways are not among the canonical providers. -/
theorem CanonicalProvider.ne_label {p : PaymentRow} (h : CanonicalProvider p) {label : String}
    (hlabel : label = "MyFatoorah" ∨ label = "Deema") : p.paymentProvider ≠ some label := by
  intro hp
  have hmem := h label hp
  rcases hlabel with rfl | rfl
  · exact absurd hmem (by decide)
  · exact absurd hmem (by decide)

/-- A payment with a canonical provider is never refunded through Deema. -/
theorem CanonicalProvider.resolve_ne_deema {p : PaymentRow} (h : CanonicalProvider p)
    {provider : String} (hp : p.paymentProvider = some provider) :
    Payment.resolveGatewayProvider p ≠ .deema := by
  have hmem := h provider hp
  have hne : provider ≠ "" := by
    rintro rfl
    exact absurd hmem (by decide)
  have hor : Text.or (some provider) p.paymentGateway = some provider := if_neg hne
  unfold Payment.resolveGatewayProvider
  rw [hp, hor]
  simp only [PaymentAttribution.canonicalProviders, List.mem_cons, List.not_mem_nil, or_false] at hmem
  rcases hmem with rfl | rfl | rfl | rfl
  · decide +kernel
  · decide +kernel
  · decide +kernel
  · decide +kernel

/-! ## Saves -/

theorem canonicalProvider_beforeWrite (p : PaymentRow) : CanonicalProvider p.beforeWrite := by
  unfold PaymentRow.beforeWrite
  exact canonicalProvider_setAttribution p p

theorem CanonicalProvider.savedAgain {p : PaymentRow} (h : CanonicalProvider p)
    (changes : List (PaymentRow → PaymentRow)) : CanonicalProvider (savedAgain changes p) := by
  unfold PaymentLinks.savedAgain
  induction changes generalizing p with
  | nil => exact h
  | cons change changes ih => exact ih (canonicalProvider_beforeWrite (change p))

/-- The newest payment of the target is the one the settlement wrote. -/
theorem PaymentsStep.newest_canonical {link : PaymentLinkRow} {d d' : Db} {q newest : PaymentRow}
    (h : PaymentsStep link d d'.payments q) (ht : link.targetType ≠ .product)
    (hnewest : (paymentsOf link.targetType link.targetId d').getLast? = some newest) :
    CanonicalProvider newest := by
  unfold paymentsOf at hnewest
  generalize d'.payments = ps at h hnewest
  rcases h with ⟨_, hnone, -, hcreated⟩ | ⟨p, f, hnew, hchanged⟩
  · have hof := hcreated.isOfTarget ht
    rw [List.filter_append, List.filter_cons_of_pos hof, List.filter_nil,
      List.getLast?_append] at hnewest
    obtain rfl : q = newest := by simpa using hnewest
    exact hcreated.provider
  · have hkeep : ∀ r, ofTarget link.targetType link.targetId
        (if Table.Keyed.key r = p.id then f r else r) = ofTarget link.targetType link.targetId r := by
      intro r
      split_ifs
      · exact (hchanged r).ofTarget link.targetType link.targetId
      · rfl
    unfold Table.modify at hnewest
    rw [List.filter_map, List.getLast?_map] at hnewest
    have hfun : (ofTarget link.targetType link.targetId ∘ fun r =>
        if Table.Keyed.key r = p.id then f r else r) = ofTarget link.targetType link.targetId :=
      funext hkeep
    rw [hfun] at hnewest
    have hlast : (d.payments.filter (ofTarget link.targetType link.targetId)).getLast? = some p := hnew
    rw [hlast] at hnewest
    obtain rfl : f p = newest := by simpa [Table.Keyed.key] using hnewest
    exact (hchanged p).provider

/-- The payment a settled link of MyFatoorah or Deema leaves for its target is not routed back,
whatever is saved in it later and whatever else is in the database by then. -/
theorem settled_payment_not_routed_back (gw : PaymentLinkGateway) (d : Db) (link : PaymentLinkRow)
    (state : GatewayPaymentState) (source : String) (env : ℕ → Env) (p : PaymentRow)
    (hgw : gw.providerLabel = "MyFatoorah" ∨ gw.providerLabel = "Deema")
    (hlink : Table.get d.paymentLinks link.id = some link) (ht : link.targetType ≠ .product)
    (hsettled : (exec env (applyTo link.id state source) d).1 = .ok (some .settled))
    (hp : (paymentsOf link.targetType link.targetId
      (exec env (applyTo link.id state source) d).2.1).getLast? = some p)
    (changes : List (PaymentRow → PaymentRow)) (later : Db) (answers : ℕ → Env) :
    ¬ RoutedBack gw (savedAgain changes p) later answers := by
  have hs := not_settled_of_exec hlink hsettled
  have happlied : Applied (fun _ => True) link state .settled d _ [] _ :=
    exec_applyTo (fun _ => trivial) hs hlink hsettled
  obtain ⟨q, hq⟩ := (happlied.settled rfl).payments ht
  have hcanonical := (hq.newest_canonical ht hp).savedAgain changes
  intro hrouted
  have hensures : Ensures (fun _ => True) _ (findPaymentForUpdate gw (savedAgain changes p).invoiceId)
      later [] := ensures_findPaymentForUpdate
  have hrun := hensures.exec answers
  rw [hrouted.found] at hrun
  exact hcanonical.ne_label hgw (hrun.2.2 _ rfl).2.2

/-! ## A booking that is paid again -/

def myFatoorah : PaymentLinkGateway := { name := "myfatoorah", providerLabel := "MyFatoorah" }

/-- The payment of booking 3 once `repayment` has settled. -/
def repaidPayment : PaymentRow :=
  ((paymentsOf .booking 3 (exec (fun _ => {}) (applyTo 5 repaidState "webhook") repaid).2.1).getLast?).getD
    { id := 1, totalAmount := 0 }

/-- The payment is in the database under the invoice of the webhook, and is not found. -/
theorem repaid_payment_not_found :
    repaidPayment ∈ (exec (fun _ => {}) (applyTo 5 repaidState "webhook") repaid).2.1.payments ∧
      repaidPayment.invoiceId = some "900" ∧
      (exec (fun _ => {}) (findPaymentForUpdate myFatoorah (some "900"))
        (exec (fun _ => {}) (applyTo 5 repaidState "webhook") repaid).2.1).1 = .ok none := by
  decide +kernel

theorem repaid_payment_not_routed_back :
    ¬ RoutedBack myFatoorah (savedAgain [id, id] repaidPayment)
      (exec (fun _ => {}) (applyTo 5 repaidState "webhook") repaid).2.1 (fun _ => {}) :=
  settled_payment_not_routed_back myFatoorah repaid repayment repaidState "webhook" (fun _ => {})
    repaidPayment (.inl rfl) (by decide +kernel) (by decide) (by decide +kernel) (by decide +kernel)
    [id, id] _ _

end PaymentLinks
