import UshBookNPay.Common.PaymentAttribution

/-!
# The attribution of a row that lacks some of the columns

`apply_attribution` works on any row: it asks with `hasattr` which of the four columns the row has,
and reads and writes those. Each save of a row runs it on what the save before has left.
-/

namespace PaymentAttribution

/-- `has`: the columns of the row among those `apply_attribution` writes. -/
structure Columns where
  paymentThrough : Bool := true
  paymentProvider : Bool := true
  paymentMethod : Bool := true
  paymentGateway : Bool := true
  deriving DecidableEq

def bookingColumns : Columns := {}

def paymentColumns : Columns := {}

def giftVoucherColumns : Columns := { paymentMethod := false, paymentGateway := false }

def shopOrderColumns : Columns := { paymentGateway := false }

/-- `getattr(obj, name, None)` -/
def Columns.visible (has : Columns) (a : Attribution) : Attribution :=
  { paymentThrough := if has.paymentThrough then a.paymentThrough else none
    paymentProvider := if has.paymentProvider then a.paymentProvider else none
    paymentMethod := if has.paymentMethod then a.paymentMethod else none
    paymentGateway := if has.paymentGateway then a.paymentGateway else none }

/-- `apply_attribution` on a row with the columns `has` and the statuses `statuses`. -/
def applyTo (has : Columns) (a : Attribution) (paymentData : Option Json)
    (statuses : List (Option String)) : Attribution :=
  let seen := has.visible a
  let provider := if has.paymentProvider then resolveProvider seen else none
  let method :=
    if has.paymentMethod then resolveMethod seen provider paymentData (isPaid statuses) else none
  let gw := Text.strip (Text.orEmpty seen.paymentGateway)
  { paymentThrough :=
      if has.paymentThrough then normaliseThrough a.paymentThrough else a.paymentThrough
    paymentProvider :=
      if has.paymentProvider then (if method = some "gift_voucher" then none else provider)
      else a.paymentProvider
    paymentMethod := if has.paymentMethod then method else a.paymentMethod
    paymentGateway :=
      if has.paymentGateway ∧ Text.lower gw ∈ ["", "other", "unknown", "none", "null"] then none
      else a.paymentGateway }

/-- Where one of the sources names `word`. -/
def Names (word : String) (sources : List Json) : Prop := Text.isIn word (gatewayText sources)

instance (word : String) (sources : List Json) : Decidable (Names word sources) :=
  inferInstanceAs (Decidable (_ = true))

/-- What the columns of a row say before its first save, if the second save changes it: the provider
label is unclear, neither the gateway nor the method names Boubyan or Deema, and the method is one of
their links all the same: by a label that is only spelt apart, or by what the gateway has answered. -/
def Drifts (a : Attribution) (paymentData : Option Json) : Prop :=
  let hints := [Json.ofText a.paymentGateway, Json.ofText a.paymentMethod]
  normaliseProvider a.paymentProvider = none ∧
    ¬Names "boubyan" hints ∧ ¬Names "deema" hints ∧
    (key a.paymentMethod ∈ ["deemalink", "boubyanlink"] ∨
      (∀ m ∈ METHOD_VALUES, key (some m) ≠ key a.paymentMethod) ∧
        ¬Names "apple" (hints ++ [paymentData.getD .null]) ∧
        (Names "deema" [paymentData.getD .null] ∨ Names "boubyan" [paymentData.getD .null]))

instance (a : Attribution) (paymentData : Option Json) : Decidable (Drifts a paymentData) :=
  inferInstanceAs (Decidable (_ ∧ _))

end PaymentAttribution
