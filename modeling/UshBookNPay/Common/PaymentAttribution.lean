import UshBookNPay.Common.Json

/-!
# How a payment is recorded

`apply_attribution` brings `payment_through`, `payment_provider`, `payment_method` and
`payment_gateway` of a row to their canonical values. The mapper events run it before every insert
and update of a booking, a payment or a gift voucher.
-/

namespace PaymentAttribution

/-- `_key`: the label without white space, underscores and hyphens -/
def key (value : Option String) : String :=
  String.ofList ((Text.lower (Text.strip (Text.orEmpty value))).toList.filter
    fun c => ¬ (Text.isSpace c ∨ c = '_' ∨ c = '-'))

def THROUGH : List (String × String) :=
  [("ushdesk", "ushdesk"), ("desk", "ushdesk"), ("pos", "ushdesk"), ("counter", "ushdesk"),
    ("reception", "ushdesk"), ("frontdesk", "ushdesk"), ("dashboard", "ushdesk"),
    ("admin", "ushdesk"), ("staff", "ushdesk"), ("ushweb", "ushweb"), ("web", "ushweb"),
    ("website", "ushweb"), ("ushspa", "ushspa"), ("app", "ushspa"), ("mobile", "ushspa"),
    ("mobileapp", "ushspa"), ("ios", "ushspa"), ("android", "ushspa"), ("ushspaapp", "ushspa")]

def normaliseThrough (value : Option String) : Option String := THROUGH.lookup (key value)

def PROVIDER : List (String × String) :=
  [("myfatoorah", "myfatoorah"), ("myfatora", "myfatoorah"), ("fatoorah", "myfatoorah"),
    ("paymentlink", "myfatoorah"), ("directlink", "myfatoorah"), ("direct", "myfatoorah"),
    ("deema", "tap"), ("deemapaymentlink", "tap"), ("deemalink", "tap"), ("tapdeema", "tap"),
    ("tap", "tap"), ("tapknet", "tap"), ("tapcard", "tap"), ("tapapplepay", "tap"),
    ("knetcard", "knet_pos"), ("knetpos", "knet_pos"), ("knetterminal", "knet_pos"),
    ("boubyan", "boubyan"), ("boubyanlink", "boubyan")]

def normaliseProvider (value : Option String) : Option String := PROVIDER.lookup (key value)

/-- The field names `gateway_text` looks under. -/
def gatewayKeys : List String :=
  ["paymentgateway", "payment_gateway", "paymentmethod", "payment_method", "gateway", "source",
    "invoicetransactions", "transactions", "data", "transaction"]

/-- `walk`: the texts found under the gateway keys, down to a depth of six. The first argument is the
number of levels left. -/
def walk : Nat → Json → List String
  | 0, _ => []
  | _ + 1, .str s => [s]
  | n + 1, .obj fields =>
    fields.flatMap fun kv => if Text.lower kv.1 ∈ gatewayKeys then walk n kv.2 else []
  | n + 1, .arr items => items.flatMap (walk n)
  | _ + 1, _ => []

/-- One source of `gateway_text`: a text that looks like JSON is parsed. -/
def sourceParts : Json → List String
  | .str s =>
    let stripped := Text.strip s
    -- `stripped[:1] in "{["` also holds of the empty text, on which `json.loads` fails
    if (stripped.toList.take 1) ∈ [[], ['{'], ['[']] then
      match Json.loads stripped with
      | some j => walk 7 j
      | none => [s]
    else [s]
  | j => walk 7 j

def gatewayText (sources : List Json) : String :=
  Text.lower (Text.join " " (sources.flatMap sourceParts))

def normaliseMethod (value : Option String) (provider gateway : Option String)
    (paymentData : Option Json) (paid : Bool) : Option String :=
  let text := gatewayText [Json.ofText value, Json.ofText gateway, paymentData.getD .null]
  if Text.isIn "apple" text then some "apple_pay"
  else if Text.isIn "deema" text then some "deema_link"
  else if Text.isIn "boubyan" text then some "boubyan_link"
  else if Text.isIn "voucher" text then some "gift_voucher"
  else if provider = some "tap" then some "deema_link"
  else if provider = some "boubyan" then some "boubyan_link"
  else if provider = some "knet_pos" then some "knet_card"
  else if provider = some "myfatoorah" then
    if ["knet", "visa", "master", "mada"].any (Text.isIn · text) then some "knet_card"
    else if paid then some "knet_card" else none
  else none

def PAID_STATUSES : List String := ["success", "paid", "completed", "rewarded"]

/-- `_is_paid`, on the values of `payment_status`, `status` and `transaction_status` the row has -/
def isPaid (statuses : List (Option String)) : Bool :=
  statuses.any fun v => Text.lower (Text.strip (Text.orEmpty v)) ∈ PAID_STATUSES

def METHOD_VALUES : List String :=
  ["knet_card", "apple_pay", "deema_link", "boubyan_link", "gift_voucher"]

/-- The attributes `apply_attribution` writes, of a row that has all four. -/
structure Attribution where
  paymentThrough : Option String := none
  paymentProvider : Option String := none
  paymentMethod : Option String := none
  paymentGateway : Option String := none
  deriving DecidableEq

/-- The provider of a row whose provider label is `raw`: an unclear label is replaced by what the
gateway and the method say. -/
def resolveProvider (a : Attribution) : Option String :=
  match normaliseProvider a.paymentProvider with
  | some p => some p
  | none =>
    let hint := gatewayText [Json.ofText a.paymentGateway, Json.ofText a.paymentMethod]
    if Text.isIn "boubyan" hint then some "boubyan"
    else if Text.isIn "deema" hint then some "tap"
    else none

def resolveMethod (a : Attribution) (provider : Option String) (paymentData : Option Json)
    (paid : Bool) : Option String :=
  match METHOD_VALUES.find? fun v => key (some v) = key a.paymentMethod with
  | some m => some m
  | none => normaliseMethod a.paymentMethod provider a.paymentGateway paymentData paid

def applyAttribution (a : Attribution) (paymentData : Option Json) (paid : Bool) : Attribution :=
  let provider := resolveProvider a
  let method := resolveMethod a provider paymentData paid
  let gw := Text.strip (Text.orEmpty a.paymentGateway)
  { paymentThrough := normaliseThrough a.paymentThrough
    paymentProvider := if method = some "gift_voucher" then none else provider
    paymentMethod := method
    paymentGateway :=
      if Text.lower gw ∈ ["", "other", "unknown", "none", "null"] then none
      else a.paymentGateway }

/-! ## Labels -/

/-- The provider column holds a canonical family or nothing. -/
def canonicalProviders : List String := ["myfatoorah", "tap", "knet_pos", "boubyan"]

theorem mem_of_lookup {l : List (String × String)} {k v : String} (h : l.lookup k = some v) :
    v ∈ l.map (·.2) := by
  induction l with
  | nil => simp at h
  | cons kv l ih =>
    rw [List.lookup_cons] at h
    split at h
    · simp only [Option.some.injEq] at h
      simp [h]
    · exact List.mem_cons_of_mem _ (ih h)

theorem normaliseProvider_canonical {value : Option String} {p : String}
    (h : normaliseProvider value = some p) : p ∈ canonicalProviders := by
  have hmem := mem_of_lookup h
  have hall : ∀ v ∈ PROVIDER.map (·.2), v ∈ canonicalProviders := by decide
  exact hall p hmem

theorem resolveProvider_canonical {a : Attribution} {p : String}
    (h : resolveProvider a = some p) : p ∈ canonicalProviders := by
  unfold resolveProvider at h
  split at h
  · rename_i q hq
    simp only [Option.some.injEq] at h
    exact h ▸ normaliseProvider_canonical hq
  · dsimp only at h
    split_ifs at h
    · simp only [Option.some.injEq] at h
      simp [← h, canonicalProviders]
    · simp only [Option.some.injEq] at h
      simp [← h, canonicalProviders]

/-- What a save leaves in `payment_provider`. -/
theorem applyAttribution_provider {a : Attribution} {paymentData : Option Json} {paid : Bool}
    {p : String} (h : (applyAttribution a paymentData paid).paymentProvider = some p) :
    p ∈ canonicalProviders := by
  unfold applyAttribution at h
  dsimp only at h
  split_ifs at h
  exact resolveProvider_canonical h

end PaymentAttribution
