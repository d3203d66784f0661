import UshBookNPay.Common.RowAttribution
import UshBookNPay.Lib.Lists

/-!
# Saving a row again

A second run of `apply_attribution` reads the canonical values the first one has left. They are
stable, up to a provider that the first run could not tell.
-/

namespace PaymentAttribution

/-! ## What the sources name -/

/-- A word that may be looked for in a gateway text: not empty, and without the blank that joins the
sources. -/
def IsWord (word : String) : Prop := word.toList ≠ [] ∧ ' ' ∉ word.toList

instance (word : String) : Decidable (IsWord word) := inferInstanceAs (Decidable (_ ∧ _))

theorem lower_join (parts : List String) :
    Text.lower (Text.join " " parts) = Text.join " " (parts.map Text.lower) := by
  have hchars : ∀ parts : List (List Char), (([' '].intercalate parts).map Text.lowerChar) =
      [' '].intercalate (parts.map (List.map Text.lowerChar)) := by
    intro parts
    induction parts with
    | nil => rfl
    | cons l parts ih =>
      cases parts with
      | nil => simp
      | cons l' parts =>
        rw [List.map_cons, List.map_cons, List.intercalate_cons_cons, List.intercalate_cons_cons,
          List.map_append, List.map_append, ih, List.map_cons]
        rfl
  have hsep : (" " : String).toList = [' '] := rfl
  simp only [Text.lower, Text.join, String.toList_ofList, hsep, hchars, List.map_map]
  congr 2
  exact List.map_congr_left fun s _ => by simp [Text.lower]

theorem isIn_iff {word text : String} :
    Text.isIn word text = true ↔ word.toList <:+: text.toList := decide_eq_true_iff

theorem names_iff {word : String} (hw : IsWord word) (sources : List Json) :
    Names word sources ↔
      ∃ part ∈ sources.flatMap sourceParts, Text.isIn word (Text.lower part) := by
  have hjoin : ∀ parts, (Text.join " " parts).toList = [' '].intercalate (parts.map String.toList) :=
    fun parts => String.toList_ofList
  unfold Names gatewayText
  rw [lower_join, isIn_iff, hjoin, Lists.infix_intercalate hw.2 hw.1]
  simp only [List.map_map, List.mem_map]
  constructor
  · rintro ⟨_, ⟨part, hpart, rfl⟩, hin⟩
    exact ⟨part, hpart, isIn_iff.mpr hin⟩
  · rintro ⟨part, hpart, hin⟩
    exact ⟨_, ⟨part, hpart, rfl⟩, isIn_iff.mp hin⟩

theorem names_append {word : String} (hw : IsWord word) (sources sources' : List Json) :
    Names word (sources ++ sources') ↔ Names word sources ∨ Names word sources' := by
  rw [names_iff hw, names_iff hw, names_iff hw, List.flatMap_append]
  constructor
  · rintro ⟨part, hpart, hin⟩
    exact (List.mem_append.mp hpart).imp (fun h => ⟨part, h, hin⟩) fun h => ⟨part, h, hin⟩
  · rintro (⟨part, hpart, hin⟩ | ⟨part, hpart, hin⟩)
    · exact ⟨part, List.mem_append_left _ hpart, hin⟩
    · exact ⟨part, List.mem_append_right _ hpart, hin⟩

theorem names_pair {word : String} (hw : IsWord word) (a b : Json) :
    Names word [a, b] ↔ Names word [a] ∨ Names word [b] := names_append hw [a] [b]

theorem names_triple {word : String} (hw : IsWord word) (a b c : Json) :
    Names word [a, b, c] ↔ Names word [a] ∨ Names word [b] ∨ Names word [c] := by
  rw [← names_pair hw b c]
  exact names_append hw [a] [b, c]

theorem not_names_none {word : String} (hw : IsWord word) : ¬Names word [Json.ofText none] := by
  rw [names_iff hw]
  rintro ⟨part, hpart, -⟩
  simp [Json.ofText, sourceParts, walk] at hpart

/-! ## Canonical labels -/

theorem normaliseThrough_again (value : Option String) :
    normaliseThrough (normaliseThrough value) = normaliseThrough value := by
  have hall : ∀ v ∈ THROUGH.map (·.2), normaliseThrough (some v) = some v := by decide
  cases h : normaliseThrough value with
  | none => decide
  | some v => exact hall v (mem_of_lookup h)

theorem normaliseProvider_self {p : String} (hp : p ∈ canonicalProviders) :
    normaliseProvider (some p) = some p := by
  have hall : ∀ p ∈ canonicalProviders, normaliseProvider (some p) = some p := by decide
  exact hall p hp

section Method

variable {a a' : Attribution} {provider : Option String} {paymentData : Option Json} {paid : Bool}

/-- The sources of a method that is no canonical label. -/
def methodSources (a : Attribution) (paymentData : Option Json) : List Json :=
  [Json.ofText a.paymentMethod, Json.ofText a.paymentGateway, paymentData.getD .null]

theorem normaliseMethod_eq :
    normaliseMethod a.paymentMethod provider a.paymentGateway paymentData paid =
      if Names "apple" (methodSources a paymentData) then some "apple_pay"
      else if Names "deema" (methodSources a paymentData) then some "deema_link"
      else if Names "boubyan" (methodSources a paymentData) then some "boubyan_link"
      else if Names "voucher" (methodSources a paymentData) then some "gift_voucher"
      else if provider = some "tap" then some "deema_link"
      else if provider = some "boubyan" then some "boubyan_link"
      else if provider = some "knet_pos" then some "knet_card"
      else if provider = some "myfatoorah" then
        if ∃ word ∈ ["knet", "visa", "master", "mada"], Names word (methodSources a paymentData) then
          some "knet_card"
        else if paid then some "knet_card" else none
      else none := by
  unfold normaliseMethod
  simp only [List.any_eq_true]
  rfl

theorem normaliseMethod_mem {m : String}
    (h : normaliseMethod a.paymentMethod provider a.paymentGateway paymentData paid = some m) :
    m ∈ METHOD_VALUES := by
  rw [normaliseMethod_eq] at h
  split_ifs at h
  all_goals
    rw [← Option.some.inj h]
    decide

theorem resolveMethod_mem {m : String} (h : resolveMethod a provider paymentData paid = some m) :
    m ∈ METHOD_VALUES := by
  unfold resolveMethod at h
  split at h
  · rename_i hfind
    exact Option.some.inj h ▸ List.mem_of_find?_eq_some hfind
  · exact normaliseMethod_mem h

theorem resolveMethod_self {m : String} (hm : m ∈ METHOD_VALUES) (ha : a.paymentMethod = some m) :
    resolveMethod a provider paymentData paid = some m := by
  have hall : ∀ m ∈ METHOD_VALUES,
      (METHOD_VALUES.find? fun v => key (some v) = key (some m)) = some m := by decide
  unfold resolveMethod
  rw [ha, hall m hm]

/-- A method that cannot be told is not told later either, if the sources name no more than before. -/
theorem resolveMethod_none (h : resolveMethod a provider paymentData paid = none)
    (ha : a'.paymentMethod = none)
    (hg : ∀ word, IsWord word → Names word [Json.ofText a'.paymentGateway] →
      Names word [Json.ofText a.paymentGateway]) :
    resolveMethod a' provider paymentData paid = none := by
  have hblank : (METHOD_VALUES.find? fun v => key (some v) = key none) = none := by decide
  have hfewer : ∀ word, IsWord word → Names word (methodSources a' paymentData) →
      Names word (methodSources a paymentData) := by
    intro word hw hnames
    unfold methodSources at hnames ⊢
    rw [names_triple hw, ha] at hnames
    rw [names_triple hw]
    rcases hnames with hmethod | hgateway | hdata
    · exact absurd hmethod (not_names_none hw)
    · exact .inr (.inl (hg word hw hgateway))
    · exact .inr (.inr hdata)
  unfold resolveMethod at h ⊢
  rw [ha, hblank]
  split at h
  · cases h
  have hrest : normaliseMethod a'.paymentMethod provider a'.paymentGateway paymentData paid = none := by
    rw [normaliseMethod_eq] at h ⊢
    split_ifs at h with happle hdeema hboubyan hvoucher htap hb hknet hmf hcard hpaid
    · have hcard' : ¬∃ word ∈ ["knet", "visa", "master", "mada"],
          Names word (methodSources a' paymentData) := by
        rintro ⟨word, hword, hnames⟩
        have hw : ∀ word ∈ ["knet", "visa", "master", "mada"], IsWord word := by decide
        exact hcard ⟨word, hword, hfewer word (hw word hword) hnames⟩
      rw [if_neg (mt (hfewer _ (by decide)) happle), if_neg (mt (hfewer _ (by decide)) hdeema),
        if_neg (mt (hfewer _ (by decide)) hboubyan), if_neg (mt (hfewer _ (by decide)) hvoucher),
        if_neg htap, if_neg hb, if_neg hknet, if_pos hmf, if_neg hcard', if_neg hpaid]
    · rw [if_neg (mt (hfewer _ (by decide)) happle), if_neg (mt (hfewer _ (by decide)) hdeema),
        if_neg (mt (hfewer _ (by decide)) hboubyan), if_neg (mt (hfewer _ (by decide)) hvoucher),
        if_neg htap, if_neg hb, if_neg hknet, if_neg hmf]
  rwa [ha] at hrest

/-- The method of a row whose provider cannot be told is one of the two links. -/
theorem resolveMethod_link (hunknown : normaliseProvider a.paymentProvider = none)
    (hboubyan : ¬Names "boubyan" [Json.ofText a.paymentGateway, Json.ofText a.paymentMethod])
    (hdeema : ¬Names "deema" [Json.ofText a.paymentGateway, Json.ofText a.paymentMethod]) :
    (∃ m ∈ ["deema_link", "boubyan_link"], resolveMethod a none paymentData paid = some m) ↔
      Drifts a paymentData := by
  -- only the answer of the gateway can name one of the two
  have hdata : ∀ word, IsWord word →
      ¬Names word [Json.ofText a.paymentGateway, Json.ofText a.paymentMethod] →
      (Names word (methodSources a paymentData) ↔ Names word [paymentData.getD .null]) := by
    intro word hw hnot
    rw [names_pair hw, not_or] at hnot
    unfold methodSources
    rw [names_triple hw]
    exact ⟨fun h => (h.resolve_left hnot.2).resolve_left hnot.1, fun h => .inr (.inr h)⟩
  have happle : Names "apple" (methodSources a paymentData) ↔
      Names "apple" ([Json.ofText a.paymentGateway, Json.ofText a.paymentMethod] ++
        [paymentData.getD .null]) := by
    have hw : IsWord "apple" := by decide
    unfold methodSources
    rw [names_triple hw, names_append hw, names_pair hw]
    constructor
    · rintro (h | h | h)
      exacts [.inl (.inr h), .inl (.inl h), .inr h]
    · rintro ((h | h) | h)
      exacts [.inr (.inl h), .inl h, .inr (.inr h)]
  have hlinks : ∀ m ∈ METHOD_VALUES,
      (key (some m) ∈ ["deemalink", "boubyanlink"] ↔ m ∈ ["deema_link", "boubyan_link"]) := by decide
  unfold Drifts resolveMethod
  cases hfind : METHOD_VALUES.find? fun v => key (some v) = key a.paymentMethod with
  | some m =>
    have hm := List.mem_of_find?_eq_some hfind
    have hkey : key (some m) = key a.paymentMethod := by simpa using List.find?_some hfind
    constructor
    · rintro ⟨m', hlink, heq⟩
      rw [← Option.some.inj heq, ← hlinks m hm, hkey] at hlink
      exact ⟨hunknown, hboubyan, hdeema, .inl hlink⟩
    · rintro ⟨-, -, -, hlink | ⟨hother, -⟩⟩
      · rw [← hkey, hlinks m hm] at hlink
        exact ⟨m, hlink, rfl⟩
      · exact absurd hkey (hother m hm)
  | none =>
    have hother : ∀ m ∈ METHOD_VALUES, key (some m) ≠ key a.paymentMethod := by
      simpa using List.find?_eq_none.mp hfind
    have hnolink : key a.paymentMethod ∉ ["deemalink", "boubyanlink"] := by
      have hkeys : ∀ k ∈ ["deemalink", "boubyanlink"], ∃ m ∈ METHOD_VALUES, key (some m) = k := by
        decide
      intro hlink
      obtain ⟨m, hm, hkey⟩ := hkeys _ hlink
      exact hother m hm hkey
    dsimp only
    have hnamed := hdata "deema" (by decide) hdeema
    have hnamed' := hdata "boubyan" (by decide) hboubyan
    simp only [normaliseMethod_eq, happle, hnamed, hnamed', reduceCtorEq, if_false]
    constructor
    · rintro ⟨m, hlink, heq⟩
      refine ⟨hunknown, hboubyan, hdeema, .inr ⟨hother, ?_⟩⟩
      split_ifs at heq with h1 h2 h3 h4
      · cases heq
        exact absurd hlink (by decide)
      · exact ⟨h1, .inl h2⟩
      · exact ⟨h1, .inr h3⟩
      · cases heq
        exact absurd hlink (by decide)
    · rintro ⟨-, -, -, hlink | ⟨-, hnoapple, hnamed⟩⟩
      · exact absurd hlink hnolink
      · rw [if_neg hnoapple]
        by_cases hd : Names "deema" [paymentData.getD .null]
        · exact ⟨"deema_link", by decide, by rw [if_pos hd]⟩
        · exact ⟨"boubyan_link", by decide, by rw [if_neg hd, if_pos (hnamed.resolve_left hd)]⟩

end Method

theorem resolveProvider_none {a : Attribution} :
    resolveProvider a = none ↔ normaliseProvider a.paymentProvider = none ∧
      ¬Names "boubyan" [Json.ofText a.paymentGateway, Json.ofText a.paymentMethod] ∧
      ¬Names "deema" [Json.ofText a.paymentGateway, Json.ofText a.paymentMethod] := by
  unfold resolveProvider
  cases normaliseProvider a.paymentProvider with
  | some p => simp
  | none =>
    show (if Names "boubyan" [Json.ofText a.paymentGateway, Json.ofText a.paymentMethod] then
      some "boubyan" else if Names "deema" [Json.ofText a.paymentGateway, Json.ofText a.paymentMethod]
      then some "tap" else none) = none ↔ _
    by_cases hb : Names "boubyan" [Json.ofText a.paymentGateway, Json.ofText a.paymentMethod]
    · simp [hb]
    · by_cases hd : Names "deema" [Json.ofText a.paymentGateway, Json.ofText a.paymentMethod]
      · simp [hb, hd]
      · simp [hb, hd]

/-! ## The row that was saved -/

section Saved

variable (has : Columns) (a : Attribution) (paymentData : Option Json)
  (statuses : List (Option String))

/-- The provider a save computes, before it is taken back for a voucher. -/
def savedProvider : Option String :=
  if has.paymentProvider then resolveProvider (has.visible a) else none

/-- The method a save computes. -/
def savedMethod : Option String :=
  if has.paymentMethod then
    resolveMethod (has.visible a) (savedProvider has a) paymentData (isPaid statuses)
  else none

theorem applyTo_provider (hp : has.paymentProvider = true) :
    (applyTo has a paymentData statuses).paymentProvider =
      if savedMethod has a paymentData statuses = some "gift_voucher" then none
      else savedProvider has a := by
  simp only [applyTo, savedMethod, savedProvider, hp, if_true]

theorem applyTo_method (hm : has.paymentMethod = true) :
    (applyTo has a paymentData statuses).paymentMethod = savedMethod has a paymentData statuses := by
  simp only [applyTo, savedMethod, savedProvider, hm, if_true]

theorem applyTo_gateway :
    (has.visible (applyTo has a paymentData statuses)).paymentGateway = none ∨
      (has.visible (applyTo has a paymentData statuses)).paymentGateway =
        (has.visible a).paymentGateway := by
  simp only [applyTo, Columns.visible]
  split_ifs
  · exact .inl rfl
  · exact .inr rfl
  · exact .inl rfl

theorem visible_method :
    (has.visible (applyTo has a paymentData statuses)).paymentMethod =
      savedMethod has a paymentData statuses := by
  by_cases hm : has.paymentMethod = true
  · show (if has.paymentMethod then _ else none) = _
    rw [if_pos hm, applyTo_method has a paymentData statuses hm]
  · simp only [Columns.visible, savedMethod, if_neg hm]

theorem savedMethod_mem {m : String} (h : savedMethod has a paymentData statuses = some m) :
    m ∈ METHOD_VALUES := by
  unfold savedMethod at h
  split_ifs at h
  exact resolveMethod_mem h

/-- The saved gateway names no more than the one before. -/
theorem fewer_gateway {word : String} (hw : IsWord word)
    (h : Names word [Json.ofText (has.visible (applyTo has a paymentData statuses)).paymentGateway]) :
    Names word [Json.ofText (has.visible a).paymentGateway] := by
  rcases applyTo_gateway has a paymentData statuses with hnone | hsame
  · rw [hnone] at h
    exact absurd h (not_names_none hw)
  · rwa [hsame] at h

/-- A provider the first save could tell is told again. -/
theorem savedProvider_again {p : String} (hp : savedProvider has a = some p)
    (hm : savedMethod has a paymentData statuses ≠ some "gift_voucher") :
    savedProvider has (applyTo has a paymentData statuses) = some p := by
  have hcol : has.paymentProvider = true := by
    by_contra hcol
    simp [savedProvider, hcol] at hp
  have hkept := applyTo_provider has a paymentData statuses hcol
  rw [if_neg hm, hp] at hkept
  simp only [savedProvider, hcol, if_true] at hp ⊢
  have hvisible : (has.visible (applyTo has a paymentData statuses)).paymentProvider = some p := by
    simp only [Columns.visible, hcol, if_true]
    exact hkept
  unfold resolveProvider
  rw [hvisible, normaliseProvider_self (resolveProvider_canonical hp)]

/-- A provider the first save could not tell is told by the second one from the method of a link. -/
theorem savedProvider_later (hcol : has.paymentProvider = true) (hp : savedProvider has a = none) :
    savedProvider has (applyTo has a paymentData statuses) = none ↔
      ∀ m ∈ ["deema_link", "boubyan_link"], savedMethod has a paymentData statuses ≠ some m := by
  have hkept := applyTo_provider has a paymentData statuses hcol
  rw [hp, ite_self] at hkept
  have hblank : normaliseProvider none = none := by decide
  have hvisible : (has.visible (applyTo has a paymentData statuses)).paymentProvider = none := by
    simp only [Columns.visible, hcol, if_true]
    exact hkept
  simp only [savedProvider, hcol, if_true] at hp ⊢
  obtain ⟨-, hboubyan, hdeema⟩ := resolveProvider_none.mp hp
  have hb : IsWord "boubyan" := by decide
  have hd : IsWord "deema" := by decide
  rw [names_pair hb, not_or] at hboubyan
  rw [names_pair hd, not_or] at hdeema
  rw [resolveProvider_none, hvisible, names_pair hb, names_pair hd, visible_method]
  have hnamed : ∀ m ∈ METHOD_VALUES,
      (¬Names "boubyan" [Json.ofText (some m)] ∧ ¬Names "deema" [Json.ofText (some m)] ↔
        m ∉ ["deema_link", "boubyan_link"]) := by decide
  have hgb := mt (fewer_gateway has a paymentData statuses hb) hboubyan.1
  have hgd := mt (fewer_gateway has a paymentData statuses hd) hdeema.1
  cases hm : savedMethod has a paymentData statuses with
  | none => simp [hblank, hgb, hgd, not_names_none hb, not_names_none hd]
  | some m =>
    have hlink := hnamed m (savedMethod_mem has a paymentData statuses hm)
    simp only [hblank, hgb, hgd, false_or, true_and, hlink]
    constructor
    · intro hnot m' hm' heq
      exact hnot (Option.some.inj heq ▸ hm')
    · intro hall hmem
      exact hall m hmem rfl

theorem savedMethod_again :
    savedMethod has (applyTo has a paymentData statuses) paymentData statuses =
      savedMethod has a paymentData statuses := by
  by_cases hcol : has.paymentMethod = true
  · have hvisible := visible_method has a paymentData statuses
    cases hm : savedMethod has a paymentData statuses with
    | some m =>
      rw [hm] at hvisible
      rw [savedMethod, if_pos hcol]
      exact resolveMethod_self (savedMethod_mem has a paymentData statuses hm) hvisible
    | none =>
      have hprovider :
          savedProvider has (applyTo has a paymentData statuses) = savedProvider has a := by
        cases hp : savedProvider has a with
        | some p => exact savedProvider_again has a paymentData statuses hp (by simp [hm])
        | none =>
          by_cases hpcol : has.paymentProvider = true
          · exact (savedProvider_later has a paymentData statuses hpcol hp).mpr (by simp [hm])
          · rw [savedProvider, if_neg hpcol]
      have hfirst := hm
      rw [hm] at hvisible
      rw [savedMethod, if_pos hcol] at hfirst ⊢
      rw [hprovider]
      exact resolveMethod_none hfirst hvisible fun _ hw => fewer_gateway has a paymentData statuses hw
  · rw [savedMethod, if_neg hcol, savedMethod, if_neg hcol]

theorem applyTo_through_again :
    (applyTo has (applyTo has a paymentData statuses) paymentData statuses).paymentThrough =
      (applyTo has a paymentData statuses).paymentThrough := by
  simp only [applyTo]
  split_ifs
  · exact normaliseThrough_again _
  · rfl

theorem applyTo_method_again :
    (applyTo has (applyTo has a paymentData statuses) paymentData statuses).paymentMethod =
      (applyTo has a paymentData statuses).paymentMethod := by
  by_cases hcol : has.paymentMethod = true
  · rw [applyTo_method _ _ _ _ hcol, applyTo_method _ _ _ _ hcol, savedMethod_again]
  · simp only [applyTo, if_neg hcol]

theorem applyTo_gateway_again :
    (applyTo has (applyTo has a paymentData statuses) paymentData statuses).paymentGateway =
      (applyTo has a paymentData statuses).paymentGateway := by
  by_cases hcol : has.paymentGateway = true
  · simp only [applyTo, Columns.visible, hcol, if_true, true_and]
    split_ifs
    all_goals rfl
  · simp only [applyTo, hcol, Bool.false_eq_true, false_and, if_false]

/-- The rows whose provider is told only by the second save. -/
theorem drifts_iff (hp : has.paymentProvider = true) (hm : has.paymentMethod = true) :
    Drifts (has.visible a) paymentData ↔ savedProvider has a = none ∧
      ∃ m ∈ ["deema_link", "boubyan_link"], savedMethod has a paymentData statuses = some m := by
  have hmethod : savedProvider has a = none →
      savedMethod has a paymentData statuses =
        resolveMethod (has.visible a) none paymentData (isPaid statuses) := by
    intro hnone
    rw [savedMethod, if_pos hm, hnone]
  have hprovider : savedProvider has a = resolveProvider (has.visible a) := if_pos hp
  constructor
  · intro h
    have hnone : savedProvider has a = none :=
      hprovider.trans (resolveProvider_none.mpr ⟨h.1, h.2.1, h.2.2.1⟩)
    rw [hmethod hnone]
    exact ⟨hnone, (resolveMethod_link h.1 h.2.1 h.2.2.1).mpr h⟩
  · rintro ⟨hnone, hlink⟩
    rw [hmethod hnone] at hlink
    obtain ⟨hunknown, hboubyan, hdeema⟩ := resolveProvider_none.mp (hprovider.symm.trans hnone)
    exact (resolveMethod_link hunknown hboubyan hdeema).mp hlink

/-- Of the four columns only the provider can change again. -/
theorem applyTo_again_iff :
    applyTo has (applyTo has a paymentData statuses) paymentData statuses =
        applyTo has a paymentData statuses ↔
      (applyTo has (applyTo has a paymentData statuses) paymentData statuses).paymentProvider =
        (applyTo has a paymentData statuses).paymentProvider := by
  constructor
  · intro h
    rw [h]
  · intro h
    have hthrough := applyTo_through_again has a paymentData statuses
    have hmethod := applyTo_method_again has a paymentData statuses
    have hgateway := applyTo_gateway_again has a paymentData statuses
    revert h hthrough hmethod hgateway
    generalize applyTo has (applyTo has a paymentData statuses) paymentData statuses = later
    generalize applyTo has a paymentData statuses = saved
    intro h hthrough hmethod hgateway
    cases later
    cases saved
    simp_all

end Saved

/-- A later save leaves the columns as the first one has left them, up to the rows whose provider is told
only by the second save. -/
theorem saved_again_iff (has : Columns) (a : Attribution) (paymentData : Option Json)
    (statuses : List (Option String)) :
    applyTo has (applyTo has a paymentData statuses) paymentData statuses =
        applyTo has a paymentData statuses ↔
      ¬(has.paymentProvider = true ∧ has.paymentMethod = true ∧
        Drifts (has.visible a) paymentData) := by
  rw [applyTo_again_iff]
  by_cases hp : has.paymentProvider = true
  · rw [applyTo_provider _ _ _ _ hp, applyTo_provider _ _ _ _ hp, savedMethod_again]
    by_cases hvoucher : savedMethod has a paymentData statuses = some "gift_voucher"
    · rw [if_pos hvoucher, if_pos hvoucher]
      refine ⟨fun _ => ?_, fun _ => rfl⟩
      rintro ⟨-, hm, hdrifts⟩
      obtain ⟨-, m, hlink, heq⟩ := (drifts_iff has a paymentData statuses hp hm).mp hdrifts
      rw [hvoucher] at heq
      cases heq
      exact absurd hlink (by decide)
    rw [if_neg hvoucher, if_neg hvoucher]
    cases hsaved : savedProvider has a with
    | some p =>
      refine ⟨fun _ => ?_, fun _ => savedProvider_again has a paymentData statuses hsaved hvoucher⟩
      rintro ⟨-, hm, hdrifts⟩
      have hnone := ((drifts_iff has a paymentData statuses hp hm).mp hdrifts).1
      rw [hsaved] at hnone
      cases hnone
    | none =>
      rw [savedProvider_later has a paymentData statuses hp hsaved]
      constructor
      · rintro hother ⟨-, hm, hdrifts⟩
        obtain ⟨-, m, hlink, heq⟩ := (drifts_iff has a paymentData statuses hp hm).mp hdrifts
        exact hother m hlink heq
      · intro hnot m hlink heq
        have hm : has.paymentMethod = true := by
          by_contra hm
          rw [savedMethod, if_neg hm] at heq
          cases heq
        exact hnot ⟨hp, hm, (drifts_iff has a paymentData statuses hp hm).mpr ⟨hsaved, m, hlink, heq⟩⟩
  · simp only [applyTo, hp, Bool.false_eq_true, if_false, false_and, not_false_iff]

/-- Where a row has all four columns. -/
theorem applyTo_all (a : Attribution) (paymentData : Option Json) (statuses : List (Option String)) :
    applyTo {} a paymentData statuses = applyAttribution a paymentData (isPaid statuses) := by
  simp only [applyTo, applyAttribution, Columns.visible, if_true, true_and]

/-- A booking paid at Deema, as the answer of the gateway says, and without other labels: the first save
gives it the method alone, the second one the provider. -/
theorem provider_told_later :
    applyTo bookingColumns (applyTo bookingColumns {} (some (.obj [("gateway", .str "deema")])) [])
        (some (.obj [("gateway", .str "deema")])) [] ≠
      applyTo bookingColumns {} (some (.obj [("gateway", .str "deema")])) [] := by
  decide

end PaymentAttribution
