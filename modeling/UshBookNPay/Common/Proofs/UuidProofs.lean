import UshBookNPay.Common.Values

/-!
# UUIDs as text

A UUID that is written and read again is the same one.
-/

/-- A text that lacks a character of `sub` has no `sub` to remove. -/
theorem Text.removeAllAux_of_not_mem {sub : List Char} {c : Char} (hsub : c ∈ sub) :
    ∀ (n : ℕ) {cs : List Char}, c ∉ cs → cs.length ≤ n → Text.removeAllAux sub n cs = cs
  | 0, cs, _, hlen => by
    rw [List.length_eq_zero_iff.mp (Nat.le_zero.mp hlen)]
    rfl
  | _ + 1, [], _, _ => rfl
  | n + 1, d :: cs, hcs, hlen => by
    have hnot : ¬ sub.isPrefixOf (d :: cs) := by
      intro h
      exact hcs ((List.isPrefixOf_iff_prefix.mp h).subset hsub)
    have htail : c ∉ cs := fun h => hcs (List.mem_cons_of_mem _ h)
    have ih := Text.removeAllAux_of_not_mem hsub n htail (Nat.le_of_succ_le_succ hlen)
    rw [Text.removeAllAux, if_neg hnot, ih]

theorem Text.removeAll_of_not_mem {sub cs : List Char} {c : Char} (hsub : c ∈ sub) (hcs : c ∉ cs) :
    Text.removeAll sub cs = cs :=
  Text.removeAllAux_of_not_mem hsub _ hcs le_rfl

theorem hexDigit_digitChar {d : ℕ} (h : d < 16) : hexDigit d.digitChar = some d := by
  have hall : ∀ d < 16, hexDigit d.digitChar = some d := by decide +kernel
  exact hall d h

/-- The number a list of hexadecimal digits stands for, as `parseUuid` reads it. -/
def hexValue (cs : List Char) : Option ℕ := cs.foldlM (fun n c => (hexDigit c).map (n * 16 + ·)) 0

theorem hexValue_toDigits (n : ℕ) : hexValue (Nat.toDigits 16 n) = some n := by
  induction n using Nat.strongRecOn with
  | ind n ih =>
    rw [Nat.toDigits_eq_if (by decide)]
    split_ifs with hlt
    · simp [hexValue, hexDigit_digitChar hlt]
    · have hlast := hexDigit_digitChar (Nat.mod_lt n (by decide : 0 < 16))
      have hinit := ih (n / 16) (by omega)
      unfold hexValue at hinit ⊢
      rw [List.foldlM_append, hinit]
      simp only [Option.bind_eq_bind, Option.bind_some, List.foldlM_cons, List.foldlM_nil, hlast,
        Option.map_some]
      exact congrArg some (by omega)

/-- Leading zeros add nothing. -/
theorem hexValue_replicate (k : ℕ) (cs : List Char) :
    hexValue (List.replicate k '0' ++ cs) = hexValue cs := by
  induction k with
  | zero => rfl
  | succ k ih =>
    rw [← ih]
    rfl

theorem not_mem_toDigits {c : Char} (hc : hexDigit c = none) (n : ℕ) : c ∉ Nat.toDigits 16 n := by
  induction n using Nat.strongRecOn with
  | ind n ih =>
    have hdigit : ∀ d < 16, c ≠ d.digitChar := by
      rintro d hd rfl
      rw [hexDigit_digitChar hd] at hc
      cases hc
    rw [Nat.toDigits_eq_if (by decide)]
    split_ifs with hlt
    · exact fun h => hdigit n hlt (List.mem_singleton.mp h)
    · intro h
      rcases List.mem_append.mp h with h | h
      · exact ih (n / 16) (by omega) h
      · exact hdigit _ (Nat.mod_lt n (by decide)) (List.mem_singleton.mp h)

/-- The groups of a UUID make up its digits. -/
theorem filter_groups {hex : List Char} (h : '-' ∉ hex) :
    (hex.take 8 ++ '-' :: (hex.drop 8).take 4 ++ '-' :: (hex.drop 12).take 4 ++
      '-' :: (hex.drop 16).take 4 ++ '-' :: hex.drop 20).filter (· ≠ '-') = hex := by
  have hkeep : ∀ cs : List Char, cs ⊆ hex → cs.filter (· ≠ '-') = cs := by
    intro cs hcs
    refine List.filter_eq_self.mpr fun c hc => ?_
    have hne : c ≠ '-' := by
      rintro rfl
      exact h (hcs hc)
    simpa using hne
  have hgroup : ∀ cs : List Char, cs ⊆ hex → ('-' :: cs).filter (· ≠ '-') = cs := by
    intro cs hcs
    rw [List.filter_cons_of_neg (by simp), hkeep cs hcs]
  have htake : ∀ m n, (hex.drop m).take n ⊆ hex :=
    fun m n c hc => List.drop_subset _ _ (List.take_subset _ _ hc)
  simp only [List.filter_append]
  rw [hkeep _ (List.take_subset 8 hex), hgroup _ (htake 8 4), hgroup _ (htake 12 4),
    hgroup _ (htake 16 4), hgroup _ (List.drop_subset 20 hex)]
  have hjoin : ∀ m n : ℕ, (hex.drop m).take n ++ hex.drop (m + n) = hex.drop m := by
    intro m n
    rw [← List.drop_drop]
    exact List.take_append_drop n (hex.drop m)
  rw [List.append_assoc, List.append_assoc, List.append_assoc, hjoin 16 4, hjoin 12 4, hjoin 8 4,
    List.take_append_drop]

theorem mem_groups {hex : List Char} {c : Char}
    (h : c ∈ hex.take 8 ++ '-' :: (hex.drop 8).take 4 ++ '-' :: (hex.drop 12).take 4 ++
      '-' :: (hex.drop 16).take 4 ++ '-' :: hex.drop 20) : c = '-' ∨ c ∈ hex := by
  have htake : ∀ m n, c ∈ (hex.drop m).take n → c ∈ hex :=
    fun m n hc => List.drop_subset _ _ (List.take_subset _ _ hc)
  have hdrop : c ∈ hex.drop 20 → c ∈ hex := fun hc => List.drop_subset _ _ hc
  have hhead : c ∈ hex.take 8 → c ∈ hex := fun hc => List.take_subset _ _ hc
  simp only [List.mem_append, List.mem_cons] at h
  rcases h with ((((h | h | h) | h | h) | h | h) | h | h)
  · exact .inr (hhead h)
  · exact .inl h
  · exact .inr (htake 8 4 h)
  · exact .inl h
  · exact .inr (htake 12 4 h)
  · exact .inl h
  · exact .inr (htake 16 4 h)
  · exact .inl h
  · exact .inr (hdrop h)

/-- A text without braces keeps its ends. -/
theorem dropWhile_brace {cs : List Char} (h : ∀ c ∈ cs, c ≠ '{' ∧ c ≠ '}') :
    cs.dropWhile (fun c => decide (c = '{' ∨ c = '}')) = cs := by
  cases cs with
  | nil => rfl
  | cons c cs => simp [h c List.mem_cons_self]

theorem parseUuid_uuidStr {id : Uuid} (h : id < 2 ^ 128) : parseUuid (uuidStr id) = some id := by
  generalize hhex : List.replicate (32 - (Nat.toDigits 16 id).length) '0' ++ Nat.toDigits 16 id = hex
  have hnot : ∀ c : Char, hexDigit c = none → c ∉ hex := by
    intro c hc hmem
    rw [← hhex] at hmem
    rcases List.mem_append.mp hmem with hmem | hmem
    · obtain rfl := (List.mem_replicate.mp hmem).2
      exact absurd hc (by decide)
    · exact not_mem_toDigits hc id hmem
  have hlen : hex.length = 32 := by
    have hle : (Nat.toDigits 16 id).length ≤ 32 :=
      (Nat.length_toDigits_le_iff (by decide) (by decide)).mpr (by simpa using h)
    rw [← hhex, List.length_append, List.length_replicate]
    omega
  have hvalue : hexValue hex = some id := by
    rw [← hhex, hexValue_replicate, hexValue_toDigits]
  have hother : ∀ c : Char, hexDigit c = none → c ≠ '-' →
      c ∉ hex.take 8 ++ '-' :: (hex.drop 8).take 4 ++ '-' :: (hex.drop 12).take 4 ++
        '-' :: (hex.drop 16).take 4 ++ '-' :: hex.drop 20 := by
    intro c hc hne hmem
    rcases mem_groups hmem with rfl | hmem
    · exact hne rfl
    · exact hnot c hc hmem
  have hfilter := filter_groups (hnot '-' (by decide))
  unfold parseUuid uuidStr
  simp only [hhex, String.toList_ofList]
  generalize hgroups : hex.take 8 ++ '-' :: (hex.drop 8).take 4 ++ '-' :: (hex.drop 12).take 4 ++
    '-' :: (hex.drop 16).take 4 ++ '-' :: hex.drop 20 = groups at hother hfilter ⊢
  have hcolon : ':' ∉ groups := hother ':' (by decide) (by decide)
  have hbraces : ∀ c ∈ groups, c ≠ '{' ∧ c ≠ '}' := by
    intro c hc
    constructor
    · rintro rfl
      exact hother _ (by decide) (by decide) hc
    · rintro rfl
      exact hother _ (by decide) (by decide) hc
  have hbraces' : ∀ c ∈ groups.reverse, c ≠ '{' ∧ c ≠ '}' :=
    fun c hc => hbraces c (List.mem_reverse.mp hc)
  rw [Text.removeAll_of_not_mem (by decide : ':' ∈ "urn:".toList) hcolon,
    Text.removeAll_of_not_mem (by decide : ':' ∈ "uuid:".toList) hcolon, dropWhile_brace hbraces,
    dropWhile_brace hbraces', List.reverse_reverse, hfilter, if_neg (not_not.mpr hlen)]
  exact hvalue

/-! ## Texts that are read -/

theorem hexDigit_lt {c : Char} {v : ℕ} (h : hexDigit c = some v) : v < 16 := by
  unfold hexDigit at h
  split_ifs at h with h0 ha hA
  · obtain ⟨-, hle⟩ := h0
    have hle' : c.toNat ≤ '9'.toNat := hle
    cases h
    simp at hle' ⊢
    omega
  · obtain ⟨-, hle⟩ := ha
    have hle' : c.toNat ≤ 'f'.toNat := hle
    cases h
    simp at hle' ⊢
    omega
  · obtain ⟨-, hle⟩ := hA
    have hle' : c.toNat ≤ 'F'.toNat := hle
    cases h
    simp at hle' ⊢
    omega

theorem foldlM_hexDigit_lt (cs : List Char) (n v : ℕ)
    (h : cs.foldlM (fun n c => (hexDigit c).map (n * 16 + ·)) n = some v) :
    v < (n + 1) * 16 ^ cs.length := by
  induction cs generalizing n with
  | nil =>
    cases h
    simp
  | cons c cs ih =>
    rw [List.foldlM_cons] at h
    cases hc : hexDigit c with
    | none =>
      rw [hc] at h
      cases h
    | some digit =>
      rw [hc] at h
      have hdigit := hexDigit_lt hc
      have hrest : v < (n * 16 + digit + 1) * 16 ^ cs.length := ih _ h
      have hle : n * 16 + digit + 1 ≤ (n + 1) * 16 := by omega
      rw [List.length_cons, pow_succ, Nat.mul_comm (16 ^ cs.length) 16, ← Nat.mul_assoc]
      exact lt_of_lt_of_le hrest (Nat.mul_le_mul_right _ hle)

/-- What is read fits a UUID. -/
theorem parseUuid_lt {text : String} {id : Uuid} (h : parseUuid text = some id) : id < 2 ^ 128 := by
  unfold parseUuid at h
  dsimp only at h
  split_ifs at h with hlen
  have hlt := foldlM_hexDigit_lt _ 0 id h
  rw [not_not.mp hlen] at hlt
  simpa using hlt
