import UshBookNPay.Common.Json

/-!
# Values of a dict

Which values are true, what stands under a key of a dict after `d[key] = value`, and what a text that
is read begins with.
-/

namespace Json

theorem truthy_str (x : String) : truthy (.str x) = decide (x ≠ "") := rfl

theorem truthy_arr (items : List Json) : truthy (.arr items) = decide (items ≠ []) := rfl

theorem truthy_obj (fields : List (String × Json)) : truthy (.obj fields) = decide (fields ≠ []) :=
  rfl

theorem lookup_map_replace (d : List (String × Json)) (key k : String) (value : Json) (h : d.any (·.1 = key)) :
    (d.map fun kv => if kv.1 = key then (key, value) else kv).lookup k =
      if k = key then some value else d.lookup k := by
  induction d with
  | nil => simp at h
  | cons kv d ih =>
    obtain ⟨k₀, v₀⟩ := kv
    rw [List.map_cons]
    by_cases hk₀ : k₀ = key
    · subst hk₀
      rw [if_pos rfl]
      by_cases hk : k = k₀
      · subst hk
        simp
      · have hbeq : (k == k₀) = false := by simpa using hk
        rw [if_neg hk, List.lookup_cons, List.lookup_cons, hbeq]
        dsimp only
        by_cases hany : d.any (·.1 = k₀)
        · rw [ih hany, if_neg hk]
        · have hmap : d.map (fun kv => if kv.1 = k₀ then (k₀, value) else kv) = d := by
            rw [List.map_congr_left (g := id), List.map_id]
            intro x hx
            exact if_neg fun hx' => hany (List.any_eq_true.mpr ⟨x, hx, by simpa using hx'⟩)
          rw [hmap]
    · rw [if_neg hk₀]
      have hany : d.any (·.1 = key) := by simpa [hk₀] using h
      rw [List.lookup_cons, List.lookup_cons, ih hany]
      by_cases hk : k = k₀
      · subst hk
        simp [hk₀]
      · have hbeq : (k == k₀) = false := by simpa using hk
        rw [hbeq]

theorem lookup_setField (d : List (String × Json)) (key k : String) (value : Json) :
    (setField d key value).lookup k = if k = key then some value else d.lookup k := by
  unfold setField
  by_cases hany : d.any (·.1 = key)
  · rw [if_pos hany]
    exact lookup_map_replace d key k value hany
  · rw [if_neg hany, List.lookup_append]
    by_cases hk : k = key
    · subst hk
      have hnone : d.lookup k = none := by
        rw [List.lookup_eq_none_iff]
        intro x hx
        have hne : ¬ x.1 = k := fun h => hany (List.any_eq_true.mpr ⟨x, hx, by simpa using h⟩)
        simpa using Ne.symm hne
      rw [hnone, if_pos rfl]
      simp
    · have hbeq : (k == key) = false := by simpa using hk
      rw [if_neg hk, List.lookup_cons, hbeq]
      simp

/-! ## The beginning of a value -/

/-- No value begins with a vertical tab or a form feed. -/
theorem parseValue_of_space {c : Char} (hc : c = '\x0b' ∨ c = '\x0c') (n : ℕ) (rest : List Char) :
    parseValue n (c :: rest) = none := by
  cases n with
  | zero => rfl
  | succ n =>
    rcases hc with rfl | rfl
    · rfl
    · rfl

theorem parseValue_nil (n : ℕ) : parseValue n [] = none := by
  cases n with
  | zero => rfl
  | succ n => rfl

theorem parseValue_emptyObject (n : ℕ) (rest : List Char) :
    parseValue (n + 1) ('{' :: '}' :: rest) = some (.obj [], rest) := rfl

end Json
