import Mathlib.Algebra.Order.Floor.Ring
import Mathlib.Data.Int.Log
import Mathlib.Data.Rat.Floor
import Mathlib.Tactic.Linarith

/-!
# Decimal fixed point

An amount with a fixed number of decimals is the integer count of its smallest units. A decimal
number is brought to that form by rounding half to even, the rounding of decimal arithmetic, whose
operations give their results to so many significant digits.
-/

namespace FixedPoint

/-- The nearest integer, the even one when two are equally near. -/
def roundHalfEven (q : ℚ) : ℤ :=
  if q - ⌊q⌋ < 1 / 2 then ⌊q⌋
  else if 1 / 2 < q - ⌊q⌋ then ⌊q⌋ + 1
  else if ⌊q⌋ % 2 = 0 then ⌊q⌋ else ⌊q⌋ + 1

@[simp] theorem roundHalfEven_intCast (n : ℤ) : roundHalfEven (n : ℚ) = n := by
  simp [roundHalfEven]

/-- A number to `p` significant digits: what an operation of decimal arithmetic gives for it. -/
def roundDigits (p : ℕ) (q : ℚ) : ℚ :=
  let e : ℤ := Int.log 10 |q| + 1 - p
  roundHalfEven (q / 10 ^ e) * 10 ^ e

/-- The fractional part is half a unit. -/
def IsHalf (q : ℚ) : Prop := q - ⌊q⌋ = 1 / 2

instance (q : ℚ) : Decidable (IsHalf q) := inferInstanceAs (Decidable (_ = _))

/-- Half a unit goes to the even neighbour. -/
theorem even_roundHalfEven {q : ℚ} (h : IsHalf q) : roundHalfEven q % 2 = 0 := by
  unfold IsHalf at h
  unfold roundHalfEven
  rw [h, if_neg (lt_irrefl _), if_neg (lt_irrefl _)]
  split_ifs with heven
  · exact heven
  · omega

/-- Whole units can be added before rounding or after it, but for an odd number of them and half a unit:
then the even neighbour is another one. -/
theorem roundHalfEven_intCast_add_iff (n : ℤ) (q : ℚ) :
    roundHalfEven (n + q) = n + roundHalfEven q ↔ ¬ (IsHalf q ∧ n % 2 = 1) := by
  have hfloor : ⌊(n : ℚ) + q⌋ = n + ⌊q⌋ := Int.floor_intCast_add n q
  have hfract : (n : ℚ) + q - ((n + ⌊q⌋ : ℤ) : ℚ) = q - ⌊q⌋ := by
    push_cast
    ring
  unfold roundHalfEven IsHalf
  rw [hfloor, hfract]
  by_cases hlt : q - ⌊q⌋ < 1 / 2
  · rw [if_pos hlt, if_pos hlt]
    exact ⟨fun _ h => absurd h.1 (ne_of_lt hlt), fun _ => rfl⟩
  · by_cases hgt : 1 / 2 < q - ⌊q⌋
    · rw [if_neg hlt, if_neg hlt, if_pos hgt, if_pos hgt]
      exact ⟨fun _ h => absurd h.1 (ne_of_gt hgt), fun _ => by omega⟩
    · have hhalf : q - ⌊q⌋ = 1 / 2 := le_antisymm (not_lt.mp hgt) (not_lt.mp hlt)
      rw [if_neg hlt, if_neg hlt, if_neg hgt, if_neg hgt]
      constructor
      · rintro h ⟨-, hodd⟩
        split_ifs at h <;> omega
      · intro h
        have heven : n % 2 = 0 := by
          by_contra hne
          exact h ⟨hhalf, by omega⟩
        split_ifs <;> omega

theorem isHalf_intCast_add (n : ℤ) (q : ℚ) : IsHalf (n + q) ↔ IsHalf q := by
  unfold IsHalf
  rw [Int.floor_intCast_add]
  push_cast
  rw [add_sub_add_left_eq_sub]

/-- Half a unit times an even number is whole. -/
theorem IsHalf.mul_even {q : ℚ} (h : IsHalf q) {m : ℕ} (hm : m % 2 = 0) :
    ∃ k : ℤ, q * m = k := by
  obtain ⟨j, rfl⟩ := Nat.dvd_of_mod_eq_zero hm
  refine ⟨⌊q⌋ * (2 * j) + j, ?_⟩
  have hq : q = ⌊q⌋ + 1 / 2 := by
    unfold IsHalf at h
    linarith
  calc q * ((2 * j : ℕ) : ℚ) = (⌊q⌋ + 1 / 2) * ((2 * j : ℕ) : ℚ) := by rw [← hq]
    _ = ((⌊q⌋ * (2 * j) + j : ℤ) : ℚ) := by
      push_cast
      ring

/-- Half a unit of the `d`-th decimal still goes to an even neighbour when the number is brought to `p`
significant digits first: that keeps it, rounds it to a whole unit already, or gives a multiple of ten
units. -/
theorem even_roundHalfEven_roundDigits (p d : ℕ) {q : ℚ} (h : IsHalf (q * 10 ^ d)) :
    roundHalfEven (roundDigits p q * 10 ^ d) % 2 = 0 := by
  unfold roundDigits
  dsimp only
  generalize Int.log 10 |q| + 1 - (p : ℤ) = e
  have hten : (10 : ℚ) ≠ 0 := by norm_num
  have hshift : ∀ r : ℚ, r * 10 ^ e * 10 ^ d = r * 10 ^ (e + d) := by
    intro r
    rw [mul_assoc, ← zpow_natCast, ← zpow_add₀ hten]
  rcases lt_trichotomy (e + d) 0 with hneg | hzero | hpos
  · -- the last digit lies below half a unit, and the number is kept
    obtain ⟨m, hm⟩ : ∃ m : ℕ, e + d = -((m + 1 : ℕ) : ℤ) := ⟨(-(e + d) - 1).toNat, by omega⟩
    obtain ⟨k, hk⟩ := h.mul_even (m := 10 ^ (m + 1)) (by rw [pow_succ]; omega)
    have hdiv : q / 10 ^ e = k := by
      rw [← hk]
      push_cast
      rw [← zpow_natCast, ← zpow_natCast, mul_assoc, ← zpow_add₀ hten, div_eq_mul_inv, ← zpow_neg]
      congr 2
      omega
    have hkeep : ((k : ℤ) : ℚ) * 10 ^ e = q := by
      rw [← hdiv]
      exact div_mul_cancel₀ q (zpow_ne_zero e hten)
    rw [hdiv, roundHalfEven_intCast, hkeep]
    exact even_roundHalfEven h
  · -- the last digit is the unit
    have hdiv : q / 10 ^ e = q * 10 ^ d := by
      rw [div_eq_mul_inv, ← zpow_neg, ← zpow_natCast]
      congr 2
      omega
    rw [hshift, hzero, zpow_zero, mul_one, roundHalfEven_intCast, hdiv]
    exact even_roundHalfEven h
  · -- tens of units and more
    obtain ⟨m, hm⟩ : ∃ m : ℕ, e + d = ((m + 1 : ℕ) : ℤ) := ⟨(e + d - 1).toNat, by omega⟩
    rw [hshift, hm, zpow_natCast]
    have hint : ((roundHalfEven (q / 10 ^ e) : ℤ) : ℚ) * 10 ^ (m + 1) =
        ((roundHalfEven (q / 10 ^ e) * 10 ^ m * 10 : ℤ) : ℚ) := by
      push_cast
      ring
    rw [hint, roundHalfEven_intCast]
    omega

/-- With half a unit of tolerance, comparing two amounts is comparing their counts of units. -/
theorem le_add_half_iff (a b : ℤ) : (a : ℚ) ≤ b + 1 / 2 ↔ a ≤ b := by
  constructor
  · intro h
    by_contra hlt
    have hle : (b + 1 : ℤ) ≤ a := by omega
    have hle' : ((b + 1 : ℤ) : ℚ) ≤ a := by exact_mod_cast hle
    push_cast at hle'
    linarith
  · intro h
    have h' : (a : ℚ) ≤ b := by exact_mod_cast h
    linarith

end FixedPoint
