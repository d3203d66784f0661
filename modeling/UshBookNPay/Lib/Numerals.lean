import Mathlib.Data.List.Lex
import Mathlib.Data.String.Basic

/-!
# Decimal numerals

Lists of decimal digits, with zeros in front or without: the number a list stands for, and the order
of the lists against the order of the numbers. Lists of one length are ordered as their numbers are;
with a longer list the order of the lists starts over.
-/

namespace Numerals

/-- Made of decimal digits. -/
def Digits (l : List Char) : Prop := ∀ c ∈ l, c.isDigit = true

/-- The number a list of digits stands for. -/
def value (l : List Char) : ℕ := Nat.ofDigitChars 10 l 0

/-- `n` with zeros in front, up to `width` digits. -/
def padded (width n : ℕ) : List Char :=
  List.replicate (width - (Nat.toDigits 10 n).length) '0' ++ Nat.toDigits 10 n

/-! ## The order of the lists -/

theorem digit_bounds {c : Char} (h : c.isDigit = true) : 48 ≤ c.toNat ∧ c.toNat ≤ 57 := by
  rw [Char.isDigit, Bool.and_eq_true, decide_eq_true_eq, decide_eq_true_eq] at h
  exact ⟨h.1, h.2⟩

theorem value_cons (c : Char) (l : List Char) :
    value (c :: l) = 10 ^ l.length * (c.toNat - 48) + value l := by
  unfold value
  rw [Nat.ofDigitChars_cons, Nat.ofDigitChars_eq_ofDigitChars_zero, Nat.mul_zero, Nat.zero_add]
  rfl

theorem value_lt {l : List Char} (h : Digits l) : value l < 10 ^ l.length := by
  induction l with
  | nil => decide
  | cons c l ih =>
    have hl := ih fun d hd => h d (List.mem_cons_of_mem _ hd)
    have hc := digit_bounds (h c List.mem_cons_self)
    rw [value_cons, List.length_cons, Nat.pow_succ]
    have hdigit : 10 ^ l.length * (c.toNat - 48) ≤ 10 ^ l.length * 9 :=
      Nat.mul_le_mul_left _ (by omega)
    omega

theorem char_lt_iff {c d : Char} : c < d ↔ c.toNat < d.toNat := Iff.rfl

theorem lt_iff_value_lt {l m : List Char} (hl : Digits l) (hm : Digits m)
    (hlen : l.length = m.length) : l < m ↔ value l < value m := by
  induction l generalizing m with
  | nil =>
    cases m with
    | nil => simp
    | cons d m => cases hlen
  | cons c l ih =>
    cases m with
    | nil => cases hlen
    | cons d m =>
      have hlen' : l.length = m.length := Nat.succ.inj hlen
      have hl' : Digits l := fun x hx => hl x (List.mem_cons_of_mem _ hx)
      have hm' : Digits m := fun x hx => hm x (List.mem_cons_of_mem _ hx)
      have hc := digit_bounds (hl c List.mem_cons_self)
      have hd := digit_bounds (hm d List.mem_cons_self)
      have hvl := value_lt hl'
      have hvm := value_lt hm'
      rw [List.cons_lt_cons_iff, char_lt_iff, ih hl' hm' hlen', value_cons, value_cons, hlen']
      rw [hlen'] at hvl
      constructor
      · rintro (hlt | ⟨rfl, hlt⟩)
        · -- a greater digit outweighs all that follow
          have hstep : 10 ^ m.length * (c.toNat - 48) + 10 ^ m.length ≤
              10 ^ m.length * (d.toNat - 48) := by
            rw [← Nat.mul_succ]
            exact Nat.mul_le_mul_left _ (by omega)
          omega
        · omega
      · intro h
        by_cases hcd : c.toNat < d.toNat
        · exact .inl hcd
        · have hge : 10 ^ m.length * (d.toNat - 48) ≤ 10 ^ m.length * (c.toNat - 48) :=
            Nat.mul_le_mul_left _ (by omega)
          rcases Nat.lt_or_ge d.toNat c.toNat with hgt | hle
          · have hstep : 10 ^ m.length * (d.toNat - 48) + 10 ^ m.length ≤
                10 ^ m.length * (c.toNat - 48) := by
              rw [← Nat.mul_succ]
              exact Nat.mul_le_mul_left _ (by omega)
            omega
          · have heq : c = d := Char.toNat_inj.mp (by omega)
            subst heq
            exact .inr ⟨rfl, by omega⟩

/-! ## Numbers with zeros in front -/

theorem digits_padded (width n : ℕ) : Digits (padded width n) := by
  intro c hc
  rcases List.mem_append.mp hc with hc | hc
  · rw [(List.mem_replicate.mp hc).2]
    decide
  · exact Nat.isDigit_of_mem_toDigits (by decide) (by decide) hc

@[simp] theorem value_padded (width n : ℕ) : value (padded width n) = n := by
  unfold value padded
  rw [Nat.ofDigitChars_append, Nat.ofDigitChars_replicate_zero, Nat.mul_zero,
    Nat.ofDigitChars_ten_toDigits]

theorem length_padded (width n : ℕ) :
    (padded width n).length = max width (Nat.toDigits 10 n).length := by
  unfold padded
  rw [List.length_append, List.length_replicate]
  omega

theorem padded_ne_nil (width n : ℕ) : padded width n ≠ [] := by
  unfold padded
  simp

theorem padded_injective (width : ℕ) : Function.Injective (padded width) := by
  intro m n h
  rw [← value_padded width m, h, value_padded]

/-- The next number is as long, unless it is the first one with another digit. -/
theorem length_padded_succ (width n : ℕ) :
    (padded width (n + 1)).length = (padded width n).length ∨
      ∃ j, width ≤ j ∧ n + 1 = 10 ^ j := by
  have hpos : 0 < (Nat.toDigits 10 n).length := Nat.length_toDigits_pos
  have hpos' : 0 < (Nat.toDigits 10 (n + 1)).length := Nat.length_toDigits_pos
  have hten : (1 : ℕ) < 10 := by decide
  have hn : n < 10 ^ (Nat.toDigits 10 n).length :=
    (Nat.length_toDigits_le_iff hten hpos).mp le_rfl
  have hgrows : (Nat.toDigits 10 n).length ≤ (Nat.toDigits 10 (n + 1)).length := by
    rw [Nat.length_toDigits_le_iff hten hpos']
    exact n.lt_succ_self.trans ((Nat.length_toDigits_le_iff hten hpos').mp le_rfl)
  rw [length_padded, length_padded]
  by_cases hfits : n + 1 < 10 ^ (Nat.toDigits 10 n).length
  · left
    have hle := (Nat.length_toDigits_le_iff hten hpos).mpr hfits
    omega
  · have hpow : n + 1 = 10 ^ (Nat.toDigits 10 n).length := by omega
    by_cases hwide : width ≤ (Nat.toDigits 10 n).length
    · exact .inr ⟨_, hwide, hpow⟩
    · left
      have hle : (Nat.toDigits 10 (n + 1)).length ≤ (Nat.toDigits 10 n).length + 1 := by
        rw [Nat.length_toDigits_le_iff hten (Nat.succ_pos _), Nat.pow_succ, ← hpow]
        omega
      omega

theorem padded_lt_iff {width m n : ℕ} (h : (padded width m).length = (padded width n).length) :
    padded width m < padded width n ↔ m < n := by
  rw [lt_iff_value_lt (digits_padded width m) (digits_padded width n) h, value_padded, value_padded]

/-- Up to the first number with another digit all numbers are of one length. -/
theorem length_padded_of_lt {width n : ℕ} (hwidth : 0 < width) (h : n < 10 ^ width) :
    (padded width n).length = width := by
  have hle := (Nat.length_toDigits_le_iff (by decide : 1 < 10) hwidth).mpr h
  rw [length_padded]
  omega

end Numerals
