import Mathlib.Data.Rat.Floor
import Mathlib.Tactic.Linarith
import Mathlib.Tactic.NormNum
import Mathlib.Tactic.Positivity

namespace python

/-- The nearest integer, and the even one of two that are equally near. -/
def roundHalfEven (x : ℚ) : ℤ :=
  if x - ⌊x⌋ < 1 / 2 then ⌊x⌋
  else if 1 / 2 < x - ⌊x⌋ then ⌊x⌋ + 1
  else if ⌊x⌋ % 2 = 0 then ⌊x⌋ else ⌊x⌋ + 1

theorem roundHalfEven_eq_floor_or (x : ℚ) : roundHalfEven x = ⌊x⌋ ∨ roundHalfEven x = ⌊x⌋ + 1 := by
  unfold roundHalfEven
  split_ifs <;> simp

@[simp] theorem roundHalfEven_intCast (n : ℤ) : roundHalfEven (n : ℚ) = n := by
  simp [roundHalfEven]

/-- Rounding moves a number by at most one half. -/
theorem abs_roundHalfEven_sub_le (x : ℚ) : |(roundHalfEven x : ℚ) - x| ≤ 1 / 2 := by
  have hlow := Int.floor_le x
  have hhigh := Int.lt_floor_add_one x
  unfold roundHalfEven
  rw [abs_le]
  split_ifs with hbelow habove heven
  · constructor <;> linarith
  · push_cast
    constructor <;> linarith
  · constructor <;> linarith
  · push_cast
    constructor <;> linarith

theorem roundHalfEven_mono {x y : ℚ} (hle : x ≤ y) : roundHalfEven x ≤ roundHalfEven y := by
  have hfloor : ⌊x⌋ ≤ ⌊y⌋ := Int.floor_mono hle
  obtain hlt | heq := hfloor.lt_or_eq
  · rcases roundHalfEven_eq_floor_or x with hx | hx <;>
      rcases roundHalfEven_eq_floor_or y with hy | hy <;> omega
  · -- Both lie in one unit interval, where only the fractional parts decide.
    have hfract : x - ⌊x⌋ ≤ y - ⌊y⌋ := by
      rw [heq]
      linarith
    unfold roundHalfEven
    rw [heq] at hfract ⊢
    split_ifs <;> first | omega | linarith

theorem roundHalfEven_nonneg {x : ℚ} (hx : 0 ≤ x) : 0 ≤ roundHalfEven x := by
  have hmono := roundHalfEven_mono hx
  rwa [show (0 : ℚ) = ((0 : ℤ) : ℚ) by norm_num, roundHalfEven_intCast] at hmono

/-- Rounding to a number of decimals. -/
def roundDecimals (x : ℚ) (digits : ℕ) : ℚ := (roundHalfEven (x * 10 ^ digits) : ℚ) / 10 ^ digits

theorem roundDecimals_mono {x y : ℚ} (digits : ℕ) (hle : x ≤ y) :
    roundDecimals x digits ≤ roundDecimals y digits := by
  have hscale : x * 10 ^ digits ≤ y * 10 ^ digits :=
    mul_le_mul_of_nonneg_right hle (by positivity)
  unfold roundDecimals
  apply div_le_div_of_nonneg_right _ (by positivity)
  exact_mod_cast roundHalfEven_mono hscale

/-- A strict comparison of rounded numbers is one of the numbers themselves. -/
theorem lt_of_roundDecimals_lt {x y : ℚ} {digits : ℕ}
    (hlt : roundDecimals x digits < roundDecimals y digits) : x < y := by
  by_contra hnot
  exact absurd (roundDecimals_mono digits (not_lt.mp hnot)) (not_le.mpr hlt)

end python
