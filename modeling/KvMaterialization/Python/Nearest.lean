import KvMaterialization.Python.Rounding
import Mathlib.Algebra.Order.Field.Power
import Mathlib.Data.Int.Log
import Mathlib.Tactic.FieldSimp
import Mathlib.Tactic.Ring

namespace python

/-- The exponent of the last place of the binary64 numbers around `x`. -/
def lastPlace (x : ℚ) : ℤ := max (Int.log 2 |x| - 52) (-1074)

/-- The binary64 number nearest to `x`, the even one of two, as if the exponent
had no upper end. -/
def nearest (x : ℚ) : ℚ := roundHalfEven (x / 2 ^ lastPlace x) * 2 ^ lastPlace x

/-- Half a unit past the largest finite number; from here on rounding overflows. -/
def overflow : ℚ := 2 ^ (1024 : ℤ) - 2 ^ (970 : ℤ)

theorem overflow_eq : overflow = (2 ^ 54 - 1) * 2 ^ (970 : ℤ) := by
  unfold overflow
  have hpow : (2 : ℚ) ^ (54 : ℤ) = 2 ^ 54 := by norm_num
  rw [show (1024 : ℤ) = 54 + 970 by norm_num, zpow_add₀ (by norm_num), hpow, sub_mul, one_mul]

theorem lt_overflow {c : ℚ} (hc : c ≤ 2 ^ 53) : c < overflow := by
  have hpow : (1 : ℚ) ≤ 2 ^ (970 : ℤ) := one_le_zpow₀ (by norm_num) (by norm_num)
  rw [overflow_eq]
  calc c < (2 ^ 54 - 1) * 1 := by linarith
    _ ≤ (2 ^ 54 - 1) * 2 ^ (970 : ℤ) := mul_le_mul_of_nonneg_left hpow (by norm_num)

/-- The values of the finite numbers. -/
def Representable (x : ℚ) : Prop := nearest x = x ∧ |x| < overflow

theorem abs_lt_two_pow_lastPlace (x : ℚ) : |x| < 2 ^ (lastPlace x + 53) := by
  have hlog := Int.lt_zpow_succ_log_self (b := 2) (by norm_num) |x|
  refine hlog.trans_le ?_
  push_cast
  apply zpow_le_zpow_right₀ (by norm_num)
  unfold lastPlace
  omega

/-- The scaled number has at most 53 bits before the point, and so has its rounding. -/
theorem abs_scaled_le (x : ℚ) : |x / 2 ^ lastPlace x| ≤ 2 ^ 53 := by
  have hscale : (0 : ℚ) < 2 ^ lastPlace x := by positivity
  rw [abs_div, abs_of_pos hscale, div_le_iff₀ hscale, ← zpow_natCast, ← zpow_add₀ (by norm_num)]
  have hlt := abs_lt_two_pow_lastPlace x
  rw [add_comm] at hlt
  exact hlt.le

theorem abs_roundHalfEven_scaled_le (x : ℚ) : |roundHalfEven (x / 2 ^ lastPlace x)| ≤ 2 ^ 53 := by
  obtain ⟨hlow, hhigh⟩ := abs_le.mp (abs_scaled_le x)
  have hupper := roundHalfEven_mono hhigh
  have hlower := roundHalfEven_mono hlow
  have hcast : ((2 : ℚ) ^ 53) = ((2 ^ 53 : ℤ) : ℚ) := by norm_num
  rw [hcast] at hupper hlower
  rw [← Int.cast_neg, roundHalfEven_intCast] at hlower
  rw [roundHalfEven_intCast] at hupper
  exact abs_le.mpr ⟨hlower, hupper⟩

/-- A multiple of its own last place is its own nearest number. -/
theorem nearest_eq_self {x : ℚ} (exponent : ℤ) {m : ℤ} (hx : x = m * 2 ^ exponent)
    (hplace : lastPlace x ≤ exponent) : nearest x = x := by
  have hscale : (0 : ℚ) < 2 ^ lastPlace x := by positivity
  obtain ⟨k, hk⟩ := Int.eq_ofNat_of_zero_le (sub_nonneg.mpr hplace)
  have hscaled : x / 2 ^ lastPlace x = ((m * 2 ^ k : ℤ) : ℚ) := by
    have hexponent : exponent = lastPlace x + (k : ℤ) := by omega
    rw [div_eq_iff hscale.ne']
    conv_lhs => rw [hx, hexponent, zpow_add₀ (by norm_num : (2 : ℚ) ≠ 0)]
    push_cast
    rw [zpow_natCast]
    ring
  unfold nearest
  rw [hscaled, roundHalfEven_intCast, ← hscaled, div_mul_cancel₀ _ hscale.ne']

theorem lastPlace_le_of_abs_lt {x : ℚ} {exponent : ℤ} (hx : x ≠ 0) (hexponent : -1074 ≤ exponent)
    (hlt : |x| < 2 ^ (exponent + 53)) : lastPlace x ≤ exponent := by
  have hlog := (Int.lt_zpow_iff_log_lt (b := 2) (by norm_num) (abs_pos.mpr hx)).mp
    (by exact_mod_cast hlt : |x| < ((2 : ℕ) : ℚ) ^ (exponent + 53))
  unfold lastPlace
  omega

theorem nearest_nearest (x : ℚ) : nearest (nearest x) = nearest x := by
  by_cases hzero : nearest x = 0
  · rw [hzero]
    exact nearest_eq_self (lastPlace 0) (m := 0) (by simp) le_rfl
  have hm := abs_roundHalfEven_scaled_le x
  have hplace : -1074 ≤ lastPlace x := le_max_right _ _
  have hscale : (0 : ℚ) < 2 ^ lastPlace x := by positivity
  have hvalue : |nearest x| = (|roundHalfEven (x / 2 ^ lastPlace x)| : ℤ) * 2 ^ lastPlace x := by
    unfold nearest
    rw [abs_mul, abs_of_pos hscale, Int.cast_abs]
  obtain hlt | heq := hm.lt_or_eq
  · -- The rounding kept to 53 bits.
    refine nearest_eq_self _ rfl (lastPlace_le_of_abs_lt hzero hplace ?_)
    rw [hvalue, add_comm, zpow_add₀ (by norm_num)]
    apply mul_lt_mul_of_pos_right _ hscale
    exact_mod_cast hlt
  · -- It carried into the next power of two, which needs one bit only.
    have hexact : nearest x =
        ((roundHalfEven (x / 2 ^ lastPlace x) / 2 : ℤ) : ℚ) * 2 ^ (lastPlace x + 1) := by
      have heven : (2 : ℤ) ∣ roundHalfEven (x / 2 ^ lastPlace x) := by
        rw [← dvd_abs, heq]
        norm_num
      obtain ⟨half, hhalf⟩ := heven
      unfold nearest
      rw [hhalf, Int.mul_ediv_cancel_left _ (by norm_num), zpow_add₀ (by norm_num)]
      push_cast
      ring
    refine nearest_eq_self _ hexact (lastPlace_le_of_abs_lt hzero (by omega) ?_)
    rw [hvalue, heq, show lastPlace x + 1 + 53 = 54 + lastPlace x by ring, zpow_add₀ (by norm_num)]
    apply mul_lt_mul_of_pos_right _ hscale
    norm_num

/-- Below the overflow, rounding stays below it. -/
theorem abs_nearest_lt {x : ℚ} (hx : |x| < overflow) : |nearest x| < overflow := by
  have hscale : (0 : ℚ) < 2 ^ lastPlace x := by positivity
  have hvalue : |nearest x| = (|roundHalfEven (x / 2 ^ lastPlace x)| : ℤ) * 2 ^ lastPlace x := by
    unfold nearest
    rw [abs_mul, abs_of_pos hscale, Int.cast_abs]
  rw [hvalue]
  by_cases hsmall : lastPlace x ≤ 970
  · have hm : ((|roundHalfEven (x / 2 ^ lastPlace x)| : ℤ) : ℚ) ≤ 2 ^ 53 := by
      exact_mod_cast abs_roundHalfEven_scaled_le x
    have hpow : (2 : ℚ) ^ lastPlace x ≤ 2 ^ (970 : ℤ) := zpow_le_zpow_right₀ (by norm_num) hsmall
    calc ((|roundHalfEven (x / 2 ^ lastPlace x)| : ℤ) : ℚ) * 2 ^ lastPlace x
        ≤ 2 ^ 53 * 2 ^ (970 : ℤ) := by gcongr
      _ < overflow := by
        rw [overflow_eq]
        apply mul_lt_mul_of_pos_right _ (by positivity)
        norm_num
  · -- The numbers of the last binade are 2 ^ 971 apart, and x is below half a step from its end.
    have hpositive : x ≠ 0 := by
      rintro rfl
      apply hsmall
      simp [lastPlace]
    have hlog : Int.log 2 |x| < 1024 := by
      rw [← Int.lt_zpow_iff_log_lt (by norm_num) (abs_pos.mpr hpositive)]
      refine hx.trans_le ?_
      rw [overflow_eq, show (1024 : ℤ) = 54 + 970 by norm_num, Nat.cast_ofNat,
        zpow_add₀ (by norm_num)]
      apply mul_le_mul_of_nonneg_right _ (by positivity)
      norm_num
    have hplace : lastPlace x = 971 := by
      unfold lastPlace at hsmall ⊢
      omega
    rw [hplace]
    have hnear := abs_roundHalfEven_sub_le (x / 2 ^ (971 : ℤ))
    have hscaled : |x / 2 ^ (971 : ℤ)| < 2 ^ 53 - 1 / 2 := by
      rw [abs_div, abs_of_pos (by positivity : (0 : ℚ) < 2 ^ (971 : ℤ)), div_lt_iff₀ (by positivity)]
      refine hx.trans_eq ?_
      rw [overflow_eq, show (971 : ℤ) = 1 + 970 by norm_num, zpow_add₀ (by norm_num)]
      ring
    have hrounded : |(roundHalfEven (x / 2 ^ (971 : ℤ)) : ℚ)| < 2 ^ 53 := by
      have htriangle := abs_add_le ((roundHalfEven (x / 2 ^ (971 : ℤ)) : ℚ) - x / 2 ^ (971 : ℤ))
        (x / 2 ^ (971 : ℤ))
      rw [sub_add_cancel] at htriangle
      linarith
    have hm : |roundHalfEven (x / 2 ^ (971 : ℤ))| ≤ 2 ^ 53 - 1 := by
      have hlt : |roundHalfEven (x / 2 ^ (971 : ℤ))| < 2 ^ 53 := by exact_mod_cast hrounded
      omega
    have hcast : ((|roundHalfEven (x / 2 ^ (971 : ℤ))| : ℤ) : ℚ) ≤ 2 ^ 53 - 1 := by exact_mod_cast hm
    calc ((|roundHalfEven (x / 2 ^ (971 : ℤ))| : ℤ) : ℚ) * 2 ^ (971 : ℤ)
        ≤ (2 ^ 53 - 1) * 2 ^ (971 : ℤ) := by gcongr
      _ = (2 ^ 54 - 2) * 2 ^ (970 : ℤ) := by
        rw [show (971 : ℤ) = 1 + 970 by norm_num, zpow_add₀ (by norm_num)]
        ring
      _ < overflow := by
        rw [overflow_eq]
        apply mul_lt_mul_of_pos_right _ (by positivity)
        norm_num

theorem nearest_representable {x : ℚ} (hx : |x| < overflow) : Representable (nearest x) :=
  ⟨nearest_nearest x, abs_nearest_lt hx⟩

/-- Rounding moves a number by at most half of its last place. -/
theorem abs_nearest_sub_le (x : ℚ) : |nearest x - x| ≤ max |x| 1 / 2 ^ 53 := by
  have hscale : (0 : ℚ) < 2 ^ lastPlace x := by positivity
  have hhalf : |nearest x - x| ≤ 2 ^ lastPlace x / 2 := by
    have hnear := abs_roundHalfEven_sub_le (x / 2 ^ lastPlace x)
    have hfactor : nearest x - x =
        (roundHalfEven (x / 2 ^ lastPlace x) - x / 2 ^ lastPlace x) * 2 ^ lastPlace x := by
      unfold nearest
      rw [sub_mul, div_mul_cancel₀ _ hscale.ne']
    rw [hfactor, abs_mul, abs_of_pos hscale]
    nlinarith
  refine hhalf.trans ?_
  have hplace : (2 : ℚ) ^ lastPlace x ≤ max |x| 1 / 2 ^ 52 := by
    unfold lastPlace
    obtain hle | hge := le_total (Int.log 2 |x| - 52) (-1074)
    · rw [max_eq_right hle]
      have hsmall : (2 : ℚ) ^ (-1074 : ℤ) ≤ 2 ^ (-52 : ℤ) :=
        zpow_le_zpow_right₀ (by norm_num) (by norm_num)
      have hone : (1 : ℚ) / 2 ^ 52 ≤ max |x| 1 / 2 ^ 52 :=
        div_le_div_of_nonneg_right (le_max_right |x| 1) (by positivity)
      refine hsmall.trans (le_trans ?_ hone)
      norm_num
    · rw [max_eq_left hge, zpow_sub₀ (by norm_num)]
      have hlog : (2 : ℚ) ^ Int.log 2 |x| ≤ max |x| 1 := by
        by_cases hzero : x = 0
        · simp [hzero]
        · have hle := Int.zpow_log_le_self (b := 2) (by norm_num) (abs_pos.mpr hzero)
          push_cast at hle
          exact hle.trans (le_max_left _ _)
      exact div_le_div_of_nonneg_right hlog (by positivity)
  calc (2 : ℚ) ^ lastPlace x / 2 ≤ max |x| 1 / 2 ^ 52 / 2 := by gcongr
    _ = max |x| 1 / 2 ^ 53 := by ring

theorem nearest_nonneg {x : ℚ} (hx : 0 ≤ x) : 0 ≤ nearest x := by
  have hrounded := roundHalfEven_nonneg (div_nonneg hx (by positivity : (0 : ℚ) ≤ 2 ^ lastPlace x))
  unfold nearest
  have hcast : (0 : ℚ) ≤ roundHalfEven (x / 2 ^ lastPlace x) := by exact_mod_cast hrounded
  positivity

theorem nearest_nonpos {x : ℚ} (hx : x ≤ 0) : nearest x ≤ 0 := by
  have hscaled : x / 2 ^ lastPlace x ≤ ((0 : ℤ) : ℚ) := by
    rw [Int.cast_zero]
    exact div_nonpos_of_nonpos_of_nonneg hx (by positivity)
  have hrounded := roundHalfEven_mono hscaled
  rw [roundHalfEven_intCast] at hrounded
  have hcast : (roundHalfEven (x / 2 ^ lastPlace x) : ℚ) ≤ 0 := by exact_mod_cast hrounded
  exact mul_nonpos_of_nonpos_of_nonneg hcast (by positivity)

theorem lastPlace_mono {x y : ℚ} (hx : 0 < x) (hle : x ≤ y) : lastPlace x ≤ lastPlace y := by
  have hlog : Int.log 2 |x| ≤ Int.log 2 |y| := by
    rw [abs_of_pos hx, abs_of_pos (hx.trans_le hle)]
    exact Int.log_mono_right hx hle
  unfold lastPlace
  omega

/-- A number past the first binade is at least `2 ^ 52` of its last places. -/
theorem two_pow_lastPlace_le {y : ℚ} (hy : 0 < y) (hplace : -1074 < lastPlace y) :
    2 ^ 52 ≤ y / 2 ^ lastPlace y := by
  have hlog : lastPlace y = Int.log 2 |y| - 52 := by
    unfold lastPlace at hplace ⊢
    omega
  have hle := Int.zpow_log_le_self (b := 2) (by norm_num) (abs_pos.mpr hy.ne')
  rw [abs_of_pos hy] at hle hlog
  push_cast at hle
  rw [le_div_iff₀ (by positivity), hlog, ← zpow_natCast, ← zpow_add₀ (by norm_num)]
  exact (zpow_le_zpow_right₀ (by norm_num) (by push_cast; omega)).trans hle

theorem nearest_mono {x y : ℚ} (hx : 0 ≤ x) (hle : x ≤ y) : nearest x ≤ nearest y := by
  obtain hzero | hpos := hx.eq_or_lt
  · exact (nearest_nonpos hzero.symm.le).trans (nearest_nonneg (hx.trans hle))
  obtain heq | hlt := (lastPlace_mono hpos hle).eq_or_lt
  · -- In one binade the scaled numbers are rounded to integers.
    have hscaled : x / 2 ^ lastPlace y ≤ y / 2 ^ lastPlace y :=
      div_le_div_of_nonneg_right hle (by positivity)
    have hcast : (roundHalfEven (x / 2 ^ lastPlace y) : ℚ) ≤ roundHalfEven (y / 2 ^ lastPlace y) := by
      exact_mod_cast roundHalfEven_mono hscaled
    unfold nearest
    rw [heq]
    exact mul_le_mul_of_nonneg_right hcast (by positivity)
  · -- Otherwise the power of two between them is on neither side of the wrong rounding.
    have hx53 : (roundHalfEven (x / 2 ^ lastPlace x) : ℚ) ≤ 2 ^ 53 := by
      exact_mod_cast (le_abs_self _).trans (abs_roundHalfEven_scaled_le x)
    have hy52 : (2 : ℚ) ^ 52 ≤ roundHalfEven (y / 2 ^ lastPlace y) := by
      have hbound := two_pow_lastPlace_le (hpos.trans_le hle) ((le_max_right _ _).trans_lt hlt)
      have hmono := roundHalfEven_mono (x := ((2 ^ 52 : ℤ) : ℚ)) (by exact_mod_cast hbound)
      rw [roundHalfEven_intCast] at hmono
      exact_mod_cast hmono
    calc nearest x ≤ 2 ^ 53 * 2 ^ lastPlace x := mul_le_mul_of_nonneg_right hx53 (by positivity)
      _ = 2 ^ 52 * 2 ^ (lastPlace x + 1) := by
        rw [zpow_add₀ (by norm_num)]
        ring
      _ ≤ 2 ^ 52 * 2 ^ lastPlace y := by
        apply mul_le_mul_of_nonneg_left _ (by positivity)
        exact zpow_le_zpow_right₀ (by norm_num) (by omega)
      _ ≤ nearest y := mul_le_mul_of_nonneg_right hy52 (by positivity)

theorem nearest_one : nearest 1 = 1 := by
  refine nearest_eq_self 0 (m := 1) (by simp) ?_
  exact lastPlace_le_of_abs_lt one_ne_zero (by norm_num) (by norm_num)

theorem nearest_le_one {x : ℚ} (hx : x ≤ 1) : nearest x ≤ 1 := by
  obtain hnonneg | hnonpos := le_total 0 x
  · have hmono := nearest_mono hnonneg hx
    rwa [nearest_one] at hmono
  · exact (nearest_nonpos hnonpos).trans zero_le_one

/-- A representable number that is not zero is no smaller than the least positive one. -/
theorem Representable.two_pow_le {x : ℚ} (hx : Representable x) (hpos : 0 < x) :
    2 ^ (-1074 : ℤ) ≤ x := by
  obtain ⟨hnearest, _⟩ := hx
  have hscale : (0 : ℚ) < 2 ^ lastPlace x := by positivity
  have hm : (1 : ℚ) ≤ roundHalfEven (x / 2 ^ lastPlace x) := by
    have hpositive : (0 : ℚ) < roundHalfEven (x / 2 ^ lastPlace x) := by
      rw [← hnearest] at hpos
      exact pos_of_mul_pos_left hpos hscale.le
    exact_mod_cast hpositive
  calc (2 : ℚ) ^ (-1074 : ℤ) ≤ 2 ^ lastPlace x := zpow_le_zpow_right₀ (by norm_num) (le_max_right _ _)
    _ ≤ roundHalfEven (x / 2 ^ lastPlace x) * 2 ^ lastPlace x := le_mul_of_one_le_left hscale.le hm
    _ = x := hnearest

/-- Nothing from the least positive number on rounds to zero. -/
theorem nearest_pos {x : ℚ} (hx : 2 ^ (-1074 : ℤ) ≤ x) : 0 < nearest x := by
  have hpos : (0 : ℚ) < 2 ^ (-1074 : ℤ) := by positivity
  have hleast : nearest (2 ^ (-1074 : ℤ)) = 2 ^ (-1074 : ℤ) := by
    refine nearest_eq_self (-1074) (m := 1) (by simp) ?_
    refine lastPlace_le_of_abs_lt hpos.ne' le_rfl ?_
    rw [abs_of_pos hpos]
    exact zpow_lt_zpow_right₀ (by norm_num) (by norm_num)
  have hmono := nearest_mono hpos.le hx
  rw [hleast] at hmono
  exact hpos.trans_le hmono

end python
