import KvMaterialization.Python.Binary64
import KvMaterialization.Python.Interpreter

namespace python

namespace Binary64

/-- A float that a maximum with zero makes finite: every one but NaN and positive infinity. -/
def Capped (value : Binary64) : Prop := value ≠ .nan ∧ value ≠ .infinity false

/-- A finite float from zero up. -/
def Clean (value : Binary64) : Prop := ∃ x hx, value = finite x hx ∧ 0 ≤ x

theorem nearest_zero : nearest 0 = 0 := le_antisymm (nearest_nonpos le_rfl) (nearest_nonneg le_rfl)

/-- A literal that is a small integer is that integer. -/
theorem lit_natCast {n : ℕ} (hn : n ≤ 2 ^ 52) :
    ∃ hrepresentable, (lit (n : ℚ) : Binary64) = finite n hrepresentable := by
  have hsmall : (n : ℚ) ≤ 2 ^ 52 := by exact_mod_cast hn
  have hnearest : nearest (n : ℚ) = n := by
    refine nearest_eq_self 0 (m := n) (by simp) ?_
    by_cases hzero : (n : ℚ) = 0
    · rw [hzero]
      decide +kernel
    · refine lastPlace_le_of_abs_lt hzero (by norm_num) ?_
      rw [abs_of_nonneg (by positivity)]
      exact hsmall.trans_lt (by norm_num)
  have hlt : |(n : ℚ)| < overflow := by
    rw [abs_of_nonneg (by positivity)]
    exact lt_overflow (hsmall.trans (by norm_num))
  refine ⟨⟨hnearest, hlt⟩, ?_⟩
  rw [lit_eq, ofRat_of_lt hlt]
  simp only [hnearest]

theorem lit_zero : ∃ hrepresentable, (lit 0 : Binary64) = finite 0 hrepresentable := by
  have hzero := lit_natCast (n := 0) (by norm_num)
  rwa [Nat.cast_zero] at hzero

/-- A maximum that has zero for its second argument keeps NaN and infinity. -/
theorem clean_pyMax_iff (value : Binary64) : Clean (pyMax value (lit 0)) ↔ Capped value := by
  obtain ⟨hrepresentable, hzero⟩ := lit_zero
  rw [hzero]
  unfold pyMax Clean Capped
  cases value with
  | finite x hx =>
    rw [lt_finite]
    refine iff_of_true ?_ ⟨by simp, by simp⟩
    split
    · exact ⟨0, hrepresentable, rfl, le_rfl⟩
    · rename_i hnot
      exact ⟨x, hx, rfl, not_lt.mp (fun hlt => hnot (decide_eq_true hlt))⟩
  | infinity negative =>
    cases negative with
    | true => exact iff_of_true ⟨0, hrepresentable, rfl, le_rfl⟩ ⟨by simp, by simp⟩
    | false =>
      refine iff_of_false ?_ (fun hcapped => hcapped.2 rfl)
      rintro ⟨x, hx, heq, _⟩
      cases heq
  | nan =>
    refine iff_of_false ?_ (fun hcapped => hcapped.1 rfl)
    rintro ⟨x, hx, heq, _⟩
    cases heq

/-- A rounded result is capped below the overflow, however negative it is. -/
theorem capped_ofRat_iff {x : ℚ} : Capped (ofRat x) ↔ x < overflow := by
  unfold Capped ofRat
  by_cases hlt : |x| < overflow
  · rw [dif_pos hlt]
    exact iff_of_true ⟨by simp, by simp⟩ ((le_abs_self x).trans_lt hlt)
  · rw [dif_neg hlt]
    by_cases hnegative : x < 0
    · rw [decide_eq_true hnegative]
      exact iff_of_true ⟨by simp, by simp⟩ (hnegative.trans (lt_overflow (by norm_num)))
    · rw [decide_eq_false hnegative]
      rw [abs_of_nonneg (not_lt.mp hnegative)] at hlt
      exact iff_of_false (fun hcapped => hcapped.2 rfl) hlt

/-- What rounding leaves below the overflow was below it. -/
theorem lt_overflow_of_nearest_mul {x c : ℚ} (hc : 1000 ≤ c) (hlt : nearest x * c < overflow) : x < overflow := by
  by_contra hnot
  have hpositive : (0 : ℚ) ≤ overflow := (lt_overflow (by norm_num)).le
  have hone : (1 : ℚ) ≤ overflow := (lt_overflow (by norm_num)).le
  have hmono := nearest_mono hpositive (not_lt.mp hnot)
  have hnear := abs_nearest_sub_le overflow
  rw [abs_of_nonneg hpositive, max_eq_left hone, abs_le] at hnear
  have hhalf : overflow / 2 ^ 53 ≤ overflow / 2 :=
    div_le_div_of_nonneg_left hpositive (by norm_num) (by norm_num)
  have hlow : overflow / 2 ≤ nearest x := by linarith
  have hnonneg : 0 ≤ nearest x := by linarith
  have hproduct : overflow / 2 * 1000 ≤ nearest x * c := by gcongr
  linarith

end Binary64

/-- The interpreter over binary64, with the names of its special values. -/
def Interpreter.binary64 : Interpreter Binary64 :=
  { Interpreter.ascii.reading Binary64.ofRat with
    float := fun text =>
      if text = "nan" then some .nan
      else if text = "inf" then some (.infinity false)
      else if text = "-inf" then some (.infinity true)
      else (Interpreter.ascii.float text).map Binary64.ofRat }

end python
