import KvMaterialization.Python.Float
import KvMaterialization.Python.Nearest

namespace python

/-- A binary64 number. The two zeros are one value here: no operation below tells
them apart. -/
inductive Binary64 where
  | finite (x : ℚ) (representable : Representable x)
  | infinity (negative : Bool)
  | nan

namespace Binary64

/-- The number a real result rounds to. -/
def ofRat (x : ℚ) : Binary64 :=
  if h : |x| < overflow then .finite (nearest x) (nearest_representable h)
  else .infinity (decide (x < 0))

protected def add : Binary64 → Binary64 → Binary64
  | finite x _, finite y _ => ofRat (x + y)
  | nan, _ => nan
  | _, nan => nan
  | infinity negative, infinity negative' => if negative = negative' then infinity negative else nan
  | infinity negative, finite _ _ => infinity negative
  | finite _ _, infinity negative => infinity negative

protected def sub : Binary64 → Binary64 → Binary64
  | finite x _, finite y _ => ofRat (x - y)
  | nan, _ => nan
  | _, nan => nan
  | infinity negative, infinity negative' => if negative = negative' then nan else infinity negative
  | infinity negative, finite _ _ => infinity negative
  | finite _ _, infinity negative => infinity (!negative)

protected def mul : Binary64 → Binary64 → Binary64
  | finite x _, finite y _ => ofRat (x * y)
  | nan, _ => nan
  | _, nan => nan
  | infinity negative, infinity negative' => infinity (negative != negative')
  | infinity negative, finite y _ => if y = 0 then nan else infinity (negative != decide (y < 0))
  | finite x _, infinity negative => if x = 0 then nan else infinity (decide (x < 0) != negative)

protected def lt : Binary64 → Binary64 → Bool
  | finite x _, finite y _ => decide (x < y)
  | nan, _ => false
  | _, nan => false
  | infinity negative, infinity negative' => negative && !negative'
  | infinity negative, finite _ _ => negative
  | finite _ _, infinity negative => !negative

protected def div : Binary64 → Binary64 → Except Exception Binary64
  | x, finite y _ =>
    if y = 0 then .error .zero_division_error
    else
      match x with
      | finite x _ => .ok (ofRat (x / y))
      | infinity negative => .ok (infinity (negative != decide (y < 0)))
      | nan => .ok nan
  | _, nan => .ok nan
  | finite _ _, infinity _ => .ok (ofRat 0)
  | infinity _, infinity _ => .ok nan
  | nan, infinity _ => .ok nan

/-- The conversions raise where rounding a float saturates. -/
protected def ofReal (x : ℚ) : Except Exception Binary64 :=
  if |x| < overflow then .ok (ofRat x) else .error .overflow_error

protected def intDiv (m n : ℤ) : Except Exception Binary64 :=
  if n = 0 then .error .zero_division_error else Binary64.ofReal ((m : ℚ) / n)

/-- An integer made of a float. -/
protected def toInt (rounded : ℚ → ℤ) : Binary64 → Except Exception ℤ
  | finite x _ => .ok (rounded x)
  | infinity _ => .error .overflow_error
  | nan => .error (.value_error "cannot convert float NaN to integer")

protected def roundTo : Binary64 → ℕ → Binary64
  | finite x _, digits => ofRat (roundDecimals x digits)
  | infinity negative, _ => infinity negative
  | nan, _ => nan

theorem ofRat_of_lt {x : ℚ} (hx : |x| < overflow) :
    ofRat x = .finite (nearest x) (nearest_representable hx) := dif_pos hx

theorem ofReal_eq_ok_iff {x : ℚ} {y : Binary64} :
    Binary64.ofReal x = .ok y ↔ |x| < overflow ∧ ofRat x = y := by
  unfold Binary64.ofReal
  split
  · rename_i hlt
    simp [hlt]
  · rename_i hnot
    simp [hnot]

/-- What truncating a rounded product returns. -/
theorem toInt_ofRat_eq_ok {rounded : ℚ → ℤ} {x : ℚ} {k : ℤ}
    (hk : (ofRat x).toInt rounded = .ok k) : k = rounded (nearest x) := by
  by_cases hx : |x| < overflow
  · rw [ofRat_of_lt hx, Binary64.toInt, Except.ok.injEq] at hk
    exact hk.symm
  · rw [ofRat, dif_neg hx] at hk
    cases hk

/-- A share of at most three quarters of a positive integer stays below it
through the three roundings it takes to compute it. -/
theorem rounded_share_le {n : ℤ} {c : ℚ} (hn : 0 < n) (hc : 0 ≤ c) (hc1 : c ≤ 3 / 4) :
    0 ≤ nearest (nearest n * nearest c) ∧ nearest (nearest n * nearest c) ≤ n := by
  have hone : (1 : ℚ) ≤ n := by exact_mod_cast hn
  have hnNear := abs_nearest_sub_le (n : ℚ)
  have hcNear := abs_nearest_sub_le c
  rw [abs_of_nonneg (by linarith : (0 : ℚ) ≤ n), max_eq_left hone, abs_le] at hnNear
  rw [abs_of_nonneg hc, max_eq_right (by linarith), abs_le] at hcNear
  have hn0 := nearest_nonneg (by linarith : (0 : ℚ) ≤ n)
  have hc0 := nearest_nonneg hc
  have hproduct : nearest n * nearest c ≤ 7 / 8 * n := by
    have hcBound : nearest c ≤ 13 / 16 := by
      have hsmall : (1 : ℚ) / 2 ^ 53 ≤ 1 / 16 := by norm_num
      linarith
    have hnBound : nearest n ≤ 14 / 13 * n := by
      have hsmall : (n : ℚ) / 2 ^ 53 ≤ n / 13 :=
        div_le_div_of_nonneg_left (by linarith) (by norm_num) (by norm_num)
      linarith
    calc nearest n * nearest c ≤ 14 / 13 * n * (13 / 16) := by gcongr
      _ = 7 / 8 * n := by ring
  have hnonneg : 0 ≤ nearest n * nearest c := mul_nonneg hn0 hc0
  have hpNear := abs_nearest_sub_le (nearest n * nearest c)
  rw [abs_of_nonneg hnonneg, abs_le] at hpNear
  refine ⟨nearest_nonneg hnonneg, ?_⟩
  have hmax : max (nearest n * nearest c) 1 ≤ n := max_le (by linarith) hone
  have hstep : max (nearest n * nearest c) 1 / 2 ^ 53 ≤ (n : ℚ) / 8 :=
    calc max (nearest n * nearest c) 1 / 2 ^ 53 ≤ (n : ℚ) / 2 ^ 53 := by gcongr
      _ ≤ (n : ℚ) / 8 := div_le_div_of_nonneg_left (by linarith) (by norm_num) (by norm_num)
  linarith

/-- The reading the interpreter runs. -/
instance : PyFloat Binary64 where
  add := Binary64.add
  sub := Binary64.sub
  mul := Binary64.mul
  lit := ofRat
  lt := Binary64.lt
  ofInt n := Binary64.ofReal n
  div := Binary64.div
  intDiv := Binary64.intDiv
  round := Binary64.toInt roundHalfEven
  roundTo := Binary64.roundTo
  trunc := Binary64.toInt truncate
  trunc_scaled_le := by
    intro n k c x hn hc hc1 hx hk
    obtain ⟨hlt, rfl⟩ := ofReal_eq_ok_iff.mp hx
    have hcSmall : |c| < overflow := by
      rw [abs_of_nonneg hc]
      exact lt_overflow (hc1.trans (by norm_num))
    rw [ofRat_of_lt hlt, ofRat_of_lt hcSmall] at hk
    have hk' := toInt_ofRat_eq_ok hk
    obtain ⟨hnonneg, hle⟩ := rounded_share_le hn hc hc1
    rw [truncate, if_pos hnonneg] at hk'
    have hfloor := Int.floor_le (nearest (nearest (n : ℚ) * nearest c))
    rw [← hk'] at hfloor
    exact_mod_cast hfloor.trans hle

section

variable {x y : ℚ} {hx : Representable x} {hy : Representable y}

theorem lit_eq (c : ℚ) : (lit c : Binary64) = ofRat c := (rfl)

theorem mul_finite : finite x hx * finite y hy = ofRat (x * y) := (rfl)

theorem lt_finite : lt (finite x hx) (finite y hy) = decide (x < y) := (rfl)

theorem ofInt_of_lt {n : ℤ} (hn : |(n : ℚ)| < overflow) :
    ofInt n = .ok (finite (nearest n) (nearest_representable hn)) := by
  change Binary64.ofReal n = _
  rw [ofReal_eq_ok_iff]
  exact ⟨hn, ofRat_of_lt hn⟩

/-- Exactly the integers below the overflow convert. -/
theorem ofInt_returns_iff {n : ℤ} :
    Returns (ofInt n : Except Exception Binary64) ↔ |(n : ℚ)| < overflow := by
  constructor
  · rintro ⟨x, hn⟩
    exact (ofReal_eq_ok_iff.mp hn).1
  · intro hn
    exact ⟨_, ofInt_of_lt hn⟩

theorem intDiv_of_lt {m n : ℤ} (hn : n ≠ 0) (hlt : |(m : ℚ) / n| < overflow) :
    intDiv m n = .ok (finite (nearest (m / n)) (nearest_representable hlt)) := by
  change Binary64.intDiv m n = _
  rw [Binary64.intDiv, if_neg hn, ofReal_eq_ok_iff]
  exact ⟨hlt, ofRat_of_lt hlt⟩

theorem intDiv_returns_iff {m n : ℤ} (hn : n ≠ 0) :
    Returns (intDiv m n : Except Exception Binary64) ↔ |(m : ℚ) / n| < overflow := by
  constructor
  · rintro ⟨x, hdiv⟩
    change Binary64.intDiv m n = _ at hdiv
    rw [Binary64.intDiv, if_neg hn] at hdiv
    exact (ofReal_eq_ok_iff.mp hdiv).1
  · intro hlt
    exact ⟨_, intDiv_of_lt hn hlt⟩

/-- Dividing by a number other than zero never fails. -/
theorem div_returns (z : Binary64) (hne : y ≠ 0) : Returns (PyFloat.div z (finite y hy)) := by
  change Returns (Binary64.div z (finite y hy))
  cases z with
  | finite x _ => exact ⟨_, if_neg hne⟩
  | infinity negative => exact ⟨_, if_neg hne⟩
  | nan => exact ⟨_, if_neg hne⟩

theorem div_infinity_returns (z : Binary64) (negative : Bool) :
    Returns (PyFloat.div z (infinity negative)) := by
  change Returns (Binary64.div z (infinity negative))
  cases z with
  | finite x _ => exact ⟨_, rfl⟩
  | infinity negative' => exact ⟨_, rfl⟩
  | nan => exact ⟨_, rfl⟩

end

/-- A number of the unit interval. -/
def InUnit (value : Binary64) : Prop := ∃ x hx, value = finite x hx ∧ 0 ≤ x ∧ x ≤ 1

theorem abs_lt_overflow_of_le {m n : ℤ} (hm : 0 ≤ m) (hle : m ≤ n) (hn : (n : ℚ) < overflow) :
    |(m : ℚ)| < overflow := by
  have hcast : (m : ℚ) ≤ n := by exact_mod_cast hle
  rw [abs_of_nonneg (by exact_mod_cast hm)]
  exact hcast.trans_lt hn

theorem abs_ratio_lt_overflow {m n : ℤ} (hm : 0 ≤ m) (hle : m ≤ n) (hn : 0 < n) :
    |(m : ℚ) / n| < overflow := by
  have hn' : (0 : ℚ) < n := by exact_mod_cast hn
  rw [abs_of_nonneg (div_nonneg (by exact_mod_cast hm) hn'.le)]
  have hone : (m : ℚ) / n ≤ 1 := by
    rw [div_le_one hn']
    exact_mod_cast hle
  exact lt_overflow (hone.trans (by norm_num))

theorem lit_inUnit {c : ℚ} (hc : 0 ≤ c) (hc1 : c ≤ 1) : InUnit (lit c) := by
  have hlt : |c| < overflow := by
    rw [abs_of_nonneg hc]
    exact lt_overflow (hc1.trans (by norm_num))
  have hle := nearest_mono hc hc1
  rw [nearest_one] at hle
  exact ⟨nearest c, nearest_representable hlt, ofRat_of_lt hlt, nearest_nonneg hc, hle⟩

/-- Clamping below by `low` and above by `high` stays in the unit interval with
them: a NaN is neither, and loses to `low`. -/
theorem pyMax_pyMin_inUnit {low high : Binary64} (hlow : InUnit low) (hhigh : InUnit high)
    (value : Binary64) : InUnit (pyMax low (pyMin value high)) := by
  obtain ⟨x, hx, rfl, hx0, hx1⟩ := hlow
  obtain ⟨y, hy, rfl, hy0, hy1⟩ := hhigh
  unfold pyMax
  split
  · rename_i hgreater
    unfold pyMin at hgreater ⊢
    split
    · exact ⟨y, hy, rfl, hy0, hy1⟩
    · rename_i hnotAbove
      rw [if_neg hnotAbove] at hgreater
      cases value with
      | finite z hz =>
        rw [lt_finite, decide_eq_true_eq] at hnotAbove hgreater
        exact ⟨z, hz, rfl, hx0.trans hgreater.le, (not_lt.mp hnotAbove).trans hy1⟩
      | infinity negative =>
        -- Below everything it is not greater than low, above everything not at most high.
        cases negative with
        | true => exact absurd hgreater Bool.false_ne_true
        | false => exact absurd rfl hnotAbove
      | nan => exact absurd hgreater Bool.false_ne_true
  · exact ⟨x, hx, rfl, hx0, hx1⟩

theorem pyMax_inUnit {x : ℚ} {hx : Representable x} (hle : x ≤ 1) {low : Binary64}
    (hlow : InUnit low) : InUnit (pyMax (finite x hx) low) := by
  obtain ⟨y, hy, rfl, hy0, hy1⟩ := hlow
  unfold pyMax
  split
  · exact ⟨y, hy, rfl, hy0, hy1⟩
  · rename_i hnotLess
    rw [lt_finite, decide_eq_true_eq] at hnotLess
    exact ⟨x, hx, rfl, hy0.trans (not_lt.mp hnotLess), hle⟩

/-- A share of an integer that converts is finite. -/
theorem mul_share {n : ℤ} (hn : 0 ≤ n) (hlt : (n : ℚ) < overflow) {share : Binary64}
    (hshare : InUnit share) {total : Binary64} (htotal : ofInt n = .ok total) :
    ∃ x hx, total * share = finite x hx ∧ 0 ≤ x := by
  have hn' : (0 : ℚ) ≤ n := by exact_mod_cast hn
  have habs : |(n : ℚ)| < overflow := by rwa [abs_of_nonneg hn']
  obtain ⟨c, hc, rfl, hc0, hc1⟩ := hshare
  rw [ofInt_of_lt habs, Except.ok.injEq] at htotal
  subst htotal
  have hnear := nearest_nonneg hn'
  have hproduct : |nearest n * c| < overflow := by
    have hnlt := abs_nearest_lt habs
    rw [abs_of_nonneg hnear] at hnlt
    rw [abs_of_nonneg (mul_nonneg hnear hc0)]
    exact (mul_le_of_le_one_right hnear hc1).trans_lt hnlt
  exact ⟨_, _, ofRat_of_lt hproduct, nearest_nonneg (mul_nonneg hnear hc0)⟩

theorem round_share {n : ℤ} (hn : 0 ≤ n) (hlt : (n : ℚ) < overflow) {share : Binary64}
    (hshare : InUnit share) {total : Binary64} (htotal : ofInt n = .ok total) :
    ∃ k, PyFloat.round (total * share) = .ok k ∧ 0 ≤ k := by
  obtain ⟨x, hx, hproduct, hnonneg⟩ := mul_share hn hlt hshare htotal
  rw [hproduct]
  exact ⟨roundHalfEven x, rfl, roundHalfEven_nonneg hnonneg⟩

theorem trunc_share_returns {n : ℤ} (hn : 0 ≤ n) (hlt : (n : ℚ) < overflow) {share : Binary64}
    (hshare : InUnit share) {total : Binary64} (htotal : ofInt n = .ok total) :
    Returns (PyFloat.trunc (total * share)) := by
  obtain ⟨x, hx, hproduct, _⟩ := mul_share hn hlt hshare htotal
  rw [hproduct]
  exact returns_ok (truncate x)

/-- No positive number scaled up becomes zero, so dividing by it never fails. -/
theorem div_scaled_returns (z : Binary64) {scale : Binary64} (hscale : lt (lit 0) scale = true)
    {c : ℚ} (hc : 1 ≤ c) (hlt : c < overflow) : Returns (PyFloat.div z (scale * lit c)) := by
  have hzero : nearest 0 = 0 := le_antisymm (nearest_nonpos le_rfl) (nearest_nonneg le_rfl)
  have habs : |c| < overflow := by rwa [abs_of_nonneg (zero_le_one.trans hc)]
  have hc1 := nearest_mono zero_le_one hc
  rw [nearest_one] at hc1
  rw [lit_eq, ofRat_of_lt habs]
  rw [lit_eq, ofRat_of_lt (by rw [abs_zero]; exact lt_overflow (by norm_num))] at hscale
  cases scale with
  | finite x hx =>
    rw [lt_finite, decide_eq_true_eq, hzero] at hscale
    rw [mul_finite]
    by_cases hproduct : |x * nearest c| < overflow
    · rw [ofRat_of_lt hproduct]
      apply div_returns
      exact (nearest_pos ((hx.two_pow_le hscale).trans (le_mul_of_one_le_right hscale.le hc1))).ne'
    · rw [ofRat, dif_neg hproduct]
      exact div_infinity_returns _ _
  | infinity negative =>
    have hmul : (infinity negative * finite (nearest c) (nearest_representable habs) : Binary64) =
        infinity (negative != decide (nearest c < 0)) := if_neg (zero_lt_one.trans_le hc1).ne'
    rw [hmul]
    exact div_infinity_returns _ _
  | nan => exact absurd hscale Bool.false_ne_true

end Binary64

end python
