import KvMaterialization.Policy.Overflow
import KvMaterialization.Python.Ranked

open python
open python.Binary64

namespace vllm_kv_materialization.policy

theorem two_pow_neg_le {c : ℚ} (hc : 1 / 8 ≤ c) : (2 : ℚ) ^ (-1074 : ℤ) ≤ c := by
  calc (2 : ℚ) ^ (-1074 : ℤ) ≤ 2 ^ (-3 : ℤ) := zpow_le_zpow_right₀ (by norm_num) (by norm_num)
    _ = 1 / 8 := by norm_num [zpow_neg]
    _ ≤ c := hc

section Shares

variable {x y : Binary64}

theorem ofInt_clean {n : ℤ} (hn : 0 ≤ n) (hconvert : ofInt n = .ok x) : Clean x := by
  have hlt := ofInt_returns_iff.mp ⟨x, hconvert⟩
  rw [ofInt_of_lt hlt, Except.ok.injEq] at hconvert
  exact ⟨_, _, hconvert.symm, nearest_nonneg (by exact_mod_cast hn)⟩

theorem intDiv_inUnit {m n : ℤ} (hm : 0 ≤ m) (hle : m ≤ n) (hn : 0 < n) (hdiv : intDiv m n = .ok x) :
    InUnit x := by
  have hn' : (0 : ℚ) < n := by exact_mod_cast hn
  rw [intDiv_of_lt hn.ne' (abs_ratio_lt_overflow hm hle hn), Except.ok.injEq] at hdiv
  refine ⟨_, _, hdiv.symm, nearest_nonneg (div_nonneg (by exact_mod_cast hm) hn'.le), nearest_le_one ?_⟩
  rw [div_le_one hn']
  exact_mod_cast hle

theorem clamp01_inUnit (value : Binary64) : InUnit (clamp01 value) :=
  pyMax_pyMin_inUnit (lit_inUnit le_rfl zero_le_one) (lit_inUnit zero_le_one le_rfl) value

theorem mul_inUnit (hx : InUnit x) (hy : InUnit y) : InUnit (x * y) := by
  obtain ⟨a, ha, rfl, ha0, ha1⟩ := hx
  obtain ⟨b, hb, rfl, hb0, hb1⟩ := hy
  have hle : a * b ≤ 1 := mul_le_one₀ ha1 hb0 hb1
  have hnonneg := mul_nonneg ha0 hb0
  have hlt : |a * b| < overflow := by
    rw [abs_of_nonneg hnonneg]
    exact lt_overflow (hle.trans (by norm_num))
  exact ⟨_, _, ofRat_of_lt hlt, nearest_nonneg hnonneg, nearest_le_one hle⟩

theorem add_clean_of_inUnit (hx : InUnit x) (hy : InUnit y) : Clean (x + y) := by
  obtain ⟨a, ha, rfl, ha0, ha1⟩ := hx
  obtain ⟨b, hb, rfl, hb0, hb1⟩ := hy
  have hlt : |a + b| < overflow := by
    rw [abs_of_nonneg (add_nonneg ha0 hb0)]
    exact lt_overflow (by linarith)
  exact ⟨_, _, ofRat_of_lt hlt, nearest_nonneg (add_nonneg ha0 hb0)⟩

theorem lit_one : ∃ hrepresentable, (lit 1 : Binary64) = finite 1 hrepresentable := by
  have hone := lit_natCast (n := 1) (by norm_num)
  rwa [Nat.cast_one] at hone

theorem one_sub_inUnit (hx : InUnit x) : InUnit (lit 1 - x) := by
  obtain ⟨hrepresentable, hone⟩ := lit_one
  obtain ⟨a, ha, rfl, ha0, ha1⟩ := hx
  have hlt : |1 - a| < overflow := by
    rw [abs_of_nonneg (by linarith)]
    exact lt_overflow (by linarith)
  rw [hone]
  exact ⟨_, _, ofRat_of_lt hlt, nearest_nonneg (by linarith), nearest_le_one (by linarith)⟩

/-- A number that is capped by one is a share. -/
theorem pyMin_one_inUnit (hx : NonNegative x) : InUnit (pyMin (lit 1) x) := by
  obtain ⟨hrepresentable, hone⟩ := lit_one
  have hunit : InUnit (finite 1 hrepresentable) := ⟨1, hrepresentable, rfl, zero_le_one, le_rfl⟩
  rw [hone]
  unfold pyMin
  obtain ⟨a, ha, rfl, ha0⟩ | rfl := hx
  · rw [lt_finite]
    split
    · rename_i hless
      exact ⟨a, ha, rfl, ha0, (of_decide_eq_true hless).le⟩
    · exact hunit
  · exact hunit

theorem nearest_le_add {c : ℚ} (hc : 0 ≤ c) : nearest c ≤ c + (c + 1) / 8 := by
  have hnear := (abs_le.mp (abs_nearest_sub_le c)).2
  have hmax : max |c| 1 ≤ c + 1 := by
    rw [abs_of_nonneg hc]
    exact max_le (by linarith) (by linarith)
  have hslack : max |c| 1 / 2 ^ 53 ≤ (c + 1) / 8 := by
    calc max |c| 1 / 2 ^ 53 ≤ (c + 1) / 2 ^ 53 := by gcongr
      _ ≤ (c + 1) / 8 := div_le_div_of_nonneg_left (by linarith) (by norm_num) (by norm_num)
  linarith

/-- A quarter of one finite number and a tenth of another add up to a finite one. -/
theorem tail_penalty_clean (hx : Clean x) (hy : Clean y) : Clean (x * lit 0.25 + y * lit 0.1) := by
  obtain ⟨a, ha, rfl, ha0⟩ := hx
  obtain ⟨b, hb, rfl, hb0⟩ := hy
  have hquarter : nearest 0.25 ≤ 1 / 3 := by decide +kernel
  have htenth : nearest 0.1 ≤ 1 / 8 := by decide +kernel
  have hbig : (2 : ℚ) < overflow := lt_overflow (by norm_num)
  have halt := ha.2
  have hblt := hb.2
  rw [abs_of_nonneg ha0] at halt
  rw [abs_of_nonneg hb0] at hblt
  have hx0 : 0 ≤ a * nearest 0.25 := mul_nonneg ha0 (nearest_nonneg (by norm_num))
  have hy0 : 0 ≤ b * nearest 0.1 := mul_nonneg hb0 (nearest_nonneg (by norm_num))
  have hxle : a * nearest 0.25 ≤ a * (1 / 3) := mul_le_mul_of_nonneg_left hquarter ha0
  have hyle : b * nearest 0.1 ≤ b * (1 / 8) := mul_le_mul_of_nonneg_left htenth hb0
  have hxnear := nearest_le_add hx0
  have hynear := nearest_le_add hy0
  have hxlt : |a * nearest 0.25| < overflow := by
    rw [abs_of_nonneg hx0]
    linarith
  have hylt : |b * nearest 0.1| < overflow := by
    rw [abs_of_nonneg hy0]
    linarith
  have hsum0 := add_nonneg (nearest_nonneg hx0) (nearest_nonneg hy0)
  have hsum : |nearest (a * nearest 0.25) + nearest (b * nearest 0.1)| < overflow := by
    rw [abs_of_nonneg hsum0]
    linarith
  have hquarterlt : |(0.25 : ℚ)| < overflow := by
    rw [abs_of_nonneg (by norm_num)]
    exact lt_overflow (by norm_num)
  have htenthlt : |(0.1 : ℚ)| < overflow := by
    rw [abs_of_nonneg (by norm_num)]
    exact lt_overflow (by norm_num)
  rw [lit_eq, lit_eq, ofRat_of_lt hquarterlt, ofRat_of_lt htenthlt, mul_finite, mul_finite, ofRat_of_lt hxlt,
    ofRat_of_lt hylt]
  exact ⟨_, _, ofRat_of_lt hsum, nearest_nonneg hsum0⟩

end Shares

/-- Signals none of whose times is negative or NaN. The confidence is clamped wherever it is used. -/
structure Timed (signals : MaterializationSignals Binary64) : Prop where
  transfer_time_ms : NonNegative signals.transfer_time_ms
  recompute_time_ms : NonNegative signals.recompute_time_ms
  queue_pressure : NonNegative signals.queue_pressure

/-- Both times are finite. -/
structure FiniteTimes (signals : MaterializationSignals Binary64) : Prop where
  transfer_time_ms : Clean signals.transfer_time_ms
  recompute_time_ms : Clean signals.recompute_time_ms

section Costs

variable {signals : MaterializationSignals Binary64} (htimed : Timed signals)

include htimed

theorem control_overhead_ms_nonNegative (decision : MaterializationDecision) :
    NonNegative (control_overhead_ms signals decision) := by
  have hpenalty : NonNegative (lit 0.15 * signals.queue_pressure) :=
    htimed.queue_pressure.lit_mul (two_pow_neg_le (by norm_num)) (by norm_num)
  unfold control_overhead_ms
  split
  · exact .inl (clean_lit (by norm_num) (by norm_num))
  · refine NonNegative.add (NonNegative.add (.inl (clean_lit (by norm_num) (by norm_num))) ?_) hpenalty
    split
    · exact .inl (clean_lit (by norm_num) (by norm_num))
    · exact .inl (clean_lit (by norm_num) (by norm_num))

variable {partial_reuse_floor_tokens : ℤ} (hreusable : 0 < signals.reusable_prefix_tokens)
  (hlt : (signals.reusable_prefix_tokens : ℚ) < overflow)
  (hfloor : FloorConvertible signals.reusable_prefix_tokens partial_reuse_floor_tokens)

include hreusable hlt hfloor

omit htimed in
/-- The cost of a reuse is put together from shares of the two times. -/
theorem reuse_ttft_ms_shares {decision : MaterializationDecision} {reused_tokens : ℤ} (hreused : 0 ≤ reused_tokens)
    (hle : reused_tokens ≤ signals.reusable_prefix_tokens) {cost : Binary64}
    (hcost : reuse_ttft_ms signals decision reused_tokens signals.reusable_prefix_tokens
      partial_reuse_floor_tokens = .ok cost) :
    ∃ transferred recomputed uncertain doubt, InUnit transferred ∧ InUnit recomputed ∧ InUnit uncertain ∧
      InUnit doubt ∧ cost = roundTo (signals.transfer_time_ms * transferred + signals.recompute_time_ms * recomputed +
        (signals.recompute_time_ms * lit 0.25 + signals.transfer_time_ms * lit 0.1) * uncertain * doubt +
        control_overhead_ms signals decision) 3 := by
  obtain ⟨confident_tokens, hconfident, hnonneg, hconfidentLe⟩ :=
    estimate_confident_reuse_tokens_within signals hreusable hlt hfloor
  have htotal := abs_lt_overflow_of_le hreusable.le le_rfl hlt
  have hpos : 0 < nearest (signals.reusable_prefix_tokens : ℚ) := by
    have hone : (1 : ℚ) ≤ signals.reusable_prefix_tokens := by exact_mod_cast hreusable
    exact nearest_pos (two_pow_neg_le (le_trans (by norm_num) hone))
  have hclamp := clamp01_inUnit signals.reuse_confidence
  have hdiscount : Clean (lit 0.5 + lit 0.4 * clamp01 signals.reuse_confidence) :=
    add_clean_of_inUnit (lit_inUnit (by norm_num) (by norm_num))
      (mul_inUnit (lit_inUnit (by norm_num) (by norm_num)) hclamp)
  unfold reuse_ttft_ms at hcost
  obtain ⟨frontier, hfrontier, hcost⟩ := bind_eq_ok_iff.mp hcost
  rw [hconfident, Except.ok.injEq] at hfrontier
  subst hfrontier
  obtain ⟨confident, hsure, hcost⟩ := bind_eq_ok_iff.mp hcost
  obtain ⟨unsure, hunsure, hcost⟩ := bind_eq_ok_iff.mp hcost
  obtain ⟨transfer_ratio, htransfer, hcost⟩ := bind_eq_ok_iff.mp hcost
  rw [ofInt_of_lt htotal] at hcost
  obtain ⟨total, htotalFloat, hcost⟩ := bind_eq_ok_iff.mp hcost
  cases htotalFloat
  obtain ⟨effective, heffective, hcost⟩ := bind_eq_ok_iff.mp hcost
  obtain ⟨uncertain_ratio, huncertain, hcost⟩ := bind_eq_ok_iff.mp hcost
  rw [pure_eq_ok_iff] at hcost
  have hshare : NonNegative effective :=
    NonNegative.div (NonNegative.add (.inl (ofInt_clean (by omega) hsure))
      ((ofInt_clean (by omega) hunsure).mul hdiscount)) hpos heffective
  exact ⟨transfer_ratio, _, uncertain_ratio, _, intDiv_inUnit hreused hle hreusable htransfer,
    one_sub_inUnit (pyMin_one_inUnit hshare), intDiv_inUnit (by omega) (by omega) hreusable huncertain,
    one_sub_inUnit hclamp, hcost.symm⟩

/-- Between finite times, a reuse costs a number. -/
theorem reuse_ttft_ms_nonNegative (hfinite : FiniteTimes signals) {decision : MaterializationDecision}
    {reused_tokens : ℤ}
    (hreused : 0 ≤ reused_tokens) (hle : reused_tokens ≤ signals.reusable_prefix_tokens) {cost : Binary64}
    (hcost : reuse_ttft_ms signals decision reused_tokens signals.reusable_prefix_tokens
      partial_reuse_floor_tokens = .ok cost) : NonNegative cost := by
  obtain ⟨transferred, recomputed, uncertain, doubt, htransferred, hrecomputed, huncertain, hdoubt, rfl⟩ :=
    reuse_ttft_ms_shares hreusable hlt hfloor hreused hle hcost
  have htransfer := hfinite.transfer_time_ms.share htransferred
  have hrecompute := hfinite.recompute_time_ms.share hrecomputed
  have hpenalty :=
    ((tail_penalty_clean hfinite.recompute_time_ms hfinite.transfer_time_ms).share huncertain).share hdoubt
  exact ((((NonNegative.add (.inl htransfer) (.inl hrecompute)).add (.inl hpenalty)).add
    (control_overhead_ms_nonNegative htimed decision))).roundTo 3

/-- With an infinite time, a reuse costs infinity or NaN. -/
theorem reuse_ttft_ms_unbounded (hinfinite : ¬ FiniteTimes signals) {decision : MaterializationDecision}
    {reused_tokens : ℤ} (hreused : 0 ≤ reused_tokens) (hle : reused_tokens ≤ signals.reusable_prefix_tokens)
    {cost : Binary64}
    (hcost : reuse_ttft_ms signals decision reused_tokens signals.reusable_prefix_tokens
      partial_reuse_floor_tokens = .ok cost) : Unbounded cost := by
  obtain ⟨transferred, recomputed, uncertain, doubt, htransferred, hrecomputed, huncertain, hdoubt, rfl⟩ :=
    reuse_ttft_ms_shares hreusable hlt hfloor hreused hle hcost
  have hquarter : InUnit (lit 0.25) := lit_inUnit (by norm_num) (by norm_num)
  have htenth : InUnit (lit 0.1) := lit_inUnit (by norm_num) (by norm_num)
  have htransfer : Unsigned signals.transfer_time_ms := .inl htimed.transfer_time_ms
  have hrecompute : Unsigned signals.recompute_time_ms := .inl htimed.recompute_time_ms
  have htimes : Unbounded (signals.transfer_time_ms * transferred + signals.recompute_time_ms * recomputed) := by
    obtain hclean | hinfinity := htimed.transfer_time_ms
    · obtain hclean' | hinfinity := htimed.recompute_time_ms
      · exact absurd ⟨hclean, hclean'⟩ hinfinite
      · exact (htransfer.share htransferred).add_unbounded (Unbounded.share (.inl hinfinity) hrecomputed)
    · exact Unbounded.add (Unbounded.share (.inl hinfinity) htransferred) (hrecompute.share hrecomputed)
  have hpenalty := (((hrecompute.share hquarter).add (htransfer.share htenth)).share huncertain).share hdoubt
  exact ((htimes.add hpenalty).add (.inl (control_overhead_ms_nonNegative htimed decision))).roundTo 3

theorem estimate_materialization_ttft_ms_nonNegative (hfinite : FiniteTimes signals)
    {decision : MaterializationDecision}
    {tokens : ℤ} {cost : Binary64}
    (hcost : estimate_materialization_ttft_ms signals decision tokens partial_reuse_floor_tokens = .ok cost) :
    NonNegative cost := by
  unfold estimate_materialization_ttft_ms at hcost
  rw [max_eq_left hreusable.le] at hcost
  dsimp only at hcost
  split at hcost
  · rw [pure_eq_ok_iff] at hcost
    rw [← hcost]
    exact htimed.recompute_time_ms.roundTo 3
  split at hcost
  · exact reuse_ttft_ms_nonNegative htimed hreusable hlt hfloor hfinite hreusable.le le_rfl hcost
  split at hcost
  · rw [pure_eq_ok_iff] at hcost
    rw [← hcost]
    exact htimed.recompute_time_ms.roundTo 3
  · exact reuse_ttft_ms_nonNegative htimed hreusable hlt hfloor hfinite (by omega) (by omega) hcost

theorem estimate_materialization_ttft_ms_unbounded (hinfinite : ¬ FiniteTimes signals)
    {decision : MaterializationDecision} (hreuse : decision ≠ .recompute) {tokens : ℤ} (htokens : 0 < tokens)
    {cost : Binary64}
    (hcost : estimate_materialization_ttft_ms signals decision tokens partial_reuse_floor_tokens = .ok cost) :
    Unbounded cost := by
  unfold estimate_materialization_ttft_ms at hcost
  rw [max_eq_left hreusable.le] at hcost
  dsimp only at hcost
  rw [if_neg (by simp only [hreuse, false_or]; omega)] at hcost
  split at hcost
  · exact reuse_ttft_ms_unbounded htimed hreusable hlt hfloor hinfinite hreusable.le le_rfl hcost
  · rw [if_neg (by omega)] at hcost
    exact reuse_ttft_ms_unbounded htimed hreusable hlt hfloor hinfinite (by omega) (by omega) hcost

end Costs

theorem estimate_recompute {F : Type} [PyFloat F] (signals : MaterializationSignals F)
    (tokens partial_reuse_floor_tokens : ℤ) :
    estimate_materialization_ttft_ms signals .recompute tokens partial_reuse_floor_tokens =
      .ok (roundTo signals.recompute_time_ms 3) := rfl

namespace MaterializationPolicy

/-- The policy's own adjustments leave no time negative. -/
theorem adjusted_signals_timed (self : MaterializationPolicy Binary64) {signals : MaterializationSignals Binary64}
    (htimed : Timed signals) : Timed (self.adjusted_signals signals) :=
  ⟨nonNegative_pyMax_zero _, htimed.recompute_time_ms, htimed.queue_pressure⟩

end MaterializationPolicy

end vllm_kv_materialization.policy
