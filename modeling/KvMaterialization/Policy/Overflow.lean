import KvMaterialization.Policy.Outcome
import KvMaterialization.Python.Binary64

open python
open python.Binary64

namespace vllm_kv_materialization.policy

/-- The floor is a share of the prefix that converts to a float, where the policy
compares the two. -/
def FloorConvertible (reusable_prefix_tokens partial_reuse_floor_tokens : ℤ) : Prop :=
  0 < reusable_prefix_tokens → partial_reuse_floor_tokens < reusable_prefix_tokens →
    |(partial_reuse_floor_tokens : ℚ) / reusable_prefix_tokens| < overflow

section

variable (signals : MaterializationSignals Binary64) {partial_reuse_floor_tokens : ℤ}

theorem confident_ratio_inUnit {floor_ratio : Binary64} (hfloor : InUnit floor_ratio) :
    InUnit (confident_ratio signals floor_ratio) := by
  unfold confident_ratio
  exact pyMax_pyMin_inUnit hfloor (lit_inUnit (by norm_num) (by norm_num)) _

variable (hreusable : 0 < signals.reusable_prefix_tokens)
  (hlt : (signals.reusable_prefix_tokens : ℚ) < overflow)
  (hfloor : FloorConvertible signals.reusable_prefix_tokens partial_reuse_floor_tokens)

include hreusable hlt hfloor

/-- The confident frontier of a prefix that converts lies inside it. -/
theorem estimate_confident_reuse_tokens_within :
    ∃ confident_tokens,
      estimate_confident_reuse_tokens signals partial_reuse_floor_tokens = .ok confident_tokens ∧
        0 ≤ confident_tokens ∧ confident_tokens ≤ signals.reusable_prefix_tokens := by
  unfold estimate_confident_reuse_tokens
  rw [max_eq_left hreusable.le]
  by_cases hshort : signals.reusable_prefix_tokens ≤ partial_reuse_floor_tokens
  · refine ⟨signals.reusable_prefix_tokens, ?_, hreusable.le, le_rfl⟩
    simp only [if_neg (not_le.mpr hreusable), if_pos hshort]
    rfl
  have hbelow : partial_reuse_floor_tokens < signals.reusable_prefix_tokens := not_le.mp hshort
  have hratio := hfloor hreusable hbelow
  have hreusable' : (0 : ℚ) < signals.reusable_prefix_tokens := by exact_mod_cast hreusable
  have hfloorUnit : InUnit (pyMax (finite _ (nearest_representable hratio)) (lit 0.18)) := by
    apply pyMax_inUnit _ (lit_inUnit (by norm_num) (by norm_num))
    apply nearest_le_one
    rw [div_le_one hreusable']
    exact_mod_cast hbelow.le
  have habs := abs_lt_overflow_of_le hreusable.le le_rfl hlt
  obtain ⟨rounded, hround, hrounded⟩ := round_share hreusable.le hlt
    (confident_ratio_inUnit signals hfloorUnit) (ofInt_of_lt habs)
  refine ⟨min signals.reusable_prefix_tokens (max partial_reuse_floor_tokens rounded), ?_, ?_, ?_⟩
  · simp only [if_neg (not_le.mpr hreusable), if_neg hshort]
    rw [intDiv_of_lt hreusable.ne' hratio, ofInt_of_lt habs]
    dsimp only [bind, Except.bind]
    rw [hround]
    rfl
  · omega
  · omega

/-- So does the cost of reusing some of it. -/
theorem reuse_ttft_ms_returns (decision : MaterializationDecision) {reused_tokens : ℤ}
    (hreused : 0 ≤ reused_tokens) (hle : reused_tokens ≤ signals.reusable_prefix_tokens) :
    Returns (reuse_ttft_ms signals decision reused_tokens signals.reusable_prefix_tokens
      partial_reuse_floor_tokens) := by
  obtain ⟨confident_tokens, hconfident, hnonneg, hconfidentLe⟩ :=
    estimate_confident_reuse_tokens_within signals hreusable hlt hfloor
  have htotal := abs_lt_overflow_of_le hreusable.le le_rfl hlt
  have hnearest : nearest (signals.reusable_prefix_tokens : ℚ) ≠ 0 := by
    have hone : (1 : ℚ) ≤ signals.reusable_prefix_tokens := by exact_mod_cast hreusable
    have hmono := nearest_mono zero_le_one hone
    rw [nearest_one] at hmono
    exact (zero_lt_one.trans_le hmono).ne'
  unfold reuse_ttft_ms
  rw [hconfident]
  refine Returns.bind (returns_ok _) (fun _ heq => ?_)
  cases heq
  dsimp only
  refine (ofInt_returns_iff.mpr (abs_lt_overflow_of_le (by omega) (by omega) hlt)).bind
    (fun confident _ => ?_)
  refine (ofInt_returns_iff.mpr (abs_lt_overflow_of_le (by omega) (by omega) hlt)).bind
    (fun uncertain _ => ?_)
  refine ((intDiv_returns_iff hreusable.ne').mpr (abs_ratio_lt_overflow hreused hle hreusable)).bind
    (fun transfer_ratio _ => ?_)
  rw [ofInt_of_lt htotal]
  refine Returns.bind (returns_ok _) (fun _ heq => ?_)
  cases heq
  refine (div_returns _ hnearest).bind (fun effective_ratio _ => ?_)
  refine ((intDiv_returns_iff hreusable.ne').mpr
    (abs_ratio_lt_overflow (by omega) (by omega) hreusable)).bind (fun uncertain_ratio _ => ?_)
  exact returns_pure _

theorem estimate_materialization_ttft_ms_returns (decision : MaterializationDecision)
    (reused_tokens : ℤ) :
    Returns (estimate_materialization_ttft_ms signals decision reused_tokens
      partial_reuse_floor_tokens) := by
  unfold estimate_materialization_ttft_ms
  rw [max_eq_left hreusable.le]
  dsimp only
  split
  · exact returns_pure _
  split
  · exact reuse_ttft_ms_returns signals hreusable hlt hfloor _ hreusable.le le_rfl
  split
  · exact returns_pure _
  · exact reuse_ttft_ms_returns signals hreusable hlt hfloor _ (by omega) (by omega)

theorem optimize_partial_reuse_tokens_returns (setOrder : SetOrder) :
    Returns (optimize_partial_reuse_tokens setOrder signals partial_reuse_floor_tokens) := by
  obtain ⟨confident_tokens, hconfident, _, _⟩ :=
    estimate_confident_reuse_tokens_within signals hreusable hlt hfloor
  have hkeyed : ∀ tokens : ℤ, Returns (do
      return (← estimate_materialization_ttft_ms signals .partial_reuse tokens
        partial_reuse_floor_tokens, tokens)) := fun tokens =>
    (estimate_materialization_ttft_ms_returns signals hreusable hlt hfloor .partial_reuse tokens).bind
      (fun cost _ => returns_pure _)
  unfold optimize_partial_reuse_tokens
  dsimp only
  split
  · exact returns_pure _
  rw [hconfident]
  refine Returns.bind (returns_ok _) (fun _ heq => ?_)
  cases heq
  split
  · exact returns_pure _
  · refine (hkeyed _).bind (fun first _ => ?_)
    refine (Returns.mapM (fun tokens _ => hkeyed tokens)).bind (fun rest _ => ?_)
    exact returns_pure _

end

/-- Full reuse always asks for the confident frontier, and so for the floor's share. -/
theorem floorConvertible_of_full_reuse (signals : MaterializationSignals Binary64)
    {reused_tokens partial_reuse_floor_tokens : ℤ} {cost : Binary64}
    (hcost : estimate_materialization_ttft_ms signals .full_reuse reused_tokens
      partial_reuse_floor_tokens = .ok cost) :
    FloorConvertible signals.reusable_prefix_tokens partial_reuse_floor_tokens := by
  intro hreusable hbelow
  have htotal : max signals.reusable_prefix_tokens 0 = signals.reusable_prefix_tokens :=
    max_eq_left hreusable.le
  unfold estimate_materialization_ttft_ms at hcost
  simp only [htotal, not_le.mpr hreusable, or_false, reduceCtorEq, if_false, if_true] at hcost
  unfold reuse_ttft_ms at hcost
  obtain ⟨confident_tokens, hconfident, _⟩ := bind_eq_ok_iff.mp hcost
  unfold estimate_confident_reuse_tokens at hconfident
  rw [htotal] at hconfident
  simp only [if_neg (not_le.mpr hreusable), if_neg (not_le.mpr hbelow)] at hconfident
  obtain ⟨ratio, hratio, _⟩ := bind_eq_ok_iff.mp hconfident
  exact (intDiv_returns_iff hreusable.ne').mp ⟨ratio, hratio⟩

namespace MaterializationPolicy

variable {self : MaterializationPolicy Binary64} {signals : MaterializationSignals Binary64}

theorem estimate_adjusted_returns (hreusable : 0 < signals.reusable_prefix_tokens)
    (hlt : (signals.reusable_prefix_tokens : ℚ) < overflow)
    (hfloor : FloorConvertible signals.reusable_prefix_tokens self.partial_reuse_floor_tokens)
    (decision : MaterializationDecision) (reused_tokens : ℤ) :
    Returns (estimate_materialization_ttft_ms (self.adjusted_signals signals) decision reused_tokens
      self.partial_reuse_floor_tokens) :=
  estimate_materialization_ttft_ms_returns (self.adjusted_signals signals) hreusable hlt
    hfloor decision reused_tokens

theorem estimate_full_reuse_returns (hreusable : 0 < signals.reusable_prefix_tokens)
    (hlt : (signals.reusable_prefix_tokens : ℚ) < overflow)
    (hfloor : FloorConvertible signals.reusable_prefix_tokens self.partial_reuse_floor_tokens)
    (decision : MaterializationDecision) (reused_tokens : ℤ) :
    Returns (estimate_materialization_ttft_ms (self.full_reuse_signals signals) decision reused_tokens
      self.partial_reuse_floor_tokens) :=
  estimate_materialization_ttft_ms_returns (self.full_reuse_signals signals) hreusable hlt
    hfloor decision reused_tokens

theorem partial_candidate_returns (hreusable : 0 < signals.reusable_prefix_tokens)
    (hlt : (signals.reusable_prefix_tokens : ℚ) < overflow)
    (hfloor : FloorConvertible signals.reusable_prefix_tokens self.partial_reuse_floor_tokens)
    (partial_tokens : ℤ) :
    Returns (self.partial_candidate (self.adjusted_signals signals) partial_tokens) := by
  obtain ⟨confident_tokens, hconfident, _, _⟩ := estimate_confident_reuse_tokens_within
    (self.adjusted_signals signals) hreusable hlt hfloor
  unfold partial_candidate
  split
  · refine Returns.bind ⟨confident_tokens, hconfident⟩ (fun _ _ => ?_)
    exact (estimate_adjusted_returns hreusable hlt hfloor .partial_reuse partial_tokens).bind
      (fun cost _ => returns_pure _)
  · exact returns_pure _

theorem decide_returns (setOrder : SetOrder)
    (hlt : (signals.reusable_prefix_tokens : ℚ) < overflow)
    (hfloor : FloorConvertible signals.reusable_prefix_tokens self.partial_reuse_floor_tokens) :
    Returns (self.decide setOrder signals) := by
  unfold decide
  split
  · exact returns_pure _
  rename_i hnonempty
  have hreusable : 0 < signals.reusable_prefix_tokens := not_le.mp hnonempty
  dsimp only
  refine (estimate_adjusted_returns hreusable hlt hfloor .recompute 0).bind (fun recompute_cost _ => ?_)
  refine (estimate_full_reuse_returns hreusable hlt hfloor .full_reuse
    signals.reusable_prefix_tokens).bind (fun full_reuse_cost _ => ?_)
  refine (optimize_partial_reuse_tokens_returns (self.adjusted_signals signals) hreusable hlt
    hfloor setOrder).bind (fun partial_tokens _ => ?_)
  refine (partial_candidate_returns hreusable hlt hfloor partial_tokens).bind (fun candidates _ => ?_)
  exact returns_pure _

/-- A decision on a prefix that converts is reached exactly if its floor converts. -/
theorem decide_returns_iff (self : MaterializationPolicy Binary64)
    (signals : MaterializationSignals Binary64) (setOrder : SetOrder)
    (hlt : (signals.reusable_prefix_tokens : ℚ) < overflow) :
    Returns (self.decide setOrder signals) ↔
      FloorConvertible signals.reusable_prefix_tokens self.partial_reuse_floor_tokens := by
  refine ⟨fun hdecide hreusable hbelow => ?_, decide_returns setOrder hlt⟩
  unfold decide at hdecide
  rw [if_neg (not_le.mpr hreusable), returns_bind_iff] at hdecide
  obtain ⟨recompute_cost, _, hdecide⟩ := hdecide
  rw [returns_bind_iff] at hdecide
  obtain ⟨full_reuse_cost, hfull, _⟩ := hdecide
  exact floorConvertible_of_full_reuse (self.full_reuse_signals signals) hfull hreusable hbelow

end MaterializationPolicy

end vllm_kv_materialization.policy
