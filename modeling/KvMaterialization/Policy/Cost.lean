import KvMaterialization.Kinked
import KvMaterialization.Policy.Decision
import Mathlib.Tactic.Positivity
import Mathlib.Tactic.LinearCombination

open python

namespace vllm_kv_materialization.policy

section Frontier

variable (signals : MaterializationSignals ℚ) (partial_reuse_floor_tokens : ℤ)

theorem le_confident_ratio (floor_ratio : ℚ) : floor_ratio ≤ confident_ratio signals floor_ratio := by
  simp [confident_ratio]

/-- A larger confidence never shrinks the share reused with confidence. -/
theorem confident_ratio_mono_confidence {signals signals' : MaterializationSignals ℚ}
    (httft : signals'.ttft_sensitive = signals.ttft_sensitive)
    (hqueue : signals'.queue_pressure = signals.queue_pressure)
    (hconfidence : signals.reuse_confidence ≤ signals'.reuse_confidence) (floor_ratio : ℚ) :
    confident_ratio signals floor_ratio ≤ confident_ratio signals' floor_ratio := by
  have hclamp := clamp01_mono hconfidence
  simp only [confident_ratio, httft, hqueue, pyMax_exact, pyMin_exact, lit_exact]
  apply max_le_max le_rfl
  apply min_le_min _ le_rfl
  split <;> linarith

theorem confidentTokens_nonneg : 0 ≤ confidentTokens signals partial_reuse_floor_tokens := by
  unfold confidentTokens
  dsimp only
  split_ifs with hempty hshort
  · exact le_rfl
  · omega
  · have hratio : (0 : ℚ) ≤ confident_ratio signals
        (max ((partial_reuse_floor_tokens : ℚ) / (max signals.reusable_prefix_tokens 0 : ℤ)) 0.18) :=
      le_trans (by norm_num) ((le_max_right _ _).trans (le_confident_ratio signals _))
    have htotal : (0 : ℚ) ≤ (max signals.reusable_prefix_tokens 0 : ℤ) := by
      exact_mod_cast le_max_right _ _
    have hrounded := roundHalfEven_nonneg (mul_nonneg htotal hratio)
    omega

/-- The frontier reaches the floor wherever the prefix does. -/
theorem floor_le_confidentTokens
    (hfloor : partial_reuse_floor_tokens ≤ signals.reusable_prefix_tokens)
    (hreusable : 0 < signals.reusable_prefix_tokens) :
    partial_reuse_floor_tokens ≤ confidentTokens signals partial_reuse_floor_tokens := by
  unfold confidentTokens
  dsimp only
  split_ifs <;> omega

theorem confidentTokens_mono_confidence {signals signals' : MaterializationSignals ℚ}
    (hreusable : signals'.reusable_prefix_tokens = signals.reusable_prefix_tokens)
    (httft : signals'.ttft_sensitive = signals.ttft_sensitive)
    (hqueue : signals'.queue_pressure = signals.queue_pressure)
    (hconfidence : signals.reuse_confidence ≤ signals'.reuse_confidence) :
    confidentTokens signals partial_reuse_floor_tokens ≤
      confidentTokens signals' partial_reuse_floor_tokens := by
  unfold confidentTokens
  rw [hreusable]
  dsimp only
  split_ifs
  · exact le_rfl
  · exact le_rfl
  · have htotal : (0 : ℚ) ≤ (max signals.reusable_prefix_tokens 0 : ℤ) := by
      exact_mod_cast le_max_right _ _
    apply min_le_min le_rfl
    apply max_le_max le_rfl
    apply roundHalfEven_mono
    exact mul_le_mul_of_nonneg_left
      (confident_ratio_mono_confidence httft hqueue hconfidence _) htotal

end Frontier

/-- The slopes of the partial cost, per token, before and past the frontier. -/
def firstSlope (signals : MaterializationSignals ℚ) : ℚ :=
  (signals.transfer_time_ms - signals.recompute_time_ms) / signals.reusable_prefix_tokens

def secondSlope (signals : MaterializationSignals ℚ) : ℚ :=
  let confidence := clamp01 signals.reuse_confidence
  (signals.transfer_time_ms - signals.recompute_time_ms * (0.5 + 0.4 * confidence)
    + (signals.recompute_time_ms * 0.25 + signals.transfer_time_ms * 0.1) * (1 - confidence))
      / signals.reusable_prefix_tokens

/-- The share reused effectively never exceeds the share reused, so the cap of
`1` in the cost never binds. -/
theorem effective_ratio_le_one {confidence : ℚ} (hconfidence : confidence ≤ 1)
    (confident : ℚ) {reused total : ℚ} (hreused : reused ≤ total) (htotal : 0 < total) :
    (min reused confident + max 0 (reused - confident) * (0.5 + 0.4 * confidence)) / total ≤ 1 := by
  rw [div_le_one htotal]
  obtain hle | hge := le_total reused confident
  · rw [min_eq_left hle, max_eq_left (by linarith)]
    linarith
  · rw [min_eq_right hge, max_eq_right (by linarith)]
    nlinarith

/-- Up to rounding, the cost of a reuse within the prefix is kinked at the frontier. -/
theorem reuseCost_eq_kinked (signals : MaterializationSignals ℚ) (decision : MaterializationDecision)
    {reused_tokens : ℤ} (partial_reuse_floor_tokens : ℤ)
    (hreusable : 0 < signals.reusable_prefix_tokens) (hreused : reused_tokens ≤ signals.reusable_prefix_tokens) :
    reuseCost signals decision reused_tokens signals.reusable_prefix_tokens partial_reuse_floor_tokens =
      kinked.value (signals.recompute_time_ms + control_overhead_ms signals decision)
        (firstSlope signals) (secondSlope signals)
        (confidentTokens signals partial_reuse_floor_tokens) reused_tokens := by
  have htotal : (0 : ℚ) < signals.reusable_prefix_tokens := by exact_mod_cast hreusable
  have hcast : (reused_tokens : ℚ) ≤ signals.reusable_prefix_tokens := by exact_mod_cast hreused
  have hcap := effective_ratio_le_one (clamp01_le_one signals.reuse_confidence)
    (confidentTokens signals partial_reuse_floor_tokens) hcast htotal
  have hsplit := kinked.min_add_max (reused_tokens : ℚ)
    (confidentTokens signals partial_reuse_floor_tokens : ℚ)
  unfold reuseCost kinked.value firstSlope secondSlope
  dsimp only
  push_cast
  rw [min_eq_right hcap]
  field_simp
  linear_combination (-signals.transfer_time_ms) * hsplit

/-- The same cost in the amounts that confidence and transfer time move: the
tokens reused past the frontier, and those weighed by the doubt about them. -/
theorem kinked_cost_eq (signals : MaterializationSignals ℚ) (base kink reused : ℚ)
    (hreusable : 0 < signals.reusable_prefix_tokens) :
    kinked.value base (firstSlope signals) (secondSlope signals) kink reused =
      base + ((signals.transfer_time_ms - signals.recompute_time_ms) * reused
        + 0.1 * (signals.transfer_time_ms
          * ((1 - clamp01 signals.reuse_confidence) * max 0 (reused - kink)))
        + signals.recompute_time_ms * (0.1 * max 0 (reused - kink)
          + 0.65 * ((1 - clamp01 signals.reuse_confidence) * max 0 (reused - kink))))
        / signals.reusable_prefix_tokens := by
  have htotal : (0 : ℚ) < signals.reusable_prefix_tokens := by exact_mod_cast hreusable
  have hsplit := kinked.min_add_max reused kink
  unfold kinked.value firstSlope secondSlope
  dsimp only
  field_simp
  linear_combination (signals.transfer_time_ms - signals.recompute_time_ms) * hsplit

section Ttft

variable (signals : MaterializationSignals ℚ) (partial_reuse_floor_tokens : ℤ)

theorem ttft_recompute (reused_tokens : ℤ) :
    ttft signals .recompute reused_tokens partial_reuse_floor_tokens =
      roundDecimals signals.recompute_time_ms 3 := by
  simp [ttft]

theorem ttft_partial_reuse_of_nonpos {reused_tokens : ℤ} (hreused : reused_tokens ≤ 0) :
    ttft signals .partial_reuse reused_tokens partial_reuse_floor_tokens =
      roundDecimals signals.recompute_time_ms 3 := by
  unfold ttft
  dsimp only
  rw [if_pos]
  right
  right
  simp only [reduceCtorEq, if_false]
  omega

theorem ttft_partial_reuse {reused_tokens : ℤ} (hpos : 0 < reused_tokens)
    (hle : reused_tokens ≤ signals.reusable_prefix_tokens) :
    ttft signals .partial_reuse reused_tokens partial_reuse_floor_tokens =
      roundDecimals (kinked.value
        (signals.recompute_time_ms + control_overhead_ms signals .partial_reuse)
        (firstSlope signals) (secondSlope signals)
        (confidentTokens signals partial_reuse_floor_tokens) reused_tokens) 3 := by
  rw [← reuseCost_eq_kinked signals .partial_reuse partial_reuse_floor_tokens (by omega) hle]
  have htotal : max signals.reusable_prefix_tokens 0 = signals.reusable_prefix_tokens :=
    max_eq_left (by omega)
  have hreused : min (max reused_tokens 0) signals.reusable_prefix_tokens = reused_tokens := by omega
  unfold ttft
  simp only [htotal, hreused, reduceCtorEq, if_false, false_or]
  rw [if_neg (by omega)]

theorem ttft_full_reuse (reused_tokens : ℤ) (hreusable : 0 < signals.reusable_prefix_tokens) :
    ttft signals .full_reuse reused_tokens partial_reuse_floor_tokens =
      roundDecimals (kinked.value
        (signals.recompute_time_ms + control_overhead_ms signals .full_reuse)
        (firstSlope signals) (secondSlope signals)
        (confidentTokens signals partial_reuse_floor_tokens) signals.reusable_prefix_tokens) 3 := by
  rw [← reuseCost_eq_kinked signals .full_reuse partial_reuse_floor_tokens hreusable le_rfl]
  have htotal : max signals.reusable_prefix_tokens 0 = signals.reusable_prefix_tokens :=
    max_eq_left (by omega)
  unfold ttft
  simp only [htotal, if_true, reduceCtorEq, false_or]
  rw [if_neg (by omega)]

end Ttft

namespace MaterializationPolicy

variable (self : MaterializationPolicy ℚ) (signals : MaterializationSignals ℚ)

@[simp] theorem adjusted_signals_recompute :
    (self.adjusted_signals signals).recompute_time_ms = signals.recompute_time_ms := rfl

theorem adjusted_transfer_nonneg : 0 ≤ (self.adjusted_signals signals).transfer_time_ms := by
  simp [adjusted_signals]

theorem recomputeCost_eq : self.recomputeCost signals = roundDecimals signals.recompute_time_ms 3 :=
  ttft_recompute _ _ _

theorem partialReuseCost_of_nonpos {tokens : ℤ} (htokens : tokens ≤ 0) :
    self.partialReuseCost signals tokens = self.recomputeCost signals := by
  rw [recomputeCost_eq]
  exact ttft_partial_reuse_of_nonpos _ _ htokens

/-- The sampled cuts of a decision. -/
def sampledCuts (setOrder : SetOrder) : List ℤ :=
  cuts setOrder (self.adjusted_signals signals) self.partial_reuse_floor_tokens

/-- The frontier the cuts are sampled around. -/
def frontier : ℤ := confidentTokens (self.adjusted_signals signals) self.partial_reuse_floor_tokens

theorem mem_sampledCuts {setOrder : SetOrder} {tokens : ℤ}
    (hreusable : 0 < signals.reusable_prefix_tokens) :
    tokens ∈ self.sampledCuts signals setOrder ↔
      self.partial_reuse_floor_tokens ≤ tokens ∧ tokens < signals.reusable_prefix_tokens ∧
        (tokens = self.partial_reuse_floor_tokens ∨
          tokens = max self.partial_reuse_floor_tokens (signals.reusable_prefix_tokens / 3) ∨
          tokens = max self.partial_reuse_floor_tokens (signals.reusable_prefix_tokens / 2) ∨
          tokens = max self.partial_reuse_floor_tokens ((2 * signals.reusable_prefix_tokens) / 3) ∨
          tokens = max self.partial_reuse_floor_tokens
            (self.frontier signals - max 64 (self.partial_reuse_floor_tokens / 2)) ∨
          tokens = self.frontier signals ∨
          tokens = min (signals.reusable_prefix_tokens - 1)
            (self.frontier signals + max 64 (self.partial_reuse_floor_tokens / 2))) := by
  have htotal : max signals.reusable_prefix_tokens 0 = signals.reusable_prefix_tokens :=
    max_eq_left hreusable.le
  unfold sampledCuts cuts frontier
  rw [mem_candidate_tokens, adjusted_signals_tokens, htotal]

/-- The cut of a decision is a cheapest one of those sampled. -/
theorem cut_spec {setOrder : SetOrder} {tokens : ℤ} (hmem : tokens ∈ self.sampledCuts signals setOrder) :
    self.cut setOrder signals ∈ self.sampledCuts signals setOrder ∧
      self.partialReuseCost signals (self.cut setOrder signals) ≤ self.partialReuseCost signals tokens := by
  rcases bestCut_spec setOrder (self.adjusted_signals signals) self.partial_reuse_floor_tokens with
    ⟨hnone, _⟩ | ⟨hbest, hle⟩
  · unfold sampledCuts at hmem
    rw [hnone] at hmem
    cases hmem
  · exact ⟨hbest, hle tokens hmem⟩

theorem cut_mem_of_pos {setOrder : SetOrder} (hcut : 0 < self.cut setOrder signals) :
    self.cut setOrder signals ∈ self.sampledCuts signals setOrder := by
  rcases bestCut_spec setOrder (self.adjusted_signals signals) self.partial_reuse_floor_tokens with
    ⟨_, hzero⟩ | ⟨hbest, _⟩
  · unfold cut at hcut
    omega
  · exact hbest

/-- The unrounded cost of a cut. -/
def cutCost (tokens : ℚ) : ℚ :=
  kinked.value
    (signals.recompute_time_ms + control_overhead_ms (self.adjusted_signals signals) .partial_reuse)
    (firstSlope (self.adjusted_signals signals)) (secondSlope (self.adjusted_signals signals))
    (self.frontier signals) tokens

theorem partialReuseCost_eq {tokens : ℤ} (hpos : 0 < tokens)
    (hle : tokens ≤ signals.reusable_prefix_tokens) :
    self.partialReuseCost signals tokens = roundDecimals (self.cutCost signals tokens) 3 :=
  ttft_partial_reuse _ _ hpos hle

end MaterializationPolicy

end vllm_kv_materialization.policy
