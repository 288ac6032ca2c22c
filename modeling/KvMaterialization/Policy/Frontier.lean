import KvMaterialization.Policy.Cost

open python

namespace vllm_kv_materialization.policy

/-- Signals that speak for reusing at least as much: no fewer tokens, no lower confidence,
no loss of the sensitivity to latency, no more pressure on the queue. -/
structure Ahead (signals signals' : MaterializationSignals ℚ) : Prop where
  reusable_prefix_tokens : signals.reusable_prefix_tokens ≤ signals'.reusable_prefix_tokens
  reuse_confidence : signals.reuse_confidence ≤ signals'.reuse_confidence
  ttft_sensitive : signals.ttft_sensitive = true → signals'.ttft_sensitive = true
  queue_pressure : signals'.queue_pressure ≤ signals.queue_pressure

/-- The share of the prefix that is reused with confidence where the floor is out of play. -/
def confidentShare (signals : MaterializationSignals ℚ) : ℚ := confident_ratio signals 0.18

section

variable (signals : MaterializationSignals ℚ) (partial_reuse_floor_tokens : ℤ)

theorem confident_ratio_max (floor_ratio : ℚ) :
    confident_ratio signals (max floor_ratio 0.18) = max floor_ratio (confidentShare signals) := by
  simp only [confidentShare, confident_ratio, pyMax_exact]
  rw [max_assoc]

theorem confidentShare_pos : 0 < confidentShare signals :=
  lt_of_lt_of_le (by norm_num) (le_confident_ratio signals 0.18)

/-- The clamps of the ratio are one clamp of the tokens: the shrinking lower clamp is the
floor itself, whatever the prefix. -/
theorem confidentTokens_eq (hfloor : 1 ≤ partial_reuse_floor_tokens) :
    confidentTokens signals partial_reuse_floor_tokens =
      min (max signals.reusable_prefix_tokens 0) (max partial_reuse_floor_tokens
        (roundHalfEven ((max signals.reusable_prefix_tokens 0 : ℤ) * confidentShare signals))) := by
  unfold confidentTokens
  dsimp only
  split_ifs with hempty hshort
  · omega
  · omega
  · have hpos : (0 : ℚ) < (max signals.reusable_prefix_tokens 0 : ℤ) := by
      exact_mod_cast not_le.mp hempty
    have hround : Monotone roundHalfEven := fun _ _ => roundHalfEven_mono
    rw [confident_ratio_max, mul_max_of_nonneg _ _ hpos.le, mul_div_cancel₀ _ hpos.ne', hround.map_max,
      roundHalfEven_intCast, ← max_assoc, max_self]

theorem confidentShare_mono {signals signals' : MaterializationSignals ℚ} (hahead : Ahead signals signals') :
    confidentShare signals ≤ confidentShare signals' := by
  have hconfidence := clamp01_mono hahead.reuse_confidence
  have hpressure : max (signals'.queue_pressure - 0.5) 0 ≤ max (signals.queue_pressure - 0.5) 0 :=
    max_le_max (by linarith [hahead.queue_pressure]) le_rfl
  simp only [confidentShare, confident_ratio, pyMax_exact, pyMin_exact, lit_exact]
  apply max_le_max le_rfl
  apply min_le_min _ le_rfl
  cases hsensitive : signals.ttft_sensitive with
  | true =>
    rw [hahead.ttft_sensitive hsensitive]
    simp only [if_true]
    linarith
  | false =>
    simp only [Bool.false_eq_true, if_false]
    split <;> linarith

theorem confidentTokens_mono {signals signals' : MaterializationSignals ℚ} (hfloor : 1 ≤ partial_reuse_floor_tokens)
    (hahead : Ahead signals signals') :
    confidentTokens signals partial_reuse_floor_tokens ≤ confidentTokens signals' partial_reuse_floor_tokens := by
  have htotal : max signals.reusable_prefix_tokens 0 ≤ max signals'.reusable_prefix_tokens 0 :=
    max_le_max hahead.reusable_prefix_tokens le_rfl
  have hnonneg : (0 : ℚ) ≤ (max signals.reusable_prefix_tokens 0 : ℤ) := by
    exact_mod_cast le_max_right _ _
  rw [confidentTokens_eq _ _ hfloor, confidentTokens_eq _ _ hfloor]
  apply min_le_min htotal
  apply max_le_max le_rfl
  apply roundHalfEven_mono
  calc
    ((max signals.reusable_prefix_tokens 0 : ℤ) : ℚ) * confidentShare signals
        ≤ (max signals.reusable_prefix_tokens 0 : ℤ) * confidentShare signals' :=
      mul_le_mul_of_nonneg_left (confidentShare_mono hahead) hnonneg
    _ ≤ (max signals'.reusable_prefix_tokens 0 : ℤ) * confidentShare signals' :=
      mul_le_mul_of_nonneg_right (by exact_mod_cast htotal) (confidentShare_pos signals').le

theorem confidentTokens_le :
    confidentTokens signals partial_reuse_floor_tokens ≤ max signals.reusable_prefix_tokens 0 := by
  unfold confidentTokens
  dsimp only
  split_ifs <;> omega

end

/-- The frontier is within the prefix, reaches the floor wherever the prefix does, and
never moves against the signals. -/
theorem estimate_confident_reuse_tokens_bounded_monotone (signals : MaterializationSignals ℚ)
    (partial_reuse_floor_tokens : ℤ) (hfloor : 1 ≤ partial_reuse_floor_tokens) :
    ∃ confident_tokens, estimate_confident_reuse_tokens signals partial_reuse_floor_tokens = .ok confident_tokens ∧
      0 ≤ confident_tokens ∧ confident_tokens ≤ max signals.reusable_prefix_tokens 0 ∧
      (partial_reuse_floor_tokens ≤ signals.reusable_prefix_tokens →
        partial_reuse_floor_tokens ≤ confident_tokens) ∧
      ∀ signals', Ahead signals signals' → ∃ confident_tokens',
        estimate_confident_reuse_tokens signals' partial_reuse_floor_tokens = .ok confident_tokens' ∧
          confident_tokens ≤ confident_tokens' := by
  refine ⟨_, estimate_confident_reuse_tokens_exact signals partial_reuse_floor_tokens,
    confidentTokens_nonneg signals partial_reuse_floor_tokens, confidentTokens_le signals partial_reuse_floor_tokens,
    ?_, ?_⟩
  · intro hreaches
    exact floor_le_confidentTokens signals partial_reuse_floor_tokens hreaches (by omega)
  · intro signals' hahead
    exact ⟨_, estimate_confident_reuse_tokens_exact signals' partial_reuse_floor_tokens,
      confidentTokens_mono partial_reuse_floor_tokens hfloor hahead⟩

/-- From a prefix of the floor's length, where the code takes its early return, to a longer one. -/
theorem estimate_confident_reuse_tokens_bounded_monotone_at_floor :
    let signals : MaterializationSignals ℚ := ⟨128, 0, 0, 0, 3, false, 1 / 2⟩
    ∃ confident_tokens, estimate_confident_reuse_tokens signals 128 = .ok confident_tokens ∧
      128 ≤ confident_tokens ∧ ∃ confident_tokens',
        estimate_confident_reuse_tokens { signals with reusable_prefix_tokens := 1024, queue_pressure := 1 } 128 =
          .ok confident_tokens' ∧ confident_tokens ≤ confident_tokens' := by
  intro signals
  obtain ⟨confident_tokens, hestimate, _, _, hreaches, hmonotone⟩ :=
    estimate_confident_reuse_tokens_bounded_monotone signals 128 (by norm_num)
  refine ⟨confident_tokens, hestimate, hreaches le_rfl, hmonotone _ ⟨?_, le_rfl, id, ?_⟩⟩
  · norm_num [signals]
  · norm_num [signals]

end vllm_kv_materialization.policy
