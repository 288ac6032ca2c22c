import KvMaterialization.Policy.Model
import Mathlib.Tactic.FieldSimp
import Mathlib.Tactic.Ring

open python

namespace vllm_kv_materialization.policy

@[simp] theorem clamp01_exact (value : ℚ) : clamp01 value = max 0 (min value 1) := by
  simp [clamp01]

theorem clamp01_le_one (value : ℚ) : clamp01 value ≤ 1 := by simp

theorem clamp01_mono {x y : ℚ} (hle : x ≤ y) : clamp01 x ≤ clamp01 y := by
  simp only [clamp01_exact]
  exact max_le_max le_rfl (min_le_min hle le_rfl)

/-- The confident frontier over the rationals, where no conversion can fail. -/
def confidentTokens (signals : MaterializationSignals ℚ) (partial_reuse_floor_tokens : ℤ) : ℤ :=
  let total_tokens := max signals.reusable_prefix_tokens 0
  if total_tokens ≤ 0 then 0
  else if total_tokens ≤ partial_reuse_floor_tokens then total_tokens
  else
    let floor_ratio := max ((partial_reuse_floor_tokens : ℚ) / total_tokens) 0.18
    min total_tokens (max partial_reuse_floor_tokens
      (roundHalfEven (total_tokens * confident_ratio signals floor_ratio)))

theorem estimate_confident_reuse_tokens_exact (signals : MaterializationSignals ℚ)
    (partial_reuse_floor_tokens : ℤ) :
    estimate_confident_reuse_tokens signals partial_reuse_floor_tokens =
      .ok (confidentTokens signals partial_reuse_floor_tokens) := by
  unfold estimate_confident_reuse_tokens confidentTokens
  by_cases hempty : max signals.reusable_prefix_tokens 0 ≤ 0
  · simp only [if_pos hempty]
    rfl
  · by_cases hshort : max signals.reusable_prefix_tokens 0 ≤ partial_reuse_floor_tokens
    · simp only [if_neg hempty, if_pos hshort]
      rfl
    · simp only [if_neg hempty, if_neg hshort]
      rw [intDiv_exact _ (by omega)]
      simp only [pyMax_exact, lit_exact, ofInt_exact, round_exact]
      rfl

/-- The unrounded cost of reusing some tokens of the prefix. -/
def reuseCost (signals : MaterializationSignals ℚ) (decision : MaterializationDecision)
    (reused_tokens total_tokens partial_reuse_floor_tokens : ℤ) : ℚ :=
  let confident_tokens := confidentTokens signals partial_reuse_floor_tokens
  let uncertain_reused_tokens : ℤ := max 0 (reused_tokens - confident_tokens)
  let uncertain_tail_discount := 0.5 + 0.4 * clamp01 signals.reuse_confidence
  let effective_reused_tokens : ℚ :=
    (min reused_tokens confident_tokens : ℤ) + uncertain_reused_tokens * uncertain_tail_discount
  signals.transfer_time_ms * ((reused_tokens : ℚ) / total_tokens)
    + signals.recompute_time_ms * (1 - min 1 (effective_reused_tokens / total_tokens))
    + (signals.recompute_time_ms * 0.25 + signals.transfer_time_ms * 0.1)
        * ((uncertain_reused_tokens : ℚ) / total_tokens) * (1 - clamp01 signals.reuse_confidence)
    + control_overhead_ms signals decision

theorem reuse_ttft_ms_exact (signals : MaterializationSignals ℚ) (decision : MaterializationDecision)
    (reused_tokens partial_reuse_floor_tokens : ℤ) {total_tokens : ℤ} (htotal : total_tokens ≠ 0) :
    reuse_ttft_ms signals decision reused_tokens total_tokens partial_reuse_floor_tokens =
      .ok (roundDecimals
        (reuseCost signals decision reused_tokens total_tokens partial_reuse_floor_tokens) 3) := by
  have hcast : (total_tokens : ℚ) ≠ 0 := by exact_mod_cast htotal
  unfold reuse_ttft_ms reuseCost
  rw [estimate_confident_reuse_tokens_exact]
  simp only [ofInt_exact, lit_exact, pyMin_exact, roundTo_exact, bind, Except.bind]
  rw [intDiv_exact _ htotal, intDiv_exact _ htotal]
  simp only [div_exact _ hcast]
  rfl

/-- The modelled time to first token over the rationals. -/
def ttft (signals : MaterializationSignals ℚ) (decision : MaterializationDecision)
    (reused_tokens partial_reuse_floor_tokens : ℤ) : ℚ :=
  let total_tokens := max signals.reusable_prefix_tokens 0
  let reused_tokens :=
    if decision = .full_reuse then total_tokens else min (max reused_tokens 0) total_tokens
  if decision = .recompute ∨ total_tokens ≤ 0 ∨ reused_tokens ≤ 0 then
    roundDecimals signals.recompute_time_ms 3
  else
    roundDecimals
      (reuseCost signals decision reused_tokens total_tokens partial_reuse_floor_tokens) 3

theorem estimate_materialization_ttft_ms_exact (signals : MaterializationSignals ℚ)
    (decision : MaterializationDecision) (reused_tokens partial_reuse_floor_tokens : ℤ) :
    estimate_materialization_ttft_ms signals decision reused_tokens partial_reuse_floor_tokens =
      .ok (ttft signals decision reused_tokens partial_reuse_floor_tokens) := by
  unfold estimate_materialization_ttft_ms ttft
  by_cases hempty : decision = .recompute ∨ max signals.reusable_prefix_tokens 0 ≤ 0
  · have hcond : decision = .recompute ∨ max signals.reusable_prefix_tokens 0 ≤ 0 ∨
        (if decision = .full_reuse then max signals.reusable_prefix_tokens 0
          else min (max reused_tokens 0) (max signals.reusable_prefix_tokens 0)) ≤ 0 := by
      obtain h | h := hempty
      · exact .inl h
      · exact .inr (.inl h)
    simp only [if_pos hempty, if_pos hcond]
    rfl
  · obtain ⟨hdecision, htotal⟩ := not_or.mp hempty
    have hne : max signals.reusable_prefix_tokens 0 ≠ 0 := by omega
    simp only [hdecision, htotal, false_or]
    by_cases hfull : decision = .full_reuse
    · simp only [if_pos hfull, if_neg htotal]
      exact reuse_ttft_ms_exact _ _ _ _ hne
    · simp only [if_neg hfull]
      by_cases hnone : min (max reused_tokens 0) (max signals.reusable_prefix_tokens 0) ≤ 0
      · simp only [if_pos hnone]
        rfl
      · simp only [if_neg hnone]
        exact reuse_ttft_ms_exact _ _ _ _ hne

/-- The cuts the optimizer samples, in the order it compares them. -/
def cuts (setOrder : SetOrder) (signals : MaterializationSignals ℚ)
    (partial_reuse_floor_tokens : ℤ) : List ℤ :=
  candidate_tokens setOrder (max signals.reusable_prefix_tokens 0)
    (confidentTokens signals partial_reuse_floor_tokens) partial_reuse_floor_tokens

/-- The cut the optimizer returns, `0` when it samples none. -/
def bestCut (setOrder : SetOrder) (signals : MaterializationSignals ℚ)
    (partial_reuse_floor_tokens : ℤ) : ℤ :=
  let keyed (tokens : ℤ) : ℚ × ℤ :=
    (ttft signals .partial_reuse tokens partial_reuse_floor_tokens, tokens)
  match cuts setOrder signals partial_reuse_floor_tokens with
  | [] => 0
  | first :: rest => (minItem (keyed first) (rest.map keyed)).2

theorem mem_candidate_tokens {setOrder : SetOrder} {total_tokens confident_tokens
    partial_reuse_floor_tokens tokens : ℤ} :
    tokens ∈ candidate_tokens setOrder total_tokens confident_tokens partial_reuse_floor_tokens ↔
      partial_reuse_floor_tokens ≤ tokens ∧ tokens < total_tokens ∧
        (tokens = partial_reuse_floor_tokens ∨
          tokens = max partial_reuse_floor_tokens (total_tokens / 3) ∨
          tokens = max partial_reuse_floor_tokens (total_tokens / 2) ∨
          tokens = max partial_reuse_floor_tokens ((2 * total_tokens) / 3) ∨
          tokens = max partial_reuse_floor_tokens
            (confident_tokens - max 64 (partial_reuse_floor_tokens / 2)) ∨
          tokens = confident_tokens ∨
          tokens = min (total_tokens - 1)
            (confident_tokens + max 64 (partial_reuse_floor_tokens / 2))) := by
  simp only [candidate_tokens, SetOrder.mem_order, List.mem_map, List.mem_filter, List.mem_cons,
    List.not_mem_nil, or_false, decide_eq_true_eq]
  constructor
  · rintro ⟨raw, ⟨hraw, hfloor, htotal⟩, rfl⟩
    rw [min_eq_right (by omega)]
    exact ⟨hfloor, htotal, hraw⟩
  · rintro ⟨hfloor, htotal, hraw⟩
    exact ⟨tokens, ⟨hraw, hfloor, htotal⟩, min_eq_right (by omega)⟩

theorem optimize_partial_reuse_tokens_exact (setOrder : SetOrder)
    (signals : MaterializationSignals ℚ) (partial_reuse_floor_tokens : ℤ) :
    optimize_partial_reuse_tokens setOrder signals partial_reuse_floor_tokens =
      .ok (bestCut setOrder signals partial_reuse_floor_tokens) := by
  unfold optimize_partial_reuse_tokens bestCut cuts
  rw [estimate_confident_reuse_tokens_exact]
  by_cases hshort : max signals.reusable_prefix_tokens 0 < partial_reuse_floor_tokens
  · have hnone : candidate_tokens setOrder (max signals.reusable_prefix_tokens 0)
        (confidentTokens signals partial_reuse_floor_tokens) partial_reuse_floor_tokens = [] := by
      rw [List.eq_nil_iff_forall_not_mem]
      intro tokens hmem
      obtain ⟨hfloor, htotal, _⟩ := mem_candidate_tokens.mp hmem
      omega
    simp only [if_pos hshort, hnone]
    rfl
  · simp only [if_neg hshort, estimate_materialization_ttft_ms_exact, bind, Except.bind, pure,
      Except.pure]
    cases candidate_tokens setOrder (max signals.reusable_prefix_tokens 0)
        (confidentTokens signals partial_reuse_floor_tokens) partial_reuse_floor_tokens with
    | nil => rfl
    | cons first rest =>
      simp only [mapM_ok (fun tokens =>
        (ttft signals .partial_reuse tokens partial_reuse_floor_tokens, tokens)) rest]

/-- The optimizer returns a sampled cut of least cost, if it samples any. -/
theorem bestCut_spec (setOrder : SetOrder) (signals : MaterializationSignals ℚ)
    (partial_reuse_floor_tokens : ℤ) :
    (cuts setOrder signals partial_reuse_floor_tokens = [] ∧
      bestCut setOrder signals partial_reuse_floor_tokens = 0) ∨
    (bestCut setOrder signals partial_reuse_floor_tokens ∈
        cuts setOrder signals partial_reuse_floor_tokens ∧
      ∀ tokens ∈ cuts setOrder signals partial_reuse_floor_tokens,
        ttft signals .partial_reuse (bestCut setOrder signals partial_reuse_floor_tokens)
            partial_reuse_floor_tokens ≤
          ttft signals .partial_reuse tokens partial_reuse_floor_tokens) := by
  unfold bestCut
  cases cuts setOrder signals partial_reuse_floor_tokens with
  | nil => exact .inl ⟨rfl, rfl⟩
  | cons first rest =>
    right
    dsimp only
    let keyed (tokens : ℤ) : ℚ × ℤ :=
      (ttft signals .partial_reuse tokens partial_reuse_floor_tokens, tokens)
    have hmem := minItem_mem (keyed first) (rest.map keyed)
    have hle := minItem_le (keyed first) (rest.map keyed)
    rw [← List.map_cons (f := keyed)] at hmem hle
    obtain ⟨best, hbest, heq⟩ := List.mem_map.mp hmem
    change (minItem (keyed first) (rest.map keyed)).2 ∈ first :: rest ∧
      ∀ tokens ∈ first :: rest, (keyed (minItem (keyed first) (rest.map keyed)).2).1 ≤ (keyed tokens).1
    rw [← heq] at hle ⊢
    exact ⟨hbest, fun tokens htokens => hle _ (List.mem_map_of_mem htokens)⟩

end vllm_kv_materialization.policy
