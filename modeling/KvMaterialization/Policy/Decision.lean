import KvMaterialization.Policy.Exact

open python

namespace vllm_kv_materialization.policy

namespace MaterializationPolicy

variable (self : MaterializationPolicy ℚ) (setOrder : SetOrder) (signals : MaterializationSignals ℚ)

/-- The costs `decide` ranks, each under the signals it adjusts for that action. -/
def recomputeCost : ℚ :=
  ttft (self.adjusted_signals signals) .recompute 0 self.partial_reuse_floor_tokens

def fullReuseCost : ℚ :=
  ttft (self.full_reuse_signals signals) .full_reuse signals.reusable_prefix_tokens
    self.partial_reuse_floor_tokens

def partialReuseCost (tokens : ℤ) : ℚ :=
  ttft (self.adjusted_signals signals) .partial_reuse tokens self.partial_reuse_floor_tokens

/-- The cut `decide` considers. -/
def cut : ℤ := bestCut setOrder (self.adjusted_signals signals) self.partial_reuse_floor_tokens

/-- What each decision says about the ranked costs: the first least one wins, in
the order recompute, full reuse, partial reuse at a positive cut. -/
inductive Chosen : MaterializationOutcome → Prop where
  | recompute (rationale : Rationale)
    (hfull : self.recomputeCost signals ≤ self.fullReuseCost signals)
    (hpartialReuse : 0 < self.cut setOrder signals →
      self.recomputeCost signals ≤ self.partialReuseCost signals (self.cut setOrder signals)) :
    Chosen ⟨.recompute, 0, rationale⟩
  | full_reuse (rationale : Rationale)
    (hrecompute : self.fullReuseCost signals < self.recomputeCost signals)
    (hpartialReuse : 0 < self.cut setOrder signals →
      self.fullReuseCost signals ≤ self.partialReuseCost signals (self.cut setOrder signals)) :
    Chosen ⟨.full_reuse, signals.reusable_prefix_tokens, rationale⟩
  | partial_reuse (rationale : Rationale) (hcut : 0 < self.cut setOrder signals)
    (hrecompute : self.partialReuseCost signals (self.cut setOrder signals) < self.recomputeCost signals)
    (hfull : self.partialReuseCost signals (self.cut setOrder signals) < self.fullReuseCost signals) :
    Chosen ⟨.partial_reuse, self.cut setOrder signals, rationale⟩

theorem partial_candidate_exact (adjusted_signals : MaterializationSignals ℚ) (partial_tokens : ℤ) :
    self.partial_candidate adjusted_signals partial_tokens =
      .ok (if partial_tokens > 0 then
        [(ttft adjusted_signals .partial_reuse partial_tokens self.partial_reuse_floor_tokens,
          ⟨.partial_reuse, partial_tokens, self.partial_rationale adjusted_signals partial_tokens
            (confidentTokens adjusted_signals self.partial_reuse_floor_tokens)⟩)]
      else []) := by
  unfold partial_candidate
  rw [estimate_confident_reuse_tokens_exact, estimate_materialization_ttft_ms_exact]
  split
  · rfl
  · rfl

/-- Over the rationals the policy decides every request, and by cost alone. -/
theorem decide_chosen (hreusable : 0 < signals.reusable_prefix_tokens) :
    ∃ outcome, self.decide setOrder signals = .ok outcome ∧ self.Chosen setOrder signals outcome := by
  unfold decide
  simp only [if_neg (not_le.mpr hreusable), estimate_materialization_ttft_ms_exact,
    optimize_partial_reuse_tokens_exact, partial_candidate_exact, bind, Except.bind, pure, Except.pure]
  change ∃ outcome, Except.ok (minItem
      (self.recomputeCost signals, _)
      ((self.fullReuseCost signals, _) :: if self.cut setOrder signals > 0 then
        [(self.partialReuseCost signals (self.cut setOrder signals), _)] else [])).2 = .ok outcome ∧ _
  refine ⟨_, rfl, ?_⟩
  by_cases hcut : self.cut setOrder signals > 0
  · simp only [if_pos hcut, minItem_cons, lt_exact, decide_eq_true_eq]
    by_cases hfull : self.fullReuseCost signals < self.recomputeCost signals
    · simp only [if_pos hfull]
      by_cases hpartialReuse :
          self.partialReuseCost signals (self.cut setOrder signals) < self.fullReuseCost signals
      · simp only [if_pos hpartialReuse]
        exact .partial_reuse _ hcut (hpartialReuse.trans hfull) hpartialReuse
      · simp only [if_neg hpartialReuse]
        exact .full_reuse _ hfull (fun _ => not_lt.mp hpartialReuse)
    · simp only [if_neg hfull]
      by_cases hpartialReuse :
          self.partialReuseCost signals (self.cut setOrder signals) < self.recomputeCost signals
      · simp only [if_pos hpartialReuse]
        exact .partial_reuse _ hcut hpartialReuse (hpartialReuse.trans_le (not_lt.mp hfull))
      · simp only [if_neg hpartialReuse]
        exact .recompute _ (not_lt.mp hfull) (fun _ => not_lt.mp hpartialReuse)
  · simp only [if_neg hcut, minItem_cons, lt_exact, decide_eq_true_eq]
    by_cases hfull : self.fullReuseCost signals < self.recomputeCost signals
    · simp only [if_pos hfull]
      exact .full_reuse _ hfull (fun hpos => absurd hpos hcut)
    · simp only [if_neg hfull]
      exact .recompute _ (not_lt.mp hfull) (fun hpos => absurd hpos hcut)

theorem decide_empty_prefix (hreusable : signals.reusable_prefix_tokens ≤ 0) :
    self.decide setOrder signals = .ok ⟨.recompute, 0, Rationale.no_reusable_prefix⟩ := by
  unfold decide
  rw [if_pos hreusable]
  rfl

end MaterializationPolicy

end vllm_kv_materialization.policy
