import KvMaterialization.Policy.Cost

open python

namespace vllm_kv_materialization.policy

/-- Signals that agree but for a transfer that is no slower and a confidence
that is no lower. -/
structure Improves (signals signals' : MaterializationSignals ℚ) : Prop where
  agree : signals' = { signals with
    transfer_time_ms := signals'.transfer_time_ms
    reuse_confidence := signals'.reuse_confidence }
  transfer : signals'.transfer_time_ms ≤ signals.transfer_time_ms
  confidence : signals.reuse_confidence ≤ signals'.reuse_confidence

namespace Improves

variable {signals signals' : MaterializationSignals ℚ} (himproves : Improves signals signals')
include himproves

theorem prefix_eq : signals'.reusable_prefix_tokens = signals.reusable_prefix_tokens := by
  rw [himproves.agree]

theorem recompute_eq : signals'.recompute_time_ms = signals.recompute_time_ms := by
  rw [himproves.agree]

theorem queue_pressure_eq : signals'.queue_pressure = signals.queue_pressure := by
  rw [himproves.agree]

theorem ttft_sensitive_eq : signals'.ttft_sensitive = signals.ttft_sensitive := by
  rw [himproves.agree]

theorem control_overhead_eq (decision : MaterializationDecision) :
    control_overhead_ms signals' decision = control_overhead_ms signals decision := by
  simp only [control_overhead_ms, himproves.queue_pressure_eq, himproves.ttft_sensitive_eq]

theorem frontier_le (partial_reuse_floor_tokens : ℤ) :
    confidentTokens signals partial_reuse_floor_tokens ≤
      confidentTokens signals' partial_reuse_floor_tokens :=
  confidentTokens_mono_confidence _ himproves.prefix_eq himproves.ttft_sensitive_eq
    himproves.queue_pressure_eq himproves.confidence

theorem adjusted (policy : MaterializationPolicy ℚ) :
    Improves (policy.adjusted_signals signals) (policy.adjusted_signals signals') := by
  refine ⟨?_, ?_, himproves.confidence⟩
  · simp only [MaterializationPolicy.adjusted_signals]
    rw [himproves.agree]
  · have htransfer := himproves.transfer
    simp only [MaterializationPolicy.adjusted_signals, himproves.queue_pressure_eq,
      himproves.ttft_sensitive_eq, pyMax_exact]
    apply max_le_max le_rfl
    split <;> linarith

theorem full_reuse (policy : MaterializationPolicy ℚ) (hpenalty : 0 ≤ policy.confidence_penalty_ms) :
    Improves (policy.full_reuse_signals signals) (policy.full_reuse_signals signals') := by
  have hadjusted := himproves.adjusted policy
  refine ⟨?_, ?_, himproves.confidence⟩
  · simp only [MaterializationPolicy.full_reuse_signals]
    rw [hadjusted.agree]
  · have hclamp := clamp01_mono himproves.confidence
    have htransfer := hadjusted.transfer
    have hdoubt : (1 - clamp01 signals'.reuse_confidence) * policy.confidence_penalty_ms ≤
        (1 - clamp01 signals.reuse_confidence) * policy.confidence_penalty_ms :=
      mul_le_mul_of_nonneg_right (by linarith) hpenalty
    simp only [MaterializationPolicy.full_reuse_signals, lit_exact]
    linarith

/-- With any other tokens fixed, the cost of a reuse falls: every amount that
transfer time, confidence and the frontier enter moves down. -/
theorem kinked_cost_le {base kink kink' reused : ℚ} (hreusable : 0 < signals.reusable_prefix_tokens)
    (htransfer : 0 ≤ signals'.transfer_time_ms) (hrecompute : 0 ≤ signals.recompute_time_ms)
    (hkink : kink ≤ kink') (hreused : 0 ≤ reused) :
    kinked.value base (firstSlope signals') (secondSlope signals') kink' reused ≤
      kinked.value base (firstSlope signals) (secondSlope signals) kink reused := by
  have htotal : (0 : ℚ) ≤ signals.reusable_prefix_tokens := by exact_mod_cast hreusable.le
  have hless := himproves.transfer
  have hclamp := clamp01_mono himproves.confidence
  have hdoubt := clamp01_le_one signals'.reuse_confidence
  have hexcess : max 0 (reused - kink') ≤ max 0 (reused - kink) :=
    max_le_max le_rfl (by linarith)
  have hexcess_nonneg : (0 : ℚ) ≤ max 0 (reused - kink') := le_max_left _ _
  have hdoubtful : (1 - clamp01 signals'.reuse_confidence) * max 0 (reused - kink') ≤
      (1 - clamp01 signals.reuse_confidence) * max 0 (reused - kink) :=
    mul_le_mul (by linarith) hexcess hexcess_nonneg (by linarith)
  have hdoubtful_nonneg : 0 ≤ (1 - clamp01 signals'.reuse_confidence) * max 0 (reused - kink') :=
    mul_nonneg (by linarith) hexcess_nonneg
  have hpenalty : signals'.transfer_time_ms *
        ((1 - clamp01 signals'.reuse_confidence) * max 0 (reused - kink')) ≤
      signals.transfer_time_ms *
        ((1 - clamp01 signals.reuse_confidence) * max 0 (reused - kink)) :=
    mul_le_mul hless hdoubtful hdoubtful_nonneg (htransfer.trans hless)
  have hmoved : (signals'.transfer_time_ms - signals.recompute_time_ms) * reused ≤
      (signals.transfer_time_ms - signals.recompute_time_ms) * reused :=
    mul_le_mul_of_nonneg_right (by linarith) hreused
  have htail : signals.recompute_time_ms * (0.1 * max 0 (reused - kink') +
        0.65 * ((1 - clamp01 signals'.reuse_confidence) * max 0 (reused - kink'))) ≤
      signals.recompute_time_ms * (0.1 * max 0 (reused - kink) +
        0.65 * ((1 - clamp01 signals.reuse_confidence) * max 0 (reused - kink))) :=
    mul_le_mul_of_nonneg_left (by linarith) hrecompute
  rw [kinked_cost_eq signals _ _ _ hreusable,
    kinked_cost_eq signals' _ _ _ (by rw [himproves.prefix_eq]; exact hreusable),
    himproves.prefix_eq, himproves.recompute_eq]
  have hdiv := div_le_div_of_nonneg_right
    (add_le_add (add_le_add hmoved (mul_le_mul_of_nonneg_left hpenalty (by norm_num : (0 : ℚ) ≤ 0.1))) htail)
    htotal
  linarith

end Improves

namespace MaterializationPolicy

variable {self : MaterializationPolicy ℚ} {setOrder : SetOrder} {signals signals' : MaterializationSignals ℚ}

/-- A decision is a reuse exactly when full reuse or some sampled cut costs
strictly less than recomputing. -/
theorem Chosen.reuse_iff {outcome : MaterializationOutcome} (hchosen : self.Chosen setOrder signals outcome) :
    outcome.decision ≠ .recompute ↔
      self.fullReuseCost signals < self.recomputeCost signals ∨
        ∃ tokens ∈ self.sampledCuts signals setOrder,
          self.partialReuseCost signals tokens < self.recomputeCost signals := by
  cases hchosen with
  | recompute rationale hfull hpartialReuse =>
    simp only [ne_eq, not_true_eq_false, false_iff, not_or, not_lt, not_exists, not_and]
    refine ⟨hfull, ?_⟩
    intro tokens hmem
    have hcut := (self.cut_spec signals hmem).2
    obtain hpos | hnonpos := lt_or_ge 0 (self.cut setOrder signals)
    · exact (hpartialReuse hpos).trans hcut
    · rwa [self.partialReuseCost_of_nonpos signals hnonpos] at hcut
  | full_reuse rationale hrecompute hpartialReuse =>
    simp [hrecompute]
  | partial_reuse rationale hcut hrecompute hfull =>
    refine ⟨fun _ => .inr ⟨_, self.cut_mem_of_pos signals hcut, hrecompute⟩, fun _ => by simp⟩

theorem fullReuseCost_le_of_improves (himproves : Improves signals signals')
    (hpenalty : 0 ≤ self.confidence_penalty_ms) (hrecompute : 0 ≤ signals.recompute_time_ms)
    (hreusable : 0 < signals.reusable_prefix_tokens) :
    self.fullReuseCost signals' ≤ self.fullReuseCost signals := by
  have hfull := himproves.full_reuse self hpenalty
  have hreusable' : 0 < signals'.reusable_prefix_tokens := by rw [himproves.prefix_eq]; exact hreusable
  have hdoubt := clamp01_le_one signals'.reuse_confidence
  have htransfer : 0 ≤ (self.full_reuse_signals signals').transfer_time_ms := by
    have hadjusted := self.adjusted_transfer_nonneg signals'
    have hextra : 0 ≤ (1 - clamp01 signals'.reuse_confidence) * self.confidence_penalty_ms :=
      mul_nonneg (by linarith) hpenalty
    simp only [full_reuse_signals, lit_exact]
    linarith
  have hfrontier : (confidentTokens (self.full_reuse_signals signals) self.partial_reuse_floor_tokens : ℚ) ≤
      confidentTokens (self.full_reuse_signals signals') self.partial_reuse_floor_tokens := by
    exact_mod_cast hfull.frontier_le _
  unfold fullReuseCost
  rw [ttft_full_reuse (self.full_reuse_signals signals) _ _ hreusable,
    ttft_full_reuse (self.full_reuse_signals signals') _ _ hreusable']
  apply roundDecimals_mono
  rw [hfull.prefix_eq, hfull.recompute_eq, hfull.control_overhead_eq]
  exact hfull.kinked_cost_le hreusable htransfer hrecompute hfrontier
    (by exact_mod_cast hreusable.le)

theorem cutCost_le_of_improves (himproves : Improves signals signals')
    (hrecompute : 0 ≤ signals.recompute_time_ms) (hreusable : 0 < signals.reusable_prefix_tokens)
    {tokens : ℚ} (htokens : 0 ≤ tokens) : self.cutCost signals' tokens ≤ self.cutCost signals tokens := by
  have hadjusted := himproves.adjusted self
  have hfrontier : (self.frontier signals : ℚ) ≤ self.frontier signals' := by
    exact_mod_cast hadjusted.frontier_le _
  unfold cutCost
  rw [himproves.recompute_eq, hadjusted.control_overhead_eq]
  exact hadjusted.kinked_cost_le hreusable (self.adjusted_transfer_nonneg signals') hrecompute
    hfrontier htokens

theorem control_overhead_partial_nonneg {signals : MaterializationSignals ℚ}
    (hqueue : 0 ≤ signals.queue_pressure) : 0 ≤ control_overhead_ms signals .partial_reuse := by
  simp only [control_overhead_ms, reduceCtorEq, if_false, lit_exact]
  split <;> linarith

/-- A cut at or below the last sampled one that beats recomputing shows a sampled
cut that does: the cost is kinked, and starts at no less than recomputing. -/
theorem exists_sampled_cut_of_cheap (hqueue : 0 ≤ signals.queue_pressure) {tokens : ℤ}
    (hfloor : self.partial_reuse_floor_tokens ≤ tokens) (hpos : 0 < tokens)
    (htotal : tokens < signals.reusable_prefix_tokens)
    (hlast : tokens ≤ self.frontier signals + max 64 (self.partial_reuse_floor_tokens / 2))
    (hcheap : self.partialReuseCost signals tokens < self.recomputeCost signals) :
    ∃ sampled ∈ self.sampledCuts signals setOrder,
      self.partialReuseCost signals sampled < self.recomputeCost signals := by
  have hreusable : 0 < signals.reusable_prefix_tokens := hpos.trans htotal
  set last := min (signals.reusable_prefix_tokens - 1)
    (self.frontier signals + max 64 (self.partial_reuse_floor_tokens / 2)) with hlastdef
  have hle : tokens ≤ last := by omega
  have hfrontier := floor_le_confidentTokens (self.adjusted_signals signals)
    self.partial_reuse_floor_tokens (hfloor.trans htotal.le) hreusable
  change self.partial_reuse_floor_tokens ≤ self.frontier signals at hfrontier
  rw [self.partialReuseCost_eq signals hpos htotal.le, recomputeCost_eq] at hcheap
  have hbelow := lt_of_roundDecimals_lt hcheap
  have hoverhead : 0 ≤ control_overhead_ms (self.adjusted_signals signals) .partial_reuse :=
    control_overhead_partial_nonneg hqueue
  have hstart : signals.recompute_time_ms ≤ self.cutCost signals 0 := by
    unfold cutCost
    rw [kinked.value_of_le]
    · linarith
    · exact_mod_cast confidentTokens_nonneg _ _
  have hfound {sampled : ℤ} (hsampled : 0 < sampled) (hinside : sampled ≤ signals.reusable_prefix_tokens)
      (hcost : self.cutCost signals sampled ≤ self.cutCost signals tokens) :
      self.partialReuseCost signals sampled < self.recomputeCost signals := by
    rw [self.partialReuseCost_eq signals hsampled hinside, recomputeCost_eq]
    exact (roundDecimals_mono 3 hcost).trans_lt hcheap
  have hstartLe : (0 : ℚ) ≤ tokens := by exact_mod_cast hpos.le
  have hendLe : (tokens : ℚ) ≤ last := by exact_mod_cast hle
  rcases kinked.exists_breakpoint_le (self.frontier signals : ℚ) hstartLe hendLe with
    hzero | ⟨hnonneg, hkink, hcost⟩ | hcost
  · exact absurd (hstart.trans hzero) (not_le.mpr hbelow)
  · have hkinkle : self.frontier signals ≤ last := by exact_mod_cast hkink
    have hkinkpos : 0 < self.frontier signals := by
      obtain hlt | heq := (show 0 ≤ self.frontier signals by exact_mod_cast hnonneg).lt_or_eq
      · exact hlt
      · have hzero : self.cutCost signals (self.frontier signals) ≤ self.cutCost signals tokens := hcost
        rw [← heq, Int.cast_zero] at hzero
        exact absurd (hstart.trans hzero) (not_le.mpr hbelow)
    refine ⟨self.frontier signals, ?_, hfound hkinkpos (by omega) hcost⟩
    rw [self.mem_sampledCuts signals hreusable]
    exact ⟨hfrontier, by omega, by simp⟩
  · refine ⟨last, ?_, hfound (by omega) (by omega) hcost⟩
    rw [self.mem_sampledCuts signals hreusable]
    exact ⟨by omega, by omega, by simp [hlastdef]⟩

/-- Cheaper transfer or higher confidence never flips a reuse to a recompute. -/
theorem decide_reuse_monotone (self : MaterializationPolicy ℚ) (setOrder : SetOrder)
    {signals signals' : MaterializationSignals ℚ} (hpenalty : 0 ≤ self.confidence_penalty_ms)
    (himproves : Improves signals signals') (hrecompute : 0 ≤ signals.recompute_time_ms)
    (hqueue : 0 ≤ signals.queue_pressure) :
    ∃ outcome outcome', self.decide setOrder signals = .ok outcome ∧
      self.decide setOrder signals' = .ok outcome' ∧
      (outcome.decision = .full_reuse ∨ outcome.decision = .partial_reuse →
        outcome'.decision = .full_reuse ∨ outcome'.decision = .partial_reuse) := by
  have hreuse (outcome : MaterializationOutcome) : outcome.decision = .full_reuse ∨
      outcome.decision = .partial_reuse ↔ outcome.decision ≠ .recompute := by
    cases outcome.decision <;> simp
  obtain hempty | hreusable := le_or_gt signals.reusable_prefix_tokens 0
  · refine ⟨_, _, self.decide_empty_prefix setOrder signals hempty,
      self.decide_empty_prefix setOrder signals' (by rw [himproves.prefix_eq]; exact hempty), id⟩
  · have hreusable' : 0 < signals'.reusable_prefix_tokens := by rw [himproves.prefix_eq]; exact hreusable
    obtain ⟨outcome, hdecide, hchosen⟩ := self.decide_chosen setOrder signals hreusable
    obtain ⟨outcome', hdecide', hchosen'⟩ := self.decide_chosen setOrder signals' hreusable'
    refine ⟨outcome, outcome', hdecide, hdecide', ?_⟩
    rw [hreuse, hreuse, hchosen.reuse_iff, hchosen'.reuse_iff]
    have hsame : self.recomputeCost signals' = self.recomputeCost signals := by
      rw [recomputeCost_eq, recomputeCost_eq, himproves.recompute_eq]
    rw [hsame]
    rintro (hfull | ⟨tokens, hmem, hcheap⟩)
    · exact .inl ((fullReuseCost_le_of_improves himproves hpenalty hrecompute hreusable).trans_lt hfull)
    · right
      have hpos : 0 < tokens := by
        by_contra hnonpos
        rw [self.partialReuseCost_of_nonpos signals (not_lt.mp hnonpos)] at hcheap
        exact lt_irrefl _ hcheap
      obtain ⟨hfloor, htotal, hwhich⟩ := (self.mem_sampledCuts signals hreusable).mp hmem
      have hprefix_eq := himproves.prefix_eq
      have hfrontier : self.frontier signals ≤ self.frontier signals' :=
        (himproves.adjusted self).frontier_le _
      have hcheap' : self.partialReuseCost signals' tokens < self.recomputeCost signals' := by
        rw [hsame]
        refine lt_of_le_of_lt ?_ hcheap
        rw [self.partialReuseCost_eq signals hpos htotal.le,
          self.partialReuseCost_eq signals' hpos (by rw [hprefix_eq]; exact htotal.le)]
        exact roundDecimals_mono 3
          (cutCost_le_of_improves himproves hrecompute hreusable (by exact_mod_cast hpos.le))
      rw [← hsame]
      by_cases hlast : tokens ≤ self.frontier signals' + max 64 (self.partial_reuse_floor_tokens / 2)
      · exact exists_sampled_cut_of_cheap (by rw [himproves.queue_pressure_eq]; exact hqueue) hfloor
          hpos (by omega) hlast hcheap'
      · -- Past the last cut of the better signals lie only the cuts both sample.
        refine ⟨tokens, ?_, hcheap'⟩
        rw [self.mem_sampledCuts signals' hreusable', hprefix_eq]
        refine ⟨hfloor, htotal, ?_⟩
        have hpast := not_le.mp hlast
        obtain hfixed | hfixed | hfixed | hfixed | hbefore | hat | hafter := hwhich
        · exact .inl hfixed
        · exact .inr (.inl hfixed)
        · exact .inr (.inr (.inl hfixed))
        · exact .inr (.inr (.inr (.inl hfixed)))
        · obtain hmax | hmax := max_choice self.partial_reuse_floor_tokens
            (self.frontier signals - max 64 (self.partial_reuse_floor_tokens / 2))
          · exact .inl (hbefore.trans hmax)
          · rw [hmax] at hbefore
            omega
        · omega
        · have hmin := hafter.trans_le (min_le_right _ _)
          exact absurd hmin (not_le.mpr (lt_of_le_of_lt (by gcongr) hpast))

theorem decide_reuse_monotone_midrange :
    ∃ outcome outcome',
      (default : MaterializationPolicy ℚ).decide .insertion ⟨800, 32, 10, 12, 0, false, 0⟩ = .ok outcome ∧
      (default : MaterializationPolicy ℚ).decide .insertion ⟨800, 32, 6, 12, 0, false, 0.5⟩ = .ok outcome' ∧
      (outcome.decision = .full_reuse ∨ outcome.decision = .partial_reuse →
        outcome'.decision = .full_reuse ∨ outcome'.decision = .partial_reuse) :=
  decide_reuse_monotone default .insertion (by norm_num [default])
    ⟨rfl, by norm_num, by norm_num⟩ (by norm_num) (by norm_num)

end MaterializationPolicy

end vllm_kv_materialization.policy
