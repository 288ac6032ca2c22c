import KvMaterialization.Policy.Cost

open python

namespace vllm_kv_materialization.policy

/-- The modelled cost of an outcome, under the signals `decide` adjusts for it. -/
def MaterializationPolicy.outcome_ttft_ms (self : MaterializationPolicy ℚ)
    (signals : MaterializationSignals ℚ) (outcome : MaterializationOutcome) : Except Exception ℚ :=
  match outcome.decision with
  | .full_reuse =>
    estimate_materialization_ttft_ms (self.full_reuse_signals signals) .full_reuse
      outcome.reused_tokens self.partial_reuse_floor_tokens
  | decision =>
    estimate_materialization_ttft_ms (self.adjusted_signals signals) decision
      outcome.reused_tokens self.partial_reuse_floor_tokens

/-- An estimate succeeds with at least the given cost. -/
def CostsAtLeast (cost : ℚ) (estimate : Except Exception ℚ) : Prop :=
  ∃ other, estimate = .ok other ∧ cost ≤ other

/-- The decision costs no more than recomputing, than reusing the whole prefix,
and than any partial cut from the floor up to one token short of the prefix. -/
structure PicksBestBoundary (policy : MaterializationPolicy ℚ) (signals : MaterializationSignals ℚ)
    (outcome : MaterializationOutcome) (cost : ℚ) : Prop where
  outcome_cost : policy.outcome_ttft_ms signals outcome = .ok cost
  recompute : CostsAtLeast cost (estimate_materialization_ttft_ms (policy.adjusted_signals signals)
    .recompute 0 policy.partial_reuse_floor_tokens)
  full_reuse : CostsAtLeast cost (estimate_materialization_ttft_ms (policy.full_reuse_signals signals)
    .full_reuse signals.reusable_prefix_tokens policy.partial_reuse_floor_tokens)
  partial_reuse : ∀ tokens, policy.partial_reuse_floor_tokens ≤ tokens →
    tokens ≤ signals.reusable_prefix_tokens - 1 →
      CostsAtLeast cost (estimate_materialization_ttft_ms (policy.adjusted_signals signals)
        .partial_reuse tokens policy.partial_reuse_floor_tokens)

namespace MaterializationPolicy

variable (self : MaterializationPolicy ℚ) (setOrder : SetOrder) (signals : MaterializationSignals ℚ)

/-- The last cut is not strictly cheaper than all that `decide` ranks: recomputing,
full reuse and the sampled cuts. A prefix within the floor has no last cut. -/
def LastCutRanked : Prop :=
  signals.reusable_prefix_tokens ≤ self.partial_reuse_floor_tokens ∨
    self.recomputeCost signals ≤ self.partialReuseCost signals (signals.reusable_prefix_tokens - 1) ∨
    self.fullReuseCost signals ≤ self.partialReuseCost signals (signals.reusable_prefix_tokens - 1) ∨
    ∃ tokens ∈ self.sampledCuts signals setOrder, self.partialReuseCost signals tokens ≤
      self.partialReuseCost signals (signals.reusable_prefix_tokens - 1)

variable {self setOrder signals}

theorem costsAtLeast_exact {cost : ℚ} {signals : MaterializationSignals ℚ}
    {decision : MaterializationDecision} {tokens partial_reuse_floor_tokens : ℤ} :
    CostsAtLeast cost
        (estimate_materialization_ttft_ms signals decision tokens partial_reuse_floor_tokens) ↔
      cost ≤ ttft signals decision tokens partial_reuse_floor_tokens := by
  unfold CostsAtLeast
  rw [estimate_materialization_ttft_ms_exact]
  simp

theorem outcome_cost_recompute (rationale : Rationale) :
    self.outcome_ttft_ms signals ⟨.recompute, 0, rationale⟩ = .ok (self.recomputeCost signals) :=
  estimate_materialization_ttft_ms_exact (self.adjusted_signals signals) .recompute 0 _

theorem outcome_cost_full_reuse (rationale : Rationale) :
    self.outcome_ttft_ms signals ⟨.full_reuse, signals.reusable_prefix_tokens, rationale⟩ =
      .ok (self.fullReuseCost signals) :=
  estimate_materialization_ttft_ms_exact (self.full_reuse_signals signals) .full_reuse _ _

theorem outcome_cost_partial_reuse (tokens : ℤ) (rationale : Rationale) :
    self.outcome_ttft_ms signals ⟨.partial_reuse, tokens, rationale⟩ =
      .ok (self.partialReuseCost signals tokens) :=
  estimate_materialization_ttft_ms_exact (self.adjusted_signals signals) .partial_reuse tokens _

/-- The cost of a decision is the least of the costs ranked, and one of them. -/
theorem Chosen.outcome_cost {outcome : MaterializationOutcome}
    (hchosen : self.Chosen setOrder signals outcome) :
    ∃ cost, self.outcome_ttft_ms signals outcome = .ok cost ∧
      cost ≤ self.recomputeCost signals ∧ cost ≤ self.fullReuseCost signals ∧
      (0 < self.cut setOrder signals →
        cost ≤ self.partialReuseCost signals (self.cut setOrder signals)) ∧
      (cost = self.recomputeCost signals ∨ cost = self.fullReuseCost signals ∨
        0 < self.cut setOrder signals ∧
          cost = self.partialReuseCost signals (self.cut setOrder signals)) := by
  cases hchosen with
  | recompute rationale hfull hpartialReuse =>
    exact ⟨_, outcome_cost_recompute _, le_rfl, hfull, hpartialReuse, .inl rfl⟩
  | full_reuse rationale hrecompute hpartialReuse =>
    exact ⟨_, outcome_cost_full_reuse _, hrecompute.le, le_rfl, hpartialReuse, .inr (.inl rfl)⟩
  | partial_reuse rationale hcut hrecompute hfull =>
    exact ⟨_, outcome_cost_partial_reuse _ _, hrecompute.le, hfull.le, fun _ => le_rfl,
      .inr (.inr ⟨hcut, rfl⟩)⟩

/-- From any cut of the range the cost does not grow towards a sampled
cut or towards the last one: between the breakpoints it is linear, and every
breakpoint but the end of the range is sampled. -/
theorem exists_sampled_or_last_le (setOrder : SetOrder) (hfloor : 1 ≤ self.partial_reuse_floor_tokens) {tokens : ℤ}
    (hlow : self.partial_reuse_floor_tokens ≤ tokens)
    (hhigh : tokens ≤ signals.reusable_prefix_tokens - 1) :
    (∃ sampled ∈ self.sampledCuts signals setOrder,
      self.partialReuseCost signals sampled ≤ self.partialReuseCost signals tokens) ∨
    self.partialReuseCost signals (signals.reusable_prefix_tokens - 1) ≤
      self.partialReuseCost signals tokens := by
  have hreusable : 0 < signals.reusable_prefix_tokens := by omega
  have hfrontier := floor_le_confidentTokens (self.adjusted_signals signals)
    self.partial_reuse_floor_tokens (by simp only [adjusted_signals_tokens]; omega) hreusable
  change self.partial_reuse_floor_tokens ≤ self.frontier signals at hfrontier
  have hcost {other : ℤ} (hpos : 0 < other) (hinside : other ≤ signals.reusable_prefix_tokens)
      (hle : self.cutCost signals other ≤ self.cutCost signals tokens) :
      self.partialReuseCost signals other ≤ self.partialReuseCost signals tokens := by
    rw [self.partialReuseCost_eq signals hpos hinside,
      self.partialReuseCost_eq signals (by omega) (by omega)]
    exact roundDecimals_mono 3 hle
  have hlowCast : (self.partial_reuse_floor_tokens : ℚ) ≤ tokens := by exact_mod_cast hlow
  have hhighCast : (tokens : ℚ) ≤ (signals.reusable_prefix_tokens - 1 : ℤ) := by exact_mod_cast hhigh
  rcases kinked.exists_breakpoint_le (self.frontier signals : ℚ) hlowCast hhighCast with
    hstart | ⟨_, hkink, hmid⟩ | hend
  · left
    refine ⟨self.partial_reuse_floor_tokens, ?_, hcost (by omega) (by omega) hstart⟩
    rw [self.mem_sampledCuts signals hreusable]
    exact ⟨le_rfl, by omega, by simp⟩
  · left
    have hinside : self.frontier signals ≤ signals.reusable_prefix_tokens - 1 := by exact_mod_cast hkink
    refine ⟨self.frontier signals, ?_, hcost (by omega) (by omega) hmid⟩
    rw [self.mem_sampledCuts signals hreusable]
    exact ⟨hfrontier, by omega, by simp⟩
  · exact .inr (hcost (by omega) (by omega) hend)

/-- If the decision is best over the whole range, the last cut is ranked. -/
theorem last_cut_ranked_of_best {outcome : MaterializationOutcome} {cost : ℚ}
    (hfloor : 1 ≤ self.partial_reuse_floor_tokens)
    (hdecide : self.decide setOrder signals = .ok outcome)
    (hbest : PicksBestBoundary self signals outcome cost) : self.LastCutRanked setOrder signals := by
  obtain hshort | hlong := le_or_gt signals.reusable_prefix_tokens self.partial_reuse_floor_tokens
  · exact .inl hshort
  · obtain ⟨chosen, hchosen_eq, hchosen⟩ := self.decide_chosen setOrder signals (by omega)
    rw [hdecide] at hchosen_eq
    cases hchosen_eq
    obtain ⟨found, hfound, _, _, _, hwhich⟩ := hchosen.outcome_cost
    rw [hbest.outcome_cost] at hfound
    cases hfound
    have hlast := costsAtLeast_exact.mp
      (hbest.partial_reuse (signals.reusable_prefix_tokens - 1) (by omega) le_rfl)
    obtain heq | heq | ⟨hcut, heq⟩ := hwhich
    · exact .inr (.inl (heq ▸ hlast))
    · exact .inr (.inr (.inl (heq ▸ hlast)))
    · exact .inr (.inr (.inr ⟨_, self.cut_mem_of_pos signals hcut, heq ▸ hlast⟩))

/-- The decision is best over every cut exactly when the last cut is ranked. -/
theorem decide_best_boundary_iff (self : MaterializationPolicy ℚ) (setOrder : SetOrder)
    (signals : MaterializationSignals ℚ) (hfloor : 1 ≤ self.partial_reuse_floor_tokens) :
    (∃ outcome cost, self.decide setOrder signals = .ok outcome ∧
      PicksBestBoundary self signals outcome cost) ↔ self.LastCutRanked setOrder signals := by
  constructor
  · rintro ⟨outcome, cost, hdecide, hbest⟩
    exact last_cut_ranked_of_best hfloor hdecide hbest
  · intro hranked
    obtain hempty | hreusable := le_or_gt signals.reusable_prefix_tokens 0
    · refine ⟨_, _, self.decide_empty_prefix setOrder signals hempty,
        outcome_cost_recompute _, costsAtLeast_exact.mpr le_rfl, costsAtLeast_exact.mpr ?_, by intros; omega⟩
      have hzero : max signals.reusable_prefix_tokens 0 ≤ 0 := by omega
      simp only [ttft, adjusted_signals_tokens, full_reuse_signals, hzero, or_true, if_true,
        adjusted_signals_recompute]
      exact (self.recomputeCost_eq signals).le
    · obtain ⟨outcome, hdecide, hchosen⟩ := self.decide_chosen setOrder signals hreusable
      obtain ⟨cost, hcost, hrecompute, hfull, hcut, _⟩ := hchosen.outcome_cost
      have hsampled : ∀ tokens ∈ self.sampledCuts signals setOrder,
          cost ≤ self.partialReuseCost signals tokens := by
        intro tokens hmem
        obtain ⟨hcut_mem, hcut_le⟩ := self.cut_spec signals hmem
        have hpos := ((self.mem_sampledCuts signals hreusable).mp hcut_mem).1
        exact (hcut (by omega)).trans hcut_le
      refine ⟨outcome, cost, hdecide, hcost, costsAtLeast_exact.mpr hrecompute,
        costsAtLeast_exact.mpr hfull, ?_⟩
      intro tokens hlow hhigh
      apply costsAtLeast_exact.mpr
      change cost ≤ self.partialReuseCost signals tokens
      rcases exists_sampled_or_last_le setOrder hfloor hlow hhigh with
        ⟨sampled, hmem, hle⟩ | hle
      · exact (hsampled sampled hmem).trans hle
      · refine le_trans ?_ hle
        obtain hshort | hrec | hful | ⟨sampled, hmem, hlast⟩ := hranked
        · omega
        · exact hrecompute.trans hrec
        · exact hfull.trans hful
        · exact (hsampled sampled hmem).trans hlast

/-- A prefix of which the last cut lies within one step of the frontier, or whose
cost does not fall past the frontier, has its last cut ranked. -/
theorem last_cut_ranked_of_slope (setOrder : SetOrder) (hfloor : 1 ≤ self.partial_reuse_floor_tokens)
    (hslope : 0 ≤ secondSlope (self.adjusted_signals signals) ∨
      signals.reusable_prefix_tokens - 1 ≤
        self.frontier signals + max 64 (self.partial_reuse_floor_tokens / 2)) :
    self.LastCutRanked setOrder signals := by
  obtain hshort | hlong := le_or_gt signals.reusable_prefix_tokens self.partial_reuse_floor_tokens
  · exact .inl hshort
  · have hreusable : 0 < signals.reusable_prefix_tokens := by omega
    have hfrontier := floor_le_confidentTokens (self.adjusted_signals signals)
      self.partial_reuse_floor_tokens (by simp only [adjusted_signals_tokens]; omega) hreusable
    change self.partial_reuse_floor_tokens ≤ self.frontier signals at hfrontier
    set last := min (signals.reusable_prefix_tokens - 1)
      (self.frontier signals + max 64 (self.partial_reuse_floor_tokens / 2)) with hlast
    refine .inr (.inr (.inr ⟨last, ?_, ?_⟩))
    · rw [self.mem_sampledCuts signals hreusable]
      exact ⟨by omega, by omega, by simp [hlast]⟩
    · obtain hup | hnear := hslope
      · rw [self.partialReuseCost_eq signals (by omega) (by omega),
          self.partialReuseCost_eq signals (by omega) (by omega)]
        apply roundDecimals_mono
        rcases le_total (signals.reusable_prefix_tokens - 1)
            (self.frontier signals + max 64 (self.partial_reuse_floor_tokens / 2)) with hle | hge
        · rw [hlast, min_eq_left hle]
        · apply kinked.value_mono_past_kink hup
          · exact_mod_cast (show self.frontier signals ≤ last by omega)
          · exact_mod_cast (show last ≤ signals.reusable_prefix_tokens - 1 by omega)
      · rw [hlast, min_eq_left hnear]

/-- Past the frontier of eight hundred tokens a cut only costs more, so the decision is best. -/
theorem decide_best_boundary_midrange :
    ∃ outcome cost, (default : MaterializationPolicy ℚ).decide .insertion
        ⟨800, 32, 10, 12, 0, false, 0⟩ = .ok outcome ∧
      PicksBestBoundary default ⟨800, 32, 10, 12, 0, false, 0⟩ outcome cost := by
  refine (decide_best_boundary_iff default .insertion ⟨800, 32, 10, 12, 0, false, 0⟩ (by decide)).mpr ?_
  exact last_cut_ranked_of_slope .insertion (by decide) (.inl (by decide +kernel))

/-- The defaults on a thousand tokens with the confidence of a follow-up turn:
full reuse is decided at 3.108 ms, and the cut at 999 tokens costs 1.958 ms. -/
theorem default_policy_misses_last_cut :
    ¬ ∃ outcome cost, (default : MaterializationPolicy ℚ).decide .insertion
        ⟨1000, 16384000, 0.65536, 14, 0, true, 0.7⟩ = .ok outcome ∧
      PicksBestBoundary default ⟨1000, 16384000, 0.65536, 14, 0, true, 0.7⟩ outcome cost := by
  rintro ⟨outcome, cost, hdecide, hbest⟩
  have hranked := last_cut_ranked_of_best (by decide) hdecide hbest
  revert hranked
  unfold LastCutRanked
  decide +kernel

end MaterializationPolicy

end vllm_kv_materialization.policy
