import KvMaterialization.Policy.Shares

open python
open python.Binary64

namespace vllm_kv_materialization.policy

/-- The modelled time of a decision, as it is compared with others. -/
def time (signals : MaterializationSignals Binary64) (decision : MaterializationDecision)
    (reused_tokens partial_reuse_floor_tokens : ℤ) : WithBot (WithTop ℚ) :=
  match estimate_materialization_ttft_ms signals decision reused_tokens partial_reuse_floor_tokens with
  | .ok cost => cost.rank
  | .error _ => ⊤

/-- A sampled cut that costs less than every other, or the same and is sampled before it. -/
def Cut (setOrder : SetOrder) (signals : MaterializationSignals Binary64)
    (partial_reuse_floor_tokens tokens : ℤ) : Prop :=
  Foremost (fun tokens => time signals .partial_reuse tokens partial_reuse_floor_tokens)
    (samples setOrder signals partial_reuse_floor_tokens) tokens

theorem time_eq {signals : MaterializationSignals Binary64} {decision : MaterializationDecision}
    {reused_tokens partial_reuse_floor_tokens : ℤ} {cost : Binary64}
    (hcost : estimate_materialization_ttft_ms signals decision reused_tokens
      partial_reuse_floor_tokens = .ok cost) :
    time signals decision reused_tokens partial_reuse_floor_tokens = cost.rank := by
  unfold time
  rw [hcost]

section Optimizer

variable {setOrder : SetOrder} {signals : MaterializationSignals Binary64}
  {partial_reuse_floor_tokens tokens : ℤ} (htimed : Timed signals)
  (hlt : (signals.reusable_prefix_tokens : ℚ) < overflow)
  (hfloor : FloorConvertible signals.reusable_prefix_tokens partial_reuse_floor_tokens)
  (hpos : 0 < partial_reuse_floor_tokens)

include htimed hlt hfloor hpos

/-- Where the optimizer samples a cut, it returns the one `Cut` says. -/
theorem optimize_partial_reuse_tokens_cut
    (hoptimize : optimize_partial_reuse_tokens setOrder signals partial_reuse_floor_tokens = .ok tokens) :
    (samples setOrder signals partial_reuse_floor_tokens = [] ∧ tokens = 0) ∨
      (0 < tokens ∧ Cut setOrder signals partial_reuse_floor_tokens tokens) := by
  obtain hnone | ⟨first, rest, hsamples, hcosts, rfl⟩ := optimize_partial_reuse_tokens_cases hoptimize
  · exact .inl hnone
  right
  have hsampled : ∀ item ∈ first :: rest,
      partial_reuse_floor_tokens ≤ item.2 ∧ item.2 < max signals.reusable_prefix_tokens 0 := by
    intro item hitem
    have hmem : item.2 ∈ samples setOrder signals partial_reuse_floor_tokens := by
      rw [← hsamples]
      exact List.mem_map_of_mem hitem
    exact samples_bounds hmem
  have hchosen := hsampled _ (minItem_mem first rest)
  have hreusable : 0 < signals.reusable_prefix_tokens := by omega
  have hnodup : ((first :: rest).map Prod.snd).Nodup := by
    rw [hsamples]
    exact samples_nodup
  have htime : ∀ item ∈ first :: rest,
      time signals .partial_reuse item.2 partial_reuse_floor_tokens = item.1.rank :=
    fun item hitem => time_eq (hcosts item hitem)
  refine ⟨by omega, ?_⟩
  unfold Cut
  rw [← hsamples]
  refine minItem_foremost hnodup htime ?_
  -- Only an infinite time leaves NaN, and then every sample takes as long.
  intro hfirst item hitem
  have hinfinite : ¬ FiniteTimes signals := by
    intro hfinite
    exact (estimate_materialization_ttft_ms_nonNegative htimed hreusable hlt hfloor hfinite
      (hcosts first List.mem_cons_self)).ne_nan hfirst
  have hbounds := hsampled item hitem
  rw [htime item hitem]
  exact (estimate_materialization_ttft_ms_unbounded htimed hreusable hlt hfloor hinfinite (by simp)
    (by omega) (hcosts item hitem)).rank_eq

theorem optimize_partial_reuse_tokens_iff
    (hoptimize : optimize_partial_reuse_tokens setOrder signals partial_reuse_floor_tokens = .ok tokens)
    (cut : ℤ) : Cut setOrder signals partial_reuse_floor_tokens cut ↔ 0 < tokens ∧ cut = tokens := by
  obtain ⟨hnone, rfl⟩ | ⟨htokens, hcut⟩ := optimize_partial_reuse_tokens_cut htimed hlt hfloor hpos hoptimize
  · refine iff_of_false ?_ (fun h => lt_irrefl 0 h.1)
    intro hcut
    have hmem := hcut.1
    rw [hnone] at hmem
    cases hmem
  · constructor
    · intro hcut'
      exact ⟨htokens, hcut'.unique hcut⟩
    · rintro ⟨_, rfl⟩
      exact hcut

end Optimizer

namespace MaterializationPolicy

/-- The cut the policy prefers to recomputing and to full reuse, as it weighs each. -/
structure Preferred (policy : MaterializationPolicy Binary64) (setOrder : SetOrder)
    (signals : MaterializationSignals Binary64) (tokens : ℤ) : Prop where
  cut : Cut setOrder (policy.adjusted_signals signals) policy.partial_reuse_floor_tokens tokens
  recompute : time (policy.adjusted_signals signals) .partial_reuse tokens policy.partial_reuse_floor_tokens <
    time (policy.adjusted_signals signals) .recompute 0 policy.partial_reuse_floor_tokens
  full_reuse : time (policy.adjusted_signals signals) .partial_reuse tokens policy.partial_reuse_floor_tokens <
    time (policy.full_reuse_signals signals) .full_reuse signals.reusable_prefix_tokens
      policy.partial_reuse_floor_tokens

theorem decide_partial_reuse_iff {self : MaterializationPolicy Binary64} {setOrder : SetOrder}
    {signals : MaterializationSignals Binary64} {outcome : MaterializationOutcome} (htimed : Timed signals)
    (hlt : (signals.reusable_prefix_tokens : ℚ) < overflow)
    (hfloor : FloorConvertible signals.reusable_prefix_tokens self.partial_reuse_floor_tokens)
    (hpos : 0 < self.partial_reuse_floor_tokens) (hdecide : self.decide setOrder signals = .ok outcome)
    (tokens : ℤ) :
    (outcome.decision = .partial_reuse ∧ outcome.reused_tokens = tokens) ↔
      self.Preferred setOrder signals tokens := by
  obtain hempty | hreusable := le_or_gt signals.reusable_prefix_tokens 0
  · unfold decide at hdecide
    rw [if_pos hempty, pure_eq_ok_iff] at hdecide
    subst hdecide
    refine iff_of_false (fun h => by cases h.1) (fun hpreferred => ?_)
    have hbounds := samples_bounds hpreferred.cut.1
    rw [adjusted_signals_tokens] at hbounds
    omega
  obtain ⟨recompute_cost, full_reuse_cost, partial_tokens, candidates, hrecompute, hfull, hoptimize,
    hcandidates, rfl⟩ :=
    decide_cases hreusable hdecide
  have hcut := optimize_partial_reuse_tokens_iff (self.adjusted_signals_timed htimed) hlt hfloor hpos hoptimize
  have hnumber : recompute_cost ≠ nan := by
    rw [estimate_recompute, Except.ok.injEq] at hrecompute
    rw [← hrecompute]
    exact (htimed.recompute_time_ms.roundTo 3).ne_nan
  obtain ⟨hnone, rfl⟩ | ⟨hsome, cost, rationale, hcost, rfl⟩ := partial_candidate_cases hcandidates
  · refine iff_of_false ?_ (fun hpreferred => not_lt.mpr hnone ((hcut tokens).mp hpreferred.cut).1)
    rw [minItem_cons]
    split
    · exact fun h => by cases h.1
    · exact fun h => by cases h.1
  · rw [minItem_three hnumber]
    have hpreferred : self.Preferred setOrder signals tokens ↔
        tokens = partial_tokens ∧ rank cost < rank recompute_cost ∧ rank cost < rank full_reuse_cost := by
      constructor
      · intro hpreferred
        obtain ⟨_, rfl⟩ := (hcut tokens).mp hpreferred.cut
        have hbelow := hpreferred.recompute
        have hbelow' := hpreferred.full_reuse
        rw [time_eq hcost, time_eq hrecompute] at hbelow
        rw [time_eq hcost, time_eq hfull] at hbelow'
        exact ⟨rfl, hbelow, hbelow'⟩
      · rintro ⟨rfl, hbelow, hbelow'⟩
        refine ⟨(hcut tokens).mpr ⟨hsome, rfl⟩, ?_, ?_⟩
        · rwa [time_eq hcost, time_eq hrecompute]
        · rwa [time_eq hcost, time_eq hfull]
    rw [hpreferred]
    split
    · rename_i hbelow
      constructor
      · rintro ⟨_, rfl⟩
        exact ⟨rfl, hbelow⟩
      · rintro ⟨rfl, _⟩
        exact ⟨rfl, rfl⟩
    · rename_i hnot
      refine iff_of_false ?_ (fun h => hnot h.2)
      split
      · exact fun h => by cases h.1
      · exact fun h => by cases h.1

end MaterializationPolicy

end vllm_kv_materialization.policy
