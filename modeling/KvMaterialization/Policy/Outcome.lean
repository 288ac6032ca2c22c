import KvMaterialization.Policy.Model

open python

namespace vllm_kv_materialization.policy

variable {F : Type} [PyFloat F]

/-- What an outcome reuses of a prefix, decision by decision: a partial reuse
stops strictly inside it. -/
inductive ReusesWithin (reusable_prefix_tokens : ℤ) : MaterializationOutcome → Prop where
  | recompute (rationale : Rationale) :
    ReusesWithin reusable_prefix_tokens ⟨.recompute, 0, rationale⟩
  | full_reuse (rationale : Rationale) :
    ReusesWithin reusable_prefix_tokens ⟨.full_reuse, reusable_prefix_tokens, rationale⟩
  | partial_reuse (rationale : Rationale) {reused_tokens : ℤ} (hpos : 0 < reused_tokens)
    (hlt : reused_tokens < reusable_prefix_tokens) :
    ReusesWithin reusable_prefix_tokens ⟨.partial_reuse, reused_tokens, rationale⟩

/-- The cuts `optimize_partial_reuse_tokens` compares, in their order. -/
def samples (setOrder : SetOrder) (signals : MaterializationSignals F) (partial_reuse_floor_tokens : ℤ) : List ℤ :=
  match estimate_confident_reuse_tokens signals partial_reuse_floor_tokens with
  | .ok confident_tokens =>
    candidate_tokens setOrder (max signals.reusable_prefix_tokens 0) confident_tokens partial_reuse_floor_tokens
  | .error _ => []

section Samples

variable {setOrder : SetOrder} {signals : MaterializationSignals F} {partial_reuse_floor_tokens tokens : ℤ}

theorem samples_bounds (hmem : tokens ∈ samples setOrder signals partial_reuse_floor_tokens) :
    partial_reuse_floor_tokens ≤ tokens ∧ tokens < max signals.reusable_prefix_tokens 0 := by
  unfold samples at hmem
  split at hmem
  · unfold candidate_tokens at hmem
    rw [SetOrder.mem_order] at hmem
    obtain ⟨raw, hraw, rfl⟩ := List.mem_map.mp hmem
    have hbounds := of_decide_eq_true (List.mem_filter.mp hraw).2
    omega
  · cases hmem

theorem samples_nodup : (samples setOrder signals partial_reuse_floor_tokens).Nodup := by
  unfold samples
  split
  · exact (setOrder.perm _).nodup_iff.mpr (List.nodup_dedup _)
  · exact List.nodup_nil

/-- Whatever the arithmetic, the optimizer returns no cut where it samples none, and
else the one `min` takes of those it samples by their costs. -/
theorem optimize_partial_reuse_tokens_cases
    (hoptimize : optimize_partial_reuse_tokens setOrder signals partial_reuse_floor_tokens = .ok tokens) :
    (samples setOrder signals partial_reuse_floor_tokens = [] ∧ tokens = 0) ∨
      ∃ first rest, (first :: rest).map Prod.snd = samples setOrder signals partial_reuse_floor_tokens ∧
        (∀ item ∈ first :: rest, estimate_materialization_ttft_ms signals .partial_reuse item.2
          partial_reuse_floor_tokens = .ok item.1) ∧
        tokens = (minItem first rest).2 := by
  unfold optimize_partial_reuse_tokens at hoptimize
  dsimp only at hoptimize
  split at hoptimize
  · rename_i hshort
    rw [pure_eq_ok_iff] at hoptimize
    refine .inl ⟨List.eq_nil_iff_forall_not_mem.mpr ?_, hoptimize.symm⟩
    intro sample hmem
    have hbounds := samples_bounds hmem
    omega
  · rw [bind_eq_ok_iff] at hoptimize
    obtain ⟨confident_tokens, hconfident, hoptimize⟩ := hoptimize
    have hsamples : samples setOrder signals partial_reuse_floor_tokens = candidate_tokens setOrder
        (max signals.reusable_prefix_tokens 0) confident_tokens partial_reuse_floor_tokens := by
      unfold samples
      rw [hconfident]
    rw [hsamples]
    split at hoptimize
    · rename_i hnone
      rw [pure_eq_ok_iff] at hoptimize
      exact .inl ⟨hnone, hoptimize.symm⟩
    · rename_i first rest hcandidates
      rw [bind_eq_ok_iff] at hoptimize
      obtain ⟨firstKeyed, hfirst, hoptimize⟩ := hoptimize
      rw [bind_eq_ok_iff] at hoptimize
      obtain ⟨restKeyed, hrest, hoptimize⟩ := hoptimize
      rw [pure_eq_ok_iff] at hoptimize
      have hall : (first :: rest).mapM (fun tokens => do
          return (← estimate_materialization_ttft_ms signals .partial_reuse tokens
            partial_reuse_floor_tokens, tokens)) = .ok (firstKeyed :: restKeyed) := by
        rw [List.mapM_cons]
        exact bind_eq_ok_iff.mpr ⟨firstKeyed, hfirst, bind_eq_ok_iff.mpr ⟨restKeyed, hrest, rfl⟩⟩
      -- Every item keeps the tokens its cost was computed for.
      have hkeyed : ∀ tokens item, (do
          return (← estimate_materialization_ttft_ms signals .partial_reuse tokens
            partial_reuse_floor_tokens, tokens)) = Except.ok item →
          estimate_materialization_ttft_ms signals .partial_reuse item.2 partial_reuse_floor_tokens = .ok item.1 ∧
            item.2 = tokens := by
        intro tokens item hitem
        obtain ⟨cost, hcost, heq⟩ := bind_eq_ok_iff.mp hitem
        rw [pure_eq_ok_iff] at heq
        subst heq
        exact ⟨hcost, rfl⟩
      refine .inr ⟨firstKeyed, restKeyed, ?_, ?_, hoptimize.symm⟩
      · rw [hcandidates]
        have hmap := map_eq_of_mapM_ok (g := Prod.snd) (h := id) hall
          (fun tokens item hitem => (hkeyed tokens item hitem).2)
        rw [hmap, List.map_id]
      · intro item hitem
        obtain ⟨tokens, _, hok⟩ := mem_of_mapM_ok hall hitem
        exact (hkeyed tokens item hok).1

theorem optimize_partial_reuse_tokens_mem
    (hoptimize : optimize_partial_reuse_tokens setOrder signals partial_reuse_floor_tokens = .ok tokens)
    (hpos : 0 < tokens) : tokens ∈ samples setOrder signals partial_reuse_floor_tokens := by
  obtain ⟨_, rfl⟩ | ⟨first, rest, hsamples, _, rfl⟩ := optimize_partial_reuse_tokens_cases hoptimize
  · exact absurd hpos (lt_irrefl 0)
  · rw [← hsamples]
    exact List.mem_map_of_mem (minItem_mem first rest)

/-- Whatever the arithmetic, a cut of the optimizer lies inside the prefix. -/
theorem optimize_partial_reuse_tokens_lt
    (hoptimize : optimize_partial_reuse_tokens setOrder signals partial_reuse_floor_tokens = .ok tokens)
    (hpos : 0 < tokens) : tokens < signals.reusable_prefix_tokens := by
  have hbounds := samples_bounds (optimize_partial_reuse_tokens_mem hoptimize hpos)
  omega

end Samples

namespace MaterializationPolicy

variable {self : MaterializationPolicy F}

theorem partial_candidate_cases {adjusted_signals : MaterializationSignals F} {partial_tokens : ℤ}
    {candidates : List (F × MaterializationOutcome)}
    (hcandidates : self.partial_candidate adjusted_signals partial_tokens = .ok candidates) :
    (partial_tokens ≤ 0 ∧ candidates = []) ∨
      (0 < partial_tokens ∧ ∃ cost rationale, estimate_materialization_ttft_ms adjusted_signals .partial_reuse
        partial_tokens self.partial_reuse_floor_tokens = .ok cost ∧
        candidates = [(cost, ⟨.partial_reuse, partial_tokens, rationale⟩)]) := by
  unfold partial_candidate at hcandidates
  split at hcandidates
  · rename_i hpos
    rw [bind_eq_ok_iff] at hcandidates
    obtain ⟨confident_tokens, _, hcandidates⟩ := hcandidates
    rw [bind_eq_ok_iff] at hcandidates
    obtain ⟨cost, hcost, hcandidates⟩ := hcandidates
    rw [pure_eq_ok_iff] at hcandidates
    exact .inr ⟨hpos, cost, _, hcost, hcandidates.symm⟩
  · rename_i hnone
    rw [pure_eq_ok_iff] at hcandidates
    exact .inl ⟨not_lt.mp hnone, hcandidates.symm⟩

/-- Of a nonempty prefix, the policy takes the least of recomputing, full reuse and the
optimizer's cut, if it has one. -/
theorem decide_cases {setOrder : SetOrder} {signals : MaterializationSignals F} {outcome : MaterializationOutcome}
    (hreusable : 0 < signals.reusable_prefix_tokens) (hdecide : self.decide setOrder signals = .ok outcome) :
    ∃ recompute_cost full_reuse_cost partial_tokens candidates,
      estimate_materialization_ttft_ms (self.adjusted_signals signals) .recompute 0
        self.partial_reuse_floor_tokens = .ok recompute_cost ∧
      estimate_materialization_ttft_ms (self.full_reuse_signals signals) .full_reuse
        signals.reusable_prefix_tokens self.partial_reuse_floor_tokens = .ok full_reuse_cost ∧
      optimize_partial_reuse_tokens setOrder (self.adjusted_signals signals)
        self.partial_reuse_floor_tokens = .ok partial_tokens ∧
      self.partial_candidate (self.adjusted_signals signals) partial_tokens = .ok candidates ∧
      outcome = (minItem (recompute_cost, ⟨.recompute, 0, .recompute_cheaper_for_small_reuse_window⟩)
        ((full_reuse_cost, ⟨.full_reuse, signals.reusable_prefix_tokens,
          .full_reuse_transfer_cheaper_than_recompute⟩) :: candidates)).2 := by
  unfold decide at hdecide
  rw [if_neg (not_le.mpr hreusable), bind_eq_ok_iff] at hdecide
  obtain ⟨recompute_cost, hrecompute, hdecide⟩ := hdecide
  rw [bind_eq_ok_iff] at hdecide
  obtain ⟨full_reuse_cost, hfull, hdecide⟩ := hdecide
  rw [bind_eq_ok_iff] at hdecide
  obtain ⟨partial_tokens, hoptimize, hdecide⟩ := hdecide
  rw [bind_eq_ok_iff] at hdecide
  obtain ⟨candidates, hcandidates, hdecide⟩ := hdecide
  rw [pure_eq_ok_iff] at hdecide
  exact ⟨recompute_cost, full_reuse_cost, partial_tokens, candidates, hrecompute, hfull, hoptimize, hcandidates,
    hdecide.symm⟩

/-- Whatever the arithmetic, the policy reuses within the prefix it is given. -/
theorem decide_reusesWithin {setOrder : SetOrder} {signals : MaterializationSignals F}
    {outcome : MaterializationOutcome} (hdecide : self.decide setOrder signals = .ok outcome) :
    ReusesWithin signals.reusable_prefix_tokens outcome := by
  obtain hempty | hreusable := le_or_gt signals.reusable_prefix_tokens 0
  · unfold decide at hdecide
    rw [if_pos hempty, pure_eq_ok_iff] at hdecide
    subst hdecide
    exact .recompute _
  · obtain ⟨recompute_cost, full_reuse_cost, partial_tokens, candidates, _, _, hoptimize, hcandidates, rfl⟩ :=
      decide_cases hreusable hdecide
    have hmem := minItem_mem
      (recompute_cost, (⟨.recompute, 0, .recompute_cheaper_for_small_reuse_window⟩ : MaterializationOutcome))
      ((full_reuse_cost, ⟨.full_reuse, signals.reusable_prefix_tokens,
        .full_reuse_transfer_cheaper_than_recompute⟩) :: candidates)
    rw [List.mem_cons, List.mem_cons] at hmem
    obtain heq | heq | hmem := hmem
    · rw [heq]
      exact .recompute _
    · rw [heq]
      exact .full_reuse _
    · obtain ⟨_, rfl⟩ | ⟨hpos, cost, rationale, _, rfl⟩ := partial_candidate_cases hcandidates
      · cases hmem
      · rw [List.mem_singleton] at hmem
        have hlt := optimize_partial_reuse_tokens_lt hoptimize hpos
        rw [hmem]
        exact .partial_reuse _ hpos hlt

end MaterializationPolicy

end vllm_kv_materialization.policy
