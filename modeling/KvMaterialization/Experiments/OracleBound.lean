import KvMaterialization.Experiments.OfflineStudy
import KvMaterialization.Policy.Cuts

open python
open python.Binary64
open vllm_kv_materialization.policy

namespace run_offline_study

section

variable {F : Type} [PyNumber F]

/-- The signals of a trace, none of whose values is negative. -/
structure NonNegative (signals : MaterializationSignals F) : Prop where
  reusable_prefix_tokens : 0 ≤ signals.reusable_prefix_tokens
  remote_kv_bytes : 0 ≤ signals.remote_kv_bytes
  transfer_time_ms : pyLe (lit 0) signals.transfer_time_ms = true
  recompute_time_ms : pyLe (lit 0) signals.recompute_time_ms = true
  queue_pressure : pyLe (lit 0) signals.queue_pressure = true
  reuse_confidence : pyLe (lit 0) signals.reuse_confidence = true

/-- The oracle is evaluated, and no other policy of the study is evaluated lower. -/
def LowerBound (setOrder : SetOrder) (signals : MaterializationSignals F) : Prop :=
  ∃ oracle, oracle_evaluation setOrder signals = .ok oracle ∧
    ∀ name evaluated, (name, evaluated) ∈ policy_evaluations setOrder signals →
      ∃ other, evaluated = .ok other ∧ pyLe oracle.ttft_ms other.ttft_ms = true

theorem evaluate_ttft_ms {signals : MaterializationSignals F} {decision : MaterializationDecision} {tokens : ℤ}
    {evaluation : Evaluation F} (hevaluate : evaluate signals decision tokens = .ok evaluation) :
    estimate_materialization_ttft_ms signals decision tokens 256 = .ok evaluation.ttft_ms := by
  unfold evaluate at hevaluate
  obtain ⟨cost, hcost, hevaluate⟩ := bind_eq_ok_iff.mp hevaluate
  rw [hcost]
  cases decision with
  | full_reuse =>
    rw [pure_eq_ok_iff] at hevaluate
    rw [← hevaluate]
  | partial_reuse =>
    obtain ⟨ratio, _, hevaluate⟩ := bind_eq_ok_iff.mp hevaluate
    obtain ⟨bytes, _, hevaluate⟩ := bind_eq_ok_iff.mp hevaluate
    obtain ⟨transferred, _, hevaluate⟩ := bind_eq_ok_iff.mp hevaluate
    rw [pure_eq_ok_iff] at hevaluate
    rw [← hevaluate]
  | recompute =>
    rw [pure_eq_ok_iff] at hevaluate
    rw [← hevaluate]

end

section Conversion

variable {signals : MaterializationSignals Binary64}

theorem NonNegative.timed (hsignals : NonNegative signals) : Timed signals :=
  ⟨(nonNegative_iff _).mp hsignals.transfer_time_ms, (nonNegative_iff _).mp hsignals.recompute_time_ms,
    (nonNegative_iff _).mp hsignals.queue_pressure⟩

theorem floorConvertible (reusable_prefix_tokens : ℤ) {partial_reuse_floor_tokens : ℤ}
    (hfloor : 0 ≤ partial_reuse_floor_tokens) :
    FloorConvertible reusable_prefix_tokens partial_reuse_floor_tokens :=
  fun hreusable hbelow => abs_ratio_lt_overflow hfloor hbelow.le hreusable

/-- Scoring full reuse converts the prefix. -/
theorem tokens_convert (hreusable : 0 < signals.reusable_prefix_tokens) {cost : Binary64}
    (hcost : estimate_materialization_ttft_ms signals .full_reuse signals.reusable_prefix_tokens 256 = .ok cost) :
    (signals.reusable_prefix_tokens : ℚ) < overflow := by
  have htotal : max signals.reusable_prefix_tokens 0 = signals.reusable_prefix_tokens := max_eq_left hreusable.le
  have habs : |(signals.reusable_prefix_tokens : ℚ)| = signals.reusable_prefix_tokens :=
    abs_of_nonneg (by exact_mod_cast hreusable.le)
  unfold estimate_materialization_ttft_ms at hcost
  simp only [htotal, not_le.mpr hreusable, or_false, reduceCtorEq, if_false, if_true] at hcost
  unfold reuse_ttft_ms at hcost
  obtain ⟨_, _, hcost⟩ := bind_eq_ok_iff.mp hcost
  obtain ⟨_, _, hcost⟩ := bind_eq_ok_iff.mp hcost
  obtain ⟨_, _, hcost⟩ := bind_eq_ok_iff.mp hcost
  obtain ⟨_, _, hcost⟩ := bind_eq_ok_iff.mp hcost
  obtain ⟨total, hconvert, _⟩ := bind_eq_ok_iff.mp hcost
  rw [← habs]
  exact ofInt_returns_iff.mp ⟨total, hconvert⟩

/-- Scoring a cut converts the bytes. -/
theorem bytes_convert (hbytes : 0 ≤ signals.remote_kv_bytes) {tokens : ℤ} {evaluation : Evaluation Binary64}
    (hevaluate : evaluate signals .partial_reuse tokens = .ok evaluation) :
    (signals.remote_kv_bytes : ℚ) < overflow := by
  have habs : |(signals.remote_kv_bytes : ℚ)| = signals.remote_kv_bytes :=
    abs_of_nonneg (by exact_mod_cast hbytes)
  unfold evaluate at hevaluate
  obtain ⟨_, _, hevaluate⟩ := bind_eq_ok_iff.mp hevaluate
  obtain ⟨_, _, hevaluate⟩ := bind_eq_ok_iff.mp hevaluate
  obtain ⟨bytes, hconvert, _⟩ := bind_eq_ok_iff.mp hevaluate
  rw [← habs]
  exact ofInt_returns_iff.mp ⟨bytes, hconvert⟩

/-- The counts of a trace convert to floats where the study divides them. -/
structure Convertible (signals : MaterializationSignals Binary64) : Prop where
  reusable_prefix_tokens : (signals.reusable_prefix_tokens : ℚ) < overflow
  remote_kv_bytes : 128 < signals.reusable_prefix_tokens → (signals.remote_kv_bytes : ℚ) < overflow

theorem evaluate_returns (hsignals : NonNegative signals) (hconvertible : Convertible signals)
    {decision : MaterializationDecision} {tokens : ℤ}
    (hcut : decision = .partial_reuse → 128 ≤ tokens ∧ tokens < signals.reusable_prefix_tokens) :
    ∃ evaluation, evaluate signals decision tokens = .ok evaluation := by
  have hcost : Returns (estimate_materialization_ttft_ms signals decision tokens 256) := by
    obtain hreusable | hempty := hsignals.reusable_prefix_tokens.lt_or_eq
    · exact estimate_materialization_ttft_ms_returns signals hreusable hconvertible.reusable_prefix_tokens
        (floorConvertible _ (by norm_num)) decision tokens
    · unfold estimate_materialization_ttft_ms
      rw [if_pos (by rw [← hempty]; simp)]
      exact returns_pure _
  unfold evaluate
  refine hcost.bind (fun cost _ => ?_)
  cases decision with
  | full_reuse => exact returns_pure _
  | recompute => exact returns_pure _
  | partial_reuse =>
    obtain ⟨hfloor, htotal⟩ := hcut rfl
    have hbytes := hconvertible.remote_kv_bytes (by omega)
    rw [max_eq_right (by omega)]
    refine ((intDiv_returns_iff (by omega)).mpr (abs_ratio_lt_overflow (by omega) htotal.le (by omega))).bind
      (fun ratio hratio => ?_)
    refine (ofInt_returns_iff.mpr (abs_lt_overflow_of_le hsignals.remote_kv_bytes le_rfl hbytes)).bind
      (fun bytes hconvert => ?_)
    refine (trunc_share_returns hsignals.remote_kv_bytes hbytes
      (intDiv_inUnit (by omega) htotal.le (by omega) hratio) hconvert).bind (fun transferred _ => ?_)
    exact returns_pure _

end Conversion

section Oracle

/-- A candidate of `decide_oracle` with what it is scored. -/
def keyed (signals : MaterializationSignals Binary64) (candidate : MaterializationDecision × ℤ) :
    Except Exception (Binary64 × (MaterializationDecision × ℤ)) := do
  return ((← evaluate signals candidate.1 candidate.2).ttft_ms, candidate)

variable (setOrder : SetOrder) {signals : MaterializationSignals Binary64} (hsignals : NonNegative signals)
  (hlt : (signals.reusable_prefix_tokens : ℚ) < overflow)

include hsignals hlt

theorem oracle_cut_returns :
    ∃ tokens, optimize_partial_reuse_tokens setOrder signals 128 = .ok tokens ∧
      ∀ cut, Cut setOrder signals 128 cut ↔ 0 < tokens ∧ cut = tokens := by
  have hfloor : FloorConvertible signals.reusable_prefix_tokens 128 := floorConvertible _ (by norm_num)
  have hreturns : Returns (optimize_partial_reuse_tokens setOrder signals 128) := by
    obtain hreusable | hempty := hsignals.reusable_prefix_tokens.lt_or_eq
    · exact optimize_partial_reuse_tokens_returns signals hreusable hlt hfloor setOrder
    · unfold optimize_partial_reuse_tokens
      rw [← hempty]
      exact returns_pure _
  obtain ⟨tokens, hoptimize⟩ := hreturns
  exact ⟨tokens, hoptimize, optimize_partial_reuse_tokens_iff hsignals.timed hlt hfloor (by norm_num) hoptimize⟩

/-- What the oracle weighs besides recomputing. -/
theorem oracle_candidates_mem :
    ∃ candidates, oracle_candidates setOrder signals 128 = .ok candidates ∧
      ∀ decision tokens, (decision, tokens) ∈ candidates ↔
        (0 < signals.reusable_prefix_tokens ∧ decision = .full_reuse ∧ tokens = signals.reusable_prefix_tokens) ∨
          (decision = .partial_reuse ∧ Cut setOrder signals 128 tokens) := by
  obtain ⟨tokens, hoptimize, hcut⟩ := oracle_cut_returns setOrder hsignals hlt
  have hfull : ∀ decision reused, (decision, reused) ∈
      (if signals.reusable_prefix_tokens > 0 then [(MaterializationDecision.full_reuse, signals.reusable_prefix_tokens)]
        else []) ↔ 0 < signals.reusable_prefix_tokens ∧ decision = .full_reuse ∧
          reused = signals.reusable_prefix_tokens := by
    intro decision reused
    by_cases hreusable : 0 < signals.reusable_prefix_tokens
    · simp [hreusable]
    · simp [hreusable]
  unfold oracle_candidates
  dsimp only
  by_cases hlong : signals.reusable_prefix_tokens ≥ 128
  · rw [if_pos hlong, hoptimize]
    by_cases hsome : tokens > 0
    · refine ⟨_, bind_eq_ok_iff.mpr ⟨tokens, rfl, if_pos hsome⟩, ?_⟩
      intro decision reused
      rw [List.mem_append, hfull, hcut reused, List.mem_singleton, Prod.mk.injEq]
      simp [hsome]
    · refine ⟨_, bind_eq_ok_iff.mpr ⟨tokens, rfl, if_neg hsome⟩, ?_⟩
      intro decision reused
      rw [hfull, hcut reused]
      simp [hsome]
  · rw [if_neg hlong]
    refine ⟨_, rfl, ?_⟩
    intro decision reused
    have hnone : ¬ Cut setOrder signals 128 reused := by
      intro hsampled
      have hbounds := samples_bounds hsampled.1
      omega
    rw [hfull]
    simp [hnone]

omit hsignals hlt in
theorem keyed_time {candidate : MaterializationDecision × ℤ} {item : Binary64 × (MaterializationDecision × ℤ)}
    (hitem : keyed signals candidate = .ok item) :
    item.2 = candidate ∧ (∃ evaluation, evaluate signals candidate.1 candidate.2 = .ok evaluation ∧
      evaluation.ttft_ms = item.1) ∧ time signals candidate.1 candidate.2 256 = rank item.1 := by
  obtain ⟨evaluation, hevaluate, heq⟩ := bind_eq_ok_iff.mp hitem
  rw [pure_eq_ok_iff] at heq
  subst heq
  exact ⟨rfl, ⟨evaluation, hevaluate, rfl⟩, time_eq (evaluate_ttft_ms hevaluate)⟩

omit hlt in
/-- The candidates of `decide_oracle` are all scored. -/
theorem keyed_returns (hconvertible : Convertible signals) {candidates : List (MaterializationDecision × ℤ)}
    (hcandidates : oracle_candidates setOrder signals 128 = .ok candidates) :
    ∃ items, ((.recompute, 0) :: candidates).mapM (keyed signals) = .ok items := by
  obtain ⟨weighed, hweighed, hmem⟩ := oracle_candidates_mem setOrder hsignals hconvertible.reusable_prefix_tokens
  rw [hcandidates, Except.ok.injEq] at hweighed
  subst hweighed
  apply Returns.mapM
  rintro ⟨decision, tokens⟩ hcandidate
  refine Returns.bind (evaluate_returns hsignals hconvertible ?_) (fun _ _ => returns_pure _)
  rintro rfl
  rw [List.mem_cons, hmem] at hcandidate
  obtain hcandidate | ⟨_, hdecision, _⟩ | ⟨_, hcut⟩ := hcandidate
  · cases hcandidate
  · cases hdecision
  · have hbounds := samples_bounds hcut.1
    omega

omit hlt in
/-- The oracle is scored as the least of what it weighs. -/
theorem oracle_evaluation_spec (hconvertible : Convertible signals) :
    ∃ oracle, oracle_evaluation setOrder signals = .ok oracle ∧ oracle.ttft_ms ≠ nan ∧
      ∀ bound, rank oracle.ttft_ms ≤ bound ↔
        time signals .recompute 0 256 ≤ bound ∨
          (0 < signals.reusable_prefix_tokens ∧
            time signals .full_reuse signals.reusable_prefix_tokens 256 ≤ bound) ∨
          ∃ cut, Cut setOrder signals 128 cut ∧ time signals .partial_reuse cut 256 ≤ bound := by
  obtain ⟨candidates, hcandidates, hmem⟩ :=
    oracle_candidates_mem setOrder hsignals hconvertible.reusable_prefix_tokens
  obtain ⟨items, hall⟩ := keyed_returns setOrder hsignals hconvertible hcandidates
  have hsteps := hall
  rw [List.mapM_cons] at hsteps
  obtain ⟨first, hfirst, hsteps⟩ := bind_eq_ok_iff.mp hsteps
  obtain ⟨rest, hrest, hitems⟩ := bind_eq_ok_iff.mp hsteps
  rw [pure_eq_ok_iff] at hitems
  subst hitems
  have hnumber : first.1 ≠ nan := by
    obtain ⟨_, ⟨evaluation, hevaluate, hkey⟩, _⟩ := keyed_time hfirst
    have hcost := evaluate_ttft_ms hevaluate
    rw [estimate_recompute, Except.ok.injEq] at hcost
    rw [← hkey, ← hcost]
    exact (hsignals.timed.recompute_time_ms.roundTo 3).ne_nan
  obtain ⟨⟨decision, tokens⟩, hbest, hchosen⟩ := mem_of_mapM_ok hall (minItem_mem first rest)
  obtain ⟨hcandidate, ⟨oracle, hevaluate, hkey⟩, htime⟩ := keyed_time hchosen
  have hdecide : decide_oracle setOrder signals 128 = .ok (decision, tokens) :=
    bind_eq_ok_iff.mpr ⟨candidates, hcandidates, bind_eq_ok_iff.mpr ⟨first, hfirst,
      bind_eq_ok_iff.mpr ⟨rest, hrest, congrArg Except.ok hcandidate⟩⟩⟩
  refine ⟨oracle, bind_eq_ok_iff.mpr ⟨_, hdecide, hevaluate⟩, ?_, ?_⟩
  · rw [hkey]
    exact (minItem_first first rest hnumber).1
  intro bound
  have hleast : ∀ candidate ∈ (.recompute, 0) :: candidates,
      rank oracle.ttft_ms ≤ time signals candidate.1 candidate.2 256 := by
    intro candidate hcandidate
    obtain ⟨item, hitem, hok⟩ := exists_right_of_mem (forall₂_of_mapM_ok hall) hcandidate
    rw [(keyed_time hok).2.2, hkey]
    exact minItem_rank_le first rest hnumber item hitem
  constructor
  · intro hbound
    rw [hkey, ← htime] at hbound
    rw [List.mem_cons, hmem] at hbest
    obtain hrecompute | ⟨hreusable, rfl, rfl⟩ | ⟨rfl, hcut⟩ := hbest
    · cases hrecompute
      exact .inl hbound
    · exact .inr (.inl ⟨hreusable, hbound⟩)
    · exact .inr (.inr ⟨tokens, hcut, hbound⟩)
  · rintro (hrecompute | ⟨hreusable, hfull⟩ | ⟨cut, hcut, hcost⟩)
    · exact (hleast (.recompute, 0) List.mem_cons_self).trans hrecompute
    · exact (hleast (.full_reuse, signals.reusable_prefix_tokens)
        (List.mem_cons_of_mem _ ((hmem _ _).mpr (.inl ⟨hreusable, rfl, rfl⟩)))).trans hfull
    · exact (hleast (.partial_reuse, cut)
        (List.mem_cons_of_mem _ ((hmem _ _).mpr (.inr ⟨rfl, hcut⟩)))).trans hcost

end Oracle

/-- A cut that a policy of the study takes: the best at the scoring floor past the
threshold, or one the heuristic prefers on the signals or on an estimate of them. -/
inductive Rival (setOrder : SetOrder) (signals : MaterializationSignals Binary64) (tokens : ℤ) : Prop where
  | threshold (hlong : 512 ≤ signals.reusable_prefix_tokens) (hcut : Cut setOrder signals 256 tokens)
  | heuristic {estimated : MaterializationSignals Binary64}
    (hestimated : estimated ∈ signals :: (estimated_signals signals).map Prod.snd)
    (hpreferred : study_policy.Preferred setOrder estimated tokens)

/-- An action a policy of the study takes. -/
inductive Taken (setOrder : SetOrder) (signals : MaterializationSignals Binary64) :
    MaterializationDecision → ℤ → Prop where
  | recompute : Taken setOrder signals .recompute 0
  | full_reuse (hreusable : 0 < signals.reusable_prefix_tokens) :
    Taken setOrder signals .full_reuse signals.reusable_prefix_tokens
  | partial_reuse {tokens : ℤ} (hrival : Rival setOrder signals tokens) :
    Taken setOrder signals .partial_reuse tokens

section Policies

variable (setOrder : SetOrder) {signals : MaterializationSignals Binary64} (hsignals : NonNegative signals)
  (hlt : (signals.reusable_prefix_tokens : ℚ) < overflow)

theorem estimated_signals_tokens {estimated : MaterializationSignals Binary64}
    (hestimated : estimated ∈ signals :: (estimated_signals signals).map Prod.snd) :
    estimated.reusable_prefix_tokens = signals.reusable_prefix_tokens := by
  simp only [estimated_signals, List.map_cons, List.map_nil, List.mem_cons, List.not_mem_nil, or_false] at hestimated
  obtain rfl | rfl | rfl | rfl | rfl := hestimated
  all_goals rfl

include hsignals in
theorem estimated_signals_timed {estimated : MaterializationSignals Binary64}
    (hestimated : estimated ∈ signals :: (estimated_signals signals).map Prod.snd) : Timed estimated := by
  have hfactor : ∀ transfer_factor recompute_factor : ℚ, 1 / 8 ≤ transfer_factor → transfer_factor ≤ 2 →
      1 / 8 ≤ recompute_factor → recompute_factor ≤ 2 →
      Timed (perturb_signals signals (lit transfer_factor) (lit recompute_factor)) := by
    intro transfer_factor recompute_factor htransfer htransfer' hrecompute hrecompute'
    exact ⟨hsignals.timed.transfer_time_ms.mul_lit (two_pow_neg_le htransfer) (by linarith),
      hsignals.timed.recompute_time_ms.mul_lit (two_pow_neg_le hrecompute) (by linarith),
      hsignals.timed.queue_pressure⟩
  simp only [estimated_signals, List.map_cons, List.map_nil, List.mem_cons, List.not_mem_nil, or_false] at hestimated
  obtain rfl | rfl | rfl | rfl | rfl := hestimated
  · exact hsignals.timed
  all_goals exact hfactor _ _ (by norm_num) (by norm_num) (by norm_num) (by norm_num)

include hsignals hlt

theorem heuristic_evaluation_taken {estimated : MaterializationSignals Binary64}
    (hestimated : estimated ∈ signals :: (estimated_signals signals).map Prod.snd) :
    ∃ decision tokens, heuristic_evaluation setOrder signals estimated = evaluate signals decision tokens ∧
      Taken setOrder signals decision tokens ∧
      ∀ cut, study_policy.Preferred setOrder estimated cut → decision = .partial_reuse ∧ tokens = cut := by
  have htokens := estimated_signals_tokens hestimated
  have hfloor : FloorConvertible estimated.reusable_prefix_tokens 128 := floorConvertible _ (by norm_num)
  rw [← htokens] at hlt
  obtain ⟨outcome, hdecide⟩ := study_policy.decide_returns setOrder hlt hfloor
  have hpreferred := study_policy.decide_partial_reuse_iff (estimated_signals_timed hsignals hestimated) hlt hfloor
    (by norm_num [study_policy]) hdecide
  refine ⟨outcome.decision, outcome.reused_tokens, ?_, ?_, fun cut hcut => (hpreferred cut).mpr hcut⟩
  · unfold heuristic_evaluation
    rw [hdecide]
    rfl
  · obtain hempty | hreusable := le_or_gt estimated.reusable_prefix_tokens 0
    · unfold MaterializationPolicy.decide at hdecide
      rw [if_pos hempty, pure_eq_ok_iff] at hdecide
      subst hdecide
      exact .recompute
    · have hwithin := study_policy.decide_reusesWithin hdecide
      rw [htokens] at hwithin hreusable
      cases hwithin with
      | recompute rationale => exact .recompute
      | full_reuse rationale => exact .full_reuse hreusable
      | partial_reuse rationale hpos hinside =>
        exact .partial_reuse (.heuristic hestimated ((hpreferred _).mp ⟨rfl, rfl⟩))

theorem threshold_evaluation_taken :
    ∃ decision tokens, baseline_evaluation setOrder signals "threshold_partial" = evaluate signals decision tokens ∧
      Taken setOrder signals decision tokens ∧
      ∀ cut, 512 ≤ signals.reusable_prefix_tokens → Cut setOrder signals 256 cut →
        decision = .partial_reuse ∧ tokens = cut := by
  unfold baseline_evaluation decide_baseline
  simp only [String.reduceEq, if_false, if_true]
  by_cases hlong : signals.reusable_prefix_tokens ≥ 512
  · have hfloor : FloorConvertible signals.reusable_prefix_tokens 256 := floorConvertible _ (by norm_num)
    obtain ⟨tokens, hoptimize⟩ := optimize_partial_reuse_tokens_returns signals (by omega) hlt hfloor setOrder
    have hcut := optimize_partial_reuse_tokens_iff hsignals.timed hlt hfloor (by norm_num) hoptimize
    rw [if_pos hlong, hoptimize]
    by_cases hsome : tokens > 0
    · refine ⟨.partial_reuse, tokens, ?_, .partial_reuse (.threshold hlong ((hcut tokens).mpr ⟨hsome, rfl⟩)), ?_⟩
      · simp only [bind, Except.bind, if_pos hsome]
        rfl
      · exact fun cut _ hbest => ⟨rfl, ((hcut cut).mp hbest).2.symm⟩
    · refine ⟨.recompute, 0, ?_, .recompute, ?_⟩
      · simp only [bind, Except.bind, if_neg hsome]
        rfl
      · exact fun cut _ hbest => absurd ((hcut cut).mp hbest).1 hsome
  · rw [if_neg hlong]
    exact ⟨.recompute, 0, rfl, .recompute, fun cut hreached _ => absurd hreached hlong⟩

omit hsignals hlt in
theorem full_reuse_evaluation (hreusable : 0 < signals.reusable_prefix_tokens) :
    baseline_evaluation setOrder signals "always_full_reuse" =
      evaluate signals .full_reuse signals.reusable_prefix_tokens := by
  unfold baseline_evaluation decide_baseline
  simp only [String.reduceEq, if_false, if_true]
  rw [if_pos hreusable]
  rfl

omit hsignals hlt in
theorem policy_evaluations_full_reuse (hreusable : 0 < signals.reusable_prefix_tokens) :
    ("always_full_reuse", evaluate signals .full_reuse signals.reusable_prefix_tokens) ∈
      policy_evaluations setOrder signals := by
  rw [← full_reuse_evaluation setOrder hreusable]
  simp [policy_evaluations]

/-- Every other policy is scored for an action that some policy takes. -/
theorem policy_evaluations_taken {name : String} {evaluated : Except Exception (Evaluation Binary64)}
    (hmem : (name, evaluated) ∈ policy_evaluations setOrder signals) :
    ∃ decision tokens, evaluated = evaluate signals decision tokens ∧ Taken setOrder signals decision tokens := by
  simp only [policy_evaluations, List.map_cons, List.map_nil, List.cons_append, List.nil_append, List.mem_cons,
    List.mem_map, Prod.mk.injEq] at hmem
  obtain ⟨rfl, rfl⟩ | ⟨rfl, rfl⟩ | ⟨rfl, rfl⟩ | ⟨rfl, rfl⟩ | ⟨⟨perturbed, estimated⟩, hestimated, rfl, rfl⟩ := hmem
  · obtain ⟨decision, tokens, heq, htaken, _⟩ :=
      heuristic_evaluation_taken setOrder hsignals hlt (List.mem_cons_self)
    exact ⟨decision, tokens, heq, htaken⟩
  · exact ⟨.recompute, 0, rfl, .recompute⟩
  · by_cases hreusable : 0 < signals.reusable_prefix_tokens
    · exact ⟨.full_reuse, _, full_reuse_evaluation setOrder hreusable, .full_reuse hreusable⟩
    · refine ⟨.recompute, 0, ?_, .recompute⟩
      unfold baseline_evaluation decide_baseline
      simp only [String.reduceEq, if_false, if_true]
      rw [if_neg hreusable]
      rfl
  · obtain ⟨decision, tokens, heq, htaken, _⟩ := threshold_evaluation_taken setOrder hsignals hlt
    exact ⟨decision, tokens, heq, htaken⟩
  · obtain ⟨decision, tokens, heq, htaken, _⟩ := heuristic_evaluation_taken setOrder hsignals hlt
      (List.mem_cons_of_mem _ (List.mem_map_of_mem hestimated))
    exact ⟨decision, tokens, heq, htaken⟩

/-- Every cut of a rival is scored for one of the other policies. -/
theorem policy_evaluations_rival {tokens : ℤ} (hrival : Rival setOrder signals tokens) :
    ∃ name, (name, evaluate signals .partial_reuse tokens) ∈ policy_evaluations setOrder signals := by
  cases hrival with
  | threshold hlong hcut =>
    obtain ⟨decision, cut, heq, _, htaken⟩ := threshold_evaluation_taken setOrder hsignals hlt
    obtain ⟨rfl, rfl⟩ := htaken tokens hlong hcut
    refine ⟨"threshold_partial", ?_⟩
    rw [← heq]
    simp [policy_evaluations]
  | @heuristic estimated hestimated hpreferred =>
    obtain ⟨decision, cut, heq, _, htaken⟩ := heuristic_evaluation_taken setOrder hsignals hlt hestimated
    obtain ⟨rfl, rfl⟩ := htaken tokens hpreferred
    rw [← heq]
    rw [List.mem_cons, List.mem_map] at hestimated
    obtain rfl | ⟨⟨name, estimate⟩, hmem, rfl⟩ := hestimated
    · exact ⟨"heuristic", by simp [policy_evaluations]⟩
    · refine ⟨name, ?_⟩
      unfold policy_evaluations
      exact List.mem_append_right _ (List.mem_map.mpr ⟨(name, estimate), hmem, rfl⟩)

end Policies

/-- The modelled time at the scoring floor is no NaN, which no time is at most. -/
def IsNumber (signals : MaterializationSignals Binary64) (decision : MaterializationDecision) (tokens : ℤ) : Prop :=
  ∃ cost, estimate_materialization_ttft_ms signals decision tokens 256 = .ok cost ∧ cost ≠ nan

/-- Recomputing or full reuse is scored no higher than a cut, or some sample of the
oracle's floor is: one that is there ahead of every sample scored above the cut. -/
def Kept (setOrder : SetOrder) (signals : MaterializationSignals Binary64) (tokens : ℤ) : Prop :=
  time signals .recompute 0 256 ≤ time signals .partial_reuse tokens 256 ∨
    time signals .full_reuse signals.reusable_prefix_tokens 256 ≤ time signals .partial_reuse tokens 256 ∨
    ∃ sample ∈ samples setOrder signals 128,
      time signals .partial_reuse sample 256 ≤ time signals .partial_reuse tokens 256 ∧
      ∀ other ∈ samples setOrder signals 128,
        time signals .partial_reuse tokens 256 < time signals .partial_reuse other 256 →
          Ahead (fun tokens => time signals .partial_reuse tokens 128) (samples setOrder signals 128) sample other

instance (setOrder : SetOrder) (signals : MaterializationSignals Binary64) (tokens : ℤ) :
    Decidable (Kept setOrder signals tokens) :=
  inferInstanceAs (Decidable (_ ∨ _ ∨ _))

section Bound

variable {setOrder : SetOrder} {signals : MaterializationSignals Binary64}

/-- Neither an estimate of the times nor the policy's adjustment of them changes what is sampled. -/
theorem Rival.sampled {tokens : ℤ} (hrival : Rival setOrder signals tokens) :
    (512 ≤ signals.reusable_prefix_tokens ∧ tokens ∈ samples setOrder signals 256) ∨
      tokens ∈ samples setOrder signals 128 := by
  cases hrival with
  | threshold hlong hcut => exact .inl ⟨hlong, hcut.1⟩
  | @heuristic estimated hestimated hpreferred =>
    right
    have hsamples : samples setOrder (study_policy.adjusted_signals estimated) 128 = samples setOrder signals 128 := by
      simp only [estimated_signals, List.map_cons, List.map_nil, List.mem_cons, List.not_mem_nil,
        or_false] at hestimated
      obtain rfl | rfl | rfl | rfl | rfl := hestimated
      all_goals rfl
    rw [← hsamples]
    exact hpreferred.cut.1

theorem Rival.bounds {tokens : ℤ} (hrival : Rival setOrder signals tokens) :
    128 ≤ tokens ∧ tokens < signals.reusable_prefix_tokens := by
  obtain ⟨hlong, hmem⟩ | hmem := hrival.sampled
  · have hbounds := samples_bounds hmem
    omega
  · have hbounds := samples_bounds hmem
    omega

variable (setOrder) in
/-- The floor itself is a sample of a longer prefix. -/
theorem floor_mem_samples (hlt : (signals.reusable_prefix_tokens : ℚ) < overflow)
    (hlong : 128 < signals.reusable_prefix_tokens) : 128 ∈ samples setOrder signals 128 := by
  obtain ⟨confident_tokens, hconfident, _, _⟩ := estimate_confident_reuse_tokens_within signals (by omega) hlt
    (floorConvertible signals.reusable_prefix_tokens (by norm_num : (0 : ℤ) ≤ 128))
  unfold samples
  rw [hconfident]
  dsimp only
  unfold candidate_tokens
  rw [SetOrder.mem_order]
  refine List.mem_map.mpr ⟨128, List.mem_filter.mpr ⟨?_, ?_⟩, by omega⟩
  · rw [SetOrder.mem_order]
    exact List.mem_cons_self
  · rw [decide_eq_true_eq]
    omega

/-- The oracle's own cut is the one ahead of all, so a cut is kept exactly if the
oracle weighs something no higher. -/
theorem kept_iff (hsignals : NonNegative signals) (hlt : (signals.reusable_prefix_tokens : ℚ) < overflow)
    {tokens : ℤ} (hreusable : 0 < signals.reusable_prefix_tokens) :
    Kept setOrder signals tokens ↔
      time signals .recompute 0 256 ≤ time signals .partial_reuse tokens 256 ∨
        (0 < signals.reusable_prefix_tokens ∧
          time signals .full_reuse signals.reusable_prefix_tokens 256 ≤ time signals .partial_reuse tokens 256) ∨
        ∃ cut, Cut setOrder signals 128 cut ∧
          time signals .partial_reuse cut 256 ≤ time signals .partial_reuse tokens 256 := by
  unfold Kept
  rw [and_iff_right hreusable]
  refine or_congr_right (or_congr_right ?_)
  constructor
  · rintro ⟨sample, hsample, hcost, hahead⟩
    obtain ⟨chosen, hoptimize, hcut⟩ := oracle_cut_returns setOrder hsignals hlt
    obtain ⟨hnone, _⟩ | ⟨_, hchosen⟩ := optimize_partial_reuse_tokens_cut hsignals.timed hlt
      (floorConvertible _ (by norm_num)) (by norm_num) hoptimize
    · rw [hnone] at hsample
      cases hsample
    · refine ⟨chosen, hchosen, ?_⟩
      by_contra habove
      have hsample_ahead := hahead chosen hchosen.1 (not_le.mp habove)
      obtain rfl | hne := eq_or_ne sample chosen
      · exact hsample_ahead.asymm hsample_ahead
      · exact hsample_ahead.asymm (hchosen.2 sample hsample hne)
  · rintro ⟨cut, hcut, hcost⟩
    refine ⟨cut, hcut.1, hcost, ?_⟩
    intro other hother habove
    refine hcut.2 other hother ?_
    rintro rfl
    exact absurd hcost (not_le.mpr habove)

theorem convertible_of_lowerBound (hsignals : NonNegative signals) (hbound : LowerBound setOrder signals) :
    Convertible signals := by
  obtain ⟨oracle, horacle, hbelow⟩ := hbound
  have hlt : (signals.reusable_prefix_tokens : ℚ) < overflow := by
    obtain hreusable | hempty := hsignals.reusable_prefix_tokens.lt_or_eq
    · obtain ⟨full, hfull, _⟩ := hbelow _ _ (policy_evaluations_full_reuse setOrder hreusable)
      exact tokens_convert hreusable (evaluate_ttft_ms hfull)
    · rw [← hempty, Int.cast_zero]
      exact lt_overflow (by norm_num)
  refine ⟨hlt, ?_⟩
  intro hlong
  obtain ⟨tokens, hoptimize, hcut⟩ := oracle_cut_returns setOrder hsignals hlt
  obtain ⟨candidates, hcandidates, hmem⟩ := oracle_candidates_mem setOrder hsignals hlt
  obtain ⟨hnone, _⟩ | ⟨_, hchosen⟩ := optimize_partial_reuse_tokens_cut hsignals.timed hlt
    (floorConvertible _ (by norm_num)) (by norm_num) hoptimize
  · have hfloor := floor_mem_samples setOrder hlt hlong
    rw [hnone] at hfloor
    cases hfloor
  · -- The oracle has evaluated every candidate to compare it.
    obtain ⟨best, hdecide, _⟩ := bind_eq_ok_iff.mp horacle
    obtain ⟨weighed, hweighed, hdecide⟩ := bind_eq_ok_iff.mp hdecide
    obtain ⟨first, _, hdecide⟩ := bind_eq_ok_iff.mp hdecide
    obtain ⟨rest, hrest, _⟩ := bind_eq_ok_iff.mp hdecide
    have hfloor : (study_policy (F := Binary64)).partial_reuse_floor_tokens = 128 := rfl
    rw [hfloor, hcandidates, Except.ok.injEq] at hweighed
    subst hweighed
    obtain ⟨item, _, hitem⟩ := exists_right_of_mem (forall₂_of_mapM_ok hrest)
      ((hmem .partial_reuse tokens).mpr (.inr ⟨rfl, hchosen⟩))
    obtain ⟨evaluation, hevaluate, _⟩ := bind_eq_ok_iff.mp hitem
    exact bytes_convert hsignals.remote_kv_bytes hevaluate

/-- Only an infinite time makes a modelled time NaN. -/
theorem isNumber_of_finite (hsignals : NonNegative signals) (hfinite : FiniteTimes signals)
    (hreusable : 0 < signals.reusable_prefix_tokens) (hlt : (signals.reusable_prefix_tokens : ℚ) < overflow)
    (decision : MaterializationDecision) (tokens : ℤ) : IsNumber signals decision tokens := by
  have hfloor : FloorConvertible signals.reusable_prefix_tokens 256 := floorConvertible _ (by norm_num)
  obtain ⟨cost, hcost⟩ := estimate_materialization_ttft_ms_returns signals hreusable hlt hfloor decision tokens
  exact ⟨cost, hcost, (estimate_materialization_ttft_ms_nonNegative hsignals.timed hreusable hlt hfloor hfinite
    hcost).ne_nan⟩

/-- The floor enters a modelled time by the confident frontier only. -/
theorem time_eq_of_frontier
    (hfrontier : estimate_confident_reuse_tokens signals 128 = estimate_confident_reuse_tokens signals 256)
    (decision : MaterializationDecision) (tokens : ℤ) :
    time signals decision tokens 128 = time signals decision tokens 256 := by
  unfold time estimate_materialization_ttft_ms reuse_ttft_ms
  rw [hfrontier]

/-- With one frontier for both floors, every cut sampled at the oracle's is kept. -/
theorem kept_of_frontier (hsignals : NonNegative signals) (hlt : (signals.reusable_prefix_tokens : ℚ) < overflow)
    (hfrontier : estimate_confident_reuse_tokens signals 128 = estimate_confident_reuse_tokens signals 256)
    {tokens : ℤ} (hsampled : tokens ∈ samples setOrder signals 128) : Kept setOrder signals tokens := by
  have hbounds := samples_bounds hsampled
  rw [kept_iff hsignals hlt (by omega)]
  obtain ⟨chosen, hoptimize, _⟩ := oracle_cut_returns setOrder hsignals hlt
  obtain ⟨hnone, _⟩ | ⟨_, hchosen⟩ := optimize_partial_reuse_tokens_cut hsignals.timed hlt
    (floorConvertible _ (by norm_num)) (by norm_num) hoptimize
  · rw [hnone] at hsampled
    cases hsampled
  · refine .inr (.inr ⟨chosen, hchosen, ?_⟩)
    have hle := hchosen.key_le hsampled
    rwa [time_eq_of_frontier hfrontier, time_eq_of_frontier hfrontier] at hle

end Bound

/-- The oracle is a lower bound exactly if the counts convert, no time it is compared
with is NaN, and every cut another policy takes is kept. -/
theorem lowerBound_iff (setOrder : SetOrder) {signals : MaterializationSignals Binary64}
    (hsignals : NonNegative signals) :
    LowerBound setOrder signals ↔
      Convertible signals ∧
        (0 < signals.reusable_prefix_tokens → IsNumber signals .full_reuse signals.reusable_prefix_tokens) ∧
        ∀ tokens, Rival setOrder signals tokens →
          IsNumber signals .partial_reuse tokens ∧ Kept setOrder signals tokens := by
  have hscored : ∀ {decision tokens other}, evaluate signals decision tokens = .ok other → other.ttft_ms ≠ nan →
      IsNumber signals decision tokens :=
    fun hother hnumber => ⟨_, evaluate_ttft_ms hother, hnumber⟩
  constructor
  · intro hbound
    have hconvertible := convertible_of_lowerBound hsignals hbound
    obtain ⟨oracle, horacle, hbelow⟩ := hbound
    obtain ⟨oracle', horacle', hnumber, hleast⟩ := oracle_evaluation_spec setOrder hsignals hconvertible
    rw [horacle, Except.ok.injEq] at horacle'
    subst horacle'
    refine ⟨hconvertible, ?_, ?_⟩
    · intro hreusable
      obtain ⟨full, hfull, hle⟩ := hbelow _ _ (policy_evaluations_full_reuse setOrder hreusable)
      exact hscored hfull ((pyLe_iff_rank hnumber _).mp hle).1
    · intro tokens hrival
      have hreusable : 0 < signals.reusable_prefix_tokens := by
        have hbounds := hrival.bounds
        omega
      obtain ⟨name, hmem⟩ := policy_evaluations_rival setOrder hsignals hconvertible.reusable_prefix_tokens hrival
      obtain ⟨other, hother, hle⟩ := hbelow name _ hmem
      obtain ⟨hnumber', hle⟩ := (pyLe_iff_rank hnumber _).mp hle
      refine ⟨hscored hother hnumber', ?_⟩
      rw [kept_iff hsignals hconvertible.reusable_prefix_tokens hreusable, ← hleast]
      rwa [time_eq (evaluate_ttft_ms hother)]
  · rintro ⟨hconvertible, hfull, hrivals⟩
    obtain ⟨oracle, horacle, hnumber, hleast⟩ := oracle_evaluation_spec setOrder hsignals hconvertible
    refine ⟨oracle, horacle, ?_⟩
    intro name evaluated hmem
    obtain ⟨decision, tokens, rfl, htaken⟩ :=
      policy_evaluations_taken setOrder hsignals hconvertible.reusable_prefix_tokens hmem
    have hscore : IsNumber signals decision tokens ∧ rank oracle.ttft_ms ≤ time signals decision tokens 256 := by
      cases htaken with
      | recompute =>
        exact ⟨⟨_, estimate_recompute signals 0 256, (hsignals.timed.recompute_time_ms.roundTo 3).ne_nan⟩,
          (hleast _).mpr (.inl le_rfl)⟩
      | full_reuse hreusable => exact ⟨hfull hreusable, (hleast _).mpr (.inr (.inl ⟨hreusable, le_rfl⟩))⟩
      | partial_reuse hrival =>
        have hbounds := hrival.bounds
        obtain ⟨hscored', hkept⟩ := hrivals tokens hrival
        exact ⟨hscored', (hleast _).mpr
          ((kept_iff hsignals hconvertible.reusable_prefix_tokens (by omega)).mp hkept)⟩
    have hcut : decision = .partial_reuse → 128 ≤ tokens ∧ tokens < signals.reusable_prefix_tokens := by
      rintro rfl
      cases htaken with
      | partial_reuse hrival => exact hrival.bounds
    obtain ⟨other, hother⟩ := evaluate_returns hsignals hconvertible hcut
    obtain ⟨⟨cost, hcost, hcost_number⟩, hle⟩ := hscore
    refine ⟨other, hother, ?_⟩
    rw [evaluate_ttft_ms hother, Except.ok.injEq] at hcost
    subst hcost
    rw [time_eq (evaluate_ttft_ms hother)] at hle
    exact (pyLe_iff_rank hnumber _).mpr ⟨hcost_number, hle⟩

theorem lowerBound_of_frontier (setOrder : SetOrder) {signals : MaterializationSignals Binary64}
    (hsignals : NonNegative signals) (hfinite : FiniteTimes signals) (hconvertible : Convertible signals)
    (hshort : signals.reusable_prefix_tokens < 512)
    (hfrontier : estimate_confident_reuse_tokens signals 128 = estimate_confident_reuse_tokens signals 256) :
    LowerBound setOrder signals := by
  have hlt := hconvertible.reusable_prefix_tokens
  refine (lowerBound_iff setOrder hsignals).mpr ⟨hconvertible, ?_, ?_⟩
  · exact fun hreusable => isNumber_of_finite hsignals hfinite hreusable hlt _ _
  · intro tokens hrival
    have hbounds := hrival.bounds
    refine ⟨isNumber_of_finite hsignals hfinite (by omega) hlt _ _, ?_⟩
    obtain ⟨hlong, _⟩ | hsampled := hrival.sampled
    · omega
    · exact kept_of_frontier hsignals hlt hfrontier hsampled

/-- A prefix that is transferred in half the time it takes to recompute it. -/
def half_price (reusable_prefix_tokens : ℤ) (reuse_confidence : ℚ) : MaterializationSignals Binary64 where
  reusable_prefix_tokens := reusable_prefix_tokens
  remote_kv_bytes := 0
  transfer_time_ms := lit 50
  recompute_time_ms := lit 100
  queue_pressure := lit 0
  ttft_sensitive := true
  reuse_confidence := lit reuse_confidence

end run_offline_study
