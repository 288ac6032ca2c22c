import KvMaterialization.LiveControl.Control
import KvMaterialization.LiveControl.Estimates
import KvMaterialization.LiveControl.Overflow
import KvMaterialization.Policy.Outcome

open python
open vllm_kv_materialization.policy

namespace vllm_kv_materialization.live_control

/-- How the fields of a plan hang together, for a request whose policy outcome
reuses `reused_tokens` of `reusable_prefix_tokens`. -/
structure Consistent (block_size prompt_tokens reusable_prefix_tokens reused_tokens : ℤ)
    (request_salt : String) (plan : RuntimeControlPlan) : Prop where
  total : plan.target_reuse_tokens + plan.target_tail_tokens = max prompt_tokens 0
  reuse_nonneg : 0 ≤ plan.target_reuse_tokens
  reuse_le_prefix : plan.target_reuse_tokens ≤ reusable_prefix_tokens
  prefix_le_prompt : reusable_prefix_tokens ≤ max prompt_tokens 0
  recompute : plan.effective_decision = .recompute →
    plan.target_reuse_tokens = 0 ∧ plan.cache_salt = some request_salt
  full_reuse : plan.effective_decision = .full_reuse →
    plan.target_reuse_tokens = reusable_prefix_tokens
  partial_reuse : plan.effective_decision = .partial_reuse →
    0 < plan.target_reuse_tokens ∧ plan.target_reuse_tokens < reusable_prefix_tokens ∧
      0 < block_size ∧ block_size ∣ plan.target_reuse_tokens ∧
      plan.target_reuse_tokens ≤ reused_tokens
  tail_salt : plan.segmented_tail_cache_salt =
    if plan.effective_decision = .partial_reuse then some request_salt else none
  supported_iff : plan.decision_supported = true ↔ plan.effective_decision = plan.observed_decision
  native_iff : plan.decision_supported = true ↔ plan.support_tier = .native
  no_fallback_iff : plan.fallback_reason = none ↔
    plan.effective_decision = plan.observed_decision ∧ plan.target_reuse_tokens = reused_tokens

/-- Alignment rounds down to a multiple of a positive block size. -/
theorem align_runtime_reuse_tokens_eq {reuse_tokens block_size : ℤ} (hreuse : 0 ≤ reuse_tokens)
    (hblock : 0 < block_size) :
    align_runtime_reuse_tokens reuse_tokens block_size = reuse_tokens / block_size * block_size := by
  unfold align_runtime_reuse_tokens
  rw [max_eq_left hreuse]
  split
  · have hone : block_size = 1 := by omega
    rw [hone, Int.ediv_one, mul_one]
  · rfl

theorem align_runtime_reuse_tokens_bounds {reuse_tokens : ℤ} (hreuse : 0 ≤ reuse_tokens)
    (block_size : ℤ) :
    0 ≤ align_runtime_reuse_tokens reuse_tokens block_size ∧
      align_runtime_reuse_tokens reuse_tokens block_size ≤ reuse_tokens := by
  by_cases hblock : 0 < block_size
  · rw [align_runtime_reuse_tokens_eq hreuse hblock]
    exact ⟨mul_nonneg (Int.ediv_nonneg hreuse hblock.le) hblock.le,
      Int.ediv_mul_le _ hblock.ne'⟩
  · have hunaligned : align_runtime_reuse_tokens reuse_tokens block_size = reuse_tokens := by
      unfold align_runtime_reuse_tokens
      rw [if_pos (by omega), max_eq_left hreuse]
    rw [hunaligned]
    exact ⟨hreuse, le_rfl⟩

section

variable {F : Type} [PyFloat F] {py : Interpreter F} {env : Environment}
  {signals : MaterializationSignals F} {policy : MaterializationPolicy F}

/-- The ranking offers a partial reuse only strictly inside the prefix. -/
theorem pick_realizable_runtime_action_partial_reuse {partial_reuse_tokens : ℤ}
    (hpick : pick_realizable_runtime_action signals policy partial_reuse_tokens = .ok .partial_reuse) :
    0 < partial_reuse_tokens ∧ partial_reuse_tokens < signals.reusable_prefix_tokens := by
  by_contra hoffered
  unfold pick_realizable_runtime_action at hpick
  dsimp only at hpick
  rw [bind_eq_ok_iff] at hpick
  obtain ⟨recompute_cost, _, hpick⟩ := hpick
  rw [bind_eq_ok_iff] at hpick
  obtain ⟨full_reuse_cost, _, hpick⟩ := hpick
  rw [if_neg hoffered, pure_eq_ok_iff] at hpick
  have hmem := minItem_mem (recompute_cost, MaterializationDecision.recompute)
    [(full_reuse_cost, .full_reuse)]
  have hnot : ∀ item ∈ [(recompute_cost, MaterializationDecision.recompute),
      (full_reuse_cost, .full_reuse)], item.2 ≠ .partial_reuse := by simp
  exact hnot _ hmem hpick

theorem realizable_action_partial_reuse {aligned_reuse_tokens : ℤ}
    (haction : realizable_action py env signals policy aligned_reuse_tokens = .ok .partial_reuse) :
    0 < get_runtime_hash_block_size py env ∧ 0 < aligned_reuse_tokens ∧
      aligned_reuse_tokens < signals.reusable_prefix_tokens := by
  unfold realizable_action at haction
  split at haction
  · cases haction
  split at haction
  · rename_i hblock
    exact ⟨hblock, pick_realizable_runtime_action_partial_reuse haction⟩
  · cases haction

/-- The plan of an outcome that is realized as it is. -/
theorem fixed_plan_consistent {decision : MaterializationDecision} {control_path : ControlPath}
    {cache_salt : Option String} {block_size prompt_tokens reusable_prefix_tokens reused_tokens : ℤ}
    {request_salt : String} (hnonneg : 0 ≤ reused_tokens) (hreused : reused_tokens ≤ reusable_prefix_tokens)
    (hprompt : reusable_prefix_tokens ≤ max prompt_tokens 0) (hwhole : decision ≠ .partial_reuse)
    (hrecompute : decision = .recompute → reused_tokens = 0 ∧ cache_salt = some request_salt)
    (hfull : decision = .full_reuse → reused_tokens = reusable_prefix_tokens) :
    Consistent block_size prompt_tokens reusable_prefix_tokens reused_tokens request_salt
      (fixed_plan decision control_path cache_salt reused_tokens
        (max (max prompt_tokens 0 - reused_tokens) 0)) where
  total := by
    simp only [fixed_plan]
    omega
  reuse_nonneg := hnonneg
  reuse_le_prefix := hreused
  prefix_le_prompt := hprompt
  recompute := hrecompute
  full_reuse := hfull
  partial_reuse := fun hpartialReuse => absurd hpartialReuse hwhole
  tail_salt := (if_neg hwhole).symm
  supported_iff := ⟨fun _ => rfl, fun _ => rfl⟩
  native_iff := ⟨fun _ => rfl, fun _ => rfl⟩
  no_fallback_iff := ⟨fun _ => ⟨rfl, rfl⟩, fun _ => rfl⟩

omit [PyFloat F] in
/-- The three plans of a partial reuse. Only the realizable action can make it a
partial reuse, and then the alignment has left a whole number of blocks. -/
theorem partial_plan_consistent {action : MaterializationDecision} {extras : SignalExtras}
    {request_id : String}
    {block_size prompt_tokens reusable_prefix_tokens reused_tokens aligned_reuse_tokens : ℤ}
    (hnonneg : 0 ≤ reusable_prefix_tokens) (hprompt : reusable_prefix_tokens ≤ max prompt_tokens 0)
    (haligned : aligned_reuse_tokens ≤ reused_tokens)
    (hpartialReuse : action = .partial_reuse → 0 < aligned_reuse_tokens ∧
      aligned_reuse_tokens < reusable_prefix_tokens ∧ 0 < block_size ∧
      block_size ∣ aligned_reuse_tokens) :
    Consistent block_size prompt_tokens reusable_prefix_tokens reused_tokens
      (make_request_scoped_salt extras.primary_anchor_id extras.workload_case request_id)
      (partial_plan py env action extras request_id prompt_tokens reusable_prefix_tokens
        reused_tokens aligned_reuse_tokens) := by
  cases action with
  | partial_reuse =>
    obtain ⟨hpos, hlt, hblock, hdvd⟩ := hpartialReuse rfl
    unfold partial_plan
    rw [if_pos ⟨rfl, hpos⟩]
    exact {
      total := by
        dsimp only
        omega
      reuse_nonneg := hpos.le
      reuse_le_prefix := hlt.le
      prefix_le_prompt := hprompt
      recompute := by simp
      full_reuse := by simp
      partial_reuse := fun _ => ⟨hpos, hlt, hblock, hdvd, haligned⟩
      tail_salt := rfl
      supported_iff := by simp
      native_iff := by simp
      no_fallback_iff := by simp }
  | recompute =>
    exact {
      total := zero_add _
      reuse_nonneg := le_rfl
      reuse_le_prefix := hnonneg
      prefix_le_prompt := hprompt
      recompute := fun _ => ⟨rfl, rfl⟩
      full_reuse := by simp [partial_plan]
      partial_reuse := by simp [partial_plan]
      tail_salt := rfl
      supported_iff := by simp [partial_plan]
      native_iff := by simp [partial_plan]
      no_fallback_iff := by simp [partial_plan] }
  | full_reuse =>
    have htarget : max reusable_prefix_tokens 0 = reusable_prefix_tokens := max_eq_left hnonneg
    exact {
      total := by
        simp only [partial_plan, reduceCtorEq, false_and, if_false]
        omega
      reuse_nonneg := le_max_right _ _
      reuse_le_prefix := htarget.le
      prefix_le_prompt := hprompt
      recompute := by simp [partial_plan]
      full_reuse := fun _ => htarget
      partial_reuse := by simp [partial_plan]
      tail_salt := rfl
      supported_iff := by simp [partial_plan]
      native_iff := by simp [partial_plan]
      no_fallback_iff := by simp [partial_plan] }

omit [PyFloat F] in
/-- The observed decision of a partial plan is the partial reuse it stands for. -/
theorem partial_plan_observed (action : MaterializationDecision) (extras : SignalExtras)
    (request_id : String)
    (prompt_tokens reusable_prefix_tokens target_reuse_tokens aligned_reuse_tokens : ℤ) :
    (partial_plan py env action extras request_id prompt_tokens reusable_prefix_tokens
      target_reuse_tokens aligned_reuse_tokens).observed_decision = .partial_reuse := by
  unfold partial_plan
  split
  · rfl
  split
  · rfl
  · rfl

/-- The target and the alignment of a cut inside the prefix, past the caps that
never bind there. -/
theorem aligned_cut_eq (block_size : ℤ) {reused_tokens reusable_prefix_tokens prompt_tokens : ℤ}
    (hpos : 0 < reused_tokens) (hlt : reused_tokens < reusable_prefix_tokens)
    (hprompt : reusable_prefix_tokens ≤ max prompt_tokens 0) :
    max (min reused_tokens (max prompt_tokens 0)) 0 = reused_tokens ∧
      min (min (align_runtime_reuse_tokens reused_tokens block_size) (max reusable_prefix_tokens 0))
        (max prompt_tokens 0) = align_runtime_reuse_tokens reused_tokens block_size := by
  obtain ⟨_, hle⟩ := align_runtime_reuse_tokens_bounds hpos.le block_size
  constructor
  · omega
  · omega

/-- An outcome that reuses within a prefix within the prompt is planned consistently,
whichever of the five plans it gets. -/
theorem runtime_plan_consistent {extras : SignalExtras} {outcome : MaterializationOutcome}
    {request_id : String} {prompt_tokens : ℤ} {plan : RuntimeControlPlan}
    (houtcome : ReusesWithin signals.reusable_prefix_tokens outcome)
    (hnonneg : 0 ≤ signals.reusable_prefix_tokens)
    (hprompt : signals.reusable_prefix_tokens ≤ max prompt_tokens 0)
    (hplan : runtime_plan py env signals extras policy outcome request_id prompt_tokens = .ok plan) :
    plan.observed_decision = outcome.decision ∧
      Consistent (get_runtime_hash_block_size py env) prompt_tokens signals.reusable_prefix_tokens
        outcome.reused_tokens
        (make_request_scoped_salt extras.primary_anchor_id extras.workload_case request_id) plan := by
  unfold runtime_plan at hplan
  cases houtcome with
  | recompute rationale =>
    have htarget : max (min 0 (max prompt_tokens 0)) 0 = 0 := by omega
    dsimp only at hplan
    rw [htarget, pure_eq_ok_iff] at hplan
    subst hplan
    exact ⟨rfl, fixed_plan_consistent le_rfl hnonneg hprompt (by simp) (fun _ => ⟨rfl, rfl⟩) (by simp)⟩
  | full_reuse rationale =>
    have htarget : max (min signals.reusable_prefix_tokens (max prompt_tokens 0)) 0 =
        signals.reusable_prefix_tokens := by omega
    dsimp only at hplan
    rw [htarget, pure_eq_ok_iff] at hplan
    subst hplan
    exact ⟨rfl, fixed_plan_consistent hnonneg le_rfl hprompt (by simp) (by simp) (fun _ => rfl)⟩
  | partial_reuse rationale hpos hlt =>
    rename_i reused_tokens
    obtain ⟨htarget, hcapped⟩ := aligned_cut_eq (get_runtime_hash_block_size py env)
      hpos hlt hprompt
    obtain ⟨_, haligned⟩ :=
      align_runtime_reuse_tokens_bounds hpos.le (get_runtime_hash_block_size py env)
    dsimp only at hplan
    rw [htarget, hcapped, bind_eq_ok_iff] at hplan
    obtain ⟨action, haction, hplan⟩ := hplan
    rw [pure_eq_ok_iff] at hplan
    subst hplan
    refine ⟨partial_plan_observed .., partial_plan_consistent hnonneg hprompt haligned ?_⟩
    intro hpartialReuse
    rw [hpartialReuse] at haction
    obtain ⟨hblock, haligned_pos, haligned_lt⟩ := realizable_action_partial_reuse haction
    refine ⟨haligned_pos, haligned_lt, hblock, ?_⟩
    rw [align_runtime_reuse_tokens_eq hpos.le hblock]
    exact Dvd.intro_left _ rfl

/-- Each mode selects an outcome within the prefix. -/
theorem select_policy_outcome_reusesWithin {mode : String} {outcome : MaterializationOutcome}
    (hnonneg : 0 ≤ signals.reusable_prefix_tokens)
    (hselect : select_policy_outcome py env signals policy = .ok (mode, outcome)) :
    ReusesWithin signals.reusable_prefix_tokens outcome := by
  obtain ⟨_, hdecide⟩ | rfl | rfl := select_policy_outcome_cases hselect
  · exact MaterializationPolicy.decide_reusesWithin hdecide
  · exact .recompute _
  · rw [max_eq_left hnonneg]
    exact .full_reuse _

end

end vllm_kv_materialization.live_control
