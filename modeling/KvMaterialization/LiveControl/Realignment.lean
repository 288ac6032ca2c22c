import KvMaterialization.LiveControl.Consistency

open python
open vllm_kv_materialization.policy

namespace vllm_kv_materialization.live_control

/-- An action is the first least of recompute, full reuse, and a partial reuse of
`tokens` where that is positive, at the costs the policy ranks. -/
structure FirstMinimum (policy : MaterializationPolicy ℚ) (signals : MaterializationSignals ℚ)
    (tokens : ℤ) (action : MaterializationDecision) : Prop where
  recompute_iff : action = .recompute ↔
    policy.recomputeCost signals ≤ policy.fullReuseCost signals ∧
      (0 < tokens → policy.recomputeCost signals ≤ policy.partialReuseCost signals tokens)
  full_reuse_iff : action = .full_reuse ↔
    policy.fullReuseCost signals < policy.recomputeCost signals ∧
      (0 < tokens → policy.fullReuseCost signals ≤ policy.partialReuseCost signals tokens)
  partial_reuse_iff : action = .partial_reuse ↔
    0 < tokens ∧ policy.partialReuseCost signals tokens < policy.recomputeCost signals ∧
      policy.partialReuseCost signals tokens < policy.fullReuseCost signals

/-- What the plan of a partial reuse at `cut` owes to the decision behind it: which
action it realizes, and how many tokens of the prompt that action reuses. -/
structure Realigned (policy : MaterializationPolicy ℚ) (signals : MaterializationSignals ℚ)
    (block_size cut prompt_tokens : ℤ) (plan : RuntimeControlPlan) : Prop where
  observed : plan.observed_decision = .partial_reuse
  first_minimum : FirstMinimum policy signals (cut / block_size * block_size) plan.effective_decision
  partial_reuse : plan.effective_decision = .partial_reuse →
    plan.target_reuse_tokens = cut / block_size * block_size
  recompute : plan.effective_decision = .recompute → plan.target_reuse_tokens = 0
  full_reuse : plan.effective_decision = .full_reuse →
    plan.target_reuse_tokens = signals.reusable_prefix_tokens
  total : plan.target_reuse_tokens + plan.target_tail_tokens = max prompt_tokens 0
  supported_iff : plan.decision_supported = true ↔ plan.effective_decision = .partial_reuse
  no_fallback_iff : plan.fallback_reason = none ↔
    plan.effective_decision = .partial_reuse ∧ plan.target_reuse_tokens = cut
  of_dvd : block_size ∣ cut →
    plan.effective_decision = .partial_reuse ∧ plan.target_reuse_tokens = cut ∧
      plan.decision_supported = true ∧ plan.fallback_reason = none

section

variable {policy : MaterializationPolicy ℚ} {signals : MaterializationSignals ℚ}

/-- The ranking of the live path, in the costs of the policy: both adjust the
signals the same way, so only the cut can differ. -/
theorem pick_realizable_runtime_action_eq (partial_reuse_tokens : ℤ) :
    pick_realizable_runtime_action signals policy partial_reuse_tokens =
      .ok (if 0 < partial_reuse_tokens ∧ partial_reuse_tokens < signals.reusable_prefix_tokens then
        (minItem (policy.recomputeCost signals, MaterializationDecision.recompute)
          [(policy.fullReuseCost signals, .full_reuse),
            (policy.partialReuseCost signals partial_reuse_tokens, .partial_reuse)]).2
      else
        (minItem (policy.recomputeCost signals, MaterializationDecision.recompute)
          [(policy.fullReuseCost signals, .full_reuse)]).2) := by
  unfold pick_realizable_runtime_action
  rw [adjust_signals_for_runtime_eq]
  simp only [estimate_materialization_ttft_ms_exact, bind, Except.bind]
  split
  · rfl
  · rfl

theorem pick_realizable_runtime_action_first_minimum {partial_reuse_tokens : ℤ}
    {action : MaterializationDecision}
    (hlt : partial_reuse_tokens < signals.reusable_prefix_tokens)
    (hpick : pick_realizable_runtime_action signals policy partial_reuse_tokens = .ok action) :
    FirstMinimum policy signals partial_reuse_tokens action := by
  rw [pick_realizable_runtime_action_eq, Except.ok.injEq] at hpick
  subst hpick
  by_cases hpos : 0 < partial_reuse_tokens
  · rw [if_pos ⟨hpos, hlt⟩, minItem_cons, minItem_cons]
    simp only [minItem, List.foldl_nil, lt_exact, decide_eq_true_eq]
    by_cases hfull : policy.fullReuseCost signals < policy.recomputeCost signals
    · simp only [if_pos hfull]
      by_cases hpartialReuse : policy.partialReuseCost signals partial_reuse_tokens <
          policy.fullReuseCost signals
      · simp only [if_pos hpartialReuse]
        exact ⟨by simp [hfull], by simp [hpos, hpartialReuse], by simp [hpos, hpartialReuse, hpartialReuse.trans hfull]⟩
      · simp only [if_neg hpartialReuse]
        exact ⟨by simp [hfull], by simp [hfull, not_lt.mp hpartialReuse], by simp [not_lt.mp hpartialReuse]⟩
    · simp only [if_neg hfull]
      by_cases hpartialReuse : policy.partialReuseCost signals partial_reuse_tokens <
          policy.recomputeCost signals
      · simp only [if_pos hpartialReuse]
        exact ⟨by simp [hpos, hpartialReuse], by simp [not_lt.mp hfull],
          by simp [hpos, hpartialReuse, hpartialReuse.trans_le (not_lt.mp hfull)]⟩
      · simp only [if_neg hpartialReuse]
        exact ⟨by simp [not_lt.mp hfull, not_lt.mp hpartialReuse], by simp [not_lt.mp hfull],
          by simp [not_lt.mp hpartialReuse]⟩
  · have hskipped : ¬ (0 < partial_reuse_tokens ∧
        partial_reuse_tokens < signals.reusable_prefix_tokens) := fun h => hpos h.1
    rw [if_neg hskipped, minItem_cons]
    simp only [minItem, List.foldl_nil, lt_exact, decide_eq_true_eq]
    by_cases hfull : policy.fullReuseCost signals < policy.recomputeCost signals
    · simp only [if_pos hfull]
      exact ⟨by simp [hfull], by simp [hfull, hpos], by simp [hpos]⟩
    · simp only [if_neg hfull]
      exact ⟨by simp [not_lt.mp hfull, hpos], by simp [not_lt.mp hfull], by simp [hpos]⟩

/-- A decision for a partial reuse says that its cut is inside the prefix and
strictly cheaper than both other actions. -/
theorem partial_decision_spec {setOrder : SetOrder} {cut : ℤ} {rationale : Rationale}
    (hdecide : policy.decide setOrder signals = .ok ⟨.partial_reuse, cut, rationale⟩) :
    0 < cut ∧ cut < signals.reusable_prefix_tokens ∧
      policy.partialReuseCost signals cut < policy.recomputeCost signals ∧
      policy.partialReuseCost signals cut < policy.fullReuseCost signals := by
  have hwithin := MaterializationPolicy.decide_reusesWithin hdecide
  cases hwithin with
  | partial_reuse _ hpos hlt =>
    obtain ⟨outcome, hdecided, hchosen⟩ := policy.decide_chosen setOrder signals (hpos.trans hlt)
    rw [hdecide, Except.ok.injEq] at hdecided
    subst hdecided
    cases hchosen with
    | partial_reuse _ _ hrecompute hfull => exact ⟨hpos, hlt, hrecompute, hfull⟩

variable {py : Interpreter ℚ} {env : Environment}

/-- The plan of a realizable action realizes it, and a partial reuse at the aligned cut. -/
theorem partial_plan_effective {action : MaterializationDecision} {extras : SignalExtras}
    {request_id : String} {prompt_tokens reusable_prefix_tokens target_reuse_tokens
      aligned_reuse_tokens : ℤ} (haligned : action = .partial_reuse → 0 < aligned_reuse_tokens) :
    (partial_plan py env action extras request_id prompt_tokens reusable_prefix_tokens
        target_reuse_tokens aligned_reuse_tokens).effective_decision = action ∧
      (action = .partial_reuse →
        (partial_plan py env action extras request_id prompt_tokens reusable_prefix_tokens
          target_reuse_tokens aligned_reuse_tokens).target_reuse_tokens = aligned_reuse_tokens) := by
  cases action with
  | partial_reuse =>
    unfold partial_plan
    rw [if_pos ⟨rfl, haligned rfl⟩]
    exact ⟨rfl, fun _ => rfl⟩
  | recompute => exact ⟨rfl, by simp⟩
  | full_reuse => exact ⟨rfl, by simp⟩

/-- The plan of a partial decision realigns it, for any signals within the prompt. -/
theorem runtime_plan_realigned (hseam : runtime_seam py env ≠ "old")
    (hblock : 0 < get_runtime_hash_block_size py env) (extras : SignalExtras) (request_id : String)
    {cut : ℤ} {rationale : Rationale} {prompt_tokens : ℤ}
    (hprompt : signals.reusable_prefix_tokens ≤ max prompt_tokens 0)
    (hdecide : policy.decide py.setOrder signals = .ok ⟨.partial_reuse, cut, rationale⟩) :
    ∃ plan, runtime_plan py env signals extras policy ⟨.partial_reuse, cut, rationale⟩ request_id
        prompt_tokens = .ok plan ∧
      Realigned policy signals (get_runtime_hash_block_size py env) cut prompt_tokens plan := by
  obtain ⟨hpos, hlt, hrecompute, hfull⟩ := partial_decision_spec hdecide
  obtain ⟨htarget, hcapped⟩ := aligned_cut_eq (get_runtime_hash_block_size py env)
    hpos hlt hprompt
  obtain ⟨_, haligned⟩ :=
    align_runtime_reuse_tokens_bounds hpos.le (get_runtime_hash_block_size py env)
  have halign := align_runtime_reuse_tokens_eq hpos.le hblock
  obtain ⟨action, hpick⟩ := pick_realizable_runtime_action_exact signals policy
    (cut / get_runtime_hash_block_size py env * get_runtime_hash_block_size py env)
  have hfirst := pick_realizable_runtime_action_first_minimum (by omega) hpick
  have haction : realizable_action py env signals policy
      (cut / get_runtime_hash_block_size py env * get_runtime_hash_block_size py env) = .ok action := by
    unfold realizable_action
    rw [if_neg hseam, if_pos hblock, hpick]
  have hplan : runtime_plan py env signals extras policy ⟨.partial_reuse, cut, rationale⟩ request_id
      prompt_tokens = .ok (partial_plan py env action extras request_id prompt_tokens
        signals.reusable_prefix_tokens cut
        (cut / get_runtime_hash_block_size py env * get_runtime_hash_block_size py env)) := by
    unfold runtime_plan
    dsimp only
    rw [htarget, hcapped, halign, haction]
    rfl
  obtain ⟨heffective, htokens⟩ := @partial_plan_effective py env action extras request_id
    prompt_tokens signals.reusable_prefix_tokens cut _
    (fun hpartialReuse => (hfirst.partial_reuse_iff.mp hpartialReuse).1)
  obtain ⟨hobserved, hconsistent⟩ := runtime_plan_consistent
    (MaterializationPolicy.decide_reusesWithin hdecide) (by omega) hprompt hplan
  refine ⟨_, hplan, ?_⟩
  generalize partial_plan py env action extras request_id prompt_tokens
    signals.reusable_prefix_tokens cut
    (cut / get_runtime_hash_block_size py env * get_runtime_hash_block_size py env) = plan at *
  have hsupported : plan.decision_supported = true ↔ plan.effective_decision = .partial_reuse := by
    rw [hconsistent.supported_iff, hobserved]
  have hnone : plan.fallback_reason = none ↔
      plan.effective_decision = .partial_reuse ∧ plan.target_reuse_tokens = cut := by
    rw [hconsistent.no_fallback_iff, hobserved]
  exact {
    observed := hobserved
    first_minimum := heffective ▸ hfirst
    partial_reuse := fun hpartialReuse => htokens (heffective ▸ hpartialReuse)
    recompute := fun hrecomputed => (hconsistent.recompute hrecomputed).1
    full_reuse := hconsistent.full_reuse
    total := hconsistent.total
    supported_iff := hsupported
    no_fallback_iff := hnone
    of_dvd := by
      intro hdvd
      -- A cut of whole blocks is its own alignment, at the costs that made it the decision.
      rw [Int.ediv_mul_cancel hdvd] at hfirst htokens
      have hpartialReuse : action = .partial_reuse :=
        hfirst.partial_reuse_iff.mpr ⟨hpos, hrecompute, hfull⟩
      have hrealized := heffective.trans hpartialReuse
      exact ⟨hrealized, htokens hpartialReuse, hsupported.mpr hrealized,
        hnone.mpr ⟨hrealized, htokens hpartialReuse⟩⟩ }

/-- With blocks and without the old seam, a partial decision is realized as the
policy ranked it: at any signals within the prompt, and so for every request. -/
theorem partial_decision_realigned (py : Interpreter ℚ) (env : Environment)
    (hseam : runtime_seam py env ≠ "old") (hblock : 0 < get_runtime_hash_block_size py env) :
    (∀ (policy : MaterializationPolicy ℚ) (signals : MaterializationSignals ℚ) (extras : SignalExtras)
      (cut : ℤ) (rationale : Rationale) (request_id : String) (prompt_tokens : ℤ),
      signals.reusable_prefix_tokens ≤ max prompt_tokens 0 →
      policy.decide py.setOrder signals = .ok ⟨.partial_reuse, cut, rationale⟩ →
      ∃ plan, runtime_plan py env signals extras policy ⟨.partial_reuse, cut, rationale⟩ request_id
          prompt_tokens = .ok plan ∧
        Realigned policy signals (get_runtime_hash_block_size py env) cut prompt_tokens plan) ∧
    (∀ (session : Session) (headers : Headers) (request_id : String) (prompt_tokens output_tokens : ℤ)
      (signals : MaterializationSignals ℚ) (extras : SignalExtras) (cut : ℤ) (rationale : Rationale),
      policy_mode py env = "controller" →
      (estimate_signals py env session headers prompt_tokens output_tokens).1 = .ok (signals, extras) →
      (make_policy py env).decide py.setOrder signals = .ok ⟨.partial_reuse, cut, rationale⟩ →
      ∃ observation plan,
        (compute_runtime_control py env session headers request_id prompt_tokens output_tokens).1 =
          .ok (observation, plan) ∧
        observation.decision = .partial_reuse ∧ observation.reused_tokens = cut ∧
        Realigned (make_policy py env) signals (get_runtime_hash_block_size py env) cut prompt_tokens plan) := by
  constructor
  · intro policy signals extras cut rationale request_id prompt_tokens hprompt hdecide
    exact runtime_plan_realigned hseam hblock _ _ hprompt hdecide
  · intro session headers request_id prompt_tokens output_tokens signals extras cut rationale hmode
      hestimated hdecide
    obtain ⟨_, hprompt, _⟩ := estimate_signals_spec hestimated
    obtain ⟨plan, hplan, hrealigned⟩ := runtime_plan_realigned hseam hblock extras request_id
      hprompt hdecide
    have hselect : select_policy_outcome py env signals (make_policy py env) =
        .ok ("controller", ⟨.partial_reuse, cut, rationale⟩) := by
      unfold select_policy_outcome
      simp only [hmode, if_true, hdecide]
      rfl
    exact ⟨_, plan, compute_runtime_control_of_plan hestimated hselect hplan, rfl, rfl, hrealigned⟩

/-- A runtime of blocks of 128 tokens. -/
def blocks_of_128 : Environment := .ofList [("VLLM_KV_RUNTIME_BLOCK_SIZE", "128")]

/-- The headers of a request that states a prefix of its session with little confidence. -/
def doubtful_headers (shared_prefix_tokens : String) : Headers :=
  bind_request_headers asciiLower [("X-KV-Primary-Anchor-Id", "session"),
    ("X-KV-Shared-Prefix-Tokens", shared_prefix_tokens), ("X-KV-Reuse-Confidence", "0.3")]

/-- A cut of 640 tokens is five blocks of 128, and is planned as it was decided; one
of 666 tokens is brought down to them, and the rest of the prompt is its tail. -/
theorem partial_decision_realigned_blocks :
    (∃ observation plan,
      (compute_runtime_control Interpreter.ascii blocks_of_128 .init (doubtful_headers "960")
        "request-1" 1400 64).1 = .ok (observation, plan) ∧
      plan.effective_decision = .partial_reuse ∧ plan.target_reuse_tokens = 640 ∧
      plan.decision_supported = true ∧ plan.fallback_reason = none) ∧
    (∃ observation plan,
      (compute_runtime_control Interpreter.ascii blocks_of_128 .init (doubtful_headers "1000")
        "request-1" 1400 64).1 = .ok (observation, plan) ∧
      observation.reused_tokens = 666 ∧ plan.effective_decision = .partial_reuse ∧
      plan.target_reuse_tokens = 640 ∧ plan.target_tail_tokens = 760 ∧
      plan.fallback_reason ≠ none) := by
  have hblock : get_runtime_hash_block_size Interpreter.ascii blocks_of_128 = 128 := by decide +kernel
  have hseam : runtime_seam Interpreter.ascii blocks_of_128 ≠ "old" := by decide
  constructor
  · obtain ⟨⟨signals, extras⟩, hestimated⟩ := estimate_signals_exact Interpreter.ascii blocks_of_128 .init
      (doubtful_headers "960") 1400 64
    have hdecide : ((estimate_signals Interpreter.ascii blocks_of_128 .init
        (doubtful_headers "960") 1400 64).1 >>= fun estimated =>
          (make_policy Interpreter.ascii blocks_of_128).decide .insertion estimated.1) =
        .ok ⟨.partial_reuse, 640, .partial_reuse_balances_transfer_and_recompute⟩ := by decide +kernel
    rw [hestimated] at hdecide
    obtain ⟨observation, plan, hcontrol, _, _, hrealigned⟩ := (partial_decision_realigned
      Interpreter.ascii blocks_of_128 hseam (by rw [hblock]; decide)).2 .init _ "request-1" 1400 64
      signals extras 640 _ (by decide) hestimated hdecide
    exact ⟨observation, plan, hcontrol, hrealigned.of_dvd (by rw [hblock]; decide)⟩
  · obtain ⟨⟨signals, extras⟩, hestimated⟩ := estimate_signals_exact Interpreter.ascii blocks_of_128 .init
      (doubtful_headers "1000") 1400 64
    have hdecide : ((estimate_signals Interpreter.ascii blocks_of_128 .init
        (doubtful_headers "1000") 1400 64).1 >>= fun estimated =>
          (make_policy Interpreter.ascii blocks_of_128).decide .insertion estimated.1) =
        .ok ⟨.partial_reuse, 666, .partial_reuse_balances_transfer_and_recompute⟩ := by decide +kernel
    -- The aligned cut is still strictly cheaper than both other actions.
    have hcheaper : ((estimate_signals Interpreter.ascii blocks_of_128 .init
        (doubtful_headers "1000") 1400 64).1.map fun estimated =>
          let policy := make_policy Interpreter.ascii blocks_of_128
          decide (policy.partialReuseCost estimated.1 640 < policy.recomputeCost estimated.1 ∧
            policy.partialReuseCost estimated.1 640 < policy.fullReuseCost estimated.1)) =
        .ok true := by decide +kernel
    rw [hestimated] at hdecide hcheaper
    simp only [Except.map, Except.ok.injEq, decide_eq_true_eq] at hcheaper
    obtain ⟨observation, plan, hcontrol, _, hreused, hrealigned⟩ := (partial_decision_realigned
      Interpreter.ascii blocks_of_128 hseam (by rw [hblock]; decide)).2 .init _ "request-1" 1400 64
      signals extras 666 _ (by decide) hestimated hdecide
    rw [hblock] at hrealigned
    have heffective : plan.effective_decision = .partial_reuse :=
      hrealigned.first_minimum.partial_reuse_iff.mpr ⟨by decide, hcheaper⟩
    have htarget : plan.target_reuse_tokens = 640 := hrealigned.partial_reuse heffective
    have htotal : plan.target_reuse_tokens + plan.target_tail_tokens = 1400 := hrealigned.total
    refine ⟨observation, plan, hcontrol, hreused, heffective, htarget, by omega, ?_⟩
    intro hnone
    have hcut := (hrealigned.no_fallback_iff.mp hnone).2
    omega

end

end vllm_kv_materialization.live_control
