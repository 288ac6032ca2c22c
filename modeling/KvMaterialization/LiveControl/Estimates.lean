import KvMaterialization.LiveControl.Control

open python
open vllm_kv_materialization.policy

namespace vllm_kv_materialization.live_control

section

variable {F : Type} [PyFloat F] {py : Interpreter F} {env : Environment} {headers : Headers}

/-- Every one of the four estimates stays within the prompt. -/
theorem estimate_reusable_prefix_tokens_bounds
    {prompt_tokens previous_prompt_tokens previous_output_tokens reusable_prefix_tokens : ℤ}
    (hestimate : estimate_reusable_prefix_tokens py headers prompt_tokens previous_prompt_tokens
      previous_output_tokens = .ok reusable_prefix_tokens) :
    0 ≤ reusable_prefix_tokens ∧ reusable_prefix_tokens ≤ max prompt_tokens 0 := by
  unfold estimate_reusable_prefix_tokens at hestimate
  dsimp only at hestimate
  split at hestimate
  · rw [pure_eq_ok_iff] at hestimate
    omega
  split at hestimate
  · rw [pure_eq_ok_iff] at hestimate
    omega
  split at hestimate
  · rw [pure_eq_ok_iff] at hestimate
    omega
  rename_i hanchored
  have hprompt : 0 < prompt_tokens := by
    obtain ⟨_, hpositive⟩ := not_or.mp hanchored
    omega
  rw [bind_eq_ok_iff] at hestimate
  obtain ⟨prompt, hfloat, hestimate⟩ := hestimate
  -- Both remaining branches truncate a share of the prompt.
  have hshare : ∀ {c : ℚ} {share : ℤ}, 0 ≤ c → c ≤ 3 / 4 →
      PyFloat.trunc (prompt * lit c) = .ok share → share ≤ prompt_tokens :=
    fun hnonneg hle htrunc => PyFloat.trunc_scaled_le hprompt hnonneg hle hfloat htrunc
  split at hestimate
  · rw [bind_eq_ok_iff] at hestimate
    obtain ⟨share, htrunc, hestimate⟩ := hestimate
    have hle := hshare (by norm_num) (by norm_num) htrunc
    rw [pure_eq_ok_iff] at hestimate
    omega
  · rw [bind_eq_ok_iff] at hestimate
    obtain ⟨share, htrunc, hestimate⟩ := hestimate
    have hle := hshare (by norm_num) (by norm_num) htrunc
    rw [pure_eq_ok_iff] at hestimate
    omega

theorem request_signals_spec {read : SessionRead} {reusable_prefix_tokens : ℤ}
    {signals : MaterializationSignals F} {extras : SignalExtras}
    (hsignals : request_signals py env headers read reusable_prefix_tokens = .ok (signals, extras)) :
    signals.reusable_prefix_tokens = max reusable_prefix_tokens 0 ∧
      extras = request_extras py headers read := by
  unfold request_signals at hsignals
  rw [bind_eq_ok_iff] at hsignals
  obtain ⟨transfer_time_ms, _, hsignals⟩ := hsignals
  rw [bind_eq_ok_iff] at hsignals
  obtain ⟨tokens, _, hsignals⟩ := hsignals
  rw [bind_eq_ok_iff] at hsignals
  obtain ⟨thousands, _, hsignals⟩ := hsignals
  rw [pure_eq_ok_iff, Prod.mk.injEq] at hsignals
  obtain ⟨rfl, rfl⟩ := hsignals
  exact ⟨rfl, rfl⟩

/-- The fields of the signals, and what was converted to a float on the way to them. -/
theorem request_signals_fields {read : SessionRead} {reusable_prefix_tokens : ℤ}
    {signals : MaterializationSignals F} {extras : SignalExtras}
    (hsignals : request_signals py env headers read reusable_prefix_tokens = .ok (signals, extras)) :
    ∃ transfer_time_ms tokens thousands,
      transfer_ms py env (max reusable_prefix_tokens 0 *
        max (env_int py env "VLLM_KV_BYTES_PER_TOKEN" DEFAULT_BYTES_PER_TOKEN) 0) = .ok transfer_time_ms ∧
      ofInt (max reusable_prefix_tokens 0) = .ok tokens ∧ PyFloat.div tokens (lit 1000) = .ok thousands ∧
      signals =
        { reusable_prefix_tokens := max reusable_prefix_tokens 0
          remote_kv_bytes := max (max reusable_prefix_tokens 0 *
            max (env_int py env "VLLM_KV_BYTES_PER_TOKEN" DEFAULT_BYTES_PER_TOKEN) 0) 0
          transfer_time_ms := pyMax transfer_time_ms (lit 0)
          recompute_time_ms := pyMax
            (thousands * env_float py env "VLLM_KV_PREFILL_MS_PER_1K" (lit DEFAULT_PREFILL_MS_PER_1K)) (lit 0)
          queue_pressure := pyMax (header_float py headers HEADER_QUEUE_PRESSURE
            (env_float py env "VLLM_KV_QUEUE_PRESSURE" (lit DEFAULT_QUEUE_PRESSURE))) (lit 0)
          ttft_sensitive := true
          reuse_confidence := pyMax (lit 0) (pyMin (header_float py headers HEADER_REUSE_CONFIDENCE
            (default_reuse_confidence read.anchor_seen_count (request_turn_index py headers read)
              reusable_prefix_tokens)) (lit 1)) } := by
  unfold request_signals at hsignals
  rw [bind_eq_ok_iff] at hsignals
  obtain ⟨transfer_time_ms, htransfer, hsignals⟩ := hsignals
  rw [bind_eq_ok_iff] at hsignals
  obtain ⟨tokens, htokens, hsignals⟩ := hsignals
  rw [bind_eq_ok_iff] at hsignals
  obtain ⟨thousands, hthousands, hsignals⟩ := hsignals
  rw [pure_eq_ok_iff, Prod.mk.injEq] at hsignals
  exact ⟨transfer_time_ms, tokens, thousands, htransfer, htokens, hthousands, hsignals.1.symm⟩

theorem finish_session_of_ok {session : Session} {read : SessionRead}
    {prompt_tokens output_tokens reusable_prefix_tokens : ℤ}
    (hestimate : estimate_reusable_prefix_tokens py headers prompt_tokens read.previous_prompt_tokens
      read.previous_output_tokens = .ok reusable_prefix_tokens) :
    finish_session py session headers read prompt_tokens output_tokens =
      (.ok reusable_prefix_tokens, write_session session (primary_anchor_id headers) prompt_tokens
        output_tokens (request_turn_index py headers read)) := by
  unfold finish_session
  rw [hestimate]

theorem finish_session_of_error {session : Session} {read : SessionRead}
    {prompt_tokens output_tokens : ℤ} {error : Exception}
    (hestimate : estimate_reusable_prefix_tokens py headers prompt_tokens read.previous_prompt_tokens
      read.previous_output_tokens = .error error) :
    finish_session py session headers read prompt_tokens output_tokens = (.error error, session) := by
  unfold finish_session
  rw [hestimate]

/-- What a call returns is what its second critical section hands on. -/
theorem estimate_signals_result (session : Session) (prompt_tokens output_tokens : ℤ) :
    (estimate_signals py env session headers prompt_tokens output_tokens).1 =
      estimate_reusable_prefix_tokens py headers prompt_tokens
          (read_session session (primary_anchor_id headers)).1.previous_prompt_tokens
          (read_session session (primary_anchor_id headers)).1.previous_output_tokens >>=
        request_signals py env headers (read_session session (primary_anchor_id headers)).1 := by
  unfold estimate_signals finish_session
  dsimp only
  cases estimate_reusable_prefix_tokens py headers prompt_tokens
      (read_session session (primary_anchor_id headers)).1.previous_prompt_tokens
      (read_session session (primary_anchor_id headers)).1.previous_output_tokens with
  | error error => rfl
  | ok reusable_prefix_tokens => rfl

/-- A call that returns signals estimated its prefix within the prompt, and its
extras are read off the headers and the session. -/
theorem estimate_signals_spec {session : Session} {prompt_tokens output_tokens : ℤ}
    {signals : MaterializationSignals F} {extras : SignalExtras}
    (hsignals : (estimate_signals py env session headers prompt_tokens output_tokens).1 =
      .ok (signals, extras)) :
    0 ≤ signals.reusable_prefix_tokens ∧
      signals.reusable_prefix_tokens ≤ max prompt_tokens 0 ∧
      extras = request_extras py headers (read_session session (primary_anchor_id headers)).1 := by
  rw [estimate_signals_result, bind_eq_ok_iff] at hsignals
  obtain ⟨reusable_prefix_tokens, hestimate, hsignals⟩ := hsignals
  obtain ⟨hnonneg, hle⟩ := estimate_reusable_prefix_tokens_bounds hestimate
  obtain ⟨hreusable, hextras⟩ := request_signals_spec hsignals
  rw [hreusable]
  exact ⟨le_max_right _ _, by omega, hextras⟩

end

section

variable {F : Type} [PyFloat F] {py : Interpreter F} {env : Environment}
  {signals : MaterializationSignals F} {policy : MaterializationPolicy F}

/-- An outcome is the controller's decision or the one its fixed policy names. -/
theorem select_policy_outcome_cases {mode : String} {outcome : MaterializationOutcome}
    (hselect : select_policy_outcome py env signals policy = .ok (mode, outcome)) :
    (policy_mode py env = "controller" ∧ policy.decide py.setOrder signals = .ok outcome) ∨
      outcome = ⟨.recompute, 0, .fixed_policy_always_recompute⟩ ∨
      outcome = ⟨.full_reuse, max signals.reusable_prefix_tokens 0, .fixed_policy_always_full_reuse⟩ := by
  unfold select_policy_outcome at hselect
  dsimp only at hselect
  split at hselect
  · rename_i hcontroller
    rw [bind_eq_ok_iff] at hselect
    obtain ⟨decided, hdecide, hselect⟩ := hselect
    rw [pure_eq_ok_iff, Prod.mk.injEq] at hselect
    obtain ⟨_, rfl⟩ := hselect
    exact .inl ⟨hcontroller, hdecide⟩
  split at hselect
  · rw [Except.ok.injEq, Prod.mk.injEq] at hselect
    exact .inr (.inl hselect.2.symm)
  split at hselect
  · rw [Except.ok.injEq, Prod.mk.injEq] at hselect
    exact .inr (.inr hselect.2.symm)
  · cases hselect

end

section

variable {F : Type} [PyFloat F] {signals : MaterializationSignals F} {policy : MaterializationPolicy F}

/-- The live path adjusts the signals as the policy does. -/
theorem adjust_signals_for_runtime_eq (signals : MaterializationSignals F)
    (policy : MaterializationPolicy F) :
    adjust_signals_for_runtime signals policy =
      (policy.adjusted_signals signals, policy.full_reuse_signals signals) := rfl

/-- A realizable action is picked wherever the costs it compares can be estimated. -/
theorem pick_realizable_runtime_action_returns
    (hadjusted : ∀ decision tokens, Returns (estimate_materialization_ttft_ms
      (policy.adjusted_signals signals) decision tokens policy.partial_reuse_floor_tokens))
    (hfull : Returns (estimate_materialization_ttft_ms (policy.full_reuse_signals signals) .full_reuse
      signals.reusable_prefix_tokens policy.partial_reuse_floor_tokens))
    (partial_reuse_tokens : ℤ) :
    Returns (pick_realizable_runtime_action signals policy partial_reuse_tokens) := by
  unfold pick_realizable_runtime_action
  rw [adjust_signals_for_runtime_eq]
  dsimp only
  refine (hadjusted .recompute 0).bind (fun recompute_cost _ => ?_)
  refine hfull.bind (fun full_reuse_cost _ => ?_)
  split
  · exact (hadjusted .partial_reuse partial_reuse_tokens).bind (fun cost _ => returns_pure _)
  · exact returns_pure _

/-- Only a partial outcome leaves something to pick. -/
theorem runtime_plan_returns (py : Interpreter F) (env : Environment)
    (outcome : MaterializationOutcome)
    (hpick : outcome.decision = .partial_reuse → ∀ partial_reuse_tokens,
      Returns (pick_realizable_runtime_action signals policy partial_reuse_tokens))
    (extras : SignalExtras) (request_id : String) (prompt_tokens : ℤ) :
    Returns (runtime_plan py env signals extras policy outcome request_id prompt_tokens) := by
  unfold runtime_plan
  dsimp only
  split
  · exact returns_pure _
  · exact returns_pure _
  · rename_i hpartialReuse
    refine Returns.bind ?_ (fun action _ => returns_pure _)
    unfold realizable_action
    split
    · exact returns_ok _
    split
    · exact hpick hpartialReuse _
    · exact returns_ok _

end

section Counts

variable {F : Type} [PyFloat F] {py : Interpreter F} {env : Environment} {headers : Headers}

/-- Without an identity a request leaves the session alone. -/
theorem estimate_signals_session_of_anonymous (session : Session) (prompt_tokens output_tokens : ℤ)
    (hanonymous : primary_anchor_id headers = "") :
    (estimate_signals py env session headers prompt_tokens output_tokens).2 = session := by
  unfold estimate_signals finish_session read_session
  dsimp only
  rw [if_pos hanonymous]
  split
  · rfl
  · unfold write_session
    rw [if_pos hanonymous]

/-- With one, its count goes up whether or not the estimate succeeds. -/
theorem estimate_signals_count (session : Session) (prompt_tokens output_tokens : ℤ)
    (hidentity : primary_anchor_id headers ≠ "") :
    (estimate_signals py env session headers prompt_tokens output_tokens).2.anchor_seen_counts =
      session.anchor_seen_counts.set (primary_anchor_id headers)
        ((session.anchor_seen_counts.get? (primary_anchor_id headers)).getD 0 + 1) := by
  unfold estimate_signals finish_session read_session
  dsimp only
  rw [if_neg hidentity]
  split
  · rfl
  · unfold write_session
    rw [if_neg hidentity]

theorem estimate_signals_session_ne (session : Session) (prompt_tokens output_tokens : ℤ)
    (hidentity : primary_anchor_id headers ≠ "") :
    (estimate_signals py env session headers prompt_tokens output_tokens).2 ≠ session := by
  intro heq
  have hcount := congrArg
    (fun session => session.anchor_seen_counts.get? (primary_anchor_id headers)) heq
  simp only [estimate_signals_count session prompt_tokens output_tokens hidentity,
    Dict.get?_set_self] at hcount
  rw [← hcount, Option.getD_some] at hcount
  simp at hcount

end Counts

section

variable {F : Type} [PyFloat F] {py : Interpreter F} {env : Environment} {session : Session}
  {headers : Headers} {request_id : String} {prompt_tokens output_tokens : ℤ}

/-- Nothing past the estimate touches the session. -/
theorem compute_runtime_control_session :
    (compute_runtime_control py env session headers request_id prompt_tokens output_tokens).2 =
      (estimate_signals py env session headers prompt_tokens output_tokens).2 := by
  unfold compute_runtime_control
  dsimp only

/-- A call whose three parts return returns what they make up. -/
theorem compute_runtime_control_of_plan {signals : MaterializationSignals F} {extras : SignalExtras}
    {mode : String} {outcome : MaterializationOutcome} {plan : RuntimeControlPlan}
    (hestimated : (estimate_signals py env session headers prompt_tokens output_tokens).1 =
      .ok (signals, extras))
    (hselect : select_policy_outcome py env signals (make_policy py env) = .ok (mode, outcome))
    (hplan : runtime_plan py env signals extras (make_policy py env) outcome request_id prompt_tokens =
      .ok plan) :
    (compute_runtime_control py env session headers request_id prompt_tokens output_tokens).1 =
      .ok (live_observation env headers signals extras mode outcome plan request_id prompt_tokens
        output_tokens, plan) := by
  have hcontrol : control_signals py env headers request_id prompt_tokens output_tokens
      (signals, extras) = .ok (live_observation env headers signals extras mode outcome plan
        request_id prompt_tokens output_tokens, plan) :=
    bind_eq_ok_iff.mpr ⟨_, hselect, bind_eq_ok_iff.mpr ⟨plan, hplan, rfl⟩⟩
  unfold compute_runtime_control
  dsimp only
  rw [hestimated]
  exact hcontrol

/-- What a returning call went through: its signals, outcome and plan. -/
theorem compute_runtime_control_spec {observation : LiveObservation F} {plan : RuntimeControlPlan}
    (hcontrol : (compute_runtime_control py env session headers request_id prompt_tokens
      output_tokens).1 = .ok (observation, plan)) :
    ∃ signals extras mode outcome,
      (estimate_signals py env session headers prompt_tokens output_tokens).1 = .ok (signals, extras) ∧
      select_policy_outcome py env signals (make_policy py env) = .ok (mode, outcome) ∧
      runtime_plan py env signals extras (make_policy py env) outcome request_id prompt_tokens =
        .ok plan ∧
      observation = live_observation env headers signals extras mode outcome plan request_id
        prompt_tokens output_tokens := by
  unfold compute_runtime_control at hcontrol
  dsimp only at hcontrol
  rw [bind_eq_ok_iff] at hcontrol
  obtain ⟨⟨signals, extras⟩, hestimated, hcontrol⟩ := hcontrol
  unfold control_signals at hcontrol
  dsimp only at hcontrol
  rw [bind_eq_ok_iff] at hcontrol
  obtain ⟨⟨mode, outcome⟩, hselect, hcontrol⟩ := hcontrol
  dsimp only at hcontrol
  rw [bind_eq_ok_iff] at hcontrol
  obtain ⟨planned, hplan, hcontrol⟩ := hcontrol
  rw [pure_eq_ok_iff, Prod.mk.injEq] at hcontrol
  obtain ⟨hobservation, rfl⟩ := hcontrol
  exact ⟨signals, extras, mode, outcome, hestimated, hselect, hplan, hobservation.symm⟩

/-- What is observed of a request is what was planned for it. -/
theorem compute_runtime_control_observed {observation : LiveObservation F} {plan : RuntimeControlPlan}
    (hcontrol : (compute_runtime_control py env session headers request_id prompt_tokens
      output_tokens).1 = .ok (observation, plan)) :
    observation.runtime_effective_decision = plan.effective_decision ∧
      observation.runtime_cache_salt = plan.cache_salt := by
  obtain ⟨_, _, _, _, _, _, _, rfl⟩ := compute_runtime_control_spec hcontrol
  exact ⟨rfl, rfl⟩

end

end vllm_kv_materialization.live_control
