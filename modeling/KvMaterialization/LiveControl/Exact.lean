import KvMaterialization.LiveControl.Control
import KvMaterialization.LiveControl.Estimates
import KvMaterialization.Policy.Decision

open python
open vllm_kv_materialization.policy

namespace vllm_kv_materialization.live_control

/-- The policy mode is one the controller knows. -/
def ValidPolicyMode {F : Type} (py : Interpreter F) (env : Environment) : Prop :=
  policy_mode py env = "controller" ∨ policy_mode py env = "always_recompute" ∨
    policy_mode py env = "always_full_reuse"

instance {F : Type} (py : Interpreter F) (env : Environment) : Decidable (ValidPolicyMode py env) :=
  inferInstanceAs (Decidable (_ ∨ _ ∨ _))

section

variable (py : Interpreter ℚ) (env : Environment)

theorem estimate_reusable_prefix_tokens_exact (headers : Headers)
    (prompt_tokens previous_prompt_tokens previous_output_tokens : ℤ) :
    Returns (estimate_reusable_prefix_tokens py headers prompt_tokens previous_prompt_tokens
      previous_output_tokens) := by
  unfold estimate_reusable_prefix_tokens
  dsimp only
  split
  · exact returns_pure _
  split
  · exact returns_pure _
  split
  · exact returns_pure _
  rw [ofInt_exact]
  refine (returns_ok _).bind (fun prompt _ => ?_)
  split
  · exact (returns_ok _).bind (fun share _ => returns_pure _)
  · exact (returns_ok _).bind (fun share _ => returns_pure _)

theorem transfer_ms_exact (remote_kv_bytes : ℤ) : Returns (transfer_ms py env remote_kv_bytes) := by
  unfold transfer_ms
  dsimp only
  split
  · rename_i hbandwidth
    simp only [lit_exact, lt_exact, decide_eq_true_eq] at hbandwidth
    simp only [lit_exact, ofInt_exact]
    refine (returns_ok _).bind (fun bytes _ => ?_)
    rw [div_exact _ (mul_ne_zero hbandwidth.ne' (by norm_num))]
    exact (returns_ok _).bind (fun seconds _ => returns_pure _)
  · exact returns_pure _

theorem request_signals_exact (headers : Headers) (read : SessionRead) (reusable_prefix_tokens : ℤ) :
    Returns (request_signals py env headers read reusable_prefix_tokens) := by
  unfold request_signals
  refine (transfer_ms_exact py env _).bind (fun transfer_time_ms _ => ?_)
  rw [ofInt_exact]
  refine (returns_ok _).bind (fun tokens _ => ?_)
  rw [div_exact _ (by norm_num)]
  exact (returns_ok _).bind (fun thousands _ => returns_pure _)

/-- Exact arithmetic estimates the signals of every request. -/
theorem estimate_signals_exact (session : Session) (headers : Headers)
    (prompt_tokens output_tokens : ℤ) :
    Returns (estimate_signals py env session headers prompt_tokens output_tokens).1 := by
  rw [estimate_signals_result]
  exact (estimate_reusable_prefix_tokens_exact py headers _ _ _).bind
    (fun reusable_prefix_tokens _ => request_signals_exact py env headers _ reusable_prefix_tokens)

variable (signals : MaterializationSignals ℚ) (policy : MaterializationPolicy ℚ)

theorem decide_exact (setOrder : SetOrder) : Returns (policy.decide setOrder signals) := by
  by_cases hreusable : 0 < signals.reusable_prefix_tokens
  · obtain ⟨outcome, hdecide, _⟩ := policy.decide_chosen setOrder signals hreusable
    exact ⟨outcome, hdecide⟩
  · exact ⟨_, policy.decide_empty_prefix setOrder signals (by omega)⟩

theorem select_policy_outcome_exact (hmode : ValidPolicyMode py env) :
    Returns (select_policy_outcome py env signals policy) := by
  unfold select_policy_outcome
  obtain hmode | hmode | hmode := hmode
  · simp only [hmode, if_true]
    exact (decide_exact signals policy py.setOrder).bind (fun outcome _ => returns_pure _)
  · simp only [hmode, String.reduceEq, if_false, if_true]
    exact returns_ok _
  · simp only [hmode, String.reduceEq, if_false, if_true]
    exact returns_ok _

theorem pick_realizable_runtime_action_exact (partial_reuse_tokens : ℤ) :
    Returns (pick_realizable_runtime_action signals policy partial_reuse_tokens) :=
  pick_realizable_runtime_action_returns
    (fun _ _ => ⟨_, estimate_materialization_ttft_ms_exact _ _ _ _⟩)
    ⟨_, estimate_materialization_ttft_ms_exact _ _ _ _⟩ partial_reuse_tokens

/-- Exact arithmetic plans every request under a valid policy mode. -/
theorem compute_runtime_control_exact (hmode : ValidPolicyMode py env) (session : Session)
    (headers : Headers) (request_id : String) (prompt_tokens output_tokens : ℤ) :
    ∃ observation plan, (compute_runtime_control py env session headers request_id prompt_tokens
      output_tokens).1 = .ok (observation, plan) := by
  obtain ⟨⟨signals, extras⟩, hestimated⟩ :=
    estimate_signals_exact py env session headers prompt_tokens output_tokens
  obtain ⟨⟨mode, outcome⟩, hselect⟩ :=
    select_policy_outcome_exact py env signals (make_policy py env) hmode
  obtain ⟨plan, hplan⟩ := runtime_plan_returns py env outcome
    (fun _ => pick_realizable_runtime_action_exact signals (make_policy py env)) extras request_id
    prompt_tokens
  exact ⟨_, plan, compute_runtime_control_of_plan hestimated hselect hplan⟩

end

end vllm_kv_materialization.live_control
