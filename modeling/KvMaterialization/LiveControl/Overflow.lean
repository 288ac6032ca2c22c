import KvMaterialization.LiveControl.Exact
import KvMaterialization.Policy.Overflow

open python
open python.Binary64
open vllm_kv_materialization.policy

namespace vllm_kv_materialization.live_control

section

variable {py : Interpreter Binary64} {env : Environment} {headers : Headers}

/-- Only an estimated share converts the prompt. -/
theorem estimate_reusable_prefix_tokens_returns_iff
    {prompt_tokens previous_prompt_tokens previous_output_tokens : ℤ} :
    Returns (estimate_reusable_prefix_tokens py headers prompt_tokens previous_prompt_tokens
        previous_output_tokens) ↔
      (header_int py headers HEADER_SHARED_PREFIX_TOKENS (-1) < 0 → previous_prompt_tokens ≤ 0 →
        strip (header headers HEADER_PRIMARY_ANCHOR) ≠ "" → 0 < prompt_tokens →
          (prompt_tokens : ℚ) < overflow) := by
  unfold estimate_reusable_prefix_tokens
  dsimp only
  split
  · rename_i hstated
    exact ⟨fun _ hnegative => absurd hnegative (by omega), fun _ => returns_pure _⟩
  rename_i hunstated
  split
  · rename_i hprevious
    exact ⟨fun _ _ hnone => absurd hnone (by omega), fun _ => returns_pure _⟩
  rename_i hfirst
  split
  · rename_i hempty
    refine ⟨fun _ _ _ hanchor hprompt => ?_, fun _ => returns_pure _⟩
    cases hempty with
    | inl hblank => exact absurd hblank hanchor
    | inr hnone => omega
  rename_i hanchored
  obtain ⟨hanchor, hprompt⟩ := not_or.mp hanchored
  have hpositive : 0 < prompt_tokens := not_le.mp hprompt
  constructor
  · intro hreturns _ _ _ _
    obtain ⟨prompt, hfloat, _⟩ := returns_bind_iff.mp hreturns
    exact (le_abs_self _).trans_lt (ofInt_returns_iff.mp ⟨prompt, hfloat⟩)
  · intro hrange
    have hlt := hrange (by omega) (by omega) hanchor hpositive
    have hconvert := ofInt_returns_iff.mpr (abs_lt_overflow_of_le hpositive.le le_rfl hlt)
    refine hconvert.bind (fun prompt hfloat => ?_)
    split
    · refine (trunc_share_returns hpositive.le hlt (lit_inUnit (by norm_num) (by norm_num))
        hfloat).bind (fun share _ => returns_pure _)
    · refine (trunc_share_returns hpositive.le hlt (lit_inUnit (by norm_num) (by norm_num))
        hfloat).bind (fun share _ => returns_pure _)

/-- The configured bandwidth. -/
def bandwidth (py : Interpreter Binary64) (env : Environment) : Binary64 :=
  env_float py env "VLLM_KV_TRANSFER_BANDWIDTH_GBPS" (lit DEFAULT_TRANSFER_BANDWIDTH_GBPS)

def bytes_per_token (py : Interpreter Binary64) (env : Environment) : ℤ :=
  env_int py env "VLLM_KV_BYTES_PER_TOKEN" DEFAULT_BYTES_PER_TOKEN

/-- Only a positive bandwidth converts the bytes to transfer. -/
theorem transfer_ms_returns_iff {remote_kv_bytes : ℤ} (hbytes : 0 ≤ remote_kv_bytes) :
    Returns (transfer_ms py env remote_kv_bytes) ↔
      (lt (lit 0) (bandwidth py env) = true → (remote_kv_bytes : ℚ) < overflow) := by
  unfold transfer_ms
  dsimp only
  change Returns (if lt (lit 0) (bandwidth py env) = true then _ else _) ↔ _
  split
  · rename_i hpositive
    constructor
    · intro hreturns _
      obtain ⟨bytes, hconvert, _⟩ := returns_bind_iff.mp hreturns
      exact (le_abs_self _).trans_lt (ofInt_returns_iff.mp ⟨bytes, hconvert⟩)
    · intro hrange
      have hconvert := ofInt_returns_iff.mpr (abs_lt_overflow_of_le hbytes le_rfl (hrange hpositive))
      refine hconvert.bind (fun bytes _ => ?_)
      refine (div_scaled_returns bytes hpositive (by norm_num) (lt_overflow (by norm_num))).bind
        (fun seconds _ => returns_pure _)
  · rename_i hnone
    exact ⟨fun _ hpositive => absurd hpositive hnone, fun _ => returns_pure _⟩

theorem request_signals_returns_iff (env : Environment) {read : SessionRead} {reusable_prefix_tokens : ℤ}
    (hreusable : 0 ≤ reusable_prefix_tokens) :
    Returns (request_signals py env headers read reusable_prefix_tokens) ↔
      (lt (lit 0) (bandwidth py env) = true →
        ((reusable_prefix_tokens * max (bytes_per_token py env) 0 : ℤ) : ℚ) < overflow) ∧
      (reusable_prefix_tokens : ℚ) < overflow := by
  have hbytes : 0 ≤ reusable_prefix_tokens * max (bytes_per_token py env) 0 :=
    mul_nonneg hreusable (le_max_right _ _)
  unfold request_signals
  rw [max_eq_left hreusable, returns_bind_iff]
  constructor
  · rintro ⟨transfer_time_ms, htransfer, hrest⟩
    obtain ⟨tokens, hconvert, _⟩ := returns_bind_iff.mp hrest
    exact ⟨(transfer_ms_returns_iff hbytes).mp ⟨transfer_time_ms, htransfer⟩,
      (le_abs_self _).trans_lt (ofInt_returns_iff.mp ⟨tokens, hconvert⟩)⟩
  · rintro ⟨hremote, hlt⟩
    obtain ⟨transfer_time_ms, htransfer⟩ := (transfer_ms_returns_iff hbytes).mpr hremote
    refine ⟨transfer_time_ms, htransfer, ?_⟩
    refine (ofInt_returns_iff.mpr (abs_lt_overflow_of_le hreusable le_rfl hlt)).bind (fun tokens _ => ?_)
    rw [lit_eq, ofRat_of_lt (by rw [abs_of_nonneg (by norm_num)]; exact lt_overflow (by norm_num))]
    refine (div_returns tokens ?_).bind (fun thousands _ => returns_pure _)
    have hmono := nearest_mono zero_le_one (by norm_num : (1 : ℚ) ≤ 1000)
    rw [nearest_one] at hmono
    exact (zero_lt_one.trans_le hmono).ne'

variable {signals : MaterializationSignals Binary64} {policy : MaterializationPolicy Binary64}

/-- Past the signals a request fails on its policy mode, or in the controller on
a floor that does not convert. -/
theorem select_policy_outcome_returns_iff
    (hlt : (signals.reusable_prefix_tokens : ℚ) < overflow) :
    Returns (select_policy_outcome py env signals policy) ↔
      ValidPolicyMode py env ∧ (policy_mode py env = "controller" →
        FloorConvertible signals.reusable_prefix_tokens policy.partial_reuse_floor_tokens) := by
  have hdecide := policy.decide_returns_iff signals py.setOrder hlt
  unfold select_policy_outcome ValidPolicyMode
  dsimp only
  split
  · rename_i hcontroller
    constructor
    · intro hreturns
      obtain ⟨outcome, houtcome, _⟩ := returns_bind_iff.mp hreturns
      exact ⟨.inl hcontroller, fun _ => hdecide.mp ⟨outcome, houtcome⟩⟩
    · rintro ⟨_, hfloor⟩
      exact (hdecide.mpr (hfloor hcontroller)).bind (fun outcome _ => returns_pure _)
  rename_i hnotController
  split
  · rename_i hrecompute
    exact ⟨fun _ => ⟨.inr (.inl hrecompute), fun h => absurd h hnotController⟩, fun _ => returns_ok _⟩
  rename_i hnotRecompute
  split
  · rename_i hreuse
    exact ⟨fun _ => ⟨.inr (.inr hreuse), fun h => absurd h hnotController⟩, fun _ => returns_ok _⟩
  · rename_i hnotReuse
    constructor
    · rintro ⟨outcome, houtcome⟩
      cases houtcome
    · rintro ⟨hmode, _⟩
      obtain h | h | h := hmode
      · exact absurd h hnotController
      · exact absurd h hnotRecompute
      · exact absurd h hnotReuse

/-- Once an outcome is selected its action can be picked: what that converts the
policy has converted before. -/
theorem pick_realizable_runtime_action_of_select {mode : String} {outcome : MaterializationOutcome}
    (hlt : (signals.reusable_prefix_tokens : ℚ) < overflow)
    (hselect : select_policy_outcome py env signals policy = .ok (mode, outcome))
    (hpartialReuse : outcome.decision = .partial_reuse) (partial_reuse_tokens : ℤ) :
    Returns (pick_realizable_runtime_action signals policy partial_reuse_tokens) := by
  obtain ⟨_, hdecide⟩ | rfl | rfl := select_policy_outcome_cases hselect
  case inr.inl => cases hpartialReuse
  case inr.inr => cases hpartialReuse
  have hreusable : 0 < signals.reusable_prefix_tokens := by
    cases MaterializationPolicy.decide_reusesWithin hdecide with
    | recompute rationale => cases hpartialReuse
    | full_reuse rationale => cases hpartialReuse
    | partial_reuse rationale hpos hbelow => exact hpos.trans hbelow
  have hfloor := (policy.decide_returns_iff signals py.setOrder hlt).mp ⟨outcome, hdecide⟩
  exact pick_realizable_runtime_action_returns
    (MaterializationPolicy.estimate_adjusted_returns hreusable hlt hfloor)
    (MaterializationPolicy.estimate_full_reuse_returns hreusable hlt hfloor _ _) partial_reuse_tokens

end

/-- What a request converts to a float stays below the overflow: a prompt it
takes a share of, the prefix and its bytes, and the floor's share of the prefix. -/
structure InRange (py : Interpreter Binary64) (env : Environment) (headers : Headers)
    (read : SessionRead) (prompt_tokens : ℤ) : Prop where
  prompt : header_int py headers HEADER_SHARED_PREFIX_TOKENS (-1) < 0 →
    read.previous_prompt_tokens ≤ 0 → strip (header headers HEADER_PRIMARY_ANCHOR) ≠ "" →
    0 < prompt_tokens → (prompt_tokens : ℚ) < overflow
  estimated : ∀ reusable_prefix_tokens,
    estimate_reusable_prefix_tokens py headers prompt_tokens read.previous_prompt_tokens
      read.previous_output_tokens = .ok reusable_prefix_tokens →
    (reusable_prefix_tokens : ℚ) < overflow ∧
    (lt (lit 0) (bandwidth py env) = true →
      ((reusable_prefix_tokens * max (bytes_per_token py env) 0 : ℤ) : ℚ) < overflow) ∧
    (policy_mode py env = "controller" →
      FloorConvertible reusable_prefix_tokens (make_policy py env).partial_reuse_floor_tokens)

section

variable {py : Interpreter Binary64} {env : Environment} {session : Session} {headers : Headers}
  {request_id : String} {prompt_tokens output_tokens : ℤ}

/-- A request gets its plan exactly under a valid policy mode and in range. -/
theorem compute_runtime_control_returns_iff :
    Returns (compute_runtime_control py env session headers request_id prompt_tokens output_tokens).1 ↔
      ValidPolicyMode py env ∧
        InRange py env headers (read_session session (primary_anchor_id headers)).1 prompt_tokens := by
  constructor
  · rintro ⟨⟨observation, plan⟩, hcontrol⟩
    obtain ⟨signals, extras, mode, outcome, hestimated, hselect, _, _⟩ :=
      compute_runtime_control_spec hcontrol
    rw [estimate_signals_result, bind_eq_ok_iff] at hestimated
    obtain ⟨reusable_prefix_tokens, hestimate, hsignals⟩ := hestimated
    obtain ⟨hnonneg, _⟩ := estimate_reusable_prefix_tokens_bounds hestimate
    obtain ⟨hremote, hlt⟩ := (request_signals_returns_iff env hnonneg).mp ⟨_, hsignals⟩
    obtain ⟨hreusable, _⟩ := request_signals_spec hsignals
    rw [max_eq_left hnonneg] at hreusable
    rw [← hreusable] at hlt
    obtain ⟨hmode, hfloor⟩ := (select_policy_outcome_returns_iff hlt).mp ⟨_, hselect⟩
    refine ⟨hmode, estimate_reusable_prefix_tokens_returns_iff.mp ⟨_, hestimate⟩, ?_⟩
    intro estimated hestimated
    rw [hestimate, Except.ok.injEq] at hestimated
    subst hestimated
    rw [hreusable] at hlt hfloor
    exact ⟨hlt, hremote, hfloor⟩
  · rintro ⟨hmode, hrange⟩
    obtain ⟨reusable_prefix_tokens, hestimate⟩ :=
      estimate_reusable_prefix_tokens_returns_iff.mpr hrange.prompt
    obtain ⟨hlt, hremote, hfloor⟩ := hrange.estimated _ hestimate
    obtain ⟨hnonneg, _⟩ := estimate_reusable_prefix_tokens_bounds hestimate
    obtain ⟨⟨signals, extras⟩, hsignals⟩ :=
      (request_signals_returns_iff env hnonneg).mpr ⟨hremote, hlt⟩
    obtain ⟨hreusable, _⟩ := request_signals_spec hsignals
    rw [max_eq_left hnonneg] at hreusable
    rw [← hreusable] at hlt hfloor
    obtain ⟨⟨mode, outcome⟩, hselect⟩ := (select_policy_outcome_returns_iff hlt).mpr ⟨hmode, hfloor⟩
    obtain ⟨plan, hplan⟩ := runtime_plan_returns py env outcome
      (pick_realizable_runtime_action_of_select hlt hselect) extras request_id prompt_tokens
    refine ⟨_, compute_runtime_control_of_plan ?_ hselect hplan⟩
    rw [estimate_signals_result]
    exact bind_eq_ok_iff.mpr ⟨_, hestimate, hsignals⟩

end

end vllm_kv_materialization.live_control
