import KvMaterialization.LiveControl.Signals
import Mathlib.Data.List.Infix

open python
open vllm_kv_materialization.policy

namespace vllm_kv_materialization.live_control

inductive SupportTier where
  | native
  | fallback
  deriving DecidableEq, Repr

/-- `RUNTIME_SUPPORT_NATIVE` and `RUNTIME_SUPPORT_FALLBACK`. -/
def SupportTier.value : SupportTier → String
  | native => "native_runtime_action"
  | fallback => "fallback_to_supported_runtime_action"

inductive FallbackReason where
  | partial_reuse
  | alignment
  | realign_to_recompute
  | realign_to_full_reuse
  deriving DecidableEq, Repr

/-- The `PARTIAL_REUSE_..._REASON` and `PARTIAL_REUSE_RUNTIME_REALIGN_...` texts. -/
def FallbackReason.value : FallbackReason → String
  | partial_reuse => "exact_partial_segment_materialization_unavailable_on_prefix_cache_path"
  | alignment => "partial_reuse_cut_point_realigned_to_runtime_hash_blocks"
  | realign_to_recompute => "block_aligned_partial_reuse_collapses_to_recompute"
  | realign_to_full_reuse => "block_aligned_partial_reuse_dominated_by_full_reuse"

inductive ControlPath where
  | request_scoped_prefix_cache_bypass
  | anchor_scoped_prefix_cache
  | block_aligned_partial_prefix_cache
  | partial_reuse_realigned_to_request_scoped_recompute
  | partial_reuse_fallback_to_anchor_scoped_full_reuse
  deriving DecidableEq, Repr

def ControlPath.value : ControlPath → String
  | request_scoped_prefix_cache_bypass => "request_scoped_prefix_cache_bypass"
  | anchor_scoped_prefix_cache => "anchor_scoped_prefix_cache"
  | block_aligned_partial_prefix_cache => "block_aligned_partial_prefix_cache"
  | partial_reuse_realigned_to_request_scoped_recompute =>
    "partial_reuse_realigned_to_request_scoped_recompute"
  | partial_reuse_fallback_to_anchor_scoped_full_reuse =>
    "partial_reuse_fallback_to_anchor_scoped_full_reuse"

/-- The decision fields hold the values of `MaterializationDecision`, which the
source writes as strings. -/
structure RuntimeControlPlan where
  observed_decision : MaterializationDecision
  effective_decision : MaterializationDecision
  control_path : ControlPath
  cache_salt : Option String
  segmented_tail_cache_salt : Option String
  target_reuse_tokens : ℤ
  target_tail_tokens : ℤ
  decision_supported : Bool
  support_tier : SupportTier
  fallback_reason : Option FallbackReason
  deriving DecidableEq, Repr

def make_anchor_scoped_salt (primary_anchor_id workload_case : String) : Option String :=
  if primary_anchor_id ≠ "" then some ("kvmat:anchor:" ++ primary_anchor_id)
  else if workload_case ≠ "" then some ("kvmat:case:" ++ workload_case)
  else none

def pick_partial_fallback_anchor (primary_anchor_id : String)
    (secondary_anchor_ids : List String) : String :=
  (secondary_anchor_ids.find?
    (fun anchor_id => "scaffold::".toList <:+: anchor_id.toList)).getD primary_anchor_id

def make_partial_fallback_salt (primary_anchor_id : String) (secondary_anchor_ids : List String)
    (workload_case : String) : Option String :=
  let selected_anchor_id := pick_partial_fallback_anchor primary_anchor_id secondary_anchor_ids
  if selected_anchor_id ≠ "" then some ("kvmat:anchor:" ++ selected_anchor_id)
  else if workload_case ≠ "" then some ("kvmat:case:" ++ workload_case)
  else none

/-- What a request-scoped salt names besides the request itself. -/
def request_scope (primary_anchor_id workload_case : String) : String :=
  if primary_anchor_id ≠ "" then primary_anchor_id
  else if workload_case ≠ "" then workload_case
  else "request"

def make_request_scoped_salt (primary_anchor_id workload_case request_id : String) : String :=
  "kvmat:recompute:" ++ request_scope primary_anchor_id workload_case ++ ":" ++ request_id

def align_runtime_reuse_tokens (reuse_tokens block_size : ℤ) : ℤ :=
  if block_size ≤ 1 then max reuse_tokens 0
  else (max reuse_tokens 0 / block_size) * block_size

section

variable {F : Type} [PyFloat F] (py : Interpreter F) (env : Environment)

def make_policy : MaterializationPolicy F where
  partial_reuse_floor_tokens := env_int py env "VLLM_KV_PARTIAL_REUSE_FLOOR_TOKENS" 256
  queue_pressure_discount_ms := env_float py env "VLLM_KV_QUEUE_PRESSURE_DISCOUNT_MS" (lit 0.5)
  ttft_bonus_ms := env_float py env "VLLM_KV_TTFT_BONUS_MS" (lit 1.5)
  low_confidence_cutoff := env_float py env "VLLM_KV_LOW_CONFIDENCE_CUTOFF" (lit 0.55)
  confidence_penalty_ms := env_float py env "VLLM_KV_CONFIDENCE_PENALTY_MS" (lit 4.0)

def policy_mode : String := py.lower (strip (getenv env "VLLM_KV_POLICY_MODE" "controller"))

def runtime_seam : String := py.lower (strip (getenv env "VLLM_KV_RUNTIME_SEAM" "segmented"))

def select_policy_outcome (signals : MaterializationSignals F) (policy : MaterializationPolicy F) :
    Except Exception (String × MaterializationOutcome) :=
  let policy_mode := policy_mode py env
  if policy_mode = "controller" then do
    return (policy_mode, ← policy.decide py.setOrder signals)
  else if policy_mode = "always_recompute" then
    .ok (policy_mode, ⟨.recompute, 0, .fixed_policy_always_recompute⟩)
  else if policy_mode = "always_full_reuse" then
    .ok (policy_mode, ⟨.full_reuse, max signals.reusable_prefix_tokens 0,
      .fixed_policy_always_full_reuse⟩)
  else
    .error (.value_error
      ("VLLM_KV_POLICY_MODE must be controller, always_recompute, or "
        ++ "always_full_reuse; got " ++ py.repr policy_mode))

def get_runtime_hash_block_size : ℤ :=
  let block_size := env_int py env "VLLM_KV_RUNTIME_HASH_BLOCK_SIZE" 0
  if block_size > 0 then block_size
  else
    let block_size := env_int py env "VLLM_KV_RUNTIME_BLOCK_SIZE" 0
    if block_size > 0 then block_size else 0

end

section

variable {F : Type} [PyFloat F]

/-- The signals the realizable actions are ranked under, and those of full reuse. -/
def adjust_signals_for_runtime (signals : MaterializationSignals F)
    (policy : MaterializationPolicy F) : MaterializationSignals F × MaterializationSignals F :=
  let adjusted_transfer_ms :=
    signals.transfer_time_ms - (signals.queue_pressure * policy.queue_pressure_discount_ms)
  let adjusted_transfer_ms :=
    if signals.ttft_sensitive then adjusted_transfer_ms - policy.ttft_bonus_ms
    else adjusted_transfer_ms
  let adjusted_signals :=
    { signals with transfer_time_ms := pyMax (lit 0) adjusted_transfer_ms }
  let full_reuse_signals :=
    { adjusted_signals with
      transfer_time_ms := adjusted_signals.transfer_time_ms
        + ((lit 1 - pyMax (lit 0) (pyMin signals.reuse_confidence (lit 1)))
          * policy.confidence_penalty_ms) }
  (adjusted_signals, full_reuse_signals)

def pick_realizable_runtime_action (signals : MaterializationSignals F)
    (policy : MaterializationPolicy F) (partial_reuse_tokens : ℤ) :
    Except Exception MaterializationDecision := do
  let (adjusted_signals, full_reuse_signals) := adjust_signals_for_runtime signals policy
  let recompute_cost ← estimate_materialization_ttft_ms adjusted_signals .recompute 0
    policy.partial_reuse_floor_tokens
  let full_reuse_cost ← estimate_materialization_ttft_ms full_reuse_signals .full_reuse
    signals.reusable_prefix_tokens policy.partial_reuse_floor_tokens
  if 0 < partial_reuse_tokens ∧ partial_reuse_tokens < signals.reusable_prefix_tokens then
    let partial_reuse_cost ← estimate_materialization_ttft_ms adjusted_signals .partial_reuse
      partial_reuse_tokens policy.partial_reuse_floor_tokens
    return (minItem (recompute_cost, MaterializationDecision.recompute)
      [(full_reuse_cost, .full_reuse), (partial_reuse_cost, .partial_reuse)]).2
  else
    return (minItem (recompute_cost, MaterializationDecision.recompute)
      [(full_reuse_cost, .full_reuse)]).2

variable (py : Interpreter F) (env : Environment)

/-- The `realizable_action` of a partial reuse whose cut is aligned to blocks. -/
def realizable_action (signals : MaterializationSignals F) (policy : MaterializationPolicy F)
    (aligned_reuse_tokens : ℤ) : Except Exception MaterializationDecision :=
  if runtime_seam py env = "old" then .ok .full_reuse
  else if get_runtime_hash_block_size py env > 0 then
    pick_realizable_runtime_action signals policy aligned_reuse_tokens
  else .ok .full_reuse

/-- The plan of `compute_runtime_control` for an outcome that is not partial reuse. -/
def fixed_plan (decision : MaterializationDecision) (control_path : ControlPath)
    (cache_salt : Option String) (target_reuse_tokens target_tail_tokens : ℤ) :
    RuntimeControlPlan where
  observed_decision := decision
  effective_decision := decision
  control_path
  cache_salt
  segmented_tail_cache_salt := none
  target_reuse_tokens
  target_tail_tokens
  decision_supported := true
  support_tier := .native
  fallback_reason := none

/-- The plan for a partial reuse, once its realizable action is known. -/
def partial_plan (action : MaterializationDecision) (extras : SignalExtras) (request_id : String)
    (prompt_tokens reusable_prefix_tokens target_reuse_tokens aligned_reuse_tokens : ℤ) :
    RuntimeControlPlan :=
  if action = .partial_reuse ∧ aligned_reuse_tokens > 0 then
    { observed_decision := .partial_reuse
      effective_decision := .partial_reuse
      control_path := .block_aligned_partial_prefix_cache
      cache_salt := make_partial_fallback_salt extras.primary_anchor_id
        extras.secondary_anchor_ids extras.workload_case
      segmented_tail_cache_salt := some
        (make_request_scoped_salt extras.primary_anchor_id extras.workload_case request_id)
      target_reuse_tokens := aligned_reuse_tokens
      target_tail_tokens := max (max prompt_tokens 0 - aligned_reuse_tokens) 0
      decision_supported := true
      support_tier := .native
      fallback_reason :=
        if aligned_reuse_tokens ≠ target_reuse_tokens then some .alignment else none }
  else if action = .recompute then
    { observed_decision := .partial_reuse
      effective_decision := .recompute
      control_path := .partial_reuse_realigned_to_request_scoped_recompute
      cache_salt := some
        (make_request_scoped_salt extras.primary_anchor_id extras.workload_case request_id)
      segmented_tail_cache_salt := none
      target_reuse_tokens := 0
      target_tail_tokens := max prompt_tokens 0
      decision_supported := false
      support_tier := .fallback
      fallback_reason := some .realign_to_recompute }
  else
    { observed_decision := .partial_reuse
      effective_decision := .full_reuse
      control_path := .partial_reuse_fallback_to_anchor_scoped_full_reuse
      cache_salt := make_partial_fallback_salt extras.primary_anchor_id
        extras.secondary_anchor_ids extras.workload_case
      segmented_tail_cache_salt := none
      target_reuse_tokens := max reusable_prefix_tokens 0
      target_tail_tokens := max (max prompt_tokens 0 - max reusable_prefix_tokens 0) 0
      decision_supported := false
      support_tier := .fallback
      fallback_reason := some
        (if runtime_seam py env = "old" then .partial_reuse
        else if get_runtime_hash_block_size py env > 0 then .realign_to_full_reuse
        else .partial_reuse) }

/-- The plan of `compute_runtime_control` for an outcome of the policy. -/
def runtime_plan (signals : MaterializationSignals F) (extras : SignalExtras)
    (policy : MaterializationPolicy F) (outcome : MaterializationOutcome) (request_id : String)
    (prompt_tokens : ℤ) : Except Exception RuntimeControlPlan := do
  let target_reuse_tokens := max (min outcome.reused_tokens (max prompt_tokens 0)) 0
  let target_tail_tokens := max (max prompt_tokens 0 - target_reuse_tokens) 0
  match outcome.decision with
  | .recompute =>
    return fixed_plan .recompute .request_scoped_prefix_cache_bypass
      (some (make_request_scoped_salt extras.primary_anchor_id extras.workload_case request_id))
      target_reuse_tokens target_tail_tokens
  | .full_reuse =>
    return fixed_plan .full_reuse .anchor_scoped_prefix_cache
      (make_anchor_scoped_salt extras.primary_anchor_id extras.workload_case)
      target_reuse_tokens target_tail_tokens
  | .partial_reuse =>
    let aligned_reuse_tokens := min
      (min (align_runtime_reuse_tokens target_reuse_tokens (get_runtime_hash_block_size py env))
        (max signals.reusable_prefix_tokens 0))
      (max prompt_tokens 0)
    let action ← realizable_action py env signals policy aligned_reuse_tokens
    return partial_plan py env action extras request_id prompt_tokens
      signals.reusable_prefix_tokens target_reuse_tokens aligned_reuse_tokens

end

end vllm_kv_materialization.live_control
