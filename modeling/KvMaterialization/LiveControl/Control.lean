import KvMaterialization.LiveControl.Plan

open python
open vllm_kv_materialization.policy

namespace vllm_kv_materialization.live_control

/-- What the controller logs of a request, less the wall-clock readings. -/
structure LiveObservation (F : Type) where
  mode : String
  request_id : String
  workload_case : String
  workload_family : String
  primary_anchor_id : String
  secondary_anchor_ids : List String
  home_rank : ℤ
  turn_index : ℤ
  prompt_tokens : ℤ
  output_tokens : ℤ
  reusable_prefix_tokens : ℤ
  remote_kv_bytes : ℤ
  transfer_time_ms : F
  recompute_time_ms : F
  reuse_confidence : F
  queue_pressure : F
  policy_mode : String
  decision : MaterializationDecision
  reused_tokens : ℤ
  rationale : Rationale
  runtime_effective_decision : MaterializationDecision
  runtime_control_path : ControlPath
  runtime_cache_salt : Option String
  runtime_target_reuse_tokens : ℤ
  runtime_target_tail_tokens : ℤ
  runtime_decision_supported : Bool
  runtime_support_tier : SupportTier
  runtime_fallback_reason : Option FallbackReason

section

variable {F : Type} [PyFloat F] (py : Interpreter F) (env : Environment)

/-- `headers.get(HEADER_REQUEST_ID, request_id) or request_id`. -/
def observed_request_id (headers : Headers) (request_id : String) : String :=
  let named := (headers.get? HEADER_REQUEST_ID).getD request_id
  if named = "" then request_id else named

def live_observation (headers : Headers) (signals : MaterializationSignals F) (extras : SignalExtras)
    (policy_mode : String) (outcome : MaterializationOutcome) (plan : RuntimeControlPlan)
    (request_id : String) (prompt_tokens output_tokens : ℤ) : LiveObservation F where
  mode := getenv env "VLLM_KV_MATERIALIZATION_PLUGIN_MODE" "prefix_cache_runtime_control"
  request_id := observed_request_id headers request_id
  workload_case := extras.workload_case
  workload_family := extras.workload_family
  primary_anchor_id := extras.primary_anchor_id
  secondary_anchor_ids := extras.secondary_anchor_ids
  home_rank := extras.home_rank
  turn_index := extras.turn_index
  prompt_tokens := max prompt_tokens 0
  output_tokens := max output_tokens 0
  reusable_prefix_tokens := signals.reusable_prefix_tokens
  remote_kv_bytes := signals.remote_kv_bytes
  transfer_time_ms := roundTo signals.transfer_time_ms 6
  recompute_time_ms := roundTo signals.recompute_time_ms 6
  reuse_confidence := roundTo signals.reuse_confidence 6
  queue_pressure := roundTo signals.queue_pressure 6
  policy_mode
  decision := outcome.decision
  reused_tokens := outcome.reused_tokens
  rationale := outcome.rationale
  runtime_effective_decision := plan.effective_decision
  runtime_control_path := plan.control_path
  runtime_cache_salt := plan.cache_salt
  runtime_target_reuse_tokens := plan.target_reuse_tokens
  runtime_target_tail_tokens := plan.target_tail_tokens
  runtime_decision_supported := plan.decision_supported
  runtime_support_tier := plan.support_tier
  runtime_fallback_reason := plan.fallback_reason

/-- What `compute_runtime_control` does with the signals it estimated. -/
def control_signals (headers : Headers) (request_id : String) (prompt_tokens output_tokens : ℤ)
    (estimated : MaterializationSignals F × SignalExtras) :
    Except Exception (LiveObservation F × RuntimeControlPlan) := do
  let (signals, extras) := estimated
  let policy := make_policy py env
  let (policy_mode, outcome) ← select_policy_outcome py env signals policy
  let plan ← runtime_plan py env signals extras policy outcome request_id prompt_tokens
  return (live_observation env headers signals extras policy_mode outcome plan request_id
    prompt_tokens output_tokens, plan)

/-- The session a raising call leaves is the one `estimate_signals` left: nothing
after it touches the session, and nothing undoes what it wrote. -/
def compute_runtime_control (session : Session) (headers : Headers) (request_id : String)
    (prompt_tokens output_tokens : ℤ) :
    Except Exception (LiveObservation F × RuntimeControlPlan) × Session :=
  let (estimated, session) := estimate_signals py env session headers prompt_tokens output_tokens
  (estimated >>= control_signals py env headers request_id prompt_tokens output_tokens, session)

/-- `observe_request`, up to the log line it appends: the anchor it observed is counted
a second time. -/
def observe_request (session : Session) (headers : Headers) (request_id : String)
    (prompt_tokens output_tokens : ℤ) : Except Exception (LiveObservation F) × Session :=
  match compute_runtime_control py env session headers request_id prompt_tokens output_tokens with
  | (.error error, session) => (.error error, session)
  | (.ok (observation, _), session) =>
    (.ok observation,
      if observation.primary_anchor_id = "" then session
      else
        { session with
          anchor_seen_counts := session.anchor_seen_counts.set observation.primary_anchor_id
            ((session.anchor_seen_counts.get? observation.primary_anchor_id).getD 0 + 1) })

end

/-- The log after an observation. `recording` is what writing it raises. -/
def record_observation {F : Type} (env : Environment) (recording : Option Exception)
    (observation : LiveObservation F) (recorded : List (LiveObservation F)) :
    Except Exception Unit × List (LiveObservation F) :=
  if strip (getenv env "VLLM_KV_MATERIALIZATION_LOG_PATH" "") = "" then (.ok (), recorded)
  else
    match recording with
    | some error => (.error error, recorded)
    | none => (.ok (), recorded ++ [observation])

def RUNTIME_KV_TRANSFER_CONTROL_KEY : String := "kv_materialization_runtime_control"
def RUNTIME_KV_TRANSFER_CONTROL_SCHEMA_VERSION : ℤ := 1

structure RuntimeControlPayload where
  schema_version : ℤ
  observed_decision : String
  effective_decision : String
  control_path : String
  cache_salt : Option String
  decision_supported : Bool
  support_tier : String
  fallback_reason : Option String
  target_reuse_tokens : ℤ
  target_tail_tokens : ℤ
  segmented_tail_cache_salt : Option String
  requires_segmented_materialization : Bool
  deriving DecidableEq, Repr

def build_runtime_control_extra_args (plan : RuntimeControlPlan) : Dict String RuntimeControlPayload :=
  .ofList [(RUNTIME_KV_TRANSFER_CONTROL_KEY,
    { schema_version := RUNTIME_KV_TRANSFER_CONTROL_SCHEMA_VERSION
      observed_decision := plan.observed_decision.value
      effective_decision := plan.effective_decision.value
      control_path := plan.control_path.value
      cache_salt := plan.cache_salt
      decision_supported := plan.decision_supported
      support_tier := plan.support_tier.value
      fallback_reason := plan.fallback_reason.map FallbackReason.value
      target_reuse_tokens := plan.target_reuse_tokens
      target_tail_tokens := plan.target_tail_tokens
      segmented_tail_cache_salt := plan.segmented_tail_cache_salt
      requires_segmented_materialization := plan.observed_decision.value = "partial_reuse" })]

end vllm_kv_materialization.live_control
