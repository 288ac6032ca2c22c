import KvMaterialization.LiveControl.Estimates

open python
open vllm_kv_materialization.live_control

namespace vllm_kv_materialization.plugin

/-- `_REQUEST_HEADERS`: the header names the processor is registered with. -/
def REQUEST_HEADERS : List String := [
  HEADER_REQUEST_ID,
  HEADER_PRIMARY_ANCHOR,
  HEADER_SECONDARY_ANCHORS,
  HEADER_SHARED_PREFIX_TOKENS,
  HEADER_REUSE_CONFIDENCE,
  HEADER_QUEUE_PRESSURE,
  HEADER_WORKLOAD_CASE,
  HEADER_WORKLOAD_FAMILY,
  HEADER_TURN_INDEX,
  HEADER_HOME_RANK]

/-- What the hook reads of the host's context. -/
structure RequestProcessingContext where
  headers : List (String × String)
  request_id : String
  prompt_tokens : ℤ
  max_tokens : ℤ

variable {F : Type} [PyFloat F] (py : Interpreter F) (env : Environment)

/-- The hook, up to the log line it appends where a log path is configured. -/
def process_request (session : Session) (context : RequestProcessingContext) :
    Except Exception (Dict String RuntimeControlPayload) × Session :=
  let headers := bind_request_headers py.lower context.headers
  let (controlled, session) := compute_runtime_control py env session headers context.request_id
    context.prompt_tokens context.max_tokens
  (controlled.map (fun (_, plan) => build_runtime_control_extra_args plan), session)

/-- The headers a host passes on that keeps to the registered names, in whatever
case the request spells them. -/
def RequestProcessingContext.visible (context : RequestProcessingContext) : RequestProcessingContext :=
  { context with
    headers := context.headers.filter (fun item => py.lower item.1 ∈ REQUEST_HEADERS) }

end vllm_kv_materialization.plugin
