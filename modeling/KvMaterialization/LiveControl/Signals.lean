import KvMaterialization.LiveControl.Headers
import KvMaterialization.Policy.Model

open python
open vllm_kv_materialization.policy

namespace vllm_kv_materialization.live_control

/-- The two module globals under `_ANCHOR_LOCK`. A history entry holds the prompt
tokens, the output tokens and the turn index of the last request. -/
structure Session where
  anchor_seen_counts : Dict String ℤ
  session_history : Dict String (ℤ × ℤ × ℤ)

def Session.init : Session := ⟨.empty, .empty⟩

/-- What a request takes out of its first critical section. -/
structure SessionRead where
  anchor_seen_count : ℤ
  previous_prompt_tokens : ℤ
  previous_output_tokens : ℤ
  previous_turn_index : ℤ
  deriving DecidableEq, Repr

/-- The first critical section of `estimate_signals`: the count is read and
incremented and the history is read, or nothing happens without an anchor. -/
def read_session (session : Session) (primary_anchor_id : String) : SessionRead × Session :=
  if primary_anchor_id = "" then (⟨0, 0, 0, -1⟩, session)
  else
    let anchor_seen_count := (session.anchor_seen_counts.get? primary_anchor_id).getD 0
    let previous := (session.session_history.get? primary_anchor_id).getD (0, 0, -1)
    (⟨anchor_seen_count, previous.1, previous.2.1, previous.2.2⟩,
      { session with
        anchor_seen_counts :=
          session.anchor_seen_counts.set primary_anchor_id (anchor_seen_count + 1) })

/-- The second critical section: the request becomes the history of its anchor. -/
def write_session (session : Session) (primary_anchor_id : String)
    (prompt_tokens output_tokens turn_index : ℤ) : Session :=
  if primary_anchor_id = "" then session
  else
    { session with
      session_history := session.session_history.set primary_anchor_id
        (max prompt_tokens 0, max output_tokens 0, turn_index) }

/-- The `extras` of `estimate_signals`. -/
structure SignalExtras where
  primary_anchor_id : String
  secondary_anchor_ids : List String
  workload_case : String
  workload_family : String
  home_rank : ℤ
  turn_index : ℤ
  deriving DecidableEq, Repr

section

variable {F : Type} [PyFloat F] (py : Interpreter F) (env : Environment)

def default_reuse_confidence (anchor_seen_count turn_index reusable_prefix_tokens : ℤ) : F :=
  if reusable_prefix_tokens ≤ 0 then lit 0
  else if anchor_seen_count > 0 then lit 0.95
  else if turn_index > 0 then lit 0.7
  else lit 0.35

def estimate_reusable_prefix_tokens (headers : Headers)
    (prompt_tokens previous_prompt_tokens previous_output_tokens : ℤ) : Except Exception ℤ := do
  let explicit := header_int py headers HEADER_SHARED_PREFIX_TOKENS (-1)
  if explicit ≥ 0 then
    return min explicit (max prompt_tokens 0)
  if previous_prompt_tokens > 0 then
    return min (previous_prompt_tokens + max previous_output_tokens 0) (max prompt_tokens 0)
  if strip (header headers HEADER_PRIMARY_ANCHOR) = "" ∨ prompt_tokens ≤ 0 then
    return 0
  let turn_index := header_int py headers HEADER_TURN_INDEX 0
  let prompt : F ← ofInt prompt_tokens
  if turn_index > 0 then
    return max 0 (← PyFloat.trunc (prompt * lit 0.6))
  return max 0 (← PyFloat.trunc (prompt * lit 0.35))

def request_turn_index (headers : Headers) (read : SessionRead) : ℤ :=
  header_int py headers HEADER_TURN_INDEX (read.previous_turn_index + 1)

/-- `remote_kv_bytes` seconds of transfer at the configured bandwidth, in
milliseconds; `0.0` without a positive bandwidth. -/
def transfer_ms (remote_kv_bytes : ℤ) : Except Exception F := do
  let bandwidth_gbps :=
    env_float py env "VLLM_KV_TRANSFER_BANDWIDTH_GBPS" (lit DEFAULT_TRANSFER_BANDWIDTH_GBPS)
  if lt (lit 0) bandwidth_gbps then
    return (← PyFloat.div (← ofInt remote_kv_bytes) (bandwidth_gbps * lit 1000000000)) * lit 1000
  return lit 0

def request_extras (headers : Headers) (read : SessionRead) : SignalExtras where
  primary_anchor_id := primary_anchor_id headers
  secondary_anchor_ids := split_secondary_anchor_ids (header headers HEADER_SECONDARY_ANCHORS)
  workload_case := header headers HEADER_WORKLOAD_CASE
  workload_family := header headers HEADER_WORKLOAD_FAMILY
  home_rank := header_int py headers HEADER_HOME_RANK 0
  turn_index := request_turn_index py headers read

/-- The rest of `estimate_signals`, past both critical sections. -/
def request_signals (headers : Headers) (read : SessionRead) (reusable_prefix_tokens : ℤ) :
    Except Exception (MaterializationSignals F × SignalExtras) := do
  let turn_index := request_turn_index py headers read
  let reuse_confidence := header_float py headers HEADER_REUSE_CONFIDENCE
    (default_reuse_confidence read.anchor_seen_count turn_index reusable_prefix_tokens)
  let queue_pressure := header_float py headers HEADER_QUEUE_PRESSURE
    (env_float py env "VLLM_KV_QUEUE_PRESSURE" (lit DEFAULT_QUEUE_PRESSURE))
  let bytes_per_token := env_int py env "VLLM_KV_BYTES_PER_TOKEN" DEFAULT_BYTES_PER_TOKEN
  let prefill_ms_per_1k :=
    env_float py env "VLLM_KV_PREFILL_MS_PER_1K" (lit DEFAULT_PREFILL_MS_PER_1K)
  let remote_kv_bytes := max reusable_prefix_tokens 0 * max bytes_per_token 0
  let transfer_time_ms ← transfer_ms py env remote_kv_bytes
  let thousands ← PyFloat.div (← ofInt (max reusable_prefix_tokens 0)) (lit 1000)
  let recompute_time_ms := thousands * prefill_ms_per_1k
  return (
    { reusable_prefix_tokens := max reusable_prefix_tokens 0
      remote_kv_bytes := max remote_kv_bytes 0
      transfer_time_ms := pyMax transfer_time_ms (lit 0)
      recompute_time_ms := pyMax recompute_time_ms (lit 0)
      queue_pressure := pyMax queue_pressure (lit 0)
      ttft_sensitive := true
      reuse_confidence := pyMax (lit 0) (pyMin reuse_confidence (lit 1)) },
    request_extras py headers read)

/-- The second critical section with what leads up to it: the reusable prefix is
estimated from what was read, and only if that succeeds is the history written. -/
def finish_session (session : Session) (headers : Headers) (read : SessionRead)
    (prompt_tokens output_tokens : ℤ) : Except Exception ℤ × Session :=
  match estimate_reusable_prefix_tokens py headers prompt_tokens read.previous_prompt_tokens
      read.previous_output_tokens with
  | .error error => (.error error, session)
  | .ok reusable_prefix_tokens =>
    (.ok reusable_prefix_tokens,
      write_session session (primary_anchor_id headers) prompt_tokens output_tokens
        (request_turn_index py headers read))

def estimate_signals (session : Session) (headers : Headers) (prompt_tokens output_tokens : ℤ) :
    Except Exception (MaterializationSignals F × SignalExtras) × Session :=
  let (read, session) := read_session session (primary_anchor_id headers)
  let (reusable_prefix_tokens, session) :=
    finish_session py session headers read prompt_tokens output_tokens
  (reusable_prefix_tokens >>= request_signals py env headers read, session)

end

end vllm_kv_materialization.live_control
