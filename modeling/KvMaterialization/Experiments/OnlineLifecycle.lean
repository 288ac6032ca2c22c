import KvMaterialization.Effects
import KvMaterialization.Experiments.OnlineBundle
import KvMaterialization.Python.Lines

open python effects

namespace run_online_lifecycle

def SCHEMA_VERSION : ℤ := 1

/-- The keys of `CONDITIONS`. -/
inductive Condition where
  | baseline
  | tuned
  deriving DecidableEq, Repr

def Condition.name : Condition → String
  | baseline => "baseline"
  | tuned => "tuned"

def Condition.floor_tokens : Condition → ℤ
  | baseline => 256
  | tuned => 128

def Condition.confidence_penalty_ms : Condition → ℚ
  | baseline => 4.0
  | tuned => 8.0

inductive PolicyMode where
  | controller
  | always_recompute
  | always_full_reuse
  deriving DecidableEq, Repr

def PolicyMode.name : PolicyMode → String
  | controller => "controller"
  | always_recompute => "always_recompute"
  | always_full_reuse => "always_full_reuse"

inductive Seam where
  | old
  | segmented
  deriving DecidableEq, Repr

def Seam.name : Seam → String
  | old => "old"
  | segmented => "segmented"

/-- The arguments, the paths among them as `main` resolves them. -/
structure Args (F : Type) where
  bundle_dir : String
  workload_case : String
  condition : Condition
  policy_mode : PolicyMode
  seam : Seam
  carrier_root : String
  model : String
  served_model_name : String
  device : ℤ
  host : String
  port : ℤ
  block_size : ℤ
  max_model_len : ℤ
  gpu_memory_utilization : F
  request_rate : F
  concurrency : ℤ
  max_output_tokens : ℤ
  seed : ℤ
  env_name : String
  health_timeout_s : ℤ
  evidence_label : String
  allow_dirty : Bool

/-- What a call raises: the name of its class and its text. -/
structure Raised where
  name : String
  text : String
  deriving DecidableEq, Repr

/-- `f"{type(exc).__name__}: {exc}"` -/
def Raised.message (self : Raised) : String := s!"{self.name}: {self.text}"

/-- How a write ends: with the whole payload in the file, or with an error that has
left the file alone or with only a part of it. -/
inductive Written (α : Type) where
  | done
  | failed (error : Raised) (left : Option α)

/-- How a captured command ends. -/
inductive Ran where
  | finished (returncode : ℤ) (stdout stderr : String)
  | not_found (text : String)
  | raised (error : Raised)

structure Capture where
  command : List String
  returncode : ℤ
  stdout : String
  stderr : String
  deriving DecidableEq, Repr

def run_capture (command : List String) : Ran → Except Raised Capture
  | .finished returncode stdout stderr => .ok ⟨command, returncode, stdout, stderr⟩
  | .not_found text => .ok ⟨command, 127, "", text⟩
  | .raised error => .error error

structure GitState where
  path : String
  commit : String
  branch : String
  dirty : Bool
  status_porcelain : List String
  deriving DecidableEq, Repr

/-- What the three commands of `git_state` print, each of which may raise. -/
structure Git where
  path : String
  status : Except Raised String
  head : Except Raised String
  branch : Except Raised String

def git_state (git : Git) : Except Raised GitState := do
  let status := strip (← git.status)
  let commit := strip (← git.head)
  let branch := strip (← git.branch)
  return {
    path := git.path
    commit
    branch := if branch = "" then "DETACHED" else branch
    dirty := status ≠ ""
    status_porcelain := splitlines status }

def npu_is_idle (npu_info : String) (device : ℤ) : Bool :=
  contains npu_info s!"No running processes found in NPU {device}"

inductive Response where
  | status (code : ℤ)
  | unreachable (text : String)
  | raised (error : Raised)

/-- A round of the health check that begins before the deadline. -/
structure Probe where
  polled : Option ℤ
  response : Response
  sleep : Except Raised Unit

inductive Wait where
  | returned (returncode : ℤ)
  | timed_out
  | raised (error : Raised)

/-- What the calls of `stop_process_group` give. -/
structure Stopping where
  polled : Option ℤ
  terminate : Except Raised Unit
  wait : Wait
  kill : Except Raised Unit
  wait_killed : Except Raised ℤ

/-- All that the host answers to a run of `main`, call by call. -/
structure Host (F : Type) where
  executable : String
  environ : Dict String String
  conda_prefix : Option String
  bundle_exists : Bool
  parent : Git
  carrier : Git
  mkdir : Except Raised Unit
  created_at_utc : String
  npu_before : Ran
  workload_source : Except Raised (Json F)
  versions : Ran
  model_config : Except Raised (Json F)
  environment_written : Written Raised
  port_free_before : Except Raised Bool
  model_config_is_file : Except Raised Bool
  blocked_written : Written String
  run_started_at_utc : String
  starting_written : Written Raised
  server_log_opened : Except Raised Unit
  server_started : Except Raised ℕ
  serving_written : Written Raised
  probes : List Probe
  server_log : Except Raised String
  client_log_opened : Except Raised Unit
  client : Except Raised ℤ
  run_finished_at_utc : String
  completed_written : Written Raised
  failure_written : Written String
  failed_at_utc : String
  failed_run_written : Written Raised
  stopping : Stopping
  port_free_after : Except Raised Bool
  npu_after : Ran
  cleanup_finished_at_utc : String
  cleanup_written : Written Raised
  final_server_log : Except Raised String
  final_environment_written : Written Raised

/-- What has been done to the server process. -/
inductive Act where
  | started (pid : ℕ)
  | exited (returncode : ℤ)
  | confirmed
  | drove (returncode : ℤ)
  | terminated
  | killed
  deriving DecidableEq, Repr

/-- A JSON file that may be missing, and what reading it gives. -/
abbrev Stored (F : Type) := Option (Except Raised (Json F))

/-- The bundle directory and the server. -/
structure World (F : Type) where
  environment_manifest : Stored F
  run_manifest : Stored F
  cleanup : Stored F
  failed : Option String
  blocked : Option String
  server_log : Bool
  client_log : Bool
  server : Option ℕ
  returncode : Option ℤ
  history : List Act

def World.empty (F : Type) : World F := ⟨none, none, none, none, none, false, false, none, none, []⟩

inductive Artifact where
  | environment_manifest
  | run_manifest
  | cleanup

section

variable {F : Type}

def World.store (world : World F) (stored : Stored F) : Artifact → World F
  | .environment_manifest => { world with environment_manifest := stored }
  | .run_manifest => { world with run_manifest := stored }
  | .cleanup => { world with cleanup := stored }

def World.record (world : World F) (act : Act) : World F := { world with history := world.history ++ [act] }

/-- The process is known to have ended. -/
def World.reap (world : World F) (returncode : ℤ) : World F :=
  { world.record (.exited returncode) with returncode := some returncode }

abbrev Step (F α : Type) := Action (World F) Raised α

/-- A write that does `whole`, or `part` of what it has left before it raised. -/
def write {σ α : Type} (outcome : Written α) (whole : σ → σ) (part : α → σ → σ) : Action σ Raised Unit :=
  match outcome with
  | .done => update whole
  | .failed error none => raise error
  | .failed error (some left) => do
    update (part left)
    raise error

def write_json (outcome : Written Raised) (artifact : Artifact) (payload : Json F) : Step F Unit :=
  write outcome (fun world => world.store (some (.ok payload)) artifact)
    fun unreadable world => world.store (some (.error unreadable)) artifact

def write_text (outcome : Written String) (put : World F → String → World F) (text : String) : Step F Unit :=
  write outcome (fun world => put world text) fun part world => put world part

/-- `process.poll()`, which keeps giving the code once there is one. -/
def poll (outcome : Option ℤ) : Step F (Option ℤ) := do
  match ← observe World.returncode, outcome with
  | some returncode, _ => return some returncode
  | none, some returncode =>
    update fun world => world.reap returncode
    return some returncode
  | none, none => return none

def wait_until_healthy (timeout_s : ℤ) (last_error : String) : List Probe → Step F Unit
  | [] => raise ⟨"TimeoutError", s!"server health check timed out after {timeout_s}s: {last_error}"⟩
  | probe :: rest => do
    match ← poll probe.polled with
    | some returncode =>
      raise ⟨"RuntimeError", s!"server exited before health check, returncode={returncode}"⟩
    | none =>
      match probe.response with
      | .raised error => raise error
      | .status code =>
        if code = 200 then
          return ()
        call probe.sleep
        wait_until_healthy timeout_s s!"HTTP {code}" rest
      | .unreachable text =>
        call probe.sleep
        wait_until_healthy timeout_s text rest

def validate_server_carrier_log (py : Interpreter F) (log : String) (requested_block_size : ℤ) :
    Except Raised Unit :=
  if contains log "Failed to import vLLM during plugin registration" then
    .error ⟨"RuntimeError", "KV materialization plugin registration failed"⟩
  else if !contains log "KV_MATERIALIZATION_PLUGIN_REGISTERED" then
    .error ⟨"RuntimeError", "KV materialization plugin registration was not confirmed"⟩
  else
    match searchNumeral py "Block size is set to ".toList log.toList with
    | none => .ok ()
    | some digits =>
      match py.int digits with
      | none => .error ⟨"ValueError", "invalid literal for int() with base 10: " ++ py.repr digits⟩
      | some forced_block_size =>
        if forced_block_size = requested_block_size then .ok ()
        else
          .error ⟨"RuntimeError", s!"effective block size {digits} != requested {requested_block_size}"⟩

/-- What `stop_process_group` returns. -/
def stopped (already_exited : Bool) (returncode : ℤ) (forced : Bool) : Json F :=
  .dict [("already_exited", .bool already_exited), ("returncode", .int returncode), ("forced", .bool forced)]

def stop_process_group (stopping : Stopping) : Step F (Json F) := do
  match ← poll stopping.polled with
  | some returncode => return stopped true returncode false
  | none =>
    call stopping.terminate
    update fun world => world.record .terminated
    match stopping.wait with
    | .raised error => raise error
    | .returned returncode =>
      update fun world => world.reap returncode
      return stopped false returncode false
    | .timed_out =>
      call stopping.kill
      update fun world => world.record .killed
      let returncode ← call stopping.wait_killed
      update fun world => world.reap returncode
      return stopped false returncode true

/-- `value.get(key)` on what a file decodes to. -/
def get (value : Json F) (key : String) : Except Raised (Json F) :=
  match value.get key with
  | .ok found => .ok found
  | .error _ => .error ⟨"AttributeError", "object has no attribute 'get'"⟩

def texts (items : List String) : Json F := .list (items.map .str)

def Capture.json (self : Capture) : Json F := .dict [
  ("command", texts self.command),
  ("returncode", .int self.returncode),
  ("stdout", .str self.stdout),
  ("stderr", .str self.stderr)]

def GitState.json (self : GitState) : Json F := .dict [
  ("path", .str self.path),
  ("commit", .str self.commit),
  ("branch", .str self.branch),
  ("dirty", .bool self.dirty),
  ("status_porcelain", texts self.status_porcelain)]

def GRAPH_TOKENS : List String := ["cudagraph", "graph mode", "enforce_eager", "enforce eager"]

/-- The lines of the server log that say how the graphs were run. -/
def graph_evidence (py : Interpreter F) (log : String) : List String :=
  (splitlines log).filter fun line => GRAPH_TOKENS.any fun token => contains (py.lower line) token

end

section

variable {F : Type} [PyNumber F] (runtime : Runtime F) (fingerprint : Json F → String) (args : Args F)
  (host : Host F)

def base_url : String := s!"http://{args.host}:{args.port}"

/-- What has been learned of the host before the bundle is begun. -/
structure Checked (F : Type) where
  parent_state : GitState
  carrier_state : GitState
  npu_check : Capture
  workload_source : Json F
  versions : Capture
  model_config : Json F
  model_config_commit : Json F

def protocol (checked : Checked F) : Json F := .dict [
  ("workload_case", .str args.workload_case),
  ("workload_source", checked.workload_source),
  ("model", .str args.model),
  ("model_config_commit", checked.model_config_commit),
  ("device", .int args.device),
  ("served_model_name", .str args.served_model_name),
  ("block_size", .int args.block_size),
  ("max_model_len", .int args.max_model_len),
  ("gpu_memory_utilization", .float args.gpu_memory_utilization),
  ("request_rate", .float args.request_rate),
  ("concurrency", .int args.concurrency),
  ("max_output_tokens", .int args.max_output_tokens),
  ("seed", .int args.seed),
  ("execution_mode", .str "graph")]

/-- `manifest`, as it is first written. -/
def environment_manifest (checked : Checked F) : Json F := .dict [
  ("schema_version", .int SCHEMA_VERSION),
  ("created_at_utc", .str host.created_at_utc),
  ("evidence_label", .str args.evidence_label),
  ("host_launcher", .str "repo-local shell lifecycle runner"),
  ("container", .null),
  ("parent", checked.parent_state.json),
  ("carrier", checked.carrier_state.json),
  ("workload_source", checked.workload_source),
  ("python_executable", .str host.executable),
  ("conda_prefix", Json.nullable .str host.conda_prefix),
  ("conda_environment", .str args.env_name),
  ("versions", checked.versions.json),
  ("npu_info", checked.npu_check.json),
  ("model", .str args.model),
  ("model_config", checked.model_config),
  ("device", .int args.device),
  ("host", .str args.host),
  ("port", .int args.port),
  ("execution_mode_requested", .str "graph-capable default; --enforce-eager absent"),
  ("execution_mode_effective_source", .str "server.log"),
  ("block_size", .int args.block_size),
  ("max_model_len", .int args.max_model_len),
  ("protocol", protocol args checked),
  ("protocol_fingerprint", .str (fingerprint (protocol args checked)))]

/-- The variables `main` sets for the server. -/
def server_assignments : List (String × String) := [
  ("ASCEND_RT_VISIBLE_DEVICES", toString args.device),
  ("ENV_NAME", args.env_name),
  ("MODEL", args.model),
  ("SERVED_MODEL_NAME", args.served_model_name),
  ("WORKLOAD_CASE", args.workload_case),
  ("HOST", args.host),
  ("PORT", toString args.port),
  ("ENABLE_PLUGIN", "1"),
  ("MAX_MODEL_LEN", toString args.max_model_len),
  ("BLOCK_SIZE", toString args.block_size),
  ("GPU_MEMORY_UTILIZATION", runtime.str (.float args.gpu_memory_utilization)),
  ("VLLM_KV_PARTIAL_REUSE_FLOOR_TOKENS", toString args.condition.floor_tokens),
  ("VLLM_KV_CONFIDENCE_PENALTY_MS", runtime.str (.float (lit args.condition.confidence_penalty_ms))),
  ("VLLM_KV_RUNTIME_BLOCK_SIZE", toString args.block_size),
  ("VLLM_KV_RUNTIME_HASH_BLOCK_SIZE", toString args.block_size),
  ("VLLM_KV_RUNTIME_SEAM", args.seam.name),
  ("VLLM_KV_POLICY_MODE", args.policy_mode.name),
  ("VLLM_KV_MATERIALIZATION_LOG_PATH", args.bundle_dir ++ "/runtime_observations.jsonl"),
  ("VLLM_KV_MATERIALIZATION_RUNTIME_EVENT_LOG_PATH", args.bundle_dir ++ "/runtime_events.jsonl"),
  ("VLLM_DEBUG_PREFIX_CACHE_TRACE", "1"),
  ("CARRIER_VLLM_HUST_ROOT", args.carrier_root)]

def server_env : Dict String String := host.environ.update (server_assignments runtime args)

def RECORDED_PREFIXES : List String := ["ASCEND_", "VLLM_", "MODEL", "SERVED_", "WORKLOAD_", "BLOCK_",
  "MAX_MODEL_", "GPU_MEMORY_", "HOST", "PORT", "ENV_NAME", "CARRIER_"]

/-- The recorded part of the environment, by name. -/
def server_environment : Json F :=
  let recorded := (server_env runtime args host).entries.filter fun entry =>
    RECORDED_PREFIXES.any fun start => validate_online_bundle.startswith entry.1 start
  .dict ((recorded.insertionSort fun a b => a.1 ≤ b.1).map fun entry => (entry.1, .str entry.2))

def server_command : List String := ["bash",
  "paper/kv_materialization_control/experiments/launch_vllm_kv_materialization_server.sh",
  "--tensor-parallel-size", "1"]

def client_command : List String := [host.executable,
  "paper/kv_materialization_control/experiments/run_openai_workloads.py",
  "--base-url", base_url args,
  "--model", args.served_model_name,
  "--tokenizer", args.model,
  "--workload-case", args.workload_case,
  "--seed", toString args.seed,
  "--request-rate", runtime.str (.float args.request_rate),
  "--concurrency", toString args.concurrency,
  "--max-output-tokens", toString args.max_output_tokens,
  "--output", args.bundle_dir ++ "/request_summary.json",
  "--requests-output", args.bundle_dir ++ "/request_results.jsonl"]

/-- `run_manifest`, as it is first written. -/
def starting_manifest : Json F := .dict [
  ("schema_version", .int SCHEMA_VERSION),
  ("status", .str "starting"),
  ("started_at_utc", .str host.run_started_at_utc),
  ("evidence_label", .str args.evidence_label),
  ("workload_case", .str args.workload_case),
  ("seam", .str args.seam.name),
  ("condition", .str args.condition.name),
  ("policy_mode", .str args.policy_mode.name),
  ("condition_knobs", .dict [
    ("floor_tokens", .int args.condition.floor_tokens),
    ("confidence_penalty_ms", .float (lit args.condition.confidence_penalty_ms))]),
  ("server_command", texts server_command),
  ("server_environment", server_environment runtime args host),
  ("client_command", texts (client_command runtime args host))]

/-- `run_manifest` once the server has a process. -/
def serving_manifest (pid : ℕ) : Json F :=
  ((starting_manifest runtime args host).assign "server_pid" (.int pid)).assign "service_lifecycle_id"
    (.str s!"{host.created_at_utc}-pid-{pid}")

/-- `run_manifest` once the client has returned. -/
def completed_manifest (pid : ℕ) : Json F :=
  (((serving_manifest runtime args host pid).assign "status" (.str "completed")).assign "finished_at_utc"
    (.str host.run_finished_at_utc)).assign "client_returncode" (.int 0)

/-- `run_manifest.update(...)` of the handler. -/
def failed_manifest (run_manifest : Json F) (error : Raised) : Json F :=
  ((run_manifest.assign "status" (.str "failed")).assign "finished_at_utc" (.str host.failed_at_utc)).assign
    "error" (.str error.message)

/-- Everything up to the first file of the bundle. -/
def check_host : Except Raised (Checked F) := do
  if host.bundle_exists then
    throw ⟨"SystemExit", "refusing to overwrite existing bundle directory: " ++ args.bundle_dir⟩
  let parent_state ← git_state host.parent
  let carrier_state ← git_state host.carrier
  host.mkdir
  let npu_check ← run_capture ["npu-smi", "info"] host.npu_before
  let workload_source ← host.workload_source
  let versions ← run_capture [host.executable, "-m", "pip", "list", "--format=json"] host.versions
  let model_config ← host.model_config
  let model_config_commit ← get model_config "_commit_hash"
  return { parent_state, carrier_state, npu_check, workload_source, versions, model_config, model_config_commit }

/-- The reasons not to start a server. -/
def blocking_reasons (checked : Checked F) : Except Raised (List String) := do
  let idle := checked.npu_check.returncode = 0 ∧ npu_is_idle checked.npu_check.stdout args.device
  let port_free ← host.port_free_before
  let dirty := (checked.parent_state.dirty || checked.carrier_state.dirty) && !args.allow_dirty
  let configured ← host.model_config_is_file
  let reason (blocks : Bool) (text : String) : List String := if blocks then [text] else []
  return reason (!decide idle) s!"NPU {args.device} is not confirmed idle" ++
    reason (!port_free) s!"port {args.host}:{args.port} is occupied" ++
    reason dirty "parent or carrier worktree is dirty" ++
    reason (!configured) s!"model config missing: {args.model}/config.json"

/-- The server's process, which the run manifest names once it is there. -/
def start_server : Step F ℕ := do
  write_json host.starting_written .run_manifest (starting_manifest runtime args host)
  call host.server_log_opened
  update fun world => { world with server_log := true }
  let pid ← call host.server_started
  update fun world => { world.record (.started pid) with server := some pid }
  write_json host.serving_written .run_manifest (serving_manifest runtime args host pid)
  return pid

def confirm_server : Step F Unit := do
  wait_until_healthy args.health_timeout_s "not attempted" host.probes
  let log ← call host.server_log
  call (validate_server_carrier_log runtime.toInterpreter log args.block_size)
  update fun world => world.record .confirmed

def drive_client (pid : ℕ) : Step F ℤ := do
  call host.client_log_opened
  update fun world => { world with client_log := true }
  let returncode ← call host.client
  update fun world => world.record (.drove returncode)
  if returncode = 0 then
    write_json host.completed_written .run_manifest (completed_manifest runtime args host pid)
    return 0
  else
    raise ⟨"RuntimeError", s!"workload driver failed with returncode={returncode}"⟩

/-- The server, from its start to the end of the client. -/
def serve : Step F ℤ := do
  let pid ← start_server runtime args host
  confirm_server runtime args host
  drive_client runtime args host pid

/-- The `try` block. -/
def run_lifecycle (checked : Checked F) : Step F ℤ := do
  let blocking ← call (blocking_reasons args host checked)
  if blocking = [] then
    serve runtime args host
  else
    write_text host.blocked_written (fun world text => { world with blocked := some text })
      ("\n".intercalate blocking ++ "\n")
    return 3

/-- The handler: every failure is preserved. -/
def preserve_failure (error : Raised) : Step F ℤ := do
  write_text host.failure_written (fun world text => { world with failed := some text }) (error.message ++ "\n")
  match ← observe World.run_manifest with
  | none => return 1
  | some stored =>
    let run_manifest ← call stored
    write_json host.failed_run_written .run_manifest (failed_manifest host run_manifest error)
    return 1

def stop_server : Step F (List (String × Json F)) := do
  match ← observe World.server with
  | none => return []
  | some _ => return [("server", ← stop_process_group host.stopping)]

/-- `final_manifest`, once it is given the lines of the server log on the graphs. -/
def final_manifest (manifest : Json F) (log : String) : Json F :=
  (manifest.assign "execution_mode_evidence" (texts (graph_evidence runtime.toInterpreter log))).assign
    "cleanup_path" (.str (args.bundle_dir ++ "/cleanup.json"))

/-- The environment manifest is finished where there is a server log. -/
def record_graphs : Step F Unit := do
  match ← observe fun world : World F => (world.environment_manifest, world.server_log) with
  | (some stored, true) =>
    let manifest ← call stored
    let log ← call host.final_server_log
    write_json host.final_environment_written .environment_manifest (final_manifest runtime args manifest log)
  | _ => return ()

/-- The `finally` block. -/
def clean_up : Step F Unit := do
  let server ← stop_server host
  let port_free ← call host.port_free_after
  let final_npu ← call (run_capture ["npu-smi", "info"] host.npu_after)
  write_json host.cleanup_written .cleanup (.dict (server ++ [
    ("port_free_after", .bool port_free),
    ("npu_info_after", final_npu.json),
    ("device_idle_after", .bool (npu_is_idle final_npu.stdout args.device)),
    ("finished_at_utc", .str host.cleanup_finished_at_utc)]))
  record_graphs runtime args host

def main : Step F ℤ := do
  let checked ← call (check_host args host)
  write_json host.environment_written .environment_manifest (environment_manifest fingerprint args host checked)
  ensure (attempt (run_lifecycle runtime args host checked) (preserve_failure host)) (clean_up runtime args host)

end

end run_online_lifecycle
