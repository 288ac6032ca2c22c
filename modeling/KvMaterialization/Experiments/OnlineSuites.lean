import KvMaterialization.Experiments.OnlineLifecycle
import KvMaterialization.Python.Numerals

open python effects
open run_online_lifecycle (Args Condition PolicyMode Raised Seam Stored Written write)

/-- The validator as a program, which also writes its result. -/
def validate_online_bundle.main {F : Type} [PyNumber F] (runtime : Runtime F) (bundle : validate_online_bundle.Bundle F)
    (expected_evidence_label : Option String) (realized_partial_required : Bool) (written : Except Exception Unit) :
    Except Exception ℤ := do
  let result ← validate_online_bundle.validate_bundle runtime bundle expected_evidence_label realized_partial_required
  written
  return if result.valid then 0 else 1

/-! The runners of suites are one loop over their schedules. -/

namespace online_suites

/-- The arguments the runners share. -/
structure SuiteArgs where
  suite_dir : String
  model : String
  carrier_root : String
  device : ℤ
  port : ℤ

/-- What a lifecycle makes of the command of a runner: what is not passed is at its default. -/
def lifecycle_args {F : Type} [PyFloat F] (args : SuiteArgs) (bundle_dir workload_case : String)
    (condition : Condition) (policy_mode : PolicyMode) (seam : Seam) (carrier_root : String) (block_size : ℤ)
    (request_rate : F) (max_output_tokens : ℤ) (evidence_label : String) : Args F where
  bundle_dir
  workload_case
  condition
  policy_mode
  seam
  carrier_root
  model := args.model
  served_model_name := "Qwen2.5-7B-Instruct"
  device := args.device
  host := "127.0.0.1"
  port := args.port
  block_size
  max_model_len := 32768
  gpu_memory_utilization := lit 0.85
  request_rate
  concurrency := 4
  max_output_tokens
  seed := 7
  env_name := "vllm-kv-materialization-exp"
  health_timeout_s := 900
  evidence_label
  allow_dirty := false

/-- `f"round_{round_index:02d}_sequence_{sequence:02d}"` -/
def round_name (round_index sequence : ℕ) : String := "round_" ++ padded round_index ++ "_sequence_" ++ padded sequence

/-- The three policies of a round, in the order they are run in. -/
abbrev Order := List PolicyMode

/-- The rounds with the policies of each, `enumerate(orders, start=1)`. -/
def rounds (orders : List Order) : List (ℕ × PolicyMode) :=
  (orders.zipIdx 1).flatMap fun order => order.1.map fun policy => (order.2, policy)

def POLICIES : Order := [.always_recompute, .always_full_reuse, .controller]

/-- The first three of `ROUND_ORDERS`, which the M2 runners have in common. -/
def ROUND_ORDERS : List Order := [
  POLICIES,
  [.controller, .always_recompute, .always_full_reuse],
  [.always_full_reuse, .controller, .always_recompute]]

/-- What one runner has and another has not. The entries before the schedule are not those
that the loop writes. -/
structure Suite (F S : Type) where
  inside_worktree : String
  overwrites : String
  heading : F → List (String × Json F)
  plain : ∀ started_at_s, ∀ entry ∈ heading started_at_s, entry.1 ≠ "runs" ∧ entry.1 ≠ "status"
  schedule : List S
  spec : S → Json F
  arguments : S → ℕ → Args F
  evidence_label : String
  begins : Bool
  flags : Bool

/-- All that the host answers to a runner, by the place in the schedule. -/
structure Host (F : Type) where
  inside_worktree : Bool
  suite_exists : Bool
  mkdir : Except Raised Unit
  started_at_s : F
  begun_written : Written Raised
  lifecycle : ℕ → Args F → Except Raised ℤ
  validation : ℕ → String → String → Except Raised ℤ
  flag_written : ℕ → Except Raised Unit
  record_written : ℕ → Written Raised
  finished_at_s : F
  finished_written : Written Raised

/-- What a runner starts. -/
inductive Act (F : Type) where
  | lifecycle (args : Args F)
  | validation (bundle_dir : String)

/-- The manifest of the suite, the bundles marked as failed, and what was started. -/
structure World (F : Type) where
  suite_manifest : Stored F
  flagged : List String
  history : List (Act F)

def World.empty (F : Type) : World F := ⟨none, [], []⟩

section

variable {F S : Type}

def World.record (world : World F) (act : Act F) : World F := { world with history := world.history ++ [act] }

abbrev Step (F α : Type) := Action (World F) Raised α

def write_json (outcome : Written Raised) (payload : Json F) : Step F Unit :=
  write outcome (fun world => { world with suite_manifest := some (.ok payload) })
    fun unreadable world => { world with suite_manifest := some (.error unreadable) }

variable (suite : Suite F S) (host : Host F)

/-- `enumerate(schedule, start=1)` -/
def Suite.sequenced : List (S × ℕ) := suite.schedule.zipIdx 1

def Suite.bundle_dir (entry : S × ℕ) : String := (suite.arguments entry.1 entry.2).bundle_dir

/-- The record of a run, once its lifecycle has ended and its validation, if there is one. -/
def Suite.run_record (entry : S × ℕ) (returncode : ℤ) (validation : Option ℤ) : Json F :=
  .dict ([
    ("sequence", .int entry.2),
    ("spec", suite.spec entry.1),
    ("bundle_dir", .str (suite.bundle_dir entry)),
    ("returncode", .int returncode)] ++
    validation.toList.map fun code => ("validation_returncode", .int code))

/-- `execution`, with the entries it is closed with. -/
def Suite.execution (runs : List (Json F)) (closing : List (String × Json F)) : Json F :=
  .dict (suite.heading host.started_at_s ++
    [("schedule", .list (suite.schedule.map suite.spec)), ("runs", .list runs)] ++ closing)

/-- The record of a run and the code that decides whether the suite goes on. -/
def run_one (entry : S × ℕ) : Step F (Json F × ℤ) := do
  let args := suite.arguments entry.1 entry.2
  update fun world => world.record (.lifecycle args)
  let returncode ← call (host.lifecycle entry.2 args)
  if returncode = 0 then
    update fun world => world.record (.validation args.bundle_dir)
    let validation ← call (host.validation entry.2 args.bundle_dir suite.evidence_label)
    if validation ≠ 0 ∧ suite.flags then
      call (host.flag_written entry.2)
      update fun world => { world with flagged := world.flagged ++ [args.bundle_dir] }
      return (suite.run_record entry returncode (some validation), validation)
    return (suite.run_record entry returncode (some validation), validation)
  return (suite.run_record entry returncode none, returncode)

/-- The runs and the status the suite ends with. -/
def run_all : List (S × ℕ) → List (Json F) → Step F (List (Json F) × String)
  | [], runs => return (runs, "completed")
  | entry :: rest, runs => do
    let (run_record, returncode) ← run_one suite host entry
    let runs := runs ++ [run_record]
    write_json (host.record_written entry.2) (suite.execution host runs [])
    if returncode = 3 then
      return (runs, "blocked")
    else if returncode ≠ 0 then
      return (runs, "failed")
    else run_all rest runs

def closing (status : String) : List (String × Json F) :=
  [("status", .str status), ("finished_at_s", .float host.finished_at_s)]

/-- The directory of the suite, which has to be new. -/
def enter (inside_worktree overwrites : String) : Step F Unit := do
  if host.inside_worktree then
    raise ⟨"SystemExit", inside_worktree⟩
  else if host.suite_exists then
    raise ⟨"SystemExit", overwrites⟩
  else call host.mkdir

/-- The suite, once it has a directory. -/
def execute : Step F ℤ := do
  if suite.begins then
    write_json host.begun_written (suite.execution host [] [])
  let (runs, status) ← run_all suite host suite.sequenced []
  write_json host.finished_written (suite.execution host runs (closing host status))
  return if status = "completed" then 0 else 1

def main : Step F ℤ := do
  enter host suite.inside_worktree suite.overwrites
  execute suite host

end

end online_suites

open online_suites

namespace run_formal_online_matrix

structure RunSpec where
  workload : String
  seam : Seam
  condition : Condition
  round_index : ℕ
  order_index : ℕ
  request_rate : ℚ
  max_output_tokens : ℤ

def ROUND_ORDERS : List (List (Seam × Condition)) := [
  [(.old, .baseline), (.segmented, .tuned), (.old, .tuned), (.segmented, .baseline)],
  [(.segmented, .tuned), (.old, .baseline), (.segmented, .baseline), (.old, .tuned)],
  [(.old, .tuned), (.segmented, .baseline), (.old, .baseline), (.segmented, .tuned)]]

def WORKLOADS : List (String × ℚ × ℤ) := [
  ("shared_scenario_multi_turn_knowledge_service", 24, 64),
  ("shared_tool_scaffold_agent", 18, 128)]

def build_schedule : List RunSpec :=
  (WORKLOADS.flatMap fun (workload, request_rate, max_output_tokens) =>
    (ROUND_ORDERS.zipIdx 1).flatMap fun (order, round_index) =>
      (order.zipIdx 1).map fun ((seam, condition), order_index) =>
        { workload, seam, condition, round_index, order_index, request_rate, max_output_tokens : RunSpec }) ++
  (List.range' 1 3).map fun round_index =>
    { workload := "dynamic_rag_corpus_update", seam := .segmented, condition := .tuned, round_index,
      order_index := 1, request_rate := 18, max_output_tokens := 72 }

section

variable {F : Type} [PyFloat F]

def RunSpec.json (spec : RunSpec) : Json F := .dict [
  ("workload", .str spec.workload),
  ("seam", .str spec.seam.name),
  ("condition", .str spec.condition.name),
  ("round_index", .int spec.round_index),
  ("order_index", .int spec.order_index),
  ("request_rate", .float (lit spec.request_rate)),
  ("max_output_tokens", .int spec.max_output_tokens)]

/-- `args.carrier_root` of the shared arguments is the one of the old seam. -/
def suite (args : SuiteArgs) (segmented_carrier_root : String) (block_size : ℤ) : Suite F RunSpec where
  inside_worktree := "suite-dir must be outside the parent worktree so lifecycle evidence " ++
    "cannot trip the clean-worktree gate; import the completed suite afterward"
  overwrites := "refusing to overwrite suite directory: " ++ args.suite_dir
  heading started_at_s := [("schema_version", .int 1), ("started_at_s", .float started_at_s)]
  plain _ := by simp
  schedule := build_schedule
  spec := RunSpec.json
  arguments spec sequence :=
    lifecycle_args args
      (args.suite_dir ++ "/" ++ spec.workload ++ "/" ++ spec.seam.name ++ "_" ++ spec.condition.name ++ "/" ++
        round_name spec.round_index sequence)
      spec.workload spec.condition .controller spec.seam
      (if spec.seam = .old then args.carrier_root else segmented_carrier_root)
      block_size (lit spec.request_rate) spec.max_output_tokens "real-online/formal-matrix"
  evidence_label := "real-online/formal-matrix"
  begins := false
  flags := true

end

end run_formal_online_matrix

namespace run_m2_online_boundary

def EVIDENCE_LABEL : String := "real-online/m2-benefit-boundary"

structure RunSpec where
  workload : String
  policy_mode : PolicyMode
  round_index : ℕ
  order_index : ℕ
  request_rate : ℚ
  max_output_tokens : ℤ
  boundary_role : String

def WORKLOADS : List (String × ℚ × ℤ × String) := [
  ("shared_tool_scaffold_agent", 18, 128, "positive_candidate"),
  ("shared_scenario_multi_turn_knowledge_service", 24, 64, "fallback_or_no_gain_candidate")]

def build_schedule : List RunSpec :=
  WORKLOADS.flatMap fun (workload, request_rate, max_output_tokens, boundary_role) =>
    (ROUND_ORDERS.zipIdx 1).flatMap fun (order, round_index) =>
      (order.zipIdx 1).map fun (policy_mode, order_index) =>
        { workload, policy_mode, round_index, order_index, request_rate, max_output_tokens, boundary_role }

section

variable {F : Type} [PyFloat F]

def RunSpec.json (spec : RunSpec) : Json F := .dict [
  ("workload", .str spec.workload),
  ("policy_mode", .str spec.policy_mode.name),
  ("round_index", .int spec.round_index),
  ("order_index", .int spec.order_index),
  ("request_rate", .float (lit spec.request_rate)),
  ("max_output_tokens", .int spec.max_output_tokens),
  ("boundary_role", .str spec.boundary_role)]

def preregistration : Json F := .dict [
  ("unit", .str "independently restarted service lifecycle"),
  ("matched_block", .str "workload x round"),
  ("rounds", .int 3),
  ("treatment", .list (POLICIES.map fun policy => .str policy.name)),
  ("seam", .str "segmented"),
  ("condition", .str "tuned"),
  ("positive_candidate", .str "shared_tool_scaffold_agent"),
  ("fallback_or_no_gain_candidate", .str "shared_scenario_multi_turn_knowledge_service"),
  ("primary_metrics", .list [.str "mean_ttft_ms", .str "mean_latency_ms", .str "request_throughput_rps"]),
  ("stopping_rule", .str ("Run exactly three temporally blocked rounds. Do not tune by " ++
    "workload. If controller does not beat the best fixed policy, " ++ "record the negative result and stop."))]

def suite (args : SuiteArgs) (block_size : ℤ) : Suite F RunSpec where
  inside_worktree := "suite-dir must be outside the worktree; import the validated suite later"
  overwrites := "refusing to overwrite suite directory: " ++ args.suite_dir
  heading started_at_s := [
    ("schema_version", .int 2),
    ("study", .str "M2 three-action online benefit boundary"),
    ("evidence_label", .str EVIDENCE_LABEL),
    ("started_at_s", .float started_at_s),
    ("preregistration", preregistration)]
  plain _ := by simp
  schedule := build_schedule
  spec := RunSpec.json
  arguments spec sequence :=
    lifecycle_args args
      (args.suite_dir ++ "/" ++ spec.workload ++ "/" ++ spec.policy_mode.name ++ "/" ++
        round_name spec.round_index sequence)
      spec.workload .tuned spec.policy_mode .segmented args.carrier_root block_size (lit spec.request_rate)
      spec.max_output_tokens EVIDENCE_LABEL
  evidence_label := EVIDENCE_LABEL
  begins := true
  flags := false

end

end run_m2_online_boundary

namespace run_m2_candidate_pilot

inductive CandidateSet where
  | offline_ranked
  | anchor_topology
  | stateful_secondary
  | catalog_closure
  deriving DecidableEq, Repr

def CandidateSet.name : CandidateSet → String
  | offline_ranked => "offline-ranked"
  | anchor_topology => "anchor-topology"
  | stateful_secondary => "stateful-secondary"
  | catalog_closure => "catalog-closure"

/-- `EVIDENCE_LABELS` -/
def CandidateSet.evidence_label : CandidateSet → String
  | offline_ranked => "real-online/m2-candidate-pilot"
  | anchor_topology => "real-online/m2-anchor-candidate-pilot"
  | stateful_secondary => "real-online/m2-stateful-secondary-pilot"
  | catalog_closure => "real-online/m2-catalog-closure-pilot"

abbrev Candidate := String × ℚ × ℤ

def CandidateSet.candidates : CandidateSet → List Candidate
  | offline_ranked => [
    ("shared_async_document_pipeline", 18, 96),
    ("shared_public_sharegpt_boundary", 24, 64)]
  | anchor_topology => [
    ("shared_session_continuation_maintenance", 18, 112),
    ("shared_shared_prefix_multi_tenant_assistant", 18, 128)]
  | stateful_secondary => [
    ("shared_code_eval_judge", 18, 96),
    ("shared_structured_json_generation", 18, 96),
    ("shared_multi_turn_support_chat", 20, 96),
    ("shared_memory_write_then_reuse", 16, 96)]
  | catalog_closure => [
    ("shared_session_affine_multi_turn", 24, 96),
    ("shared_session_affine_bursty", 30, 128),
    ("shared_rag_followup", 18, 48),
    ("shared_long_context_doc_analysis", 12, 64),
    ("shared_repo_aware_coding_assistant", 20, 128),
    ("shared_experiment_planning_assistant", 16, 192),
    ("shared_simulation_analysis_verification", 14, 128),
    ("shared_realtime_voice_assistant", 36, 72),
    ("shared_dynamic_rag_corpus_update", 18, 72),
    ("shared_preemption_resume_long_decode", 10, 192)]

structure RunSpec where
  workload : String
  policy_mode : PolicyMode
  request_rate : ℚ
  max_output_tokens : ℤ
  deriving DecidableEq

/-- The order of a candidate's policies, by its place. -/
def order (place : ℕ) : Order :=
  if place % 2 = 0 then [.controller, .always_full_reuse, .always_recompute]
  else [.always_recompute, .controller, .always_full_reuse]

def build_schedule (candidates : List Candidate) : List RunSpec :=
  candidates.zipIdx.flatMap fun ((workload, request_rate, max_output_tokens), place) =>
    (order place).map fun policy_mode => { workload, policy_mode, request_rate, max_output_tokens }

/-- `candidates[start::num_shards]`, the start counted down. -/
def slice {α : Type} (num_shards : ℕ) : ℕ → List α → List α
  | _, [] => []
  | 0, candidate :: rest => candidate :: slice num_shards (num_shards - 1) rest
  | skip + 1, _ :: rest => slice num_shards skip rest

def select_shard {α : Type} (candidates : List α) (shard_index num_shards : ℤ) : Except Exception (List α) :=
  if num_shards < 1 ∨ ¬ (0 ≤ shard_index ∧ shard_index < num_shards) then
    .error (.value_error "shard-index must be in [0, num-shards)")
  else .ok (slice num_shards.toNat shard_index.toNat candidates)

section

variable {F : Type} [PyFloat F]

def RunSpec.json (spec : RunSpec) : Json F := .dict [
  ("workload", .str spec.workload),
  ("policy_mode", .str spec.policy_mode.name),
  ("request_rate", .float (lit spec.request_rate)),
  ("max_output_tokens", .int spec.max_output_tokens)]

def promotion_gate : Json F := .dict [
  ("controller_vs_best_fixed_ttft_pct_max", .float (lit 2)),
  ("controller_vs_best_fixed_e2e_pct_max", .float (lit 5)),
  ("controller_vs_best_fixed_throughput_pct_min", .float (lit (-5)))]

/-- The suite of the candidates of a shard. -/
def suite (args : SuiteArgs) (candidate_set : CandidateSet) (shard_index num_shards : ℤ)
    (candidates : List Candidate) : Suite F RunSpec where
  inside_worktree := "suite-dir must be outside the worktree"
  overwrites := "refusing to overwrite suite directory: " ++ args.suite_dir
  heading started_at_s := [
    ("schema_version", .int 1),
    ("study", .str "M2 preregistered positive-candidate pilot"),
    ("evidence_label", .str candidate_set.evidence_label),
    ("candidate_set", .str candidate_set.name),
    ("shard_index", .int shard_index),
    ("num_shards", .int num_shards),
    ("started_at_s", .float started_at_s),
    ("promotion_gate", promotion_gate)]
  plain _ := by simp
  schedule := build_schedule candidates
  spec := RunSpec.json
  arguments spec sequence :=
    lifecycle_args args
      (args.suite_dir ++ "/" ++ spec.workload ++ "/" ++ spec.policy_mode.name ++ "/pilot_sequence_" ++ padded sequence)
      spec.workload .tuned spec.policy_mode .segmented args.carrier_root 128 (lit spec.request_rate)
      spec.max_output_tokens candidate_set.evidence_label
  evidence_label := candidate_set.evidence_label
  begins := true
  flags := false

def main (host : Host F) (args : SuiteArgs) (candidate_set : CandidateSet) (shard_index num_shards : ℤ) :
    Step F ℤ := do
  enter host "suite-dir must be outside the worktree" ("refusing to overwrite suite directory: " ++ args.suite_dir)
  match select_shard candidate_set.candidates shard_index num_shards with
  | .error _ => raise ⟨"ValueError", "shard-index must be in [0, num-shards)"⟩
  | .ok [] => raise ⟨"SystemExit", "selected candidate shard is empty"⟩
  | .ok candidates => execute (suite args candidate_set shard_index num_shards candidates) host

end

end run_m2_candidate_pilot

/-- A round of a confirmation and the policy that is run in it. -/
structure online_suites.RunSpec where
  round_index : ℕ
  policy_mode : PolicyMode

namespace online_suites

def RunSpec.json {F : Type} (spec : RunSpec) : Json F :=
  .dict [("round_index", .int spec.round_index), ("policy_mode", .str spec.policy_mode.name)]

/-- The suite of a confirmation, which runs one workload. -/
def confirmation {F : Type} [PyFloat F] (args : SuiteArgs) (study evidence_label workload : String)
    (positive_rule : Json F) (orders : List Order) (request_rate : F) (max_output_tokens : ℤ) : Suite F RunSpec where
  inside_worktree := "suite-dir must be outside the worktree"
  overwrites := "refusing to overwrite suite directory: " ++ args.suite_dir
  heading started_at_s := [
    ("schema_version", .int 1),
    ("study", .str study),
    ("evidence_label", .str evidence_label),
    ("workload", .str workload),
    ("started_at_s", .float started_at_s),
    ("positive_rule", positive_rule)]
  plain _ := by simp
  schedule := (rounds orders).map fun (round_index, policy_mode) => { round_index, policy_mode }
  spec := RunSpec.json
  arguments spec sequence :=
    lifecycle_args args
      (args.suite_dir ++ "/" ++ workload ++ "/" ++ spec.policy_mode.name ++ "/" ++ round_name spec.round_index sequence)
      workload .tuned spec.policy_mode .segmented args.carrier_root 128 request_rate max_output_tokens evidence_label
  evidence_label
  begins := true
  flags := false

end online_suites

namespace run_m2_anchor_confirmation

def EVIDENCE_LABEL : String := "real-online/m2-anchor-confirmation"

def WORKLOAD : String := "shared_shared_prefix_multi_tenant_assistant"

def suite {F : Type} [PyFloat F] (args : SuiteArgs) : Suite F RunSpec :=
  confirmation args "M2 anchor-topology independent confirmation" EVIDENCE_LABEL WORKLOAD
    (.dict [
      ("controller_vs_best_fixed_ttft_pct_max", .float (lit (-5))),
      ("controller_vs_best_fixed_e2e_pct_max", .float (lit 5)),
      ("controller_vs_best_fixed_throughput_pct_min", .float (lit (-5)))])
    ROUND_ORDERS (lit 18) 128

end run_m2_anchor_confirmation

namespace run_m2_significance_confirmation

def EVIDENCE_LABEL : String := "real-online/m2-significance-confirmation"

def ROUND_ORDERS : List Order := online_suites.ROUND_ORDERS ++ [
  [.always_recompute, .controller, .always_full_reuse],
  [.always_full_reuse, .always_recompute, .controller]]

def suite {F : Type} [PyFloat F] (args : SuiteArgs) (workload : String) (request_rate : F) (max_output_tokens : ℤ) :
    Suite F RunSpec :=
  confirmation args "M2 promoted-workload five-round significance confirmation" EVIDENCE_LABEL workload
    (.dict [
      ("controller_vs_best_fixed_ttft_pct_mean_max", .float (lit (-5))),
      ("paired_ttft_delta_one_sided_95pct_upper_max", .float (lit 0)),
      ("controller_vs_best_fixed_e2e_pct_mean_max", .float (lit 5)),
      ("controller_vs_best_fixed_throughput_pct_mean_min", .float (lit (-5)))])
    ROUND_ORDERS request_rate max_output_tokens

end run_m2_significance_confirmation
