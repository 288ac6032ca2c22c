import KvMaterialization.Scripts.Pathology
import KvMaterialization.Scripts.ReusePressure

open python

namespace rebuild_g0_formal

open g0_pathology (Spec caught)

def MAIN_ARMS : List String := ["no_control", "always_recompute", "concurrency_cap", "request_token_bucket",
  "minimum_retrieve_threshold", "fixed_prefetch_depth", "materialization_paced_oracle"]

def GENERIC_ARMS : List String := ["concurrency_cap", "request_token_bucket"]

def ORACLE : String := "materialization_paced_oracle"

def FRONTIER_BUDGETS : List ℤ := [63700992, 127401984, 254803968]

/-- The fields of a schedule entry a run is named and checked by. -/
structure RunSpec where
  sequence : ℕ
  workload : String
  burst_intensity : String
  repeat_ : ℕ
  arm : String

def runSpec (spec : Spec) : RunSpec :=
  ⟨spec.sequence, spec.workload, spec.burst_intensity, spec.repeat_, spec.arm⟩

/-- The files under the directory of a run. -/
structure RunDir (F : Type) where
  benchmark : Option (Except Exception (Json F))
  requests : Option (Except Exception (List (Json F)))
  telemetry : Option (Except Exception (List (Json F)))
  resources : Bool
  connector : Option (Except Exception (Json F))

/-- A run tree: the directories under its root by name. -/
structure RunTree (F : Type) where
  path : String
  runs : String → Option (RunDir F)

/-- The workload, the burst intensity and the repeat of a run. -/
abbrev Key := String × String × ℕ

/-- What the report keeps of a run. -/
structure PublicRun (F : Type) where
  sequence : ℕ
  workload : String
  burst_intensity : String
  repeat_ : ℕ
  arm : String
  run_dir : String
  requests : ℕ
  correctness_rate : Json F
  ttft_ms : Json F
  e2e_ms : Json F
  tpot_ms : Json F
  throughput_rps : Json F
  goodput_rps : Json F
  controls : Json F
  activation : Json F
  materialization : Json F
  resources : Json F
  compute_transfer_overlap : Json F
  reuse_pressure : List (ReuseGroup F)

structure Run (F : Type) extends PublicRun F where
  outputs : List (Json F × Json F)

def Run.key {F : Type} (run : Run F) : Key := (run.workload, run.burst_intensity, run.repeat_)

def run_name (spec : RunSpec) : String :=
  let sequence := g0_pathology.padded.pad spec.sequence
  let repeatText := toString spec.repeat_
  s!"{sequence}-{spec.workload}-{spec.burst_intensity}-{spec.arm}-r{repeatText}"

def expected_controls (arm : String) : ℤ × ℤ :=
  let threshold := if arm = "always_recompute" then 512 else if arm = "minimum_retrieve_threshold" then 256 else 0
  let depth := if arm = "fixed_prefetch_depth" then 4 else 1
  (threshold, depth)

section Load

variable {F : Type} [PyNumber F]

/-- `value.values()` -/
def values : Json F → Except Exception (List (Json F))
  | .dict entries => .ok (entries.map Prod.snd)
  | _ => .error .attribute_error

/-- `sum(values)`: integers are added exactly, and with a float among them as floats. -/
def sum (values : List (Json F)) : Except Exception (Number F) :=
  match values.mapM Json.int? with
  | some integers => .ok (.int integers.sum)
  | none =>
    match values.mapM Json.number? with
    | some numbers => do return .float (PyNumber.sum (← numbers.mapM Number.toFloat))
    | none => .error .type_error

/-- `if value.get(field) != wanted: raise ValueError(message)` -/
def expect (value : Json F) (field : String) (wanted : Json F) (message : String) : Except Exception Unit := do
  raiseIf (!(← value.get field).eq wanted) message

/-- The artifacts that are no files. -/
def missing_artifacts (root : String) (run : RunDir F) : List String :=
  [("benchmark/random-online.json", run.benchmark.isSome),
    ("benchmark/request_results.jsonl", run.requests.isSome),
    ("raw/g0_connector_telemetry.jsonl", run.telemetry.isSome),
    ("raw/g0_resource_samples.jsonl", run.resources),
    ("parsed/g0_connector_summary.json", run.connector.isSome)].filterMap fun artifact =>
      if artifact.2 then none else some (root ++ "/" ++ artifact.1)

def read {α : Type} (file : Option (Except Exception α)) : Except Exception α := file.getD (.error .os_error)

/-- The request did not succeed with eight tokens whose hash is known. -/
def incorrect (row : Json F) : Except Exception Bool := do
  return !(← row.get "ok").truthy || !(← row.get "http_status").eq (.int 200) ||
    !(← row.get "output_sha256").truthy || !(← row.get "output_tokens").eq (.int 8)

def check_requests (requests : List (Json F)) : Except Exception Unit := do
  let ids ← requests.mapM fun row => row.get "request_id"
  raiseIf (Json.null.memberOf ids) "request IDs are missing or duplicated"
  raiseIf (ids.length != (← Json.setOf ids).length) "request IDs are missing or duplicated"
  raiseIf ((← requests.mapM incorrect).any id) "request correctness/hash activation failure"

def check_benchmark (runtime : Runtime F) (arm : String) (bench : Json F) (requests : List (Json F)) :
    Except Exception Unit := do
  let reported ← bench.get "arm"
  let reportedText := runtime.str reported
  let count := requests.length
  raiseIf (!reported.eq (.str arm)) s!"arm mismatch: expected {arm}, got {reportedText}"
  raiseIf (!(← bench.get "requests").eq (.int count) || requests.isEmpty) "benchmark/request record count mismatch"
  raiseIf (count != 64) s!"expected 64 workload requests, got {count}"
  expect bench "correctness_rate" (.float (lit 1)) "correctness is not 100%"

/-- The decisions an arm has to take. -/
def check_decisions (arm : String) (activation decisions : Json F) (request_count : ℕ) : Except Exception Unit := do
  let materialize ← decisions.getD "materialize" (.int 0)
  let recompute ← decisions.getD "recompute_threshold" (.int 0)
  let transfers ← activation.getD "transfer_starts" (.int 0)
  let count : Json F := .int request_count
  raiseIf (arm = "always_recompute" && (!recompute.eq count || materialize.truthy || transfers.truthy))
    "always-recompute arm did not exclusively recompute"
  raiseIf (arm = "minimum_retrieve_threshold" && !(materialize.truthy && recompute.truthy && transfers.truthy))
    "minimum-retrieve arm did not activate both decisions"
  raiseIf (arm ∉ ["always_recompute", "minimum_retrieve_threshold"] && !materialize.eq count)
    "materializing arm did not materialize every request"

def check_activation (arm : String) (activation : Json F) (request_count : ℕ) : Except Exception Unit := do
  let decisions ← activation.getD "decision_counts" (.dict [])
  expect activation "connector_config_events" (.int 1) "connector configuration was not activated exactly once"
  expect activation "decision_request_ids" (.int request_count) "materialization decision coverage mismatch"
  raiseIf (!(← sum (← values decisions)).eq (.int request_count)) "materialization decision count mismatch"
  raiseIf (!(← activation.get "all_transfer_results_ok").truthy) "connector transfer failure observed"
  check_decisions arm activation decisions request_count

/-- `{row["request_id"]: {...} for row in requests}` -/
def output (outputs : List (Json F × Json F)) (row : Json F) : Except Exception (List (Json F × Json F)) := do
  let request_id ← key (← row.item "request_id")
  return assignAt Json.same outputs request_id (.dict [
    ("sha256", ← row.item "output_sha256"),
    ("tokens", ← row.item "output_tokens"),
    ("http_status", ← row.item "http_status")])

def load_run (runtime : Runtime F) (root : String) (run : RunDir F) (spec : RunSpec) :
    Except Exception (Run F) := do
  let missing := missing_artifacts root run
  let missingText := runtime.reprValue (.list (missing.map .str))
  raiseIf (!missing.isEmpty) s!"missing artifacts: {missingText}"
  let bench ← read run.benchmark
  let requests ← read run.requests
  let telemetry_events ← read run.telemetry
  let conn ← read run.connector
  check_benchmark runtime spec.arm bench requests
  check_requests requests
  let activation ← conn.getD "activation" (.dict [])
  check_activation spec.arm activation requests.length
  let controls ← bench.getD "controls" (.dict [])
  let (threshold, depth) := expected_controls spec.arm
  expect controls "minimum_retrieve_tokens" (.int threshold) "minimum-retrieve runtime control mismatch"
  expect controls "fixed_prefetch_depth" (.int depth) "prefetch-depth runtime control mismatch"
  let mat ← conn.getD "materialization" (.dict [])
  expect mat "requested_bytes" (← mat.get "realized_bytes")
    "requested and realized materialization bytes differ"
  let resources ← conn.getD "resources" (.dict [])
  return {
    sequence := spec.sequence
    workload := spec.workload
    burst_intensity := spec.burst_intensity
    repeat_ := spec.repeat_
    arm := spec.arm
    run_dir := root
    requests := requests.length
    correctness_rate := ← bench.item "correctness_rate"
    ttft_ms := ← bench.item "ttft_ms"
    e2e_ms := ← bench.item "e2e_ms"
    tpot_ms := ← bench.item "tpot_ms"
    throughput_rps := ← bench.item "throughput_rps"
    goodput_rps := ← bench.item "goodput_rps"
    controls, activation
    materialization := mat
    resources
    compute_transfer_overlap := ← conn.get "compute_transfer_overlap"
    reuse_pressure := ← reuse_pressure_groups runtime telemetry_events
    outputs := ← requests.foldlM output [] }

/-- Equality of two dictionaries of outputs. -/
def sameOutputs (a b : List (Json F × Json F)) : Bool :=
  a.length = b.length && a.all fun entry =>
    match lookup Json.same b entry.1 with
    | some value => entry.2.same value
    | none => false

end Load

section Evidence

variable {F : Type} [PyNumber F]

def pct_regression (slower faster : Json F) : Except Exception F := do
  return ((← slower.div faster) - lit 1) * lit 100

def pct_improvement (baseline candidate : Json F) : Except Exception F := do
  return (lit 1 - (← candidate.div baseline)) * lit 100

/-- The pressure is clearly higher than under the oracle. -/
def clearly_higher (runtime : Runtime F) (left right : Json F) : Except Exception Bool := do
  if left.isNull || right.isNull then
    return false
  let left ← left.toFloat runtime.toInterpreter
  let right ← right.toFloat runtime.toInterpreter
  return lt (pyMax (right * lit (11 / 10)) (right + lit (1 / 20))) left

/-- `any(...)` of a test that may raise. -/
def anyM {α : Type} (test : α → Except Exception Bool) : List α → Except Exception Bool
  | [] => .ok false
  | item :: rest => do
    if ← test item then
      return true
    anyM test rest

def pressure_explained (runtime : Runtime F) (no_control oracle : Run F) : Except Exception Bool := do
  let pairs ← ["peak_bytes_in_flight", "connector_queue_wait_ms_p95", "layer_ready_wait_ms_p95"].mapM fun field => do
    return (← no_control.materialization.get field, ← oracle.materialization.get field)
  anyM (fun pair => clearly_higher runtime pair.1 pair.2) pairs

/-- The runs of one repeat, by arm. -/
abbrev Round (F : Type) := Dict String (Run F)

/-- `arms[arm]` -/
def arm_run (arms : Round F) (arm : String) : Except Exception (Run F) :=
  match arms.get? arm with
  | some run => .ok run
  | none => .error (.key_error arm)

/-- What one repeat says of a generic arm. -/
structure GenericRepeat (F : Type) where
  tail : F
  goodput_loss : F

/-- What one repeat of a cell says. -/
structure Repeat (F : Type) where
  regression : F
  oracle_improvement : F
  goodput_loss : F
  pressure : Bool
  generic : List (GenericRepeat F)

def p95_ttft (run : Run F) : Except Exception (Json F) := run.ttft_ms.item "p95"

def repeat_evidence (runtime : Runtime F) (arms : Round F) : Except Exception (Repeat F) := do
  let no_control ← arm_run arms "no_control"
  let oracle ← arm_run arms ORACLE
  return {
    regression := ← pct_regression (← p95_ttft no_control) (← p95_ttft oracle)
    oracle_improvement := ← pct_improvement (← p95_ttft no_control) (← p95_ttft oracle)
    goodput_loss := ← pct_improvement no_control.goodput_rps oracle.goodput_rps
    pressure := ← pressure_explained runtime no_control oracle
    generic := ← GENERIC_ARMS.mapM fun arm => do
      let candidate ← arm_run arms arm
      return {
        tail := ← pct_improvement (← p95_ttft no_control) (← p95_ttft candidate)
        goodput_loss := ← pct_improvement no_control.goodput_rps candidate.goodput_rps } }

structure GenericBaseline (F : Type) where
  arm : String
  median_p95_improvement_pct : F
  median_p95_improvement_bootstrap_ci : Bootstrap F
  median_goodput_loss_pct : F
  median_goodput_loss_bootstrap_ci : Bootstrap F
  equivalent_or_better_than_oracle : Bool

structure Cell (F : Type) where
  repeat_p95_regression_pct : List F
  median_p95_regression_pct : F
  median_p95_regression_bootstrap_ci : Bootstrap F
  median_p95_improvement_pct : F
  median_p95_improvement_bootstrap_ci : Bootstrap F
  repeat_goodput_loss_pct : List F
  median_goodput_loss_pct : F
  median_goodput_loss_bootstrap_ci : Bootstrap F
  repeat_materialization_pressure_explained : List Bool
  repeats_meeting_tail_gate : ℕ
  reproducible_tail_gate : Bool
  materialization_counter_gate : Bool
  capacity_preserving_gate : Bool
  generic_baselines : List (GenericBaseline F)
  generic_equivalent_stop : Bool

def bootstrap (values : List F) : Except Exception (Bootstrap F) := paired_lifecycle_bootstrap_median values (lit 95)

def generic_baseline (repeats : List (Repeat F)) (oracle_improvement oracle_loss : F) (arm : String × ℕ) :
    Except Exception (GenericBaseline F) := do
  let generic := repeats.filterMap fun evidence => evidence.generic[arm.2]?
  let tail ← median (generic.map GenericRepeat.tail)
  let loss ← median (generic.map GenericRepeat.goodput_loss)
  return {
    arm := arm.1
    median_p95_improvement_pct := tail
    median_p95_improvement_bootstrap_ci := ← bootstrap (generic.map GenericRepeat.tail)
    median_goodput_loss_pct := loss
    median_goodput_loss_bootstrap_ci := ← bootstrap (generic.map GenericRepeat.goodput_loss)
    equivalent_or_better_than_oracle :=
      pyLe (oracle_improvement - lit 1) tail && pyLe loss (oracle_loss + lit 1) }

def cell_evidence (runtime : Runtime F) (rounds : List (Round F)) : Except Exception (Cell F) := do
  let repeats ← rounds.mapM (repeat_evidence runtime)
  let regressions := repeats.map Repeat.regression
  let improvements := repeats.map Repeat.oracle_improvement
  let losses := repeats.map Repeat.goodput_loss
  let pressure := repeats.map Repeat.pressure
  let oracle_tail ← median regressions
  let oracle_improvement ← median improvements
  let oracle_loss ← median losses
  let generic ← GENERIC_ARMS.zipIdx.mapM (generic_baseline repeats oracle_improvement oracle_loss)
  return {
    repeat_p95_regression_pct := regressions
    median_p95_regression_pct := oracle_tail
    median_p95_regression_bootstrap_ci := ← bootstrap regressions
    median_p95_improvement_pct := oracle_improvement
    median_p95_improvement_bootstrap_ci := ← bootstrap improvements
    repeat_goodput_loss_pct := losses
    median_goodput_loss_pct := oracle_loss
    median_goodput_loss_bootstrap_ci := ← bootstrap losses
    repeat_materialization_pressure_explained := pressure
    repeats_meeting_tail_gate := regressions.countP (pyLe (lit 10))
    reproducible_tail_gate := pyLe (lit 10) oracle_tail
    materialization_counter_gate := decide (2 ≤ pressure.count true)
    capacity_preserving_gate := pyLe (pyAbs oracle_loss) (lit 5)
    generic_baselines := generic
    generic_equivalent_stop := generic.any GenericBaseline.equivalent_or_better_than_oracle }

end Evidence

/-- What `init_suite` writes, as far as the rebuild reads it. -/
structure Manifest where
  schedule : List Spec
  repeats : ℕ

/-- A suite directory. -/
structure Suite (F : Type) where
  manifest : Manifest
  execution_identity : Option (Except Exception (Json F))

inductive Trigger where
  | tail_pathology_not_reproducible
  | materialization_counter_gate_failed
  | generic_baseline_equivalent
  deriving DecidableEq, Repr

structure StopTrigger where
  cell : String
  trigger : Trigger
  deriving DecidableEq, Repr

structure LowControl (F : Type) where
  repeat_p95_regression_pct : List F
  median_p95_regression_pct : F
  passes_absence_gate : Bool

structure FrontierSpec extends RunSpec where
  budget : ℤ

structure FrontierRow (F : Type) extends PublicRun F where
  oracle_byte_budget : ℤ
  p95_improvement_vs_no_control_pct : F
  goodput_loss_vs_no_control_pct : F

inductive Status where
  | incomplete_no_verdict
  | complete_early_stop
  | complete
  | needs_capacity_frontier
  deriving DecidableEq, Repr

inductive Verdict where
  | none
  | stop
  | go
  deriving DecidableEq, Repr

/-- What became of a directory that is looked for. -/
inductive Outcome (α : Type) where
  | missing (sequence : ℕ)
  | failed (error : String)
  | loaded (value : α)

namespace Outcome

variable {α : Type}

def sequence? : Outcome α → Option ℕ
  | .missing sequence => some sequence
  | _ => none

def error? : Outcome α → Option String
  | .failed error => some error
  | _ => none

def value? : Outcome α → Option α
  | .loaded value => some value
  | _ => none

end Outcome

section Rebuild

variable {F : Type} [PyNumber F]

omit [PyNumber F] in
def Cell.triggers (row : Cell F) : List Trigger :=
  (if row.reproducible_tail_gate then [] else [.tail_pathology_not_reproducible]) ++
    (if row.materialization_counter_gate then [] else [.materialization_counter_gate_failed]) ++
    (if row.generic_equivalent_stop then [.generic_baseline_equivalent] else [])

/-- `sorted(entries.items())` of a dictionary whose keys are texts. -/
def byName {ν : Type} (entries : Dict String ν) : List (String × ν) :=
  entries.entries.insertionSort fun a b => a.1 ≤ b.1

omit [PyNumber F] in
def report_stop_triggers (cells : Dict String (Cell F)) : List StopTrigger :=
  (byName cells).flatMap fun entry => entry.2.triggers.map fun trigger => ⟨entry.1, trigger⟩

/-- `sorted(set(names))` -/
def sortedNames (names : List String) : List String := names.dedup.insertionSort (· ≤ ·)

def Manifest.workloads (manifest : Manifest) : List String := sortedNames (manifest.schedule.map Spec.workload)

def Manifest.intensities (manifest : Manifest) : List String :=
  sortedNames ((manifest.schedule.filter fun spec => !spec.low_concurrency_control).map Spec.burst_intensity)

def frontier_specs (manifest : Manifest) : List FrontierSpec :=
  let workloads := ["burstgpt", "servegen"].filter manifest.workloads.contains
  let specs := workloads.flatMap fun workload => ["moderate", "high"].flatMap fun intensity =>
    (List.range' 1 manifest.repeats).flatMap fun repeat_ => FRONTIER_BUDGETS.map fun budget =>
      (workload, intensity, repeat_, budget)
  (specs.zipIdx (manifest.schedule.length + 1)).map fun spec =>
    { sequence := spec.2, workload := spec.1.1, burst_intensity := spec.1.2.1, repeat_ := spec.1.2.2.1,
      arm := ORACLE, budget := spec.1.2.2.2 }

def frontier_run_name (spec : FrontierSpec) : String :=
  let name := run_name spec.toRunSpec
  let budget := spec.budget
  s!"{name}-budget{budget}"

abbrev Rounds (F : Type) := Dict Key (Round F)

def Rounds.round (self : Rounds F) (key : Key) : Round F := (self.get? key).getD Dict.empty

/-- `by_round[key][run["arm"]] = run` -/
def file_run (rounds : Rounds F) (run : Run F) : Rounds F :=
  rounds.set run.key ((rounds.round run.key).set run.arm run)

def by_round (runs : List (Run F)) : Rounds F := runs.foldl file_run Dict.empty

def file_output (cells : Dict (String × String) (List (Run F))) (run : Run F) :
    Dict (String × String) (List (Run F)) :=
  let cell := (run.workload, run.burst_intensity)
  cells.set cell ((cells.get? cell).getD [] ++ [run])

/-- The comparison of tuples: the first difference decides. -/
def before (a b : Key) : Bool :=
  a.1 < b.1 || (a.1 = b.1 && (a.2.1 < b.2.1 || (a.2.1 = b.2.1 && a.2.2 ≤ b.2.2)))

def round_errors (runtime : Runtime F) (rounds : Rounds F) : List String :=
  (rounds.entries.insertionSort fun a b => before a.1 b.1 = true).flatMap fun entry =>
    match entry.2.values with
    | first :: second :: rest =>
      (first :: second :: rest).filterMap fun run =>
        if sameOutputs run.outputs first.outputs then none
        else
          let workload := runtime.repr entry.1.1
          let intensity := runtime.repr entry.1.2.1
          let repeatText := toString entry.1.2.2
          some s!"output hash mismatch in ({workload}, {intensity}, {repeatText}): {run.arm}"
    | _ => []

def cell_errors (runtime : Runtime F) (runs : List (Run F)) : List String :=
  let by_cell_outputs := runs.foldl file_output Dict.empty
  let ordered := by_cell_outputs.entries.insertionSort fun a b =>
    before (a.1.1, a.1.2, 0) (b.1.1, b.1.2, 0) = true
  ordered.flatMap fun entry =>
    match entry.2 with
    | [] => []
    | first :: rest =>
      rest.filterMap fun run =>
        if sameOutputs run.outputs first.outputs then none
        else
          let workload := runtime.repr entry.1.1
          let intensity := runtime.repr entry.1.2
          let repeatText := toString run.repeat_
          some (s!"cross-repeat output hash mismatch in ({workload}, {intensity}): " ++
            s!"repeat {repeatText} arm {run.arm}")

/-- `set(arms) == names` -/
def sameArms {ν : Type} (arms : Dict String ν) (names : List String) : Bool :=
  arms.keys.all names.contains && names.all arms.keys.contains

def cell_rounds (manifest : Manifest) (rounds : Rounds F) (workload intensity : String) : List (Round F) :=
  (List.range' 1 manifest.repeats).map fun repeat_ => rounds.round (workload, intensity, repeat_)

def cell_name (workload intensity : String) : String := s!"{workload}/{intensity}"

/-- The evidence of a cell, if all its repeats are complete. -/
def cell_entry (runtime : Runtime F) (manifest : Manifest) (rounds : Rounds F) (workload intensity : String) :
    Except Exception (Option (String × Cell F)) := do
  let repeats := cell_rounds manifest rounds workload intensity
  if repeats.all fun arms => sameArms arms MAIN_ARMS then
    return some (cell_name workload intensity, ← cell_evidence runtime repeats)
  return none

def low_entry (manifest : Manifest) (rounds : Rounds F) (workload : String) :
    Except Exception (Option (String × LowControl F)) := do
  let repeats := cell_rounds manifest rounds workload "low_control"
  if repeats.all fun arms => sameArms arms ["no_control", ORACLE] then
    let values ← repeats.mapM fun arms => do
      let no_control ← arm_run arms "no_control"
      let oracle ← arm_run arms ORACLE
      pct_regression (← p95_ttft no_control) (← p95_ttft oracle)
    let middle ← median values
    return some (workload, ⟨values, middle, lt middle (lit 10)⟩)
  return none

def workload_entries (runtime : Runtime F) (manifest : Manifest) (rounds : Rounds F) (workload : String) :
    Except Exception (List (Option (String × Cell F)) × Option (String × LowControl F)) := do
  let cells ← manifest.intensities.mapM (cell_entry runtime manifest rounds workload)
  return (cells, ← low_entry manifest rounds workload)

/-- The cells and the low controls, which only clean runs have. -/
def evidence (runtime : Runtime F) (manifest : Manifest) (rounds : Rounds F) (errors : List String) :
    Except Exception (Dict String (Cell F) × Dict String (LowControl F)) := do
  if errors = [] then
    let entries ← manifest.workloads.mapM (workload_entries runtime manifest rounds)
    return (Dict.ofList ((entries.flatMap Prod.fst).filterMap id),
      Dict.ofList ((entries.map Prod.snd).filterMap id))
  return (Dict.empty, Dict.empty)

def sequence_error (runtime : Runtime F) (label : String) (sequence : ℕ) (error : Exception) : String :=
  let sequenceText := toString sequence
  let message := runtime.message error
  s!"{label} {sequenceText}: {message}"

/-- The outcome of an entry of the schedule. -/
def load_spec (runtime : Runtime F) (tree : RunTree F) (spec : Spec) : Except Exception (Outcome (Run F)) := do
  let name := run_name (runSpec spec)
  match tree.runs name with
  | none => return .missing spec.sequence
  | some directory =>
    match ← attempt caught (load_run runtime (tree.path ++ "/" ++ name) directory (runSpec spec)) with
    | .inl error => return .failed (sequence_error runtime "sequence" spec.sequence error)
    | .inr run => return .loaded run

def load_frontier (runtime : Runtime F) (root : String) (directory : RunDir F) (rounds : Rounds F)
    (spec : FrontierSpec) : Except Exception (FrontierRow F) := do
  let run ← load_run runtime root directory spec.toRunSpec
  let actual_budget ← run.controls.get "oracle_byte_budget"
  let budget := spec.budget
  let actualText := runtime.str actual_budget
  raiseIf (!actual_budget.eq (.int budget)) s!"oracle budget mismatch: expected {budget}, got {actualText}"
  match (rounds.round run.key).get? "no_control" with
  | none => throw (.value_error "frontier point has no matched no-control run")
  | some baseline =>
    raiseIf (!sameOutputs run.outputs baseline.outputs) "frontier output hashes differ from no-control"
    return { run.toPublicRun with
      oracle_byte_budget := budget
      p95_improvement_vs_no_control_pct := ← pct_improvement (← p95_ttft baseline) (← p95_ttft run)
      goodput_loss_vs_no_control_pct := ← pct_improvement baseline.goodput_rps run.goodput_rps }

def frontier_outcome (runtime : Runtime F) (tree : RunTree F) (rounds : Rounds F) (spec : FrontierSpec) :
    Except Exception (Outcome (FrontierRow F)) := do
  let name := frontier_run_name spec
  match tree.runs name with
  | none => return .missing spec.sequence
  | some directory =>
    match ← attempt caught (load_frontier runtime (tree.path ++ "/" ++ name) directory rounds spec) with
    | .inl error => return .failed (sequence_error runtime "frontier sequence" spec.sequence error)
    | .inr row => return .loaded row

structure Frontier (F : Type) where
  rows : List (FrontierRow F)
  errors : List String
  complete : Bool

def summarize_frontier (runtime : Runtime F) (manifest : Manifest) (tree : RunTree F) (rounds : Rounds F) :
    Except Exception (Frontier F) := do
  let outcomes ← (frontier_specs manifest).mapM (frontier_outcome runtime tree rounds)
  let rows := outcomes.filterMap Outcome.value?
  let errors := outcomes.filterMap Outcome.error?
  return { rows, errors, complete := rows.length = (frontier_specs manifest).length && errors.isEmpty }

/-- What the report concludes. -/
structure Conclusion where
  status : Status
  verdict : Verdict
  reason : String

def conclude (errors : List String) (missing_sequences : List ℕ) (cells : Dict String (Cell F))
    (low_controls : Dict String (LowControl F)) (stop_triggers : List StopTrigger)
    (execution_prefix_complete frontier_complete : Bool) : Conclusion :=
  if !stop_triggers.isEmpty && execution_prefix_complete && errors.isEmpty then
    ⟨.complete_early_stop, .stop, "a complete frozen three-repeat cell triggered a preregistered Stop; " ++
      "later matrix entries were intentionally not executed"⟩
  else if errors.isEmpty && missing_sequences.isEmpty then
    let generic_stop := cells.values.any Cell.generic_equivalent_stop
    let pathology_ok := decide (4 ≤ cells.values.length) &&
      cells.values.all fun row => row.reproducible_tail_gate && row.materialization_counter_gate
    let low_ok := decide (2 ≤ low_controls.values.length) && low_controls.values.all LowControl.passes_absence_gate
    let capacity_ok := cells.values.all Cell.capacity_preserving_gate
    if generic_stop then
      ⟨.complete, .stop, "a generic concurrency or request-rate baseline is equivalent to the oracle"⟩
    else if !pathology_ok then
      ⟨.complete, .stop, "the >=10% repeatable materialization-specific tail pathology gate failed"⟩
    else if !low_ok then
      ⟨.complete, .stop, "the low-concurrency control shows the same >=10% gap"⟩
    else if capacity_ok then
      ⟨.complete, .go, "all preregistered pathology, capacity, specificity, and correctness gates pass"⟩
    else if frontier_complete then
      ⟨.complete, .go, "pathology gates pass and the frozen frontier reports the capacity-tail boundary"⟩
    else
      ⟨.needs_capacity_frontier, .none, "tail pathology is present but oracle goodput differs by >5%; " ++
        "rebuild after the frozen capacity frontier"⟩
  else
    ⟨.incomplete_no_verdict, .none, "formal matrix is incomplete or contains invalid artifacts"⟩

structure Report (F : Type) extends Conclusion where
  execution_identity_correction : Option (Json F)
  run_root : String
  expected_runs : ℕ
  expected_frontier_runs : ℕ
  runs : List (PublicRun F)
  executed_sequences : List ℕ
  execution_prefix_complete : Bool
  planned_but_not_executed_sequences : List ℕ
  stop_triggers : List StopTrigger
  capacity_frontier : List (FrontierRow F)
  capacity_frontier_complete : Bool
  errors : List String
  cells : Dict String (Cell F)
  low_controls : Dict String (LowControl F)

def identity_correction (suite : Suite F) : Except Exception (Option (Json F)) :=
  match suite.execution_identity with
  | none => .ok none
  | some file => do
    let record ← file
    raiseIf (!(← record.get "posthoc_correction").truthy)
      "execution identity sidecar is not marked as a post-hoc correction"
    return some record

/-- The greatest of some sequences, or zero. -/
def last_sequence (sequences : List ℕ) : ℕ := sequences.foldl max 0

def rebuild (runtime : Runtime F) (suite : Suite F) (tree : RunTree F) : Except Exception (Report F) := do
  let manifest := suite.manifest
  let identity ← identity_correction suite
  let outcomes ← manifest.schedule.mapM (load_spec runtime tree)
  let runs := outcomes.filterMap Outcome.value?
  let missing_sequences := outcomes.filterMap Outcome.sequence?
  let rounds := by_round runs
  let load_errors := outcomes.filterMap Outcome.error? ++ round_errors runtime rounds ++ cell_errors runtime runs
  let (cells, low_controls) ← evidence runtime manifest rounds load_errors
  let frontier ← summarize_frontier runtime manifest tree rounds
  let errors := load_errors ++ frontier.errors
  let executed_sequences := (runs.map fun run => run.sequence).insertionSort (· ≤ ·)
  let execution_prefix_complete := decide (executed_sequences = List.range' 1 (last_sequence executed_sequences))
  let stop_triggers := report_stop_triggers cells
  return {
    toConclusion := conclude errors missing_sequences cells low_controls stop_triggers
      execution_prefix_complete frontier.complete
    execution_identity_correction := identity
    run_root := tree.path
    expected_runs := manifest.schedule.length
    expected_frontier_runs := (frontier_specs manifest).length
    runs := runs.map fun run => run.toPublicRun
    executed_sequences, execution_prefix_complete
    planned_but_not_executed_sequences := missing_sequences
    stop_triggers
    capacity_frontier := frontier.rows
    capacity_frontier_complete := frontier.complete
    errors, cells, low_controls }

end Rebuild

end rebuild_g0_formal
