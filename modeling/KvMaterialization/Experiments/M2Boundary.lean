import KvMaterialization.Experiments.OnlineBundle
import Mathlib.Data.String.Basic

open python
open validate_online_bundle (File File.read selectRows)

namespace aggregate_m2_boundary

def EVIDENCE_LABEL : String := "real-online/m2-benefit-boundary"

def POLICIES : List String := ["always_recompute", "always_full_reuse", "controller"]

def WORKLOADS : List String := ["shared_tool_scaffold_agent", "shared_scenario_multi_turn_knowledge_service"]

def METRICS : List String := ["mean_ttft_ms", "p95_ttft_ms", "mean_latency_ms", "p95_latency_ms",
  "request_throughput_rps", "output_throughput_toks"]

def MEANINGFUL_GAIN_PCT : ℚ := 5

/-- The directory of a `validation.json`, by its path from the input directory. -/
structure Bundle (F : Type) where
  parts : List String
  validation : Except Exception (Json F)
  run_manifest : File (Json F)
  environment_manifest : File (Json F)
  request_summary : File (Json F)
  runtime_observations : File (List (Json F))

/-- A directory with everything below it, the bundles in the order they are come upon. -/
structure InputDir (F : Type) where
  path : String
  name : String
  suite_manifest : File (Json F)
  bundles : List (Bundle F)
  distinct : (bundles.map Bundle.parts).Nodup

/-- A row of the aggregate: what identifies it, and its measured fields. -/
structure Row (F : Type) where
  bundle : String
  workload : Json F
  policy_mode : Json F
  round : ℤ
  service_lifecycle_id : Json F
  protocol_fingerprint : Json F
  measured : List (String × Json F)
  observations : List (Json F)

section

variable {F : Type}

def Bundle.relative (bundle : Bundle F) : String :=
  if bundle.parts = [] then "." else "/".intercalate bundle.parts

/-- `str(bundle)` -/
def Bundle.path (input_dir : InputDir F) (bundle : Bundle F) : String :=
  "/".intercalate (input_dir.path :: bundle.parts)

/-- `bundle.name`: a validation of the input directory itself makes that the bundle. -/
def Bundle.name (input_dir : InputDir F) (bundle : Bundle F) : String :=
  bundle.parts.getLast?.getD input_dir.name

/-- `sorted(input_dir.rglob("validation.json"))` -/
def InputDir.validations (input_dir : InputDir F) : List (Bundle F) :=
  input_dir.bundles.insertionSort fun a b => a.parts ++ ["validation.json"] ≤ b.parts ++ ["validation.json"]

/-- A character that `\d` matches, which `int` reads as a numeral of its own. -/
def isDecimal (py : Interpreter F) (c : Char) : Bool := (py.int (String.singleton c)).isSome

/-- `re.search(r"round_(\d+)_sequence_\d+$", name)` with its group, read from the end: a
newline there does not count, and each run of digits is bounded by what is before it. -/
def matched_round (py : Interpreter F) (name : String) : Option String :=
  let reversed := name.toList.reverse
  let reversed := if reversed.head? = some '\n' then reversed.tail else reversed
  let (sequence, rest) := reversed.span (isDecimal py)
  let separator := "_sequence_".toList.reverse
  if sequence = [] ∨ !separator.isPrefixOf rest then none
  else
    let (round, rest) := (rest.drop separator.length).span (isDecimal py)
    if round = [] ∨ !"round_".toList.reverse.isPrefixOf rest then none
    else some (String.ofList round.reverse)

def round_index (py : Interpreter F) (input_dir : InputDir F) (bundle : Bundle F) : Except Exception ℤ :=
  match matched_round py (bundle.name input_dir) with
  | none => .error (.value_error ("cannot recover matched round from " ++ bundle.path input_dir))
  | some text =>
    match py.int text with
    | some round => .ok round
    | none => .error (.value_error ("invalid literal for int() with base 10: " ++ py.repr text))

end

section

variable {F : Type} [PyNumber F] (runtime : Runtime F)

/-- `Counter(str(row[key]) for row in rows)`, by the texts it counts. -/
def texts (key : String) (rows : List (Json F)) : Except Exception (List String) :=
  rows.mapM fun row => do return runtime.str (← row.item key)

/-- `sum(int(row[key]) for row in rows)` -/
def sum_int (key : String) (rows : List (Json F)) : Except Exception (Json F) := do
  let values ← rows.mapM fun row => do (← row.item key).toInt runtime.toInterpreter
  return .int values.sum

/-- `round(sum(float(row[key]) for row in rows), 6)`: nothing sums to an `int`. -/
def sum_float (key : String) (rows : List (Json F)) : Except Exception (Json F) := do
  let values ← rows.mapM fun row => do (← row.item key).toFloat runtime.toInterpreter
  return if values = [] then .int 0 else .float (roundTo (PyNumber.sum values) 6)

/-- `max(values, default=0.0)` -/
def max_float : List F → F
  | [] => lit 0
  | first :: rest => rest.foldl pyMax first

def DECISIONS : List String := ["recompute", "partial_reuse", "full_reuse"]

/-- The counts of the decisions, under the names of a counter. -/
def decision_counts (name : String) (decisions : List String) : List (String × Json F) :=
  DECISIONS.map fun decision => (name ++ "_" ++ decision, .int (decisions.count decision))

/-- `json.dumps(dict(sorted(reasons.items())))` -/
def fallback_reasons_json (dumps : Json F → String) (reasons : List String) : String :=
  dumps (.dict ((validate_online_bundle.sorted_counts reasons).map fun entry => (entry.1, .int entry.2)))

/-- What the counters of a bundle count, and the cache usages that are numbers. -/
structure Counted (F : Type) where
  observed : List String
  effective : List String
  realized : List String
  reasons : List String
  cache_usages : List F

def count_rows (observations accounting : List (Json F)) : Except Exception (Counted F) := do
  let observed ← texts runtime "decision" observations
  let effective ← texts runtime "runtime_effective_decision" observations
  let realized ← texts runtime "realized_decision" accounting
  let fallbacks ← selectRows (fun row => do return (← row.get "runtime_fallback_reason").truthy) observations
  let reasons ← texts runtime "runtime_fallback_reason" fallbacks
  let used ← selectRows (fun row => do return (← row.get "peak_cache_usage").number?.isSome) accounting
  let cache_usages ← used.mapM fun row => do (← row.item "peak_cache_usage").toFloat runtime.toInterpreter
  return { observed, effective, realized, reasons, cache_usages }

/-- How the program prints: `json.dumps` of a dictionary, and a set, whose order the
language leaves open. -/
structure Printer (F : Type) where
  dumps : Json F → String
  set : List (Json F) → String

variable (printer : Printer F)

/-- The measured fields of a row, in the order the row has them. -/
def measured_fields (summary : Json F) (observations accounting : List (Json F)) (counted : Counted F) :
    Except Exception (List (String × Json F)) := do
  let requests ← summary.item "requests"
  let completed ← summary.item "completed"
  let metrics ← METRICS.mapM fun metric => do return (metric, ← summary.item metric)
  let prompt_tokens ← sum_int runtime "prompt_tokens" accounting
  let avoided_prefill_tokens ← sum_int runtime "reused_tokens" accounting
  let partial_reuse (row : Json F) : Except Exception Bool := do
    return (← row.item "realized_decision").eq (.str "partial_reuse")
  let partials ← selectRows partial_reuse accounting
  let recomputed_tail_tokens ← sum_int runtime "recomputed_tokens" partials
  let lookup_latency_ms ← sum_float runtime "lookup_latency_ms" accounting
  let commit_latency_ms ← sum_float runtime "commit_latency_ms" accounting
  let tail_isolation_latency_ms ← sum_float runtime "tail_isolation_latency_ms" accounting
  let decision_latency_ms ← sum_float runtime "decision_latency_ms" observations
  let boundary_alignment_latency_ms ← sum_float runtime "boundary_alignment_latency_ms" observations
  let controller_latency_ms ← sum_float runtime "controller_latency_ms" observations
  let cached_blocks ← sum_int runtime "cached_blocks" accounting
  return [("requests", requests), ("completed", completed)] ++ metrics ++ [
    ("prompt_tokens", prompt_tokens),
    ("avoided_prefill_tokens", avoided_prefill_tokens),
    ("recomputed_tail_tokens", recomputed_tail_tokens),
    ("lookup_latency_ms", lookup_latency_ms),
    ("commit_latency_ms", commit_latency_ms),
    ("tail_isolation_latency_ms", tail_isolation_latency_ms),
    ("decision_latency_ms", decision_latency_ms),
    ("boundary_alignment_latency_ms", boundary_alignment_latency_ms),
    ("controller_latency_ms", controller_latency_ms),
    ("cached_blocks", cached_blocks),
    ("peak_cache_usage", .float (max_float counted.cache_usages))] ++
    decision_counts "observed" counted.observed ++ decision_counts "effective" counted.effective ++
    decision_counts "realized" counted.realized ++ [
    ("realign_count", .int (counted.reasons.count "partial_reuse_cut_point_realigned_to_runtime_hash_blocks")),
    ("fallback_full_reuse_count",
      .int (counted.reasons.count "block_aligned_partial_reuse_dominated_by_full_reuse")),
    ("fallback_recompute_count",
      .int (counted.reasons.count "block_aligned_partial_reuse_collapses_to_recompute")),
    ("fallback_reasons_json", .str (fallback_reasons_json printer.dumps counted.reasons))]

variable (input_dir : InputDir F)

/-- The row of one bundle. -/
def collect_row (bundle : Bundle F) : Except Exception (Row F) := do
  let validation ← bundle.validation
  let manifest ← File.read bundle.run_manifest
  let environment ← File.read bundle.environment_manifest
  let summary ← File.read bundle.request_summary
  let observations ← File.read bundle.runtime_observations
  raiseIf (!(← validation.get "valid").truthy) ("invalid M2 bundle: " ++ bundle.path input_dir)
  raiseIf (!(← manifest.get "evidence_label").eq (.str EVIDENCE_LABEL))
    ("wrong evidence label: " ++ bundle.path input_dir)
  let policy ← manifest.get "policy_mode"
  raiseIf (!policy.memberOf (POLICIES.map .str))
    ("invalid policy mode " ++ runtime.reprValue policy ++ ": " ++ bundle.path input_dir)
  let accounting := match ← validation.get "engine_accounting" with
    | .list items => items
    | _ => []
  raiseIf accounting.isEmpty ("missing engine accounting: " ++ bundle.path input_dir)
  let counted ← count_rows runtime observations accounting
  let workload ← manifest.item "workload_case"
  let round ← round_index runtime.toInterpreter input_dir bundle
  let service_lifecycle_id ← manifest.get "service_lifecycle_id"
  let protocol_fingerprint ← environment.get "protocol_fingerprint"
  let measured ← measured_fields runtime printer summary observations accounting counted
  return {
    bundle := bundle.relative
    workload
    policy_mode := policy
    round
    service_lifecycle_id
    protocol_fingerprint
    measured
    observations }

/-- The cell of the matrix a run is in, as the keys of the summaries have it. -/
def Row.cell (row : Row F) : Json F × Json F × ℤ := (row.workload, row.policy_mode, row.round)

def same_cell (a b : Json F × Json F × ℤ) : Bool :=
  a.1.same b.1 && a.2.1.same b.2.1 && decide (a.2.2 = b.2.2)

/-- `a < b` of two cells: of the first entries they differ in. -/
def cell_lt (a b : Json F × Json F × ℤ) : Except Exception Bool :=
  if !a.1.same b.1 then a.1.lt b.1
  else if !a.2.1.same b.2.1 then a.2.1.lt b.2.1
  else .ok (decide (a.2.2 < b.2.2))

def insert_cell (cell : Json F × Json F × ℤ) :
    List (Json F × Json F × ℤ) → Except Exception (List (Json F × Json F × ℤ))
  | [] => .ok [cell]
  | first :: rest => do
    if ← cell_lt first cell then
      return first :: (← insert_cell cell rest)
    return cell :: first :: rest

/-- `sorted(a - b)` of two sets of cells, as it is printed. -/
def sorted_difference (a b : List (Json F × Json F × ℤ)) : Except Exception String := do
  let only := (a.filter fun cell => !b.any (same_cell cell)).foldl (fun cells cell =>
    if cells.any (same_cell cell) then cells else cells ++ [cell]) []
  let cells ← only.foldrM insert_cell []
  let printed := cells.map fun cell =>
    "(" ++ runtime.reprValue cell.1 ++ ", " ++ runtime.reprValue cell.2.1 ++ ", " ++ toString cell.2.2 ++ ")"
  return "[" ++ ", ".intercalate printed ++ "]"

def ROUNDS : List ℤ := [1, 2, 3]

/-- The cells of the preregistered matrix. -/
def matrix : List (String × String × ℤ) :=
  WORKLOADS.flatMap fun workload => POLICIES.flatMap fun policy => ROUNDS.map fun round => (workload, policy, round)

/-- The cells as the keys of a set. -/
def expected : List (Json F × Json F × ℤ) := matrix.map fun cell => (.str cell.1, .str cell.2.1, cell.2.2)

/-- The cells of the runs are those of the matrix, as sets. -/
def check_matrix (runs : List (Row F)) : Except Exception Unit :=
  let actual := runs.map Row.cell
  if !runs.all (fun row => row.workload.hashable && row.policy_mode.hashable) then .error .type_error
  else if actual.all (fun cell => expected.any (same_cell cell)) &&
      expected.all (fun cell => actual.any (same_cell cell)) then .ok ()
  else do
    let missing ← sorted_difference runtime expected actual
    let extra ← sorted_difference runtime actual expected
    .error (.value_error ("M2 matrix mismatch: missing=" ++ missing ++ ", extra=" ++ extra))

def check_lifecycles (runs : List (Row F)) : Except Exception Unit := do
  let lifecycle_ids := runs.map Row.service_lifecycle_id
  let error := "M2 lifecycle IDs are missing or not independent"
  raiseIf (Json.null.memberOf lifecycle_ids) error
  raiseIf (lifecycle_ids.length != (← Json.setOf lifecycle_ids).length) error

def check_protocol (runs : List (Row F)) (workload : String) : Except Exception Unit := do
  let matched := runs.filter fun row => row.workload.eq (.str workload)
  let fingerprints ← Json.setOf (matched.map Row.protocol_fingerprint)
  raiseIf (Json.null.memberOf fingerprints || fingerprints.length != 1)
    ("matched protocol drift for " ++ workload ++ ": " ++ printer.set fingerprints)

/-- A record of the suite closes its lifecycle: both codes are zero. -/
def unclosed (record : Json F) : Except Exception Bool := do
  if !(← record.get "returncode").eq (.int 0) then
    return true
  return !(← record.get "validation_returncode").eq (.int 0)

def check_scheduled (suite : Json F) (runs : List (Row F)) : Except Exception Unit := do
  let scheduled ← (← suite.getD "runs" (.list [])).iterate
  let error := "suite records do not close all M2 lifecycle validations"
  raiseIf (scheduled.length != runs.length) error
  raiseIf (← scheduled.anyM unclosed) error

def collect_runs : Except Exception (List (Row F)) := do
  let suite ← File.read input_dir.suite_manifest
  let status ← suite.get "status"
  raiseIf (!status.eq (.str "completed")) ("M2 suite status is " ++ runtime.reprValue status ++ ", not completed")
  raiseIf (!(← suite.get "evidence_label").eq (.str EVIDENCE_LABEL))
    "M2 suite evidence label is missing or incorrect"
  let runs ← input_dir.validations.mapM (collect_row runtime printer input_dir)
  check_matrix runtime runs
  check_lifecycles runs
  WORKLOADS.forM (check_protocol printer runs)
  check_scheduled suite runs
  return runs

/-! The two summaries. -/

/-- `float(row[field])` -/
def Row.number (row : Row F) (field : String) : Except Exception F := do
  (← (Json.dict row.measured).item field).toFloat runtime.toInterpreter

/-- The runs of a policy on a workload, which `mechanism_summary` pools. -/
def cell_group (runs : List (Row F)) (workload policy : String) : List (Row F) :=
  runs.filter fun row => row.workload.eq (.str workload) && row.policy_mode.eq (.str policy)

/-- `index.get((workload, round, policy))` in the index of `boundary_summary`, where a
run replaces an earlier one with its key. -/
def index_run (runs : List (Row F)) (workload : String) (round : ℤ) (policy : String) : Option (Row F) :=
  runs.reverse.find? fun row => same_cell (.str workload, .str policy, round) row.cell

def MECHANISM_FIELDS : List String := ["avoided_prefill_tokens", "recomputed_tail_tokens", "lookup_latency_ms",
  "commit_latency_ms", "tail_isolation_latency_ms", "decision_latency_ms", "boundary_alignment_latency_ms",
  "controller_latency_ms", "cached_blocks", "peak_cache_usage", "observed_recompute", "observed_partial_reuse",
  "observed_full_reuse", "effective_recompute", "effective_partial_reuse", "effective_full_reuse",
  "realized_recompute", "realized_partial_reuse", "realized_full_reuse", "realign_count",
  "fallback_full_reuse_count", "fallback_recompute_count"]

structure Mechanism (F : Type) where
  workload : String
  policy_mode : String
  lifecycles : ℕ
  medians : List (String × F)

def mechanism_summary (runs : List (Row F)) : Except Exception (List (Mechanism F)) :=
  (WORKLOADS.product POLICIES).mapM fun cell => do
    let group := cell_group runs cell.1 cell.2
    let medians ← MECHANISM_FIELDS.mapM fun field => do
      let middle ← median (← group.mapM (Row.number runtime · field))
      return (field ++ "_median", roundTo middle 6)
    return { workload := cell.1, policy_mode := cell.2, lifecycles := group.length, medians }

def relative_delta (controller baseline : F) : Except Exception F := do
  raiseIf (PyNumber.eq baseline (lit 0)) "zero fixed-policy denominator"
  return lit 100 * ((← PyFloat.div controller baseline) - lit 1)

/-- `index[(workload, round, policy)]` -/
def indexed (runs : List (Row F)) (workload : String) (round : ℤ) (policy : String) : Except Exception (Row F) :=
  match index_run runs workload round policy with
  | some row => .ok row
  | none =>
    .error (.key_error ("(" ++ runtime.repr workload ++ ", " ++ toString round ++ ", " ++
      runtime.repr policy ++ ")"))

/-- The first of the values that are greatest. -/
def max_item {α : Type} (first : F × α) (rest : List (F × α)) : F × α :=
  rest.foldl (fun best item => if lt best.1 item.1 then item else best) first

/-- What one round compares: the controller with the best of the fixed policies. -/
structure Matched (F : Type) where
  ttft : F
  latency : F
  throughput : F
  fixed_winner : Json F

def matched_deltas (runs : List (Row F)) (workload : String) (round : ℤ) : Except Exception (Matched F) := do
  let controller ← indexed runtime runs workload round "controller"
  let recompute ← indexed runtime runs workload round "always_recompute"
  let full_reuse ← indexed runtime runs workload round "always_full_reuse"
  let against (best : F × Row F → List (F × Row F) → F × Row F) (metric : String) :
      Except Exception (F × Row F) := do
    let first := (← recompute.number runtime metric, recompute)
    let second := (← full_reuse.number runtime metric, full_reuse)
    let fixed := best first [second]
    return (← relative_delta (← controller.number runtime metric) fixed.1, fixed.2)
  let ttft ← against minItem "mean_ttft_ms"
  let latency ← against minItem "mean_latency_ms"
  let throughput ← against max_item "request_throughput_rps"
  return {
    ttft := ttft.1
    latency := latency.1
    throughput := throughput.1
    fixed_winner := ttft.2.policy_mode }

structure Boundary (F : Type) where
  workload : String
  matched_rounds : ℕ
  controller_vs_best_fixed_ttft_pct_mean : F
  controller_vs_best_fixed_e2e_pct_mean : F
  controller_vs_best_fixed_throughput_pct_mean : F
  best_fixed_ttft_wins_json : String
  meaningful_gain_threshold_pct : F
  classification : String

def boundary_row (runs : List (Row F)) (workload : String) : Except Exception (Boundary F) := do
  let rounds ← ROUNDS.mapM (matched_deltas runtime runs workload)
  let mean_ttft_delta ← mean (rounds.map Matched.ttft)
  let mean_e2e_delta ← mean (rounds.map Matched.latency)
  let mean_throughput_delta ← mean (rounds.map Matched.throughput)
  let positive := pyLe mean_ttft_delta (lit (-MEANINGFUL_GAIN_PCT)) &&
    pyLe mean_e2e_delta (lit MEANINGFUL_GAIN_PCT) && pyLe (lit (-MEANINGFUL_GAIN_PCT)) mean_throughput_delta
  let winners := rounds.map fun round => runtime.str round.fixed_winner
  let fixed_winners := winners.reverse.dedup.reverse.map fun policy => (policy, Json.int (winners.count policy))
  return {
    workload
    matched_rounds := 3
    controller_vs_best_fixed_ttft_pct_mean := roundTo mean_ttft_delta 6
    controller_vs_best_fixed_e2e_pct_mean := roundTo mean_e2e_delta 6
    controller_vs_best_fixed_throughput_pct_mean := roundTo mean_throughput_delta 6
    best_fixed_ttft_wins_json := printer.dumps (.dict fixed_winners)
    meaningful_gain_threshold_pct := lit MEANINGFUL_GAIN_PCT
    classification := if positive then "positive" else "fallback_or_no_gain" }

def boundary_summary (runs : List (Row F)) : Except Exception (List (Boundary F)) :=
  if !runs.all (fun row => row.workload.hashable && row.policy_mode.hashable) then .error .type_error
  else WORKLOADS.mapM (boundary_row runtime printer runs)

end

end aggregate_m2_boundary
