import KvMaterialization.Python.Json
import KvMaterialization.Python.Statistics

open python

namespace g0_pathology

def WORKLOADS : List String := ["burstgpt", "servegen"]

def INTENSITIES : List String := ["moderate", "high"]

def ARMS : List String := ["no_control", "always_recompute", "concurrency_cap", "request_token_bucket",
  "minimum_retrieve_threshold", "fixed_prefetch_depth", "materialization_paced_oracle"]

def REPEATS : ℕ := 3

def REQUIRED_TELEMETRY : List String := ["request_id", "requested_materialization_bytes",
  "realized_materialization_bytes", "bytes_in_flight", "connector_queue_depth", "connector_queue_wait_ms",
  "layer_ready_wait_ms", "transfer_busy_ms", "compute_busy_ms", "hbm_peak_bytes", "dram_peak_bytes",
  "realized_reuse_tokens", "fallback_reason", "waiting_reason", "activation_counter"]

def REQUIRED_REQUEST : List String := ["request_id", "ok", "ttft_ms", "e2e_ms", "tpot_ms", "output_tokens"]

/-- The arms that hold requests back without looking at what they materialize. -/
def GENERIC_ARMS : List String := ["concurrency_cap", "request_token_bucket"]

/-- An entry of the schedule. -/
structure Spec where
  sequence : ℕ
  workload : String
  burst_intensity : String
  repeat_ : ℕ
  order_index : ℕ
  arm : String
  low_concurrency_control : Bool
  deriving DecidableEq, Repr

def Spec.toJson {F : Type} (spec : Spec) : Json F := .dict [
  ("sequence", .int spec.sequence), ("workload", .str spec.workload),
  ("burst_intensity", .str spec.burst_intensity), ("repeat", .int spec.repeat_),
  ("order_index", .int spec.order_index), ("arm", .str spec.arm),
  ("low_concurrency_control", .bool spec.low_concurrency_control)]

/-- The arms of one repeat, starting one later each time. -/
def rotated (repeat_ : ℕ) : List String := ARMS.drop (repeat_ - 1) ++ ARMS.take (repeat_ - 1)

/-- The entries of the main matrix before they are numbered. -/
def main_specs : List Spec :=
  WORKLOADS.flatMap fun workload => INTENSITIES.flatMap fun intensity =>
    (List.range' 1 REPEATS).flatMap fun repeat_ => ((rotated repeat_).zipIdx 1).map fun arm =>
      { sequence := 0, workload, burst_intensity := intensity, repeat_, order_index := arm.2, arm := arm.1,
        low_concurrency_control := false }

def low_control_specs : List Spec :=
  WORKLOADS.flatMap fun workload => (List.range' 1 REPEATS).flatMap fun repeat_ =>
    ["no_control", "materialization_paced_oracle"].map fun arm =>
      { sequence := 0, workload, burst_intensity := "low_control", repeat_, order_index := 1, arm,
        low_concurrency_control := true }

/-- The schedule `init_suite` writes. -/
def schedule : List Spec :=
  ((main_specs ++ low_control_specs).zipIdx 1).map fun spec => { spec.1 with sequence := spec.2 }

/-- `f"{sequence:03d}"`, for which a number has to be an integer. -/
def padded {F : Type} : Json F → Except Exception String
  | .int n => .ok (pad n)
  | .bool b => .ok (pad (if b then 1 else 0))
  | .float _ => .error (.value_error "Unknown format code 'd' for object of type 'float'")
  | .str _ => .error (.value_error "Unknown format code 'd' for object of type 'str'")
  | _ => .error .type_error
where
  pad (n : ℤ) : String :=
    let digits := toString n.natAbs
    if n < 0 then "-" ++ "".pushn '0' (2 - digits.length) ++ digits
    else "".pushn '0' (3 - digits.length) ++ digits

/-- The files of a run. -/
structure Bundle (F : Type) where
  run_manifest : Option (Except Exception (Json F))
  request_results : Option (Except Exception (List (Json F)))
  materialization_telemetry : Option (Except Exception (List (Json F)))

/-- A suite directory: its manifest, and the runs under it by name. -/
structure Suite (F : Type) where
  path : String
  suite_manifest : Except Exception (Json F)
  runs : String → Bundle F

structure Summary (F : Type) where
  bundle : String
  workload : Json F
  burst_intensity : Json F
  repeat_ : Json F
  arm : Json F
  requests : ℕ
  p95_ttft_ms : F
  mean_e2e_ms : F
  mean_tpot_ms : F
  goodput_rps : F
  materialization_pressure : F

section

variable {F : Type} [PyNumber F]

def percentile (values : List F) (q : ℤ) : Except Exception F := do
  if values = [] then
    throw (.value_error "cannot calculate percentile of no values")
  let ordered := sorted values
  let index ← ceil (← intDiv ((ordered.length - 1) * q) 100 : F)
  itemAt ordered index

/-- `{row.get("request_id") for row in rows}` -/
def ids (rows : List (Json F)) : Except Exception (List (Json F)) := do
  return (← rows.mapM fun row => do
    let request_id ← row.get "request_id"
    if request_id.hashable then
      return request_id
    throw .type_error).foldl Json.insertInto []

/-- A row must have all the required fields, the flag among them set. -/
def check_row (runtime : Runtime F) (required : List String) (flag failure bundle : String)
    (row : Json F) : Except Exception Unit := do
  let keys ← row.keys
  let missing := required.filter fun field => !keys.contains field
  let missingText := runtime.reprValue (.list ((missing.insertionSort (· ≤ ·)).map .str))
  let message := s!"{failure} failure in {bundle}: missing={missingText}"
  raiseIf (!missing.isEmpty) message
  raiseIf (!(← row.item flag).truthy) message

def load_bundle (runtime : Runtime F) (path : String) (bundle : Bundle F) :
    Except Exception (Json F × List (Json F) × List (Json F)) := do
  match bundle.run_manifest, bundle.request_results, bundle.materialization_telemetry with
  | some manifest, some requests, some telemetry =>
    let manifest ← manifest
    let requests ← requests
    let telemetry ← telemetry
    raiseIf (requests.isEmpty || requests.length != telemetry.length)
      s!"request/telemetry count mismatch: {path}"
    let request_ids ← ids requests
    let telemetry_ids ← ids telemetry
    raiseIf (!Json.sameSet request_ids telemetry_ids || Json.null.memberOf request_ids)
      s!"request/telemetry ID mismatch: {path}"
    requests.forM (check_row runtime REQUIRED_REQUEST "ok" "request correctness" path)
    telemetry.forM (check_row runtime REQUIRED_TELEMETRY "activation_counter" "telemetry activation" path)
    return (manifest, requests, telemetry)
  | _, _, _ => throw (.value_error s!"incomplete raw bundle: {path}")

/-- `float(row[key])` -/
def number (runtime : Runtime F) (key : String) (row : Json F) : Except Exception F := do
  (← row.item key).toFloat runtime.toInterpreter

/-- `max(values)` -/
def maximum : List F → Except Exception F
  | [] => .error (.value_error "max() iterable argument is empty")
  | first :: rest => .ok (rest.foldl pyMax first)

def pressure (runtime : Runtime F) (row : Json F) : Except Exception F := do
  let queue ← number runtime "connector_queue_wait_ms" row
  let layer ← number runtime "layer_ready_wait_ms" row
  let in_flight ← number runtime "bytes_in_flight" row
  let requested ← number runtime "requested_materialization_bytes" row
  return queue + layer + (← PyFloat.div in_flight (pyMax (lit 1) requested))

/-- `requests / duration_s if duration_s else 0.0` -/
def goodput (requests : ℕ) (duration_s : F) : Except Exception F :=
  if PyNumber.eq duration_s (lit 0) then .ok (lit 0)
  else (Number.int requests).div (.float duration_s)

def summarize_bundle (runtime : Runtime F) (path : String) (bundle : Bundle F) :
    Except Exception (Summary F) := do
  let (manifest, requests, telemetry) ← load_bundle runtime path bundle
  let duration_s ← PyFloat.div (← maximum (← requests.mapM (number runtime "e2e_ms"))) (lit 1000)
  return {
    bundle := path
    workload := ← manifest.item "workload"
    burst_intensity := ← manifest.item "burst_intensity"
    repeat_ := ← manifest.item "repeat"
    arm := ← manifest.item "arm"
    requests := requests.length
    p95_ttft_ms := ← percentile (← requests.mapM (number runtime "ttft_ms")) 95
    mean_e2e_ms := ← mean (← requests.mapM (number runtime "e2e_ms"))
    mean_tpot_ms := ← mean (← requests.mapM (number runtime "tpot_ms"))
    goodput_rps := ← goodput requests.length duration_s
    materialization_pressure := ← mean (← telemetry.mapM (pressure runtime)) }

/-- The summaries of one repeat of a cell, by arm. -/
abbrev Round (F : Type) := List (Json F × Summary F)

/-- What the loop over the schedule has built. -/
structure Collected (F : Type) where
  summaries : List (Summary F)
  by_cell : List ((Json F × Json F × Json F) × Round F)
  errors : List String

def Collected.empty : Collected F := ⟨[], [], []⟩

def sameCell (a b : Json F × Json F × Json F) : Bool := a.1.same b.1 && a.2.1.same b.2.1 && a.2.2.same b.2.2

def Collected.round (self : Collected F) (cell : Json F × Json F × Json F) : Round F :=
  (lookup sameCell self.by_cell cell).getD []

/-- Some field of the summary is not the one of the schedule. -/
def mismatched (spec : Json F) : List (String × Json F) → Except Exception Bool
  | [] => .ok false
  | (key, value) :: rest => do
    if value.eq (← spec.item key) then
      mismatched spec rest
    else
      return true

def scheduled_summary (runtime : Runtime F) (spec : Json F) (path : String) (bundle : Bundle F) :
    Except Exception (Summary F) := do
  let summary ← summarize_bundle runtime path bundle
  raiseIf (← mismatched spec [("workload", summary.workload), ("burst_intensity", summary.burst_intensity),
    ("repeat", summary.repeat_), ("arm", summary.arm)]) "bundle manifest does not match preregistered schedule"
  return summary

/-- `by_cell[(workload, burst_intensity, repeat)][arm] = summary` -/
def file_summary (spec : Json F) (summary : Summary F) (by_cell : List ((Json F × Json F × Json F) × Round F)) :
    Except Exception (List ((Json F × Json F × Json F) × Round F)) := do
  let cell := (← spec.item "workload", ← spec.item "burst_intensity", ← spec.item "repeat")
  let arm ← spec.item "arm"
  if [cell.1, cell.2.1, cell.2.2, arm].all Json.hashable then
    return assignAt sameCell by_cell cell
      (assignAt Json.same ((lookup sameCell by_cell cell).getD []) arm summary)
  throw .type_error

/-- `except (OSError, ValueError, KeyError, TypeError)` -/
def caught : Exception → Bool
  | .os_error => true
  | .value_error _ => true
  | .key_error _ => true
  | .type_error => true
  | _ => false

/-- An entry of the schedule: its summary is kept even where it cannot be filed. -/
def collect_spec (runtime : Runtime F) (suite : Suite F) (collected : Collected F) (spec : Json F) :
    Except Exception (Collected F) := do
  let sequence ← spec.item "sequence"
  let sequenceText ← padded sequence
  let armText := runtime.str (← spec.item "arm")
  let name := s!"{sequenceText}_{armText}"
  let path := suite.path ++ "/runs/" ++ name
  let failed (error : Exception) : String :=
    "sequence " ++ runtime.str sequence ++ ": " ++ runtime.message error
  match ← attempt caught (scheduled_summary runtime spec path (suite.runs name)) with
  | .inl error => return { collected with errors := collected.errors ++ [failed error] }
  | .inr summary =>
    match ← attempt caught (file_summary spec summary collected.by_cell) with
    | .inl error => return { collected with
        summaries := collected.summaries ++ [summary], errors := collected.errors ++ [failed error] }
    | .inr by_cell => return { collected with summaries := collected.summaries ++ [summary], by_cell }

def collect (runtime : Runtime F) (suite : Suite F) : Except Exception (Collected F) := do
  let suite_manifest ← suite.suite_manifest
  let specs ← (← suite_manifest.item "schedule").iterate
  specs.foldlM (collect_spec runtime suite) Collected.empty

def rounds (collected : Collected F) (workload intensity : String) : List (Round F) :=
  (List.range' 1 REPEATS).map fun repeat_ => collected.round (.str workload, .str intensity, .int repeat_)

/-- Every repeat has these arms and no other. -/
def complete (arms : List String) (rounds : List (Round F)) : Bool :=
  rounds.all fun round => Json.sameSet (round.map Prod.fst) (arms.map .str)

/-- `round[arm]` -/
def arm_summary (round : Round F) (arm : String) : Except Exception (Summary F) :=
  match lookup Json.same round (.str arm) with
  | some summary => .ok summary
  | none => .error (.key_error arm)

/-- How much slower the tail is without control than under an arm, in percent: the
median over the repeats. -/
def tail_effect (arm : String) (rounds : List (Round F)) : Except Exception F := do
  median (← rounds.mapM fun round => do
    let no_control ← arm_summary round "no_control"
    let candidate ← arm_summary round arm
    return ((← PyFloat.div no_control.p95_ttft_ms candidate.p95_ttft_ms) - lit 1) * lit 100)

def pressure_gap (rounds : List (Round F)) : Except Exception F := do
  median (← rounds.mapM fun round => do
    return (← arm_summary round "no_control").materialization_pressure -
      (← arm_summary round "materialization_paced_oracle").materialization_pressure)

def goodput_gap (rounds : List (Round F)) : Except Exception F := do
  maximum (← rounds.mapM fun round => do
    let no_control ← arm_summary round "no_control"
    let oracle ← arm_summary round "materialization_paced_oracle"
    return pyAbs ((← PyFloat.div no_control.goodput_rps oracle.goodput_rps) - lit 1) * lit 100)

structure Evidence (F : Type) where
  workload : String
  burst_intensity : String
  p95_regression_pct : F
  generic_cap_effect_pct : F
  pressure_gap : F
  max_goodput_gap_pct : F

/-- The evidence of a cell, or the error it has instead. -/
def cell_evidence (collected : Collected F) (workload intensity : String) :
    Except Exception (String ⊕ Evidence F) := do
  let rounds := rounds collected workload intensity
  if complete ARMS rounds then
    let regression ← tail_effect "materialization_paced_oracle" rounds
    let generic := pyMin (← tail_effect "concurrency_cap" rounds) (← tail_effect "request_token_bucket" rounds)
    let pressure ← pressure_gap rounds
    let goodput ← goodput_gap rounds
    return .inr { workload, burst_intensity := intensity, p95_regression_pct := regression,
                  generic_cap_effect_pct := generic, pressure_gap := pressure, max_goodput_gap_pct := goodput }
  return .inl s!"incomplete arm matrix: {workload}/{intensity}"

/-- The gap at low concurrency is large as well, or the error the workload has instead. -/
def low_control (collected : Collected F) (workload : String) : Except Exception (String ⊕ Bool) := do
  let rounds := rounds collected workload "low_control"
  if complete ["no_control", "materialization_paced_oracle"] rounds then
    return .inr (pyLe (lit 10) (← tail_effect "materialization_paced_oracle" rounds))
  return .inl s!"incomplete low control: {workload}"

def Evidence.passes (row : Evidence F) : Bool :=
  pyLe (lit 10) row.p95_regression_pct && lt (lit 0) row.pressure_gap &&
    lt row.generic_cap_effect_pct (row.p95_regression_pct - lit 1) && pyLe row.max_goodput_gap_pct (lit 5)

inductive Verdict where
  | stop
  | go
  deriving DecidableEq, Repr

structure Report (F : Type) where
  summaries : List (Summary F)
  verdict : Verdict
  errors : List String
  evidence : List (Evidence F)

def cells : List (String × String) :=
  WORKLOADS.flatMap fun workload => INTENSITIES.map fun intensity => (workload, intensity)

def rebuild (runtime : Runtime F) (suite : Suite F) : Except Exception (Report F) := do
  let collected ← collect runtime suite
  if collected.errors = [] then
    let rows ← cells.mapM fun cell => cell_evidence collected cell.1 cell.2
    let lows ← WORKLOADS.mapM (low_control collected)
    let errors := rows.filterMap Sum.getLeft? ++ lows.filterMap Sum.getLeft?
    let evidence := rows.filterMap Sum.getRight?
    let low_equal := (lows.filterMap Sum.getRight?).any id
    let go := errors.isEmpty && !low_equal && evidence.all Evidence.passes
    return { summaries := collected.summaries, verdict := if go then .go else .stop, errors, evidence }
  return { summaries := collected.summaries, verdict := .stop, errors := collected.errors, evidence := [] }

end

end g0_pathology
