import KvMaterialization.Experiments.OnlineClient

open python

namespace validate_online_bundle

def REQUIRED_OBSERVATION_FIELDS : List String := ["request_id", "decision", "runtime_effective_decision",
  "runtime_target_reuse_tokens", "runtime_target_tail_tokens", "runtime_fallback_reason"]

def M2_EVIDENCE_LABELS : List String := ["real-online/m2-benefit-boundary",
  "real-online/m2-candidate-pilot", "real-online/m2-anchor-candidate-pilot",
  "real-online/m2-anchor-confirmation", "real-online/m2-stateful-secondary-pilot",
  "real-online/m2-significance-confirmation", "real-online/m2-catalog-closure-pilot"]

/-- A file that may be missing, and what decoding it returns or raises. -/
abbrev File (α : Type) := Option (Except Exception α)

structure Bundle (F : Type) where
  environment_manifest : File (Json F)
  run_manifest : File (Json F)
  request_summary : File (Json F)
  request_results : File (List (Json F))
  runtime_observations : File (List (Json F))
  runtime_events : File (List (Json F))
  server_log : Bool
  client_log : Bool
  cleanup : File (Json F)

/-- What the files of a bundle decode to. -/
structure Records (F : Type) where
  environment : Json F
  manifest : Json F
  summary : Json F
  cleanup : Json F
  requests : List (Json F)
  observations : List (Json F)
  engine_events : List (Json F)

section

variable {F : Type}

def Bundle.required_files (bundle : Bundle F) : List (String × Bool) := [
  ("environment_manifest.json", bundle.environment_manifest.isSome),
  ("run_manifest.json", bundle.run_manifest.isSome),
  ("request_summary.json", bundle.request_summary.isSome),
  ("request_results.jsonl", bundle.request_results.isSome),
  ("runtime_observations.jsonl", bundle.runtime_observations.isSome),
  ("runtime_events.jsonl", bundle.runtime_events.isSome),
  ("server.log", bundle.server_log),
  ("client.log", bundle.client_log),
  ("cleanup.json", bundle.cleanup.isSome)]

def File.read {α : Type} (file : File α) : Except Exception α := file.getD (.error .os_error)

def Bundle.read (bundle : Bundle F) : Except Exception (Records F) := do
  let environment ← File.read bundle.environment_manifest
  let manifest ← File.read bundle.run_manifest
  let summary ← File.read bundle.request_summary
  let cleanup ← File.read bundle.cleanup
  let requests ← File.read bundle.request_results
  let observations ← File.read bundle.runtime_observations
  let engine_events ← File.read bundle.runtime_events
  return { environment, manifest, summary, cleanup, requests, observations, engine_events }

end

section

variable {F : Type} [PyNumber F]

def request_percentile (values : List F) (q : ℤ) : Except Exception F := do
  if values = [] then
    return lit 0
  let ordered := sorted values
  let share : F ← PyFloat.div (← ofInt q) (lit 100)
  let last : F ← ofInt (ordered.length - 1)
  let index ← PyFloat.round (share * last)
  let index := min (ordered.length - 1 : ℤ) (max 0 index)
  return ordered.getD index.toNat (lit 0)

/-- `row.get("ok")`, as the filters test it. -/
def succeeded (row : Json F) : Except Exception Bool := do return (← row.get "ok").truthy

/-- The rows a filter keeps, the test being one that may raise. -/
def selectRows (keep : Json F → Except Exception Bool) : List (Json F) → Except Exception (List (Json F))
  | [] => .ok []
  | row :: rest => do
    if ← keep row then
      return row :: (← selectRows keep rest)
    selectRows keep rest

/-- `float(row[key]) * 1000.0` -/
def milliseconds (runtime : Runtime F) (key : String) (row : Json F) : Except Exception F := do
  return (← (← row.item key).toFloat runtime.toInterpreter) * lit 1000

def recompute_request_summary (runtime : Runtime F) (requests : List (Json F)) :
    Except Exception (Json F) := do
  let successful ← selectRows succeeded requests
  let failures ← selectRows (fun row => do return !(← succeeded row)) requests
  let latencies_ms ← successful.mapM (milliseconds runtime "latency_s")
  let timed ← selectRows (fun row => do return !(← row.get "ttft_s").isNull) successful
  let ttfts_ms ← timed.mapM (milliseconds runtime "ttft_s")
  return .dict [
    ("requests", .int requests.length),
    ("completed", .int successful.length),
    ("failures", .list failures),
    ("mean_latency_ms", .float (← run_openai_workloads.rounded_or_zero mean latencies_ms)),
    ("p95_latency_ms",
      .float (← run_openai_workloads.rounded_or_zero (request_percentile · 95) latencies_ms)),
    ("mean_ttft_ms", .float (← run_openai_workloads.rounded_or_zero mean ttfts_ms)),
    ("p95_ttft_ms",
      .float (← run_openai_workloads.rounded_or_zero (request_percentile · 95) ttfts_ms))]

def RAW_RECOMPUTABLE_SUMMARY_FIELDS : List String := ["requests", "completed", "failures",
  "mean_latency_ms", "p95_latency_ms", "mean_ttft_ms", "p95_ttft_ms"]

/-- The error of one field, if the summary and the raw rows disagree on it. -/
def field_errors (runtime : Runtime F) (summary recomputed : Json F) (field : String) :
    Except Exception (List String) := do
  let reported ← summary.get field
  let computed ← recomputed.item field
  if reported.eq computed then
    return []
  let reportedText := runtime.reprValue reported
  let computedText := runtime.reprValue computed
  return [s!"summary {field}={reportedText} does not match raw request result {computedText}"]

def verify_request_summary (runtime : Runtime F) (summary : Json F) (requests : List (Json F)) :
    Except Exception (Json F × List String) := do
  let recomputed ← recompute_request_summary runtime requests
  let errors ← RAW_RECOMPUTABLE_SUMMARY_FIELDS.mapM (field_errors runtime summary recomputed)
  return (recomputed, errors.flatten)

/-- The one error of a failed check. -/
def errorIf (failed : Bool) (message : String) : List String := if failed then [message] else []

def startswith (text start : String) : Bool := start.toList.isPrefixOf text.toList

def removeprefix (text start : String) : String :=
  if startswith text start then String.ofList (text.toList.drop start.length) else text

/-- The first of the longest texts. -/
def longest (first : String) (rest : List String) : String :=
  rest.foldl (fun best text => if best.length < text.length then text else best) first

/-- Only a text has the length by which the matches are compared. -/
def normalize_engine_request_id (runtime : Runtime F) (request_id : String)
    (workload_request_ids : List (Json F)) : Except Exception String :=
  let normalized := removeprefix request_id "chatcmpl-"
  let candidates := workload_request_ids.filter fun candidate =>
    candidate.eq (.str normalized) || startswith normalized (runtime.str candidate ++ "-")
  match candidates.mapM Json.str? with
  | none => .error .type_error
  | some [] => .ok normalized
  | some (first :: rest) => .ok (longest first rest)

/-- An engine event filed under the request it belongs to, or the error it is left out with. -/
def classify_event (runtime : Runtime F) (request_ids : List (Json F)) (event : Json F × ℕ) :
    Except Exception (String ⊕ (String × Json F)) := do
  let index := event.2
  match ← event.1.get "request_id" with
  | .str raw_id =>
    let normalized ← normalize_engine_request_id runtime raw_id request_ids
    if (Json.str normalized).memberOf request_ids then
      return .inr (normalized, event.1)
    return .inl s!"engine event {index} has unknown request_id: {raw_id}"
  | _ => return .inl s!"engine event {index} missing request_id"

def mismatch_errors (runtime : Runtime F) (request_ids observation_ids : List (Json F)) :
    Except Exception (List String) := do
  if Json.sameSet request_ids observation_ids then
    return []
  let missing := runtime.reprValue (.list (← Json.sortedValues (Json.difference request_ids observation_ids)))
  let extra := runtime.reprValue (.list (← Json.sortedValues (Json.difference observation_ids request_ids)))
  return [s!"request/observation ID mismatch: missing={missing} extra={extra}"]

def id_errors (runtime : Runtime F) (records : Records F) (request_ids observation_ids : List (Json F)) :
    Except Exception (List String) := do
  let count := records.requests.length
  let reported := runtime.str (← records.summary.get "requests")
  let requests ← (← records.summary.getD "requests" (.int (-1))).toInt runtime.toInterpreter
  let mismatch ← mismatch_errors runtime request_ids observation_ids
  return errorIf (count != requests) s!"per-request count {count} != summary requests {reported}" ++
    errorIf (request_ids.length != count || Json.null.memberOf request_ids)
      "per-request IDs are missing or duplicated" ++
    mismatch

def observation_errors (runtime : Runtime F) (is_m2 : Bool) (observation : Json F × ℕ) :
    Except Exception (List String) := do
  let index := observation.2
  let keys ← observation.1.keys
  let missing := REQUIRED_OBSERVATION_FIELDS.filter fun field => !keys.contains field
  let missingText := runtime.reprValue (.list ((missing.insertionSort (· ≤ ·)).map .str))
  let m2Fields := if is_m2 then
      ["policy_mode", "decision_latency_ms", "boundary_alignment_latency_ms", "controller_latency_ms"]
    else []
  return errorIf (!missing.isEmpty) s!"observation {index} missing fields: {missingText}" ++
    errorIf (keys.contains "runtime_reused_tokens" || keys.contains "runtime_recomputed_tokens")
      s!"observation {index} contains deprecated planner-derived runtime counters" ++
    (m2Fields.filter fun field => !keys.contains field).map fun field =>
      s!"M2 observation {index} missing field: {field}"

def request_errors (request : Json F × ℕ) : Except Exception (List String) := do
  let index := request.2
  let ok ← succeeded request.1
  return errorIf (ok && (← request.1.get "ttft_s").isNull) s!"successful request {index} missing TTFT" ++
    errorIf (ok && !(← request.1.get "raw_events").truthy)
      s!"successful request {index} missing raw SSE events"

/-- The dictionary of observations by request: of several, the last one stays. -/
def observation_of (observations : List (Json F × Json F)) (request_id : String) : Json F :=
  match observations.reverse.find? fun entry => entry.1.same (.str request_id) with
  | some entry => entry.2
  | none => .dict []

/-- `row.get("event") == name` -/
def isEvent (name : String) (row : Json F) : Except Exception Bool := do
  return (← row.get "event").eq (.str name)

/-- `row.get(key)` is a number, which a field of a measured row has to be. -/
def missing_numbers (row : Json F) (keys : List String) (message : String → String) :
    Except Exception (List String) := do
  let missing ← keys.filterM fun key => do return (← row.get key).number?.isNone
  return missing.map message

/-- The pairs of fields in which a lookup has to agree with the observation. -/
def agreements : List (String × String × String) := [
  ("applied_decision", "runtime_effective_decision", "applied/effective decision mismatch"),
  ("observed_decision", "decision", "observed decision mismatch"),
  ("fallback_reason", "runtime_fallback_reason", "fallback reason mismatch"),
  ("target_reuse_tokens", "runtime_target_reuse_tokens", "target reuse mismatch")]

def agreement_errors (request_id : String) (lookup observation : Json F)
    (fields : String × String × String) : Except Exception (List String) := do
  let (applied, expected, message) := fields
  return errorIf (!(← lookup.get applied).eq (← observation.get expected)) s!"request {request_id} {message}"

def expected_realized (reused recomputed : ℤ) : String :=
  if reused = 0 then "recompute" else if recomputed = 0 then "full_reuse" else "partial_reuse"

/-- `reused and (not isinstance(block_size, int) or reused % block_size)` -/
def misaligned (reused : ℤ) (block_size : Json F) : Except Exception Bool :=
  if reused = 0 then .ok false
  else
    match block_size.int? with
    | none => .ok true
    | some size => if size = 0 then .error .zero_division_error else .ok (reused % size != 0)

/-- What an M2 bundle adds to a row of the accounting. -/
structure MeasuredRow (F : Type) where
  lookup_latency_ms : Json F
  commit_latency_ms : Json F
  tail_isolation_latency_ms : Json F
  cached_blocks : ℤ
  peak_cache_usage : Option F

structure AccountingRow (F : Type) where
  request_id : String
  prompt_tokens : Json F
  reused_tokens : Json F
  recomputed_tokens : Json F
  realized_decision : Json F
  measured : Option (MeasuredRow F)

def measure (runtime : Runtime F) (lookup : Json F) (commits : List (Json F)) :
    Except Exception (MeasuredRow F) := do
  let latencies ← commits.mapM fun row => do
    (← row.getD "commit_latency_ms" (.float (lit 0))).toFloat runtime.toInterpreter
  let blocks ← commits.mapM fun row => do
    (← row.getD "cached_blocks" (.int 0)).toInt runtime.toInterpreter
  let usages ← (lookup :: commits).filterMapM fun row => do
    match (← row.get "cache_usage").number? with
    | some usage => return some (← usage.toFloat)
    | none => return none
  return {
    lookup_latency_ms := ← lookup.get "lookup_latency_ms"
    commit_latency_ms := if latencies = [] then .int 0 else .float (roundTo (PyNumber.sum latencies) 9)
    tail_isolation_latency_ms := ← lookup.get "tail_isolation_latency_ms"
    cached_blocks := blocks.sum
    peak_cache_usage :=
      match usages with
      | [] => none
      | first :: rest => some (rest.foldl pyMax first) }

def measure_errors (is_m2 : Bool) (request_id : String) (lookup : Json F) (commits : List (Json F)) :
    Except Exception (List String) := do
  if !is_m2 then
    return []
  let ofLookup ← missing_numbers lookup ["lookup_latency_ms", "tail_isolation_latency_ms", "cache_usage"]
    fun field => s!"request {request_id} lookup missing numeric {field}"
  let ofCommits ← commits.mapM fun commit =>
    missing_numbers commit ["commit_latency_ms", "cache_usage"]
      fun field => s!"request {request_id} commit missing numeric {field}"
  return ofLookup ++ ofCommits.flatten

def measured_row (runtime : Runtime F) (is_m2 : Bool) (lookup : Json F) (commits : List (Json F)) :
    Except Exception (Option (MeasuredRow F)) :=
  if is_m2 then some <$> measure runtime lookup commits else .ok none

/-- `reused < 0 or recomputed < 0 or reused + recomputed != prompt` -/
def unbalanced (prompt reused recomputed : ℤ) : Bool :=
  decide (reused < 0 ∨ recomputed < 0 ∨ reused + recomputed ≠ prompt)

/-- The checks of a request whose lookup has integer counters, and its row. -/
def account_lookup (runtime : Runtime F) (is_m2 : Bool) (lookup : Json F) (commits : List (Json F))
    (observation : Json F) (request_id : String) (prompt reused recomputed : Json F)
    (prompt_tokens reused_tokens recomputed_tokens : ℤ) :
    Except Exception (List String × Option (AccountingRow F)) := do
  let planner ← observation.get "prompt_tokens"
  let promptText := runtime.str prompt
  let plannerText := runtime.str planner
  let reusedText := runtime.str reused
  let recomputedText := runtime.str recomputed
  let disagreements ← agreements.mapM (agreement_errors request_id lookup observation)
  let unaligned ← misaligned reused_tokens (← lookup.get "hash_block_size")
  let realized ← lookup.get "realized_decision"
  let unmeasured ← measure_errors is_m2 request_id lookup commits
  let measured ← measured_row runtime is_m2 lookup commits
  let errors :=
    errorIf (!prompt.eq planner)
      s!"request {request_id} prompt mismatch engine={promptText} planner={plannerText}" ++
    errorIf (unbalanced prompt_tokens reused_tokens recomputed_tokens)
      (s!"request {request_id} token accounting does not close: " ++
        s!"reused={reusedText} recomputed={recomputedText} prompt={promptText}") ++
    disagreements.flatten ++
    errorIf unaligned s!"request {request_id} reused boundary is not block aligned" ++
    errorIf (!realized.eq (.str (expected_realized reused_tokens recomputed_tokens)))
      s!"request {request_id} realized decision is inconsistent" ++
    unmeasured
  return (errors, some {
    request_id
    prompt_tokens := prompt
    reused_tokens := reused
    recomputed_tokens := recomputed
    realized_decision := realized
    measured })

/-- The checks of one request against its events and its observation, and its row
unless they break off. -/
def account (runtime : Runtime F) (is_m2 : Bool) (events : List (Json F)) (observation : Json F)
    (request_id : String) : Except Exception (List String × Option (AccountingRow F)) := do
  let lookups ← selectRows (isEvent "lookup") events
  let commits ← selectRows (isEvent "commit") events
  match lookups with
  | [lookup] =>
    let uncommitted := errorIf commits.isEmpty s!"request {request_id} has no engine commit event"
    let prompt ← lookup.get "engine_prompt_tokens"
    let reused ← lookup.get "engine_reused_tokens"
    let recomputed ← lookup.get "engine_recomputed_tokens"
    match prompt.int?, reused.int?, recomputed.int? with
    | some prompt_tokens, some reused_tokens, some recomputed_tokens =>
      let (errors, row) ← account_lookup runtime is_m2 lookup commits observation request_id
        prompt reused recomputed prompt_tokens reused_tokens recomputed_tokens
      return (uncommitted ++ errors, row)
    | _, _, _ => return (uncommitted ++ [s!"request {request_id} engine counters are not integers"], none)
  | _ =>
    let count := lookups.length
    return ([s!"request {request_id} has {count} engine lookup events"], none)

def isM2Label (label : Json F) : Except Exception Bool :=
  if label.hashable then .ok (M2_EVIDENCE_LABELS.any fun known => label.same (.str known))
  else .error .type_error

def is_m2_bundle (records : Records F) (expected_evidence_label : Option String) : Except Exception Bool := do
  if ← isM2Label (Json.nullable .str expected_evidence_label : Json F) then
    return true
  if ← isM2Label (← records.environment.get "evidence_label") then
    isM2Label (← records.manifest.get "evidence_label")
  else
    return false

def label_errors (runtime : Runtime F) (records : Records F) (expected_evidence_label : Option String) :
    Except Exception (List String) := do
  let labels ← Json.setOf [← records.environment.get "evidence_label", ← records.manifest.get "evidence_label"]
  let labelsText := runtime.reprValue (.list (((labels.map runtime.str).insertionSort (· ≤ ·)).map .str))
  match labels with
  | [label] =>
    if label.isNull then
      return [s!"environment/run evidence labels disagree: {labelsText}"]
    let expected := expected_evidence_label.getD ""
    let labelText := runtime.reprValue label
    let expectedText := runtime.repr expected
    return errorIf (expected != "" && !label.same (.str expected)) s!"evidence label {labelText} != {expectedText}"
  | _ => return [s!"environment/run evidence labels disagree: {labelsText}"]

/-- `environment.get(part, {}).get("dirty")` -/
def dirty_part (environment : Json F) (part : String) : Except Exception Bool := do
  return (← (← environment.getD part (.dict [])).get "dirty").truthy

def dirty_start (environment : Json F) : Except Exception Bool :=
  ["parent", "carrier"].anyM (dirty_part environment)

def proves_graph_mode (graph_evidence : Json F) : Except Exception Bool := do
  if !graph_evidence.truthy then
    return false
  (← graph_evidence.iterate).anyM fun line => line.containsText "enforce_eager=False"

/-- The checks of the environment, the run and the clean-up. -/
def run_errors (runtime : Runtime F) (records : Records F) (realized_partial_required : Bool)
    (realized : List String) : Except Exception (List String) := do
  let fingerprint ← records.environment.get "protocol_fingerprint"
  let dirty ← dirty_start records.environment
  let status ← records.manifest.get "status"
  let statusText := runtime.str status
  let port_free ← records.cleanup.get "port_free_after"
  let device_idle ← records.cleanup.get "device_idle_after"
  let graph_evidence ← records.environment.getD "execution_mode_evidence" (.list [])
  let graph_mode ← proves_graph_mode graph_evidence
  return errorIf (!fingerprint.truthy) "environment manifest missing protocol fingerprint" ++
    errorIf dirty "parent or carrier was dirty at run start" ++
    errorIf (!status.eq (.str "completed")) s!"run status is not completed: {statusText}" ++
    errorIf (!port_free.truthy || !device_idle.truthy) "cleanup did not prove both port and device idle" ++
    errorIf (!graph_mode) "server log did not prove graph-mode configuration" ++
    errorIf (realized_partial_required && realized.count "partial_reuse" == 0)
      "dry run did not produce a nonzero realized partial reuse"

def policy_errors (runtime : Runtime F) (records : Records F) : Except Exception (List String) := do
  let policy_mode ← records.manifest.get "policy_mode"
  let observation_modes ← Json.setOf (← records.observations.mapM fun row => row.get "policy_mode")
  if !policy_mode.hashable then
    throw .type_error
  let policyText := runtime.reprValue policy_mode
  let modesText := runtime.reprValue
    (.list (((observation_modes.map runtime.str).insertionSort (· ≤ ·)).map .str))
  let modes := ["controller", "always_recompute", "always_full_reuse"].map Json.str
  return errorIf (!policy_mode.memberOf modes) s!"invalid or missing M2 policy mode: {policyText}" ++
    errorIf (!Json.sameSet observation_modes [policy_mode])
      s!"M2 policy mode mismatch between run and observations: {policyText} vs {modesText}"

/-- `summary.get(field) != round(count / duration_s, 3)` -/
def rate_mismatch (summary : Json F) (field : String) (count : ℤ) (duration_s : Number F) :
    Except Exception Bool := do
  let reported ← summary.get field
  return !reported.eq (.float (roundTo (← (Number.int count).div duration_s) 3))

def request_throughput_errors (runtime : Runtime F) (summary : Json F) : Except Exception (List String) := do
  match (← summary.get "measurement_duration_s").number? with
  | none => return ["M2 summary missing positive measurement_duration_s"]
  | some duration_s =>
    if duration_s.le (.int 0) then
      return ["M2 summary missing positive measurement_duration_s"]
    let completed ← (← summary.getD "completed" (.int 0)).toInt runtime.toInterpreter
    return errorIf (← rate_mismatch summary "request_throughput_rps" completed duration_s)
      "M2 request throughput does not close from raw duration"

def output_throughput_errors (summary : Json F) : Except Exception (List String) := do
  let duration_s ← summary.get "measurement_duration_s"
  match (← summary.get "completed_output_tokens").int? with
  | none => return ["M2 summary missing nonnegative completed_output_tokens"]
  | some output_tokens =>
    if output_tokens < 0 then
      return ["M2 summary missing nonnegative completed_output_tokens"]
    match duration_s.number? with
    | none => return []
    | some duration_s =>
      if (Number.int 0).lt duration_s then
        return errorIf (← rate_mismatch summary "output_throughput_toks" output_tokens duration_s)
          "M2 output throughput does not close from raw duration"
      return []

def m2_errors (runtime : Runtime F) (records : Records F) (is_m2 : Bool) :
    Except Exception (List String) := do
  if !is_m2 then
    return []
  return (← policy_errors runtime records) ++ (← request_throughput_errors runtime records.summary) ++
    (← output_throughput_errors records.summary)

/-- The `throughput` entry of the result. -/
def throughput_verification (summary : Json F) (is_m2 : Bool) : Except Exception (Json F) := do
  if is_m2 then
    return .dict [
      ("status", .str "raw_recomputed"),
      ("measurement_duration_s", ← summary.get "measurement_duration_s"),
      ("completed_output_tokens", ← summary.get "completed_output_tokens"),
      ("request_throughput_rps", ← summary.get "request_throughput_rps"),
      ("output_throughput_toks", ← summary.get "output_throughput_toks")]
  return .dict [
    ("status", .str "not_raw_recomputable"),
    ("reason", .str ("the historical bundle does not contain an independent raw suite " ++
      "measurement duration; throughput remains sourced from request_summary.json"))]

structure Report (F : Type) where
  request_count : ℕ
  completed : ℕ
  failed : ℕ
  recomputed : Json F
  summary_valid : Bool
  throughput : Json F
  observation_count : ℕ
  engine_event_count : ℕ
  engine_accounting : List (AccountingRow F)
  applied_decision_mix : List (String × ℕ)
  realized_decision_mix : List (String × ℕ)

/-- The result, which has errors only when a file was missing. -/
structure Validation (F : Type) where
  errors : List String
  report : Option (Report F)

def Validation.valid (self : Validation F) : Bool := self.errors.isEmpty

/-- `dict(sorted(Counter(texts).items()))` -/
def sorted_counts (texts : List String) : List (String × ℕ) :=
  (texts.dedup.insertionSort (· ≤ ·)).map fun text => (text, texts.count text)

def applied_mix (observations : List (Json F)) : Except Exception (List (String × ℕ)) := do
  let decisions ← observations.mapM fun row => row.get "runtime_effective_decision"
  return ["recompute", "partial_reuse", "full_reuse"].map fun decision =>
    (decision, decisions.countP fun applied => applied.eq (.str decision))

def validate_records (runtime : Runtime F) (records : Records F) (expected_evidence_label : Option String)
    (realized_partial_required : Bool) : Except Exception (Validation F) := do
  let is_m2 ← is_m2_bundle records expected_evidence_label
  let (recomputed, summary_errors) ← verify_request_summary runtime records.summary records.requests
  let request_ids ← Json.setOf (← records.requests.mapM fun row => row.get "request_id")
  let observed ← records.observations.mapM fun row => do return (← row.get "request_id", row)
  let observation_ids ← Json.setOf (observed.map Prod.fst)
  let ids ← id_errors runtime records request_ids observation_ids
  let observations ← records.observations.zipIdx.mapM (observation_errors runtime is_m2)
  let requests ← records.requests.zipIdx.mapM request_errors
  let classified ← records.engine_events.zipIdx.mapM (classify_event runtime request_ids)
  let events := classified.filterMap Sum.getRight?
  let accounts ← ((request_ids.map runtime.str).insertionSort (· ≤ ·)).mapM fun request_id =>
    account runtime is_m2 ((events.filter fun event => event.1 = request_id).map Prod.snd)
      (observation_of observed request_id) request_id
  let rows := accounts.filterMap Prod.snd
  let realized := rows.map fun row => runtime.str row.realized_decision
  let labels ← label_errors runtime records expected_evidence_label
  let run ← run_errors runtime records realized_partial_required realized
  let m2 ← m2_errors runtime records is_m2
  let outcomes ← records.requests.mapM succeeded
  return {
    errors := summary_errors ++ ids ++ observations.flatten ++ requests.flatten ++
      classified.filterMap Sum.getLeft? ++ (accounts.map Prod.fst).flatten ++ labels ++ run ++ m2
    report := some {
      request_count := records.requests.length
      completed := outcomes.countP id
      failed := outcomes.countP (!·)
      recomputed
      summary_valid := summary_errors.isEmpty
      throughput := ← throughput_verification records.summary is_m2
      observation_count := records.observations.length
      engine_event_count := records.engine_events.length
      engine_accounting := rows
      applied_decision_mix := ← applied_mix records.observations
      realized_decision_mix := sorted_counts realized } }

def validate_bundle (runtime : Runtime F) (bundle : Bundle F) (expected_evidence_label : Option String)
    (realized_partial_required : Bool) : Except Exception (Validation F) := do
  let missing := (bundle.required_files.filter fun file => !file.2).map fun file =>
    "missing required file: " ++ file.1
  if missing ≠ [] then
    return { errors := missing, report := none }
  validate_records runtime (← bundle.read) expected_evidence_label realized_partial_required

end

end validate_online_bundle
