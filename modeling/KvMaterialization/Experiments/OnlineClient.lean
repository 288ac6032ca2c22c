import KvMaterialization.Python.Json
import KvMaterialization.Python.Statistics

open python

namespace run_openai_workloads

/-- A difference of two readings of `time.perf_counter`, which never runs backwards. -/
structure Elapsed where
  seconds : ℚ
  representable : Representable seconds
  nonneg : 0 ≤ seconds

def Elapsed.value (self : Elapsed) : Binary64 := .finite self.seconds self.representable

/-- What `send_request` returns. A request that failed has recorded no event. -/
structure RequestResult where
  request_id : String
  workload_case : String
  workload_family : String
  latency_s : Elapsed
  ttft_s : Option Elapsed
  ok : Bool
  http_status : Option ℤ
  prompt_tokens_est : ℤ
  completion_tokens_target : ℤ
  prompt_tokens_actual : Option ℤ
  completion_tokens_actual : Option ℤ
  started_at_utc : String
  finished_at_utc : String
  response_id : Option String
  finish_reason : Option String
  generated_text : String
  raw_events : List (Json Binary64)
  error : Option String
  no_events : ok = false → raw_events = []

def asdict (result : RequestResult) : Json Binary64 := .dict [
  ("request_id", .str result.request_id),
  ("workload_case", .str result.workload_case),
  ("workload_family", .str result.workload_family),
  ("latency_s", .float result.latency_s.value),
  ("ttft_s", Json.nullable (fun ttft_s => .float ttft_s.value) result.ttft_s),
  ("ok", .bool result.ok),
  ("http_status", Json.nullable .int result.http_status),
  ("prompt_tokens_est", .int result.prompt_tokens_est),
  ("completion_tokens_target", .int result.completion_tokens_target),
  ("prompt_tokens_actual", Json.nullable .int result.prompt_tokens_actual),
  ("completion_tokens_actual", Json.nullable .int result.completion_tokens_actual),
  ("started_at_utc", .str result.started_at_utc),
  ("finished_at_utc", .str result.finished_at_utc),
  ("response_id", Json.nullable .str result.response_id),
  ("finish_reason", Json.nullable .str result.finish_reason),
  ("generated_text", .str result.generated_text),
  ("raw_events", .list result.raw_events),
  ("error", Json.nullable .str result.error)]

section

variable {F : Type} [PyNumber F]

def percentile (values : List F) (q : ℤ) : Except Exception F := do
  if values = [] then
    return lit 0
  let ordered := sorted values
  let share : F ← PyFloat.div (← ofInt q) (lit 100)
  let last : F ← ofInt (ordered.length - 1)
  let index ← PyFloat.round (share * last)
  let index := min (ordered.length - 1 : ℤ) (max 0 index)
  return ordered.getD index.toNat (lit 0)

/-- `round(statistic(values), 3) if values else 0.0` -/
def rounded_or_zero (statistic : List F → Except Exception F) (values : List F) :
    Except Exception F := do
  if values = [] then
    return lit 0
  return roundTo (← statistic values) 3

end

/-- The fields of a workload the summary repeats. -/
structure Workload where
  case_id : String
  label : String
  dataset_name : String
  workload_family : String
  request_rate : Json Binary64
  concurrency : ℤ

/-- `result.completion_tokens_actual or result.completion_tokens_target` -/
def output_tokens (result : RequestResult) : ℤ :=
  match result.completion_tokens_actual with
  | some actual => if actual = 0 then result.completion_tokens_target else actual
  | none => result.completion_tokens_target

def latencies_ms (results : List RequestResult) : List Binary64 :=
  results.map fun result => result.latency_s.value * lit 1000

def ttfts_ms (results : List RequestResult) : List Binary64 :=
  (results.filterMap RequestResult.ttft_s).map fun ttft_s => ttft_s.value * lit 1000

def summarize (results : List RequestResult) (started_at finished_at : Binary64)
    (workload : Workload) : Except Exception (Json Binary64) := do
  let ok := results.filter RequestResult.ok
  let tokens := (ok.map output_tokens).sum
  let duration_s := pyMax (lit (1 / 1000000000)) (finished_at - started_at)
  return .dict [
    ("workload_case", .str workload.case_id),
    ("workload_label", .str workload.label),
    ("dataset_name", .str workload.dataset_name),
    ("workload_family", .str workload.workload_family),
    ("request_rate", workload.request_rate),
    ("concurrency", .int workload.concurrency),
    ("requests", .int results.length),
    ("completed", .int ok.length),
    ("mean_latency_ms", .float (← rounded_or_zero mean (latencies_ms ok))),
    ("p95_latency_ms", .float (← rounded_or_zero (percentile · 95) (latencies_ms ok))),
    ("mean_ttft_ms", .float (← rounded_or_zero mean (ttfts_ms ok))),
    ("p95_ttft_ms", .float (← rounded_or_zero (percentile · 95) (ttfts_ms ok))),
    ("measurement_duration_s", .float duration_s),
    ("completed_output_tokens", .int tokens),
    ("request_throughput_rps", .float (roundTo (← (Number.int ok.length).div (.float duration_s)) 3)),
    ("output_throughput_toks", .float (roundTo (← (Number.int tokens).div (.float duration_s)) 3)),
    ("failures", .list ((results.filter fun result => !result.ok).map asdict))]

end run_openai_workloads
