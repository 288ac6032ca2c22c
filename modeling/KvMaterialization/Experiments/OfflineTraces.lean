import KvMaterialization.Experiments.OracleBound
import KvMaterialization.Python.Dict

open python
open vllm_kv_materialization.policy

namespace vllm_kv_materialization.offline_traces

/-- The metadata of a request, once the workload module has normalized it. -/
structure Metadata where
  workload_family : String
  primary_anchor_id : String
  secondary_anchor_ids : List String
  home_rank : ℤ
  turn_index : ℤ

structure Request where
  prompt_len : ℤ
  output_len : ℤ
  metadata : Metadata

structure Trace (F : Type) where
  trace_id : String
  workload_case : String
  workload_family : String
  reusable_prefix_tokens : ℤ
  remote_kv_bytes : ℤ
  transfer_time_ms : F
  recompute_time_ms : F
  queue_pressure : F
  ttft_sensitive : Bool
  reuse_confidence : F
  prompt_len : ℤ
  output_len : ℤ

def TTFT_SENSITIVE_FAMILIES : List String := [
  "session-affine-multi-turn",
  "session-affine-bursty",
  "rag-followup",
  "tool-scaffold-agent",
  "repo-aware-coding-assistant",
  "realtime-voice-assistant"]

def TRANSFER_FACTOR_MS_BY_FAMILY : List (String × ℚ) := [
  ("session-affine-multi-turn", 0.0048),
  ("session-affine-bursty", 0.0046),
  ("rag-followup", 0.0064),
  ("long-context-doc-analysis", 0.0072),
  ("tool-scaffold-agent", 0.0056),
  ("repo-aware-coding-assistant", 0.0061)]

def RECOMPUTE_FACTOR_MS_BY_FAMILY : List (String × ℚ) := [
  ("session-affine-multi-turn", 0.0110),
  ("session-affine-bursty", 0.0108),
  ("rag-followup", 0.0118),
  ("long-context-doc-analysis", 0.0132),
  ("tool-scaffold-agent", 0.0114),
  ("repo-aware-coding-assistant", 0.0121)]

/-- `factors.get(family, default)` -/
def factor (factors : List (String × ℚ)) (default : ℚ) (family : String) : ℚ :=
  ((factors.find? fun item => item.1 = family).map Prod.snd).getD default

/-- What the loop knows of the requests so far: the anchors it has seen, and how many
requests each rank has had. -/
structure Seen where
  primary : List String
  secondary : List String
  rank_counts : Dict ℤ ℤ

def Seen.nothing : Seen := ⟨[], [], .empty⟩

def Seen.visit (self : Seen) (request : Request) : Seen where
  primary := request.metadata.primary_anchor_id :: self.primary
  secondary := request.metadata.secondary_anchor_ids ++ self.secondary
  rank_counts := self.rank_counts.set request.metadata.home_rank
    ((self.rank_counts.get? request.metadata.home_rank).getD 0 + 1)

/-- What a trace takes from the requests before it. -/
structure Past where
  primary_seen : Bool
  secondary_seen : ℕ
  rank_count : ℤ
  deriving DecidableEq, Repr

def Seen.past (self : Seen) (request : Request) : Past where
  primary_seen := request.metadata.primary_anchor_id ∈ self.primary
  secondary_seen := (request.metadata.secondary_anchor_ids.dedup.filter (· ∈ self.secondary)).length
  rank_count := (self.rank_counts.get? request.metadata.home_rank).getD 0

section

variable {F : Type} [PyFloat F]

/-- The body of the loop. -/
def make_trace (case_id : String) (index : ℕ) (request : Request) (past : Past) : Except Exception (Trace F) := do
  let metadata := request.metadata
  let secondary_total : ℤ := max metadata.secondary_anchor_ids.length 1
  let overlap_ratio : F ← intDiv past.secondary_seen secondary_total
  let primary_ratio : F := if past.primary_seen then lit 0.5 else lit 0
  let overlap_bonus := lit 0.28 * overlap_ratio
  let exact_turn_bonus : F := if metadata.turn_index > 0 then lit 0.06 else lit 0
  let reusable_ratio := pyMin (lit 0.88) (primary_ratio + overlap_bonus + exact_turn_bonus)
  let prompt_len : F ← ofInt request.prompt_len
  let reusable_tokens ← PyFloat.round (prompt_len * reusable_ratio)
  let rank_count : F ← ofInt past.rank_count
  let secondary_seen : F ← ofInt past.secondary_seen
  let queue_pressure := pyMin (lit 0.95) (lit 0.18 + (lit 0.09 * rank_count) +
    (if past.primary_seen then lit 0.08 else lit 0) + (lit 0.05 * secondary_seen))
  let reuse_confidence := pyMin (lit 0.98)
    (lit 0.2 + (if past.primary_seen then lit 0.45 else lit 0) + (lit 0.3 * overlap_ratio))
  let transfer_factor_ms : F := lit (factor TRANSFER_FACTOR_MS_BY_FAMILY 0.0055 metadata.workload_family)
  let recompute_factor_ms : F := lit (factor RECOMPUTE_FACTOR_MS_BY_FAMILY 0.0116 metadata.workload_family)
  let confidence_penalty := lit 1 + pyMax (lit 0) (lit 0.6 - reuse_confidence) * lit 2.8
  let tokens : F ← ofInt reusable_tokens
  let transfer_time_ms := lit 1.1 + (tokens * transfer_factor_ms *
    (lit 1 + pyMax (queue_pressure - lit 0.3) (lit 0) * lit 0.75) * confidence_penalty)
  let output_len : F ← ofInt request.output_len
  let recompute_time_ms := (prompt_len * recompute_factor_ms) + (output_len * lit 0.01)
  let recompute_time_ms := recompute_time_ms * (lit 1 + (queue_pressure * lit 0.18))
  return {
    trace_id := case_id ++ "-" ++ toString index
    workload_case := case_id
    workload_family := metadata.workload_family
    reusable_prefix_tokens := reusable_tokens
    remote_kv_bytes := reusable_tokens * 32768
    transfer_time_ms := roundTo transfer_time_ms 3
    recompute_time_ms := roundTo recompute_time_ms 3
    queue_pressure := roundTo queue_pressure 3
    ttft_sensitive := metadata.workload_family ∈ TTFT_SENSITIVE_FAMILIES
    reuse_confidence := roundTo reuse_confidence 3
    prompt_len := request.prompt_len
    output_len := request.output_len }

/-- The loop from a request on. -/
def traces_from (case_id : String) : ℕ → Seen → List Request → Except Exception (List (Trace F))
  | _, _, [] => .ok []
  | index, seen, request :: rest => do
    let trace ← make_trace case_id index request (seen.past request)
    let traces ← traces_from case_id (index + 1) (seen.visit request) rest
    return trace :: traces

/-- `known` says whether the catalog has the case, and `requests` are those generated for it. -/
def workload_case_to_traces (case_id : String) (known : Bool) (requests : Except Exception (List Request)) :
    Except Exception (List (Trace F)) := do
  if !known then
    throw (.value_error ("unknown workload case: " ++ case_id))
  traces_from case_id 0 .nothing (← requests)

/-- `build_signals` of the dictionary of a trace, all of whose keys are there. -/
def build_signals (raw : Trace F) : MaterializationSignals F where
  reusable_prefix_tokens := raw.reusable_prefix_tokens
  remote_kv_bytes := raw.remote_kv_bytes
  transfer_time_ms := raw.transfer_time_ms
  recompute_time_ms := raw.recompute_time_ms
  queue_pressure := raw.queue_pressure
  ttft_sensitive := raw.ttft_sensitive
  reuse_confidence := raw.reuse_confidence

end

/-- What a request takes from the requests before it, said of these requests themselves:
whether one has its primary anchor, how many of its own secondary anchors another has, and
how many are at its rank. -/
def past_of (earlier : List Request) (request : Request) : Past where
  primary_seen := earlier.any fun other => other.metadata.primary_anchor_id = request.metadata.primary_anchor_id
  secondary_seen := (request.metadata.secondary_anchor_ids.dedup.filter fun anchor_id =>
    earlier.any fun other => anchor_id ∈ other.metadata.secondary_anchor_ids).length
  rank_count := earlier.countP fun other => other.metadata.home_rank = request.metadata.home_rank

section

variable (earlier : List Request)

/-- What the loop has seen after some requests. -/
def seen_after : Seen := earlier.foldl Seen.visit .nothing

theorem seen_after_snoc (request : Request) :
    seen_after (earlier ++ [request]) = (seen_after earlier).visit request := by
  rw [seen_after, List.foldl_append]
  rfl

theorem mem_seen_primary (anchor_id : String) :
    anchor_id ∈ (seen_after earlier).primary ↔ ∃ other ∈ earlier, other.metadata.primary_anchor_id = anchor_id := by
  induction earlier using List.reverseRecOn with
  | nil => simp [seen_after, Seen.nothing]
  | append_singleton earlier last ih =>
    rw [seen_after_snoc, Seen.visit, List.mem_cons, ih]
    simp [or_and_right, exists_or, or_comm, eq_comm]

theorem mem_seen_secondary (anchor_id : String) :
    anchor_id ∈ (seen_after earlier).secondary ↔
      ∃ other ∈ earlier, anchor_id ∈ other.metadata.secondary_anchor_ids := by
  induction earlier using List.reverseRecOn with
  | nil => simp [seen_after, Seen.nothing]
  | append_singleton earlier last ih =>
    rw [seen_after_snoc, Seen.visit, List.mem_append, ih]
    simp [or_and_right, exists_or, or_comm]

theorem seen_rank_count (home_rank : ℤ) : ((seen_after earlier).rank_counts.get? home_rank).getD 0 =
    (earlier.countP fun other => other.metadata.home_rank = home_rank : ℕ) := by
  induction earlier using List.reverseRecOn with
  | nil => rfl
  | append_singleton earlier last ih =>
    rw [seen_after_snoc, Seen.visit, Dict.get?_set, List.countP_append, List.countP_singleton]
    split
    · rename_i hrank
      subst hrank
      simp [ih]
    · rename_i hrank
      simp [ih, Ne.symm hrank]

theorem past_seen_after (request : Request) : (seen_after earlier).past request = past_of earlier request := by
  unfold Seen.past past_of
  congr 1
  · rw [Bool.eq_iff_iff, decide_eq_true_iff, mem_seen_primary, List.any_eq_true]
    simp
  · congr 1
    apply List.filter_congr
    intro anchor_id _
    rw [Bool.eq_iff_iff, decide_eq_true_iff, mem_seen_secondary, List.any_eq_true]
    simp
  · exact seen_rank_count earlier _

end

section

variable {F : Type} [PyFloat F] (case_id : String)

/-- The trace of one of the requests, from those before it. -/
def trace_at (requests : List Request) (item : Request × ℕ) : Except Exception (Trace F) :=
  make_trace case_id item.2 item.1 (past_of (requests.take item.2) item.1)

theorem traces_from_history (earlier rest : List Request) :
    traces_from (F := F) case_id earlier.length (seen_after earlier) rest =
      (rest.zipIdx earlier.length).mapM (trace_at case_id (earlier ++ rest)) := by
  induction rest generalizing earlier with
  | nil => rfl
  | cons request rest ih =>
    have hlater := ih (earlier ++ [request])
    rw [List.length_append, List.length_singleton, List.append_assoc, List.singleton_append, seen_after_snoc] at hlater
    rw [traces_from, hlater, List.zipIdx_cons, List.mapM_cons, past_seen_after]
    have hfirst : trace_at (F := F) case_id (earlier ++ request :: rest) (request, earlier.length) =
        make_trace case_id earlier.length request (past_of earlier request) := by
      rw [trace_at, List.take_left' rfl]
    rw [hfirst]

theorem workload_case_to_traces_eq (requests : List Request) :
    workload_case_to_traces (F := F) case_id true (.ok requests) = requests.zipIdx.mapM (trace_at case_id requests) :=
  traces_from_history case_id [] requests

/-- The traces of the first requests do not depend on the requests behind them. -/
theorem trace_at_append (first second : List Request) :
    first.zipIdx.mapM (trace_at (F := F) case_id (first ++ second)) = first.zipIdx.mapM (trace_at case_id first) := by
  apply mapM_congr
  intro item hitem
  have hlt := List.snd_lt_of_mem_zipIdx hitem
  rw [trace_at, trace_at, List.take_append_of_le_length (by omega)]

/-- The loop makes of each request what the requests before it make of it: whether one had
its primary anchor, how many of its secondary anchors another had, how many were at its
rank. Requests that follow change nothing. -/
theorem workload_traces_by_history (requests : List Request) :
    workload_case_to_traces (F := F) case_id true (.ok requests) = requests.zipIdx.mapM (trace_at case_id requests) ∧
      ∀ first second traces, requests = first ++ second →
        workload_case_to_traces (F := F) case_id true (.ok requests) = .ok traces →
          workload_case_to_traces (F := F) case_id true (.ok first) = .ok (traces.take first.length) := by
  refine ⟨workload_case_to_traces_eq case_id requests, ?_⟩
  rintro first second traces rfl htraces
  rw [workload_case_to_traces_eq, List.zipIdx_append, List.mapM_append, bind_eq_ok_iff] at htraces
  obtain ⟨earlier, hearlier, htraces⟩ := htraces
  rw [bind_eq_ok_iff] at htraces
  obtain ⟨later, _, htraces⟩ := htraces
  rw [pure_eq_ok_iff] at htraces
  subst htraces
  have hlength := (forall₂_of_mapM_ok hearlier).length_eq
  rw [List.length_zipIdx] at hlength
  rw [workload_case_to_traces_eq, ← trace_at_append, hearlier, hlength, List.take_left]

end

end vllm_kv_materialization.offline_traces
