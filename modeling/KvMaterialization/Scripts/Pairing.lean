import KvMaterialization.Python.Keys
import KvMaterialization.Scripts.Pathology

open python

namespace g0_pathology

/-- The id of a row, `None` where it has none. -/
def request_id {F : Type} (row : Json F) : Json F := ((row.get "request_id").toOption).getD .null

section

variable {F : Type} [PyNumber F]

/-- Two lists of rows stand for the same requests, each of them once. -/
structure Paired (requests telemetry : List (Json F)) : Prop where
  requests_distinct : Json.Distinct (requests.map request_id)
  telemetry_distinct : Json.Distinct (telemetry.map request_id)
  matched : ∃ rows, rows.Perm telemetry ∧
    List.Forall₂ (fun request row => (request_id request).same (request_id row) = true) requests rows

/-- The ids of rows that can be told apart in a set. -/
theorem ids_eq_ok {rows elements : List (Json F)} (hids : ids rows = .ok elements) :
    (rows.map request_id).foldl Json.insertInto [] = elements ∧
      ∀ row ∈ rows, (request_id row).hashable = true := by
  unfold ids at hids
  rw [bind_eq_ok_iff] at hids
  obtain ⟨values, hvalues, helements⟩ := hids
  rw [pure_eq_ok_iff] at helements
  have hrows : List.Forall₂ (fun row value => request_id row = value ∧ value.hashable = true) rows values := by
    refine (forall₂_of_mapM_ok hvalues).imp ?_
    intro row value hvalue
    rw [bind_eq_ok_iff] at hvalue
    obtain ⟨found, hfound, hvalue⟩ := hvalue
    split at hvalue
    · rename_i hhashable
      rw [pure_eq_ok_iff] at hvalue
      rw [request_id, hfound, ← hvalue]
      exact ⟨rfl, hhashable⟩
    · cases hvalue
  constructor
  · have hmap : rows.map request_id = values := by
      rw [← List.forall₂_eq_eq_eq, List.forall₂_map_left_iff]
      exact hrows.imp fun _ _ h => h.1
    rw [hmap, helements]
  · intro row hrow
    obtain ⟨value, _, hid, hhashable⟩ := exists_right_of_mem hrows hrow
    rw [hid]
    exact hhashable

/-- A bundle that loads has as many rows of either kind, with the same set of ids. -/
theorem load_bundle_eq_ok {runtime : Runtime F} {path : String} {bundle : Bundle F} {manifest : Json F}
    {requests telemetry : List (Json F)}
    (hload : load_bundle runtime path bundle = .ok (manifest, requests, telemetry)) :
    bundle.request_results = some (.ok requests) ∧ bundle.materialization_telemetry = some (.ok telemetry) ∧
      requests.length = telemetry.length ∧
      ∃ request_ids telemetry_ids, ids requests = .ok request_ids ∧ ids telemetry = .ok telemetry_ids ∧
        Json.sameSet request_ids telemetry_ids = true := by
  unfold load_bundle at hload
  split at hload
  · rename_i manifest' requests' telemetry' _ hrequests htelemetry
    rw [bind_eq_ok_iff] at hload
    obtain ⟨_, _, hload⟩ := hload
    rw [bind_eq_ok_iff] at hload
    obtain ⟨requests'', hrequests'', hload⟩ := hload
    rw [bind_eq_ok_iff] at hload
    obtain ⟨telemetry'', htelemetry'', hload⟩ := hload
    rw [bind_eq_ok_iff] at hload
    obtain ⟨_, hcount, hload⟩ := hload
    rw [bind_eq_ok_iff] at hload
    obtain ⟨request_ids, hrequest_ids, hload⟩ := hload
    rw [bind_eq_ok_iff] at hload
    obtain ⟨telemetry_ids, htelemetry_ids, hload⟩ := hload
    rw [bind_eq_ok_iff] at hload
    obtain ⟨_, hsame, hload⟩ := hload
    rw [bind_eq_ok_iff] at hload
    obtain ⟨_, _, hload⟩ := hload
    rw [bind_eq_ok_iff] at hload
    obtain ⟨_, _, hload⟩ := hload
    rw [pure_eq_ok_iff] at hload
    cases hload
    rw [raiseIf_eq_ok_iff, Bool.or_eq_false_iff, bne_eq_false_iff_eq] at hcount
    rw [raiseIf_eq_ok_iff, Bool.or_eq_false_iff, Bool.not_eq_false'] at hsame
    rw [hrequests, htelemetry, hrequests'', htelemetry'']
    exact ⟨rfl, rfl, hcount.2, request_ids, telemetry_ids, hrequest_ids, htelemetry_ids, hsame.1⟩
  · cases hload

/-- As many ids on either side: the one cannot repeat an id where the other does not. -/
theorem distinct_of_telemetry {requests telemetry request_ids telemetry_ids : List (Json F)}
    (hlength : requests.length = telemetry.length)
    (hrequest_ids : ids requests = .ok request_ids) (htelemetry_ids : ids telemetry = .ok telemetry_ids)
    (hsame : Json.sameSet request_ids telemetry_ids = true)
    (hdistinct : Json.Distinct (telemetry.map request_id)) : Json.Distinct (requests.map request_id) := by
  obtain ⟨hrequests, _⟩ := ids_eq_ok hrequest_ids
  obtain ⟨htelemetry, _⟩ := ids_eq_ok htelemetry_ids
  rw [Json.foldl_insertInto_of_distinct hdistinct] at htelemetry
  simp only [Json.sameSet, Bool.and_eq_true, decide_eq_true_eq] at hsame
  have hcount : ((requests.map request_id).foldl Json.insertInto []).length =
      (requests.map request_id).length := by
    rw [hrequests, hsame.1, ← htelemetry, List.length_map, List.length_map, hlength]
  exact (Json.foldl_insertInto_of_length hcount).2

variable [LawfulNumber F]

/-- No two of the rows have one id, in whatever order they are taken. -/
theorem distinct_apart {earlier later other : Json F} (hhashable : (request_id earlier).hashable = true)
    (hhashable' : (request_id later).hashable = true)
    (hfresh : (request_id later).same (request_id earlier) = false)
    (hearlier : (request_id earlier).same (request_id other) = true) :
    ¬ (request_id later).same (request_id other) = true := by
  intro hlater
  have hsame := Json.same_trans hhashable' hlater (Json.same_symm hhashable hearlier)
  rw [hsame] at hfresh
  cases hfresh

/-- Where the ids on one side are distinct the two sides are paired. -/
theorem paired_of_distinct {requests telemetry request_ids telemetry_ids : List (Json F)}
    (hlength : requests.length = telemetry.length)
    (hrequest_ids : ids requests = .ok request_ids) (htelemetry_ids : ids telemetry = .ok telemetry_ids)
    (hsame : Json.sameSet request_ids telemetry_ids = true)
    (hdistinct : Json.Distinct (requests.map request_id)) : Paired requests telemetry := by
  obtain ⟨hrequests, hhashable⟩ := ids_eq_ok hrequest_ids
  obtain ⟨htelemetry, _⟩ := ids_eq_ok htelemetry_ids
  rw [Json.foldl_insertInto_of_distinct hdistinct] at hrequests
  simp only [Json.sameSet, Bool.and_eq_true, decide_eq_true_eq, List.all_eq_true] at hsame
  obtain ⟨hcount, hsubset⟩ := hsame
  have htelemetry_length : ((telemetry.map request_id).foldl Json.insertInto []).length =
      (telemetry.map request_id).length := by
    rw [htelemetry, ← hcount, ← hrequests, List.length_map, List.length_map, hlength]
  obtain ⟨hfold, htelemetry_distinct⟩ := Json.foldl_insertInto_of_length htelemetry_length
  refine ⟨hdistinct, htelemetry_distinct, exists_matching ?_ ?_ hlength⟩
  · intro request hrequest
    have hid : request_id request ∈ request_ids := by
      rw [← hrequests]
      exact List.mem_map_of_mem hrequest
    obtain ⟨element, helement, hsame⟩ := List.any_eq_true.mp (hsubset _ hid)
    rw [← htelemetry, hfold] at helement
    obtain ⟨row, hrow, rfl⟩ := List.mem_map.mp helement
    exact ⟨row, hrow, hsame⟩
  · refine (List.pairwise_map.mp hdistinct).imp_of_mem ?_
    intro earlier later hearlier hlater hfresh row _ hrow
    exact distinct_apart (hhashable earlier hearlier) (hhashable later hlater) hfresh hrow

/-- A bundle that loads pairs its requests with their telemetry exactly if one of the two
files repeats no id: repetitions in both can make up for each other. -/
theorem load_bundle_paired_iff (runtime : Runtime F) (path : String) (bundle : Bundle F) (manifest : Json F)
    (requests telemetry : List (Json F))
    (hload : load_bundle runtime path bundle = .ok (manifest, requests, telemetry)) :
    Paired requests telemetry ↔
      Json.Distinct (requests.map request_id) ∨ Json.Distinct (telemetry.map request_id) := by
  obtain ⟨_, _, hlength, request_ids, telemetry_ids, hrequest_ids, htelemetry_ids, hsame⟩ := load_bundle_eq_ok hload
  constructor
  · intro hpaired
    exact .inl hpaired.requests_distinct
  · rintro (hdistinct | hdistinct)
    · exact paired_of_distinct hlength hrequest_ids htelemetry_ids hsame hdistinct
    · have hdistinct := distinct_of_telemetry hlength hrequest_ids htelemetry_ids hsame hdistinct
      exact paired_of_distinct hlength hrequest_ids htelemetry_ids hsame hdistinct

end

section Served

/-- A request that was served. -/
def servedRequest (id : String) : Json Binary64 := .dict [("request_id", .str id), ("ok", .bool true),
  ("ttft_ms", .int 100), ("e2e_ms", .int 1000), ("tpot_ms", .int 10), ("output_tokens", .int 8)]

def servedTelemetry (id : String) : Json Binary64 :=
  .dict ([("request_id", .str id), ("activation_counter", .int 1)] ++
    ["requested_materialization_bytes", "realized_materialization_bytes", "bytes_in_flight",
      "connector_queue_depth", "connector_queue_wait_ms", "layer_ready_wait_ms", "transfer_busy_ms",
      "compute_busy_ms", "hbm_peak_bytes", "dram_peak_bytes", "realized_reuse_tokens", "fallback_reason",
      "waiting_reason"].map fun key => (key, .int 1))

/-- A complete run whose files have these ids. -/
def servedBundle (request_ids telemetry_ids : List String) : Bundle Binary64 where
  run_manifest := some (.ok (.dict [("workload", .str "burstgpt"), ("burst_intensity", .str "high"),
    ("repeat", .int 1), ("arm", .str "no_control")]))
  request_results := some (.ok (request_ids.map servedRequest))
  materialization_telemetry := some (.ok (telemetry_ids.map servedTelemetry))

theorem servedBundle_loads (request_ids telemetry_ids : List String)
    (hreturns : Returns (load_bundle Runtime.binary64 "run" (servedBundle request_ids telemetry_ids))) :
    ∃ manifest, load_bundle Runtime.binary64 "run" (servedBundle request_ids telemetry_ids) =
      .ok (manifest, request_ids.map servedRequest, telemetry_ids.map servedTelemetry) := by
  obtain ⟨⟨manifest, requests, telemetry⟩, hload⟩ := hreturns
  obtain ⟨hrequests, htelemetry, _⟩ := load_bundle_eq_ok hload
  cases hrequests
  cases htelemetry
  exact ⟨manifest, hload⟩

theorem servedRequest_ids (request_ids : List String) :
    (request_ids.map servedRequest).map request_id = request_ids.map Json.str := by
  rw [List.map_map]
  rfl

theorem load_bundle_paired_iff_two :
    Paired (["a", "b"].map servedRequest) (["b", "a"].map servedTelemetry) := by
  obtain ⟨manifest, hload⟩ := servedBundle_loads ["a", "b"] ["b", "a"] (by decide +kernel)
  refine (load_bundle_paired_iff _ _ _ manifest _ _ hload).mpr (.inl ?_)
  rw [servedRequest_ids, Json.distinct_str_iff]
  decide

/-- One file has a request twice and the other file another one: neither is missed. -/
theorem load_bundle_repeats :
    ¬ ∀ (bundle : Bundle Binary64) (manifest : Json Binary64) (requests telemetry : List (Json Binary64)),
      load_bundle Runtime.binary64 "run" bundle = .ok (manifest, requests, telemetry) →
        Paired requests telemetry := by
  intro hpaired
  obtain ⟨manifest, hload⟩ := servedBundle_loads ["a", "a", "b"] ["a", "b", "b"] (by decide +kernel)
  have hdistinct := (hpaired _ manifest _ _ hload).requests_distinct
  rw [servedRequest_ids, Json.distinct_str_iff] at hdistinct
  revert hdistinct
  decide

end Served

end g0_pathology
