import KvMaterialization.Experiments.OnlineBundle
import KvMaterialization.Experiments.WorkloadHeaders

open python

namespace shared_workloads

/-- What `normalize_repo_local_metadata` returns for a row, as far as it is used;
`shared_prefix_tokens` is one of the extras. -/
structure RepoLocalMetadata where
  workload_family : String
  family_label : String
  primary_anchor_id : String
  secondary_anchor_ids : List String
  home_rank : ℤ
  turn_index : ℤ
  shared_prefix_tokens : Option ℤ
  deriving DecidableEq, Repr

/-- A generated row, its metadata normalized. -/
structure RepoLocalDatasetRow where
  prompt : String
  prompt_len : ℤ
  output_len : ℤ
  metadata : RepoLocalMetadata
  deriving DecidableEq, Repr

/-- The specification of a case, as far as it is used, with the recommended rate of the
preset of its dataset. -/
structure CaseSpec (F : Type) where
  label : Option String
  dataset_name : String
  num_groups : Option ℤ
  recommended_request_rate : F

structure SharedLiveRequest (F : Type) extends run_openai_workloads.SharedLiveRequest F where
  prompt : String
  family_label : String
  arrival_gap_s : F

structure SharedLiveWorkload (F : Type) where
  case_id : String
  label : String
  dataset_name : String
  workload_family : String
  request_rate : F
  concurrency : ℤ
  requests : List (SharedLiveRequest F)

section

variable {F : Type} [PyFloat F]

/-- The prefix a row states, or a share of its prompt where it states none. -/
def shared_prefix_tokens (row : RepoLocalDatasetRow) : Except Exception ℤ :=
  let stated := row.metadata.shared_prefix_tokens.getD 0
  if stated ≤ 0 then do
    let prompt_len : F ← ofInt row.prompt_len
    let share ← PyFloat.trunc (prompt_len * (if 0 < row.metadata.turn_index then lit 0.6 else lit 0.35))
    return max 0 share
  else .ok stated

def live_request (case_id : String) (max_output_tokens : Option ℤ) (arrival_gap_s : F)
    (item : RepoLocalDatasetRow × ℕ) : Except Exception (SharedLiveRequest F) := do
  let (row, index) := item
  let metadata := row.metadata
  let shared_prefix_tokens ← shared_prefix_tokens (F := F) row
  return {
    request_id := s!"{case_id}-{index}"
    prompt := row.prompt
    prompt_tokens := row.prompt_len
    output_tokens :=
      match max_output_tokens with
      | some max_output_tokens => max 1 (min row.output_len max_output_tokens)
      | none => row.output_len
    workload_case := case_id
    workload_family := metadata.workload_family
    family_label := metadata.family_label
    primary_anchor_id := metadata.primary_anchor_id
    secondary_anchor_ids := metadata.secondary_anchor_ids
    shared_prefix_tokens
    reuse_confidence := if 0 < metadata.turn_index then lit 0.95 else lit 0.45
    home_rank := metadata.home_rank
    turn_index := metadata.turn_index
    arrival_gap_s := if index = 0 then lit 0 else arrival_gap_s }

/-- The workload of the rows that were generated for a case. -/
def build_live_workload (case_id : String) (case_ : CaseSpec F) (rows : List RepoLocalDatasetRow)
    (request_rate : Option F) (concurrency max_output_tokens : Option ℤ) :
    Except Exception (SharedLiveWorkload F) := do
  let request_rate := request_rate.getD case_.recommended_request_rate
  let default_concurrency := max 1 (min 8 (max 1 (case_.num_groups.getD 1 / 2)))
  let arrival_gap_s ← PyFloat.div (lit 1) (pyMax request_rate (lit 1))
  let requests ← rows.zipIdx.mapM (live_request case_id max_output_tokens arrival_gap_s)
  return {
    case_id
    label := case_.label.getD case_id
    dataset_name := case_.dataset_name
    workload_family := rows.foldl (fun workload_family row =>
      if row.metadata.workload_family = "" then workload_family else row.metadata.workload_family) case_.dataset_name
    request_rate
    concurrency := concurrency.getD default_concurrency
    requests }

/-- The requests are numbered in the order of the rows. -/
theorem build_live_workload_ids {case_id : String} {case_ : CaseSpec F} {rows : List RepoLocalDatasetRow}
    {request_rate : Option F} {concurrency max_output_tokens : Option ℤ} {workload : SharedLiveWorkload F}
    (hbuilt : build_live_workload case_id case_ rows request_rate concurrency max_output_tokens = .ok workload) :
    workload.requests.map (fun request => request.request_id) =
      (List.range rows.length).map fun index => case_id ++ "-" ++ toString index := by
  unfold build_live_workload at hbuilt
  rw [bind_eq_ok_iff] at hbuilt
  obtain ⟨arrival_gap_s, _, hbuilt⟩ := hbuilt
  rw [bind_eq_ok_iff] at hbuilt
  obtain ⟨requests, hrequests, hbuilt⟩ := hbuilt
  rw [pure_eq_ok_iff] at hbuilt
  subst hbuilt
  have hids : List.Forall₂ (fun item (request : SharedLiveRequest F) =>
      s!"{case_id}-{item.2}" = request.request_id) rows.zipIdx requests := by
    refine (forall₂_of_mapM_ok hrequests).imp ?_
    intro item request hrequest
    unfold live_request at hrequest
    rw [bind_eq_ok_iff] at hrequest
    obtain ⟨_, _, hrequest⟩ := hrequest
    rw [pure_eq_ok_iff] at hrequest
    rw [← hrequest]
  have hmap : rows.zipIdx.map (fun item => s!"{case_id}-{item.2}") =
      requests.map fun request => request.request_id := by
    rw [← List.forall₂_eq_eq_eq, List.forall₂_map_left_iff, List.forall₂_map_right_iff]
    exact hids
  rw [← hmap, List.range_eq_range', ← List.zipIdx_map_snd 0 rows, List.map_map]
  rfl

end

end shared_workloads

namespace validate_online_bundle

section Texts

theorem startswith_iff (text start : String) : startswith text start = true ↔ start.toList <+: text.toList := by
  rw [startswith, List.isPrefixOf_iff_prefix]

theorem removeprefix_of_startswith_eq_false {text start : String} (hstart : startswith text start = false) :
    removeprefix text start = text := by
  unfold removeprefix
  rw [if_neg (by rw [hstart]; exact Bool.false_ne_true)]

theorem removeprefix_append (start text : String) : removeprefix (start ++ text) start = text := by
  have hstart : startswith (start ++ text) start = true := by
    rw [startswith_iff, String.toList_append]
    exact List.prefix_append _ _
  unfold removeprefix
  rw [if_pos hstart, String.toList_append, ← String.length_toList, List.drop_left, String.ofList_toList]

theorem toList_append_dash (text : String) : (text ++ "-").toList = text.toList ++ ['-'] := String.toList_append

/-- Of two texts before a dash, one starts with the other and its dash, or they are the same. -/
theorem startswith_or_eq_of_prefix (text other : String)
    (hdashed : (text ++ "-").toList <+: (other ++ "-").toList) :
    startswith other (text ++ "-") = true ∨ text = other := by
  rw [startswith_iff]
  rw [toList_append_dash other, List.prefix_concat_iff] at hdashed
  obtain heq | hstart := hdashed
  · right
    rw [toList_append_dash, List.append_cancel_right_eq] at heq
    exact String.toList_inj.mp heq
  · exact .inl hstart

/-- Only an id that starts with the prefix of the endpoint, or is its word, does so with a suffix. -/
theorem startswith_endpoint_of_suffix {id suffix : String}
    (hstart : startswith (id ++ "-" ++ suffix) "chatcmpl-" = true) :
    startswith id "chatcmpl-" = true ∨ id = "chatcmpl" := by
  have hid : (id ++ "-").toList <+: (id ++ "-" ++ suffix).toList := by
    rw [String.toList_append (s := id ++ "-")]
    exact List.prefix_append _ _
  obtain hshort | hlong := List.prefix_or_prefix_of_prefix ((startswith_iff _ _).mp hstart) hid
  · obtain hstart | heq := startswith_or_eq_of_prefix "chatcmpl" id hshort
    · exact .inl hstart
    · exact .inr heq.symm
  · obtain hstart | heq := startswith_or_eq_of_prefix id "chatcmpl" hlong
    · rw [startswith_iff, toList_append_dash] at hstart
      have hdash : '-' ∈ "chatcmpl".toList := hstart.subset (List.mem_append_right _ (List.mem_singleton.mpr rfl))
      exact absurd hdash (by decide)
    · exact .inr heq

end Texts

/-- The ids the engine may give a request: with or without the prefix of the endpoint,
and with or without a suffix. -/
def engineIds (id suffix : String) : List String :=
  [id, id ++ "-" ++ suffix, "chatcmpl-" ++ id, "chatcmpl-" ++ (id ++ "-" ++ suffix)]

/-- No id starts like one of the engine's or is the word it starts with, and none is
another one with a suffix, be it an empty one. -/
structure Separate (ids : List String) : Prop where
  no_endpoint : ∀ id ∈ ids, startswith id "chatcmpl-" = false ∧ id ≠ "chatcmpl"
  no_suffix : ∀ id ∈ ids, ∀ other ∈ ids, startswith other (id ++ "-") = false

section

variable {F : Type} [PyNumber F] {runtime : Runtime F}

/-- The events of a request are filed under it, whichever id the engine gives them. -/
def Attributed (runtime : Runtime F) (request_ids : List (Json F)) (id suffix : String) : Prop :=
  ∀ raw_id ∈ engineIds id suffix,
    normalize_engine_request_id runtime raw_id request_ids = .ok id ∧
      ∀ event index, event.get "request_id" = .ok (.str raw_id) →
        classify_event runtime request_ids (event, index) = .ok (.inr (id, event))

/-- The test of the candidates of a normalized id. -/
theorem candidate_iff (text normalized : String) :
    ((Json.str text : Json F).eq (.str normalized) ||
      startswith normalized (runtime.str (.str text) ++ "-")) = true ↔
      normalized = text ∨ (text ++ "-").toList <+: normalized.toList := by
  rw [Bool.or_eq_true, startswith_iff, runtime.str_text]
  have heq : (Json.str text : Json F).eq (.str normalized) = true ↔ normalized = text := by
    change (Json.str text : Json F).same (.str normalized) = true ↔ normalized = text
    rw [Json.same_str]
    exact eq_comm
  rw [heq]

/-- Of the ids of a separate set only one is that of a given text, or of the text before
its suffix. -/
theorem eq_of_candidate {ids : List String} (hseparate : Separate ids) {id other normalized : String}
    (hid : id ∈ ids) (hother : other ∈ ids)
    (hmatches : normalized = id ∨ (id ++ "-").toList <+: normalized.toList)
    (hmatches' : normalized = other ∨ (other ++ "-").toList <+: normalized.toList) : other = id := by
  have hapart : ∀ {earlier later : String}, earlier ∈ ids → later ∈ ids →
      ¬ startswith later (earlier ++ "-") = true := by
    intro earlier later hearlier hlater hsuffix
    rw [hseparate.no_suffix earlier hearlier later hlater] at hsuffix
    cases hsuffix
  obtain rfl | hdashed := hmatches
  · obtain rfl | hdashed' := hmatches'
    · rfl
    · exact absurd ((startswith_iff _ _).mpr hdashed') (hapart hother hid)
  · obtain rfl | hdashed' := hmatches'
    · exact absurd ((startswith_iff _ _).mpr hdashed) (hapart hid hother)
    · -- Either id is followed by a dash in the one text, so the shorter one starts the longer.
      obtain hstart | hstart := List.prefix_or_prefix_of_prefix hdashed hdashed'
      · obtain hsuffix | heq := startswith_or_eq_of_prefix _ _ hstart
        · exact absurd hsuffix (hapart hid hother)
        · exact heq.symm
      · obtain hsuffix | heq := startswith_or_eq_of_prefix _ _ hstart
        · exact absurd hsuffix (hapart hother hid)
        · exact heq

/-- What is left of an engine's id is the id itself, or the id with a suffix. -/
theorem engineIds_normalized {id suffix raw_id normalized : String}
    (hid : startswith id "chatcmpl-" = false ∧ id ≠ "chatcmpl") (hraw : raw_id ∈ engineIds id suffix)
    (hnormalized : removeprefix raw_id "chatcmpl-" = normalized) :
    normalized = id ∨ (id ++ "-").toList <+: normalized.toList := by
  subst hnormalized
  have hlonger : (id ++ "-").toList <+: (id ++ "-" ++ suffix).toList := by
    rw [String.toList_append (s := id ++ "-")]
    exact List.prefix_append _ _
  simp only [engineIds, List.mem_cons, List.not_mem_nil, or_false] at hraw
  obtain rfl | rfl | rfl | rfl := hraw
  · exact .inl (removeprefix_of_startswith_eq_false hid.1)
  · right
    have hsuffix : startswith (id ++ "-" ++ suffix) "chatcmpl-" = false := by
      rw [Bool.eq_false_iff]
      intro hstart
      obtain hstart | heq := startswith_endpoint_of_suffix hstart
      · rw [hid.1] at hstart
        cases hstart
      · exact hid.2 heq
    rwa [removeprefix_of_startswith_eq_false hsuffix]
  · exact .inl (removeprefix_append _ _)
  · right
    rwa [removeprefix_append]

theorem longest_eq {id first : String} {rest : List String} (hall : ∀ text ∈ first :: rest, text = id) :
    longest first rest = id := by
  unfold longest
  induction rest generalizing first with
  | nil => exact hall first List.mem_cons_self
  | cons second rest ih =>
    rw [List.foldl_cons]
    apply ih
    intro text htext
    obtain rfl | hrest := List.mem_cons.mp htext
    · split
      · exact hall second (by simp)
      · exact hall first List.mem_cons_self
    · exact hall text (List.mem_cons_of_mem _ (List.mem_cons_of_mem _ hrest))

omit [PyNumber F] in
theorem mapM_str (texts : List String) : (texts.map Json.str : List (Json F)).mapM Json.str? = some texts := by
  induction texts with
  | nil => rfl
  | cons text rest ih =>
    rw [List.map_cons, List.mapM_cons, ih]
    rfl

/-- The ids of a separate set get back to themselves from the engine, in whatever order
the set is gone through. -/
theorem normalize_engine_request_id_of_separate {ids : List String} (hseparate : Separate ids) {id : String}
    (hid : id ∈ ids) {suffix raw_id : String} (hraw : raw_id ∈ engineIds id suffix) :
    normalize_engine_request_id runtime raw_id (ids.map Json.str : List (Json F)) = .ok id := by
  unfold normalize_engine_request_id
  dsimp only
  generalize hnormalized : removeprefix raw_id "chatcmpl-" = normalized
  have hmatches := engineIds_normalized (hseparate.no_endpoint id hid) hraw hnormalized
  rw [List.filter_map, mapM_str]
  have hcandidates : ∀ text, text ∈ ids.filter ((fun candidate : Json F => candidate.eq (.str normalized) ||
      startswith normalized (runtime.str candidate ++ "-")) ∘ Json.str) ↔ text = id := by
    intro text
    rw [List.mem_filter, Function.comp_apply, candidate_iff]
    constructor
    · rintro ⟨htext, hcandidate⟩
      exact eq_of_candidate hseparate hid htext hmatches hcandidate
    · rintro rfl
      exact ⟨hid, hmatches⟩
  cases hlist : ids.filter ((fun candidate : Json F => candidate.eq (.str normalized) ||
      startswith normalized (runtime.str candidate ++ "-")) ∘ Json.str) with
  | nil =>
    have hmem := (hcandidates id).mpr rfl
    rw [hlist] at hmem
    cases hmem
  | cons first rest =>
    rw [hlist] at hcandidates
    dsimp only
    rw [longest_eq fun text htext => (hcandidates text).mp htext]

theorem attributed_of_separate {ids : List String} (hseparate : Separate ids) {id : String} (hid : id ∈ ids)
    (suffix : String) : Attributed runtime (ids.map Json.str : List (Json F)) id suffix := by
  intro raw_id hraw
  have hnormalized : normalize_engine_request_id runtime raw_id (ids.map Json.str) = .ok id :=
    normalize_engine_request_id_of_separate hseparate hid hraw
  refine ⟨hnormalized, ?_⟩
  intro event index hevent
  have hmember : (Json.str id : Json F).memberOf (ids.map Json.str) = true :=
    Json.str_memberOf_iff.mpr (List.mem_map_of_mem hid)
  unfold classify_event
  simp only [bind, Except.bind, hevent, hnormalized, hmember, if_true, pure_eq_ok_iff]

/-- The ids of a workload are separate: a dash is no digit. -/
theorem separate_workload {case_id : String} (hcase : startswith case_id "chatcmpl-" = false ∧ case_id ≠ "chatcmpl")
    {ids : List String} (hids : ∀ id ∈ ids, ∃ index : ℕ, id = case_id ++ "-" ++ toString index) : Separate ids := by
  constructor
  · intro id hid
    obtain ⟨index, rfl⟩ := hids id hid
    constructor
    · rw [Bool.eq_false_iff]
      intro hstart
      obtain hstart | heq := startswith_endpoint_of_suffix hstart
      · rw [hcase.1] at hstart
        cases hstart
      · exact hcase.2 heq
    · intro heq
      have hdash : '-' ∈ (case_id ++ "-" ++ toString index).toList := by simp
      rw [heq] at hdash
      exact absurd hdash (by decide)
  · intro id hid other hother
    obtain ⟨index, rfl⟩ := hids id hid
    obtain ⟨index', rfl⟩ := hids other hother
    rw [Bool.eq_false_iff, ne_eq, startswith_iff]
    intro hstart
    have hdigits : (toString index ++ "-").toList <+: (toString index').toList := by
      rw [String.append_assoc, String.toList_append (s := case_id ++ "-"),
        String.toList_append (s := case_id ++ "-"), List.prefix_append_right_inj] at hstart
      exact hstart
    have hdash : '-' ∈ (toString index').toList :=
      hdigits.subset (by rw [toList_append_dash]; exact List.mem_append_right _ (List.mem_singleton.mpr rfl))
    exact absurd (isDigit_of_mem_toString hdash) (by decide)

/-- The events of a workload get back to its requests where the case is not named like the
ids of the endpoint, and those of any separate set to their ids. -/
theorem engine_events_attributed (runtime : Runtime F) :
    (∀ case_id : String, startswith case_id "chatcmpl-" = false ∧ case_id ≠ "chatcmpl" →
      ∀ (count : ℕ) (ids : List String),
        (∀ id, id ∈ ids ↔ ∃ index < count, id = case_id ++ "-" ++ toString index) →
        ∀ index < count, ∀ suffix,
          Attributed runtime (ids.map Json.str) (case_id ++ "-" ++ toString index) suffix) ∧
    (∀ (case_id : String) (case_ : shared_workloads.CaseSpec F) (rows : List shared_workloads.RepoLocalDatasetRow)
        (request_rate : Option F) (concurrency max_output_tokens : Option ℤ)
        (workload : shared_workloads.SharedLiveWorkload F),
      shared_workloads.build_live_workload case_id case_ rows request_rate concurrency max_output_tokens =
        .ok workload → startswith case_id "chatcmpl-" = false ∧ case_id ≠ "chatcmpl" →
      ∀ ids : List String, (∀ id, id ∈ ids ↔ id ∈ workload.requests.map fun request => request.request_id) →
        ∀ request ∈ workload.requests, ∀ suffix,
          Attributed runtime (ids.map Json.str) request.request_id suffix) ∧
    ∀ ids : List String, Separate ids → ∀ id ∈ ids, ∀ suffix,
      Attributed runtime (ids.map Json.str) id suffix := by
  refine ⟨?_, ?_, ?_⟩
  · intro case_id hcase count ids hids index hindex suffix
    have hseparate : Separate ids := by
      apply separate_workload hcase
      intro id hid
      obtain ⟨index, _, hindex⟩ := (hids id).mp hid
      exact ⟨index, hindex⟩
    exact attributed_of_separate hseparate ((hids _).mpr ⟨index, hindex, rfl⟩) suffix
  · intro case_id case_ rows request_rate concurrency max_output_tokens workload hbuilt hcase ids hids
      request hrequest suffix
    have hseparate : Separate ids := by
      apply separate_workload hcase
      intro id hid
      rw [hids, shared_workloads.build_live_workload_ids hbuilt] at hid
      obtain ⟨index, _, hindex⟩ := List.mem_map.mp hid
      exact ⟨index, hindex.symm⟩
    exact attributed_of_separate hseparate ((hids _).mpr (List.mem_map_of_mem hrequest)) suffix
  · intro ids hseparate id hid suffix
    exact attributed_of_separate hseparate hid suffix

end

/-- The second request of a workload of two, whichever way the set is gone through. -/
theorem engine_events_attributed_second :
    Attributed Runtime.ascii (["case-a-1", "case-a-0"].map Json.str) "case-a-1" "0" := by
  refine (engine_events_attributed Runtime.ascii).1 "case-a" (by decide) 2 ["case-a-1", "case-a-0"] ?_ 1 (by decide) "0"
  intro id
  constructor
  · intro hid
    simp only [List.mem_cons, List.not_mem_nil, or_false] at hid
    obtain rfl | rfl := hid
    · exact ⟨1, by decide, by decide⟩
    · exact ⟨0, by decide, by decide⟩
  · rintro ⟨index, hindex, rfl⟩
    obtain rfl | rfl : index = 0 ∨ index = 1 := by omega
    · decide
    · decide

/-- A case named like the endpoint loses its name, and an id may end where the suffix of
another one starts. -/
theorem engine_events_misattributed :
    (¬ ∀ case_id : String, startswith case_id "chatcmpl-" = false →
      ∀ (count : ℕ) (ids : List String),
        (∀ id, id ∈ ids ↔ ∃ index < count, id = case_id ++ "-" ++ toString index) →
        ∀ index < count, ∀ suffix,
          Attributed Runtime.ascii (ids.map Json.str) (case_id ++ "-" ++ toString index) suffix) ∧
    ¬ ∀ ids : List String, (∀ id ∈ ids, startswith id "chatcmpl-" = false) →
      (∀ id ∈ ids, ∀ other ∈ ids, ∀ more, more ≠ "" → other ≠ id ++ "-" ++ more) →
      ∀ id ∈ ids, ∀ suffix, Attributed Runtime.ascii (ids.map Json.str) id suffix := by
  constructor
  · intro hall
    have hids : ∀ id, id ∈ ["chatcmpl-0"] ↔ ∃ index < 1, id = "chatcmpl" ++ "-" ++ toString index := by
      intro id
      rw [List.mem_singleton]
      constructor
      · rintro rfl
        exact ⟨0, by decide, by decide⟩
      · rintro ⟨index, hindex, rfl⟩
        obtain rfl : index = 0 := by omega
        decide
    obtain ⟨hnormalized, _⟩ := hall "chatcmpl" (by decide) 1 ["chatcmpl-0"] hids 0 (by decide) "" "chatcmpl-0"
      (by decide)
    have hactual : normalize_engine_request_id Runtime.ascii "chatcmpl-0" (["chatcmpl-0"].map Json.str) =
        .ok "0" := by rfl
    rw [hactual, Except.ok.injEq] at hnormalized
    revert hnormalized
    decide
  · intro hall
    have hmore : ∀ id ∈ ["a", "a-"], ∀ other ∈ ["a", "a-"], ∀ more, more ≠ "" → other ≠ id ++ "-" ++ more := by
      intro id hid other hother more hmore heq
      have hbounds : ∀ text ∈ ["a", "a-"], 1 ≤ text.length ∧ text.length ≤ 2 := by decide
      have hlong := (hbounds id hid).1
      have hshort := (hbounds other hother).2
      have hpositive : more.length ≠ 0 := fun hzero => hmore (String.length_eq_zero_iff.mp hzero)
      have hdash : "-".length = 1 := by decide
      rw [heq, String.length_append, String.length_append] at hshort
      omega
    obtain ⟨hnormalized, _⟩ := hall ["a", "a-"] (by decide) hmore "a" (by decide) "-x" "a--x" (by decide)
    have hactual : normalize_engine_request_id Runtime.ascii "a--x" (["a", "a-"].map Json.str) =
        .ok "a-" := by rfl
    rw [hactual, Except.ok.injEq] at hnormalized
    revert hnormalized
    decide

end validate_online_bundle
