import KvMaterialization.Experiments.OnlineBundle

open python

namespace validate_online_bundle

variable {F : Type}

/-- What a row holds at a key. -/
def field (key : String) (row : Json F) : Json F :=
  match row.get key with
  | .ok value => value
  | .error _ => .null

def requestId (row : Json F) : Json F := field "request_id" row

def Records.requestIds (records : Records F) : List (Json F) := records.requests.map requestId

section Rows

/-- Reading a field of every row succeeds where all rows are dictionaries. -/
theorem mapM_get {rows values : List (Json F)} {key : String}
    (hvalues : rows.mapM (fun row => row.get key) = .ok values) : values = rows.map (field key) := by
  induction rows generalizing values with
  | nil =>
    cases hvalues
    rfl
  | cons row rest ih =>
    rw [List.mapM_cons, bind_eq_ok_iff] at hvalues
    obtain ⟨value, hvalue, hvalues⟩ := hvalues
    rw [bind_eq_ok_iff] at hvalues
    obtain ⟨others, hothers, hvalues⟩ := hvalues
    cases hvalues
    rw [ih hothers, List.map_cons, field, hvalue]

theorem mapM_keyed {rows : List (Json F)} {keyed : List (Json F × Json F)} {key : String}
    (hkeyed : rows.mapM (fun row => do return (← row.get key, row)) = .ok keyed) :
    keyed = rows.map fun row => (field key row, row) := by
  induction rows generalizing keyed with
  | nil =>
    cases hkeyed
    rfl
  | cons row rest ih =>
    simp only [List.mapM_cons, bind_eq_ok_iff, pure_eq_ok_iff] at hkeyed
    obtain ⟨_, ⟨value, hvalue, rfl⟩, others, hothers, rfl⟩ := hkeyed
    have hrest : others = rest.map fun row => (field key row, row) := ih hothers
    rw [hrest, List.map_cons, field, hvalue]

theorem selectRows_eq {keep : Json F → Except Exception Bool} {rows kept : List (Json F)}
    (hkept : selectRows keep rows = .ok kept) :
    kept = rows.filter fun row => keep row = .ok true := by
  induction rows generalizing kept with
  | nil =>
    cases hkept
    rfl
  | cons row rest ih =>
    rw [selectRows, bind_eq_ok_iff] at hkept
    obtain ⟨keeps, hkeeps, hkept⟩ := hkept
    cases keeps with
    | true =>
      simp only [if_true, bind_eq_ok_iff, pure_eq_ok_iff] at hkept
      obtain ⟨others, hothers, rfl⟩ := hkept
      rw [List.filter_cons_of_pos (by simp [hkeeps]), ih hothers]
    | false =>
      rw [List.filter_cons_of_neg (by simp [hkeeps])]
      exact ih hkept

end Rows

variable [PyNumber F]

/-- An event that belongs to a request: its own id, less what the engine adds to it. -/
def belongs (runtime : Runtime F) (request_ids : List (Json F)) (id event : Json F) : Bool :=
  match requestId event with
  | .str raw_id =>
    match normalize_engine_request_id runtime raw_id request_ids with
    | .ok normalized => (Json.str normalized).same id
    | .error _ => false
  | _ => false

/-- How many events of a name the engine recorded for a request. -/
def eventCount (runtime : Runtime F) (records : Records F) (name : String) (id : Json F) : ℕ :=
  records.engine_events.countP fun event =>
    belongs runtime records.requestIds id event && (field "event" event).eq (.str name)

/-- A row of the accounting closes: its counters are those of the prompt the planner
saw, and say what was realized. -/
structure Balanced (records : Records F) (row : AccountingRow F) : Prop where
  counters : ∃ prompt reused recomputed : ℤ, row.prompt_tokens.int? = some prompt ∧
    row.reused_tokens.int? = some reused ∧ row.recomputed_tokens.int? = some recomputed ∧
    0 ≤ reused ∧ 0 ≤ recomputed ∧ reused + recomputed = prompt ∧
    (row.realized_decision = .str "recompute" ∧ reused = 0 ∨
      row.realized_decision = .str "full_reuse" ∧ reused ≠ 0 ∧ recomputed = 0 ∨
      row.realized_decision = .str "partial_reuse" ∧ reused ≠ 0 ∧ recomputed ≠ 0)
  planned : ∀ observation ∈ records.observations, requestId observation = .str row.request_id →
    row.prompt_tokens.eq (field "prompt_tokens" observation) = true

/-- Every request is observed, looked up and accounted for once. -/
structure Closed (runtime : Runtime F) (records : Records F) (report : Report F) : Prop where
  distinct : Json.Distinct records.requestIds
  observed : ∀ id ∈ records.requestIds, records.observations.countP (fun row => (requestId row).same id) = 1
  looked_up : ∀ id ∈ records.requestIds, eventCount runtime records "lookup" id = 1
  committed : ∀ id ∈ records.requestIds, 1 ≤ eventCount runtime records "commit" id
  accounted : ∀ id ∈ records.requestIds,
    report.engine_accounting.countP (fun row => (Json.str row.request_id).same id) = 1
  balanced : ∀ row ∈ report.engine_accounting, Balanced records row
  applied : (report.applied_decision_mix.map Prod.snd).sum = report.request_count
  realized : (report.realized_decision_mix.map Prod.snd).sum = report.request_count

/-- What the validator leaves unchecked: that ids are texts, that no request is
observed twice, and that the applied decision is one of those it counts. -/
structure OneToOne (records : Records F) : Prop where
  texts : ∀ id ∈ records.requestIds, ∃ text, id = .str text
  observed_once : Json.Distinct (records.observations.map requestId)
  known_decisions : ∀ row ∈ records.observations,
    ∃ decision ∈ ["recompute", "partial_reuse", "full_reuse"],
      field "runtime_effective_decision" row = .str decision

section Account

@[simp] theorem errorIf_eq_nil_iff {failed : Bool} {message : String} :
    errorIf failed message = [] ↔ failed = false := by
  cases failed <;> simp [errorIf]

theorem isEvent_iff {name : String} {row : Json F} :
    decide (isEvent name row = .ok true) = (field "event" row).eq (.str name) := by
  unfold isEvent field
  cases row.get "event" with
  | error error => simp [bind, Except.bind, Json.eq, Json.same, Json.number?]
  | ok event =>
    cases heq : event.eq (.str name) with
    | true => simp [bind, Except.bind, pure, Except.pure, heq]
    | false => simp [bind, Except.bind, pure, Except.pure, heq]

theorem eq_str_iff {value : Json F} {text : String} : value.eq (.str text) = true ↔ value = .str text := by
  rw [Json.eq, Json.same_str_iff]
  exact nofun

/-- What a row with these counters says once the checks of its request found no error. -/
structure Counted (observation : Json F) (row : AccountingRow F) : Prop where
  counters : ∃ prompt reused recomputed : ℤ, row.prompt_tokens.int? = some prompt ∧
    row.reused_tokens.int? = some reused ∧ row.recomputed_tokens.int? = some recomputed ∧
    0 ≤ reused ∧ 0 ≤ recomputed ∧ reused + recomputed = prompt ∧
    row.realized_decision = .str (expected_realized reused recomputed)
  planned : row.prompt_tokens.eq (field "prompt_tokens" observation) = true

variable {runtime : Runtime F} {is_m2 : Bool} {request_id : String} {row : Option (AccountingRow F)}

theorem account_lookup_spec {lookup observation prompt reused recomputed : Json F} {commits : List (Json F)}
    {prompt_tokens reused_tokens recomputed_tokens : ℤ} {errors : List String}
    (haccount : account_lookup runtime is_m2 lookup commits observation request_id prompt reused recomputed
      prompt_tokens reused_tokens recomputed_tokens = .ok (errors, row))
    (hprompt : prompt.int? = some prompt_tokens) (hreused : reused.int? = some reused_tokens)
    (hrecomputed : recomputed.int? = some recomputed_tokens) (herrors : errors = []) :
    ∃ counted, row = some counted ∧ counted.request_id = request_id ∧ Counted observation counted := by
  simp only [account_lookup, bind_eq_ok_iff, pure_eq_ok_iff, Prod.mk.injEq] at haccount
  obtain ⟨planner, hplanner, disagreements, _, block_size, _, unaligned, _, realized, _, unmeasured, _,
    measured, _, haccount, rfl⟩ := haccount
  rw [← haccount] at herrors
  simp only [List.append_eq_nil_iff, errorIf_eq_nil_iff, Bool.not_eq_false'] at herrors
  obtain ⟨⟨⟨⟨⟨hplanned, hbalanced⟩, _⟩, _⟩, hrealized⟩, _⟩ := herrors
  simp only [unbalanced, decide_eq_false_iff_not, not_or, not_lt, not_not] at hbalanced
  obtain ⟨hreused_nonneg, hrecomputed_nonneg, hsum⟩ := hbalanced
  refine ⟨_, rfl, rfl, ?_, ?_⟩
  · exact ⟨prompt_tokens, reused_tokens, recomputed_tokens, hprompt, hreused, hrecomputed, hreused_nonneg,
      hrecomputed_nonneg, hsum, eq_str_iff.mp hrealized⟩
  · rw [field, hplanner]
    exact hplanned

/-- A request whose checks found no error has one lookup, a commit and a row. -/
theorem account_spec {events : List (Json F)} {observation : Json F}
    (haccount : account runtime is_m2 events observation request_id = .ok ([], row)) :
    events.countP (fun event => (field "event" event).eq (.str "lookup")) = 1 ∧
      1 ≤ events.countP (fun event => (field "event" event).eq (.str "commit")) ∧
      ∃ counted, row = some counted ∧ counted.request_id = request_id ∧ Counted observation counted := by
  simp only [account, bind_eq_ok_iff] at haccount
  obtain ⟨lookups, hlookups, commits, hcommits, haccount⟩ := haccount
  have hlookups := selectRows_eq hlookups
  have hcommits := selectRows_eq hcommits
  simp only [isEvent_iff] at hlookups hcommits
  split at haccount
  · simp only [bind_eq_ok_iff] at haccount
    obtain ⟨prompt, _, reused, _, recomputed, _, haccount⟩ := haccount
    split at haccount
    · rename_i hprompt hreused hrecomputed
      simp only [bind_eq_ok_iff, pure_eq_ok_iff, Prod.mk.injEq, List.append_eq_nil_iff,
        errorIf_eq_nil_iff] at haccount
      obtain ⟨⟨errors, counted⟩, hlookup, ⟨hcommitted, herrors⟩, rfl⟩ := haccount
      rw [List.countP_eq_length_filter, List.countP_eq_length_filter, ← hlookups, ← hcommits]
      refine ⟨rfl, ?_, account_lookup_spec hlookup hprompt hreused hrecomputed herrors⟩
      cases commits with
      | nil => cases hcommitted
      | cons commit rest => exact Nat.succ_le_succ (Nat.zero_le _)
    · rw [pure_eq_ok_iff, Prod.mk.injEq] at haccount
      exact absurd haccount.1 (by simp)
  · rw [pure_eq_ok_iff, Prod.mk.injEq] at haccount
    exact absurd haccount.1 (by simp)

end Account

section Events

variable {runtime : Runtime F} {request_ids : List (Json F)}

theorem classify_event_spec {event : Json F} {index : ℕ} {filed : String × Json F}
    (hclassify : classify_event runtime request_ids (event, index) = .ok (.inr filed)) :
    filed.2 = event ∧ ∀ text, belongs runtime request_ids (.str text) event = decide (filed.1 = text) := by
  simp only [classify_event, bind_eq_ok_iff] at hclassify
  obtain ⟨id, hid, hclassify⟩ := hclassify
  split at hclassify
  · rename_i raw_id
    rw [bind_eq_ok_iff] at hclassify
    obtain ⟨normalized, hnormalized, hclassify⟩ := hclassify
    split at hclassify
    · rw [pure_eq_ok_iff, Sum.inr.injEq] at hclassify
      subst hclassify
      refine ⟨rfl, fun text => ?_⟩
      have hfield : requestId event = .str raw_id := by
        unfold requestId field
        rw [hid]
      unfold belongs
      rw [hfield]
      simp only [hnormalized]
      rw [Bool.eq_iff_iff, Json.same_str, decide_eq_true_eq]
    · rw [pure_eq_ok_iff] at hclassify
      cases hclassify
  · rw [pure_eq_ok_iff] at hclassify
    cases hclassify

/-- Where every event is filed, those filed under an id are the ones that belong to it. -/
theorem classified_events {events : List (Json F)} {index : ℕ} {classified : List (String ⊕ (String × Json F))}
    (hclassified : (events.zipIdx index).mapM (classify_event runtime request_ids) = .ok classified)
    (hfiled : classified.filterMap Sum.getLeft? = []) (text : String) :
    ((classified.filterMap Sum.getRight?).filter fun event => event.1 = text).map Prod.snd =
      events.filter (belongs runtime request_ids (.str text)) := by
  induction events generalizing index classified with
  | nil =>
    cases hclassified
    rfl
  | cons event rest ih =>
    rw [List.zipIdx_cons, List.mapM_cons, bind_eq_ok_iff] at hclassified
    obtain ⟨first, hfirst, hclassified⟩ := hclassified
    rw [bind_eq_ok_iff] at hclassified
    obtain ⟨others, hothers, hclassified⟩ := hclassified
    rw [pure_eq_ok_iff] at hclassified
    subst hclassified
    cases first with
    | inl message => cases hfiled
    | inr filed =>
      have hright : (Sum.inr filed :: others).filterMap Sum.getRight? =
          filed :: others.filterMap Sum.getRight? := rfl
      rw [List.filterMap_cons_none rfl] at hfiled
      obtain ⟨hevent, hbelongs⟩ := classify_event_spec hfirst
      rw [hright, List.filter_cons, List.filter_cons, hbelongs text, ← ih hothers hfiled]
      split
      · rw [List.map_cons, hevent]
      · rfl

omit [PyNumber F] in
/-- Each id has a row, in the order of the ids. -/
theorem accounts_spec {accountOf : String → Except Exception (List String × Option (AccountingRow F))}
    {holds : String → AccountingRow F → Prop} {ids : List String}
    {accounts : List (List String × Option (AccountingRow F))} (haccounts : ids.mapM accountOf = .ok accounts)
    (hclean : (accounts.map Prod.fst).flatten = [])
    (hholds : ∀ id row, accountOf id = .ok ([], row) → ∃ checked, row = some checked ∧ holds id checked) :
    List.Forall₂ holds ids (accounts.filterMap Prod.snd) := by
  induction ids generalizing accounts with
  | nil =>
    cases haccounts
    exact .nil
  | cons id rest ih =>
    rw [List.mapM_cons, bind_eq_ok_iff] at haccounts
    obtain ⟨⟨errors, row⟩, hfirst, haccounts⟩ := haccounts
    rw [bind_eq_ok_iff] at haccounts
    obtain ⟨others, hothers, haccounts⟩ := haccounts
    rw [pure_eq_ok_iff] at haccounts
    subst haccounts
    rw [List.map_cons, List.flatten_cons, List.append_eq_nil_iff] at hclean
    obtain ⟨rfl, hrest⟩ := hclean
    obtain ⟨checked, rfl, hchecked⟩ := hholds id row hfirst
    exact .cons hchecked (ih hothers hrest)

end Events

/-- What validation without an error has established. -/
structure Accepted (runtime : Runtime F) (records : Records F) (report : Report F) : Prop where
  distinct : Json.Distinct records.requestIds
  observation_ids : ∃ observation_ids, Json.setOf (records.observations.map requestId) = .ok observation_ids ∧
    Json.sameSet records.requestIds observation_ids = true
  rows : List.Forall₂
    (fun id row => row.request_id = id ∧ eventCount runtime records "lookup" (.str id) = 1 ∧
      1 ≤ eventCount runtime records "commit" (.str id) ∧
      Counted (observation_of (records.observations.map fun row => (requestId row, row)) id) row)
    ((records.requestIds.map runtime.str).insertionSort (· ≤ ·)) report.engine_accounting
  request_count : report.request_count = records.requests.length
  applied : report.applied_decision_mix = ["recompute", "partial_reuse", "full_reuse"].map fun decision =>
    (decision, records.observations.countP fun row =>
      (field "runtime_effective_decision" row).eq (.str decision))
  realized : report.realized_decision_mix =
    sorted_counts (report.engine_accounting.map fun row => runtime.str row.realized_decision)

section Ids

variable {runtime : Runtime F} {records : Records F} {request_ids observation_ids : List (Json F)}

theorem mismatch_errors_spec (herrors : mismatch_errors runtime request_ids observation_ids = .ok []) :
    Json.sameSet request_ids observation_ids = true := by
  unfold mismatch_errors at herrors
  split at herrors
  · rename_i hsame
    exact hsame
  · simp only [bind_eq_ok_iff, pure_eq_ok_iff] at herrors
    obtain ⟨_, _, _, _, herrors⟩ := herrors
    cases herrors

theorem id_errors_spec (herrors : id_errors runtime records request_ids observation_ids = .ok []) :
    request_ids.length = records.requests.length ∧ Json.sameSet request_ids observation_ids = true := by
  simp only [id_errors, bind_eq_ok_iff, pure_eq_ok_iff, List.append_eq_nil_iff, errorIf_eq_nil_iff,
    Bool.or_eq_false_iff, bne_eq_false_iff_eq] at herrors
  obtain ⟨_, _, _, _, _, _, mismatch, hmismatch, ⟨_, hlength, _⟩, rfl⟩ := herrors
  exact ⟨hlength, mismatch_errors_spec hmismatch⟩

end Ids

theorem applied_mix_eq {observations : List (Json F)} {mix : List (String × ℕ)}
    (hmix : applied_mix observations = .ok mix) :
    mix = ["recompute", "partial_reuse", "full_reuse"].map fun decision =>
      (decision, observations.countP fun row =>
        (field "runtime_effective_decision" row).eq (.str decision)) := by
  simp only [applied_mix, bind_eq_ok_iff, pure_eq_ok_iff] at hmix
  obtain ⟨decisions, hdecisions, rfl⟩ := hmix
  rw [mapM_get hdecisions]
  simp only [List.countP_map]
  rfl

/-- What the checks of a bundle have returned, in their order. -/
structure Stages (runtime : Runtime F) (records : Records F) (label : Option String) (require : Bool) where
  is_m2 : Bool
  recomputed : Json F
  summary_errors : List String
  ids : List (Json F)
  request_ids : List (Json F)
  observed : List (Json F × Json F)
  observation_ids : List (Json F)
  id_messages : List String
  observations : List (List String)
  requests : List (List String)
  classified : List (String ⊕ (String × Json F))
  accounts : List (List String × Option (AccountingRow F))
  labels : List String
  run : List String
  m2 : List String
  outcomes : List Bool
  throughput : Json F
  applied : List (String × ℕ)
  his_m2 : is_m2_bundle records label = .ok is_m2
  hverify : verify_request_summary runtime records.summary records.requests = .ok (recomputed, summary_errors)
  hids : records.requests.mapM (fun row => row.get "request_id") = .ok ids
  hrequest_ids : Json.setOf ids = .ok request_ids
  hobserved : records.observations.mapM (fun row => do return (← row.get "request_id", row)) = .ok observed
  hobservation_ids : Json.setOf (observed.map Prod.fst) = .ok observation_ids
  hid_messages : id_errors runtime records request_ids observation_ids = .ok id_messages
  hobservations : records.observations.zipIdx.mapM (observation_errors runtime is_m2) = .ok observations
  hrequests : records.requests.zipIdx.mapM request_errors = .ok requests
  hclassified : records.engine_events.zipIdx.mapM (classify_event runtime request_ids) = .ok classified
  haccounts : ((request_ids.map runtime.str).insertionSort (· ≤ ·)).mapM (fun request_id =>
    account runtime is_m2 (((classified.filterMap Sum.getRight?).filter fun event => event.1 = request_id).map Prod.snd)
      (observation_of observed request_id) request_id) = .ok accounts
  hlabels : label_errors runtime records label = .ok labels
  hrun : run_errors runtime records require
    ((accounts.filterMap Prod.snd).map fun row => runtime.str row.realized_decision) = .ok run
  hm2 : m2_errors runtime records is_m2 = .ok m2
  houtcomes : records.requests.mapM succeeded = .ok outcomes
  hthroughput : throughput_verification records.summary is_m2 = .ok throughput
  happlied : applied_mix records.observations = .ok applied

namespace Stages

variable {runtime : Runtime F} {records : Records F} {label : Option String} {require : Bool}

def report (self : Stages runtime records label require) : Report F where
  request_count := records.requests.length
  completed := self.outcomes.countP id
  failed := self.outcomes.countP (!·)
  recomputed := self.recomputed
  summary_valid := self.summary_errors.isEmpty
  throughput := self.throughput
  observation_count := records.observations.length
  engine_event_count := records.engine_events.length
  engine_accounting := self.accounts.filterMap Prod.snd
  applied_decision_mix := self.applied
  realized_decision_mix :=
    sorted_counts ((self.accounts.filterMap Prod.snd).map fun row => runtime.str row.realized_decision)

def result (self : Stages runtime records label require) : Validation F where
  errors := self.summary_errors ++ self.id_messages ++ self.observations.flatten ++ self.requests.flatten ++
    self.classified.filterMap Sum.getLeft? ++ (self.accounts.map Prod.fst).flatten ++ self.labels ++ self.run ++
    self.m2
  report := some self.report

end Stages

/-- The validator returns exactly if each of its checks does. -/
theorem validate_records_ok_iff {runtime : Runtime F} {records : Records F} {label : Option String} {require : Bool}
    {result : Validation F} :
    validate_records runtime records label require = .ok result ↔
      ∃ stages : Stages runtime records label require, stages.result = result := by
  simp only [validate_records, bind_eq_ok_iff, pure_eq_ok_iff]
  constructor
  · rintro ⟨is_m2, his_m2, ⟨recomputed, summary_errors⟩, hverify, ids, hids, request_ids, hrequest_ids, observed,
      hobserved, observation_ids, hobservation_ids, id_messages, hid_messages, observations, hobservations, requests,
      hrequests, classified, hclassified, accounts, haccounts, labels, hlabels, run, hrun, m2, hm2, outcomes,
      houtcomes, throughput, hthroughput, applied, happlied, rfl⟩
    exact ⟨{ is_m2, recomputed, summary_errors, ids, request_ids, observed, observation_ids, id_messages, observations,
             requests, classified, accounts, labels, run, m2, outcomes, throughput, applied, his_m2, hverify, hids,
             hrequest_ids, hobserved, hobservation_ids, hid_messages, hobservations, hrequests, hclassified, haccounts,
             hlabels, hrun, hm2, houtcomes, hthroughput, happlied }, rfl⟩
  · rintro ⟨stages, rfl⟩
    exact ⟨_, stages.his_m2, _, stages.hverify, _, stages.hids, _, stages.hrequest_ids, _, stages.hobserved, _,
      stages.hobservation_ids, _, stages.hid_messages, _, stages.hobservations, _, stages.hrequests, _,
      stages.hclassified, _, stages.haccounts, _, stages.hlabels, _, stages.hrun, _, stages.hm2, _, stages.houtcomes,
      _, stages.hthroughput, _, stages.happlied, rfl⟩

theorem validate_records_spec {runtime : Runtime F} {records : Records F} {label : Option String}
    {require : Bool} {result : Validation F}
    (hresult : validate_records runtime records label require = .ok result) (hvalid : result.valid = true) :
    ∃ report, result.report = some report ∧ Accepted runtime records report := by
  obtain ⟨stages, rfl⟩ := validate_records_ok_iff.mp hresult
  simp only [Validation.valid, Stages.result, List.isEmpty_iff, List.append_eq_nil_iff] at hvalid
  obtain ⟨⟨⟨⟨⟨⟨⟨⟨_, hid_messages⟩, _⟩, _⟩, hfiled⟩, hclean⟩, _⟩, _⟩, _⟩ := hvalid
  obtain ⟨hlength, hsame⟩ := id_errors_spec (hid_messages ▸ stages.hid_messages)
  have hobserved : stages.observed = records.observations.map fun row => (requestId row, row) :=
    mapM_keyed stages.hobserved
  have hids : stages.ids = records.requestIds := mapM_get stages.hids
  obtain ⟨_, hset⟩ := Json.setOf_eq_ok_iff.mp (hids ▸ stages.hrequest_ids)
  have hcount : (records.requestIds.foldl Json.insertInto []).length = records.requestIds.length := by
    rw [hset, hlength, Records.requestIds, List.length_map]
  obtain ⟨hfold, hdistinct⟩ := Json.foldl_insertInto_of_length hcount
  have hrequest_ids : stages.request_ids = records.requestIds := hset.symm.trans hfold
  refine ⟨_, rfl, ?_⟩
  constructor
  case distinct => exact hdistinct
  case observation_ids =>
    refine ⟨stages.observation_ids, ?_, ?_⟩
    · have hobservation_ids := stages.hobservation_ids
      rw [hobserved, List.map_map] at hobservation_ids
      exact hobservation_ids
    · rw [← hrequest_ids]
      exact hsame
  case rows =>
    have haccounts := stages.haccounts
    have hclassified := stages.hclassified
    rw [hrequest_ids, hobserved] at haccounts
    rw [hrequest_ids] at hclassified
    apply accounts_spec haccounts hclean
    intro id row haccount
    obtain ⟨hlookup, hcommit, counted, hrow, hid, hcounted⟩ := account_spec haccount
    rw [classified_events hclassified hfiled, List.countP_filter] at hlookup hcommit
    refine ⟨counted, hrow, hid, ?_, ?_, hcounted⟩
    · simpa only [eventCount, Bool.and_comm] using hlookup
    · simpa only [eventCount, Bool.and_comm] using hcommit
  case request_count => rfl
  case applied => exact applied_mix_eq stages.happlied
  case realized => rfl

section Closure

variable {runtime : Runtime F} {records : Records F} {report : Report F}

omit [PyNumber F] in
theorem texts_of_forall {values : List (Json F)} (htexts : ∀ value ∈ values, ∃ text, value = .str text) :
    ∃ texts : List String, values = texts.map Json.str := by
  induction values with
  | nil => exact ⟨[], rfl⟩
  | cons value rest ih =>
    rw [List.forall_mem_cons] at htexts
    obtain ⟨⟨text, rfl⟩, hrest⟩ := htexts
    obtain ⟨texts, rfl⟩ := ih hrest
    exact ⟨text :: texts, rfl⟩

/-- Between texts, what the validator compares as sets of ids are the same texts. -/
theorem Accepted.observed_texts (haccepted : Accepted runtime records report) {texts : List String}
    (htexts : records.requestIds = texts.map .str) :
    ∃ observed : List String, records.observations.map requestId = observed.map .str ∧
      ∀ text, text ∈ observed ↔ text ∈ texts := by
  obtain ⟨observation_ids, hset, hsame⟩ := haccepted.observation_ids
  have hdistinct := haccepted.distinct
  rw [htexts] at hsame hdistinct
  rw [Json.distinct_str_iff] at hdistinct
  obtain ⟨_, hset⟩ := Json.setOf_eq_ok_iff.mp hset
  simp only [Json.sameSet, Bool.and_eq_true, decide_eq_true_eq, List.all_eq_true] at hsame
  obtain ⟨hlength, hsubset⟩ := hsame
  have hmem : ∀ text ∈ texts, Json.str text ∈ observation_ids := by
    intro text htext
    exact Json.str_memberOf_iff.mp (hsubset _ (List.mem_map.mpr ⟨text, htext, rfl⟩))
  have hnodup : (texts.map (Json.str : String → Json F)).Nodup :=
    hdistinct.map fun _ _ heq => Json.str.inj heq
  have hperm : (texts.map Json.str).Perm observation_ids := by
    refine (hnodup.subperm ?_).perm_of_length_le hlength.ge
    intro value hvalue
    obtain ⟨text, htext, rfl⟩ := List.mem_map.mp hvalue
    exact hmem text htext
  have hobserved : ∀ value ∈ records.observations.map requestId, ∃ text ∈ texts, value = .str text := by
    intro value hvalue
    obtain ⟨element, helement, heq⟩ := Json.foldl_insertInto_covers hvalue
    rw [hset] at helement
    obtain ⟨text, htext, rfl⟩ := List.mem_map.mp (hperm.mem_iff.mpr helement)
    exact ⟨text, htext, heq.elim id Json.same_str_iff.mp⟩
  obtain ⟨observed, hobserved_eq⟩ := texts_of_forall fun value hvalue =>
    (hobserved value hvalue).imp fun _ htext => htext.2
  refine ⟨observed, hobserved_eq, fun text => ⟨?_, ?_⟩⟩
  · intro htext
    have hvalue : Json.str text ∈ records.observations.map requestId := by
      rw [hobserved_eq]
      exact List.mem_map.mpr ⟨text, htext, rfl⟩
    obtain ⟨other, hother, heq⟩ := hobserved _ hvalue
    rwa [Json.str.inj heq]
  · intro htext
    have hvalue := hmem text htext
    rw [← hset] at hvalue
    have hvalue := Json.foldl_insertInto_subset _ hvalue
    rw [hobserved_eq] at hvalue
    obtain ⟨other, hother, heq⟩ := List.mem_map.mp hvalue
    rwa [← Json.str.inj heq]

theorem countP_requestId {rows : List (Json F)} {texts : List String}
    (htexts : rows.map requestId = texts.map .str) (text : String) :
    rows.countP (fun row => (requestId row).same (.str text)) = texts.count text := by
  have hmap : rows.countP (fun row => (requestId row).same (.str text)) =
      (rows.map requestId).countP fun id => id.same (.str text) := by
    rw [List.countP_map]
    rfl
  rw [hmap, htexts, List.countP_map, List.count]
  exact List.countP_congr fun other _ => (Json.same_str (F := F)).trans beq_iff_eq.symm

/-- No value is two of the decisions, so the counts of the mix count each row once. -/
theorem sum_decision_counts (values : List (Json F)) :
    ((["recompute", "partial_reuse", "full_reuse"].map fun decision =>
      values.countP fun value => value.eq (.str decision))).sum =
      values.countP fun value =>
        ["recompute", "partial_reuse", "full_reuse"].any fun decision => value.eq (.str decision) := by
  have heq : ∀ a b : String, (Json.str a : Json F).eq (.str b) = decide (a = b) := by
    intro a b
    rw [Bool.eq_iff_iff, eq_str_iff, Json.str.injEq, decide_eq_true_eq]
  have hne : ∀ {value : Json F} {decision : String}, value ≠ .str decision →
      value.eq (.str decision) = false := fun hvalue => Bool.eq_false_iff.mpr (mt eq_str_iff.mp hvalue)
  induction values with
  | nil => rfl
  | cons value rest ih =>
    simp only [List.map_cons, List.map_nil, List.sum_cons, List.sum_nil, List.any_cons, List.any_nil,
      List.countP_cons] at ih ⊢
    by_cases hrecompute : value = .str "recompute"
    · subst hrecompute
      simp [heq] at ih ⊢
      omega
    by_cases hpartial : value = .str "partial_reuse"
    · subst hpartial
      simp [heq] at ih ⊢
      omega
    by_cases hfull : value = .str "full_reuse"
    · subst hfull
      simp [heq] at ih ⊢
      omega
    · simp [hne hrecompute, hne hpartial, hne hfull] at ih ⊢
      omega

theorem sum_sorted_counts (texts : List String) : ((sorted_counts texts).map Prod.snd).sum = texts.length := by
  have hmap : (sorted_counts texts).map Prod.snd =
      (texts.dedup.insertionSort (· ≤ ·)).map fun text => texts.count text := by
    rw [sorted_counts, List.map_map]
    rfl
  have hperm := (List.perm_insertionSort (· ≤ ·) texts.dedup).map fun text => texts.count text
  rw [hmap, hperm.sum_eq, List.sum_map_count_dedup_eq_length]

/-- The rows are of the ids in order, which between texts are those of the requests. -/
theorem Accepted.row_ids (haccepted : Accepted runtime records report) {texts : List String}
    (htexts : records.requestIds = texts.map .str) :
    (report.engine_accounting.map AccountingRow.request_id).Perm texts := by
  have hids : records.requestIds.map runtime.str = texts := by
    rw [htexts, List.map_map]
    exact (List.map_congr_left fun text _ => runtime.str_text text).trans (List.map_id texts)
  have hrows := haccepted.rows
  rw [hids] at hrows
  have hsorted : report.engine_accounting.map AccountingRow.request_id = texts.insertionSort (· ≤ ·) := by
    have heq := (hrows.imp fun _ _ hrow => hrow.1).flip
    rwa [← List.forall₂_map_left_iff, List.forall₂_eq_eq_eq] at heq
  rw [hsorted]
  exact List.perm_insertionSort _ _

/-- Of the observations of a request, the only one is the one the validator reads. -/
theorem observation_of_eq {observed : List String} {id : String} {observation : Json F}
    (hobserved : records.observations.map requestId = observed.map .str) (hnodup : observed.Nodup)
    (hmem : observation ∈ records.observations) (hid : requestId observation = .str id) :
    observation_of (records.observations.map fun row => (requestId row, row)) id = observation := by
  have hids : (records.observations.map requestId).Nodup := by
    rw [hobserved]
    exact hnodup.map fun _ _ heq => Json.str.inj heq
  unfold observation_of
  split
  · rename_i entry hfind
    have hentry := List.mem_reverse.mp (List.mem_of_find?_eq_some hfind)
    obtain ⟨row, hrow, rfl⟩ := List.mem_map.mp hentry
    have hsame : requestId row = .str id := Json.same_str_iff.mp (by simpa using List.find?_some hfind)
    exact List.inj_on_of_nodup_map hids hrow hmem (hsame.trans hid.symm)
  · rename_i hfind
    have hnone := List.find?_eq_none.mp hfind (requestId observation, observation)
      (List.mem_reverse.mpr (List.mem_map.mpr ⟨observation, hmem, rfl⟩))
    exact absurd (Json.same_str_iff.mpr hid) hnone

theorem Counted.balanced {row : AccountingRow F} {observation : Json F} (hcounted : Counted observation row)
    (hobservation : ∀ other ∈ records.observations, requestId other = .str row.request_id → other = observation) :
    Balanced records row := by
  obtain ⟨⟨prompt, reused, recomputed, hprompt, hreused, hrecomputed, hreused_nonneg, hrecomputed_nonneg, hsum,
    hrealized⟩, hplanned⟩ := hcounted
  refine ⟨⟨prompt, reused, recomputed, hprompt, hreused, hrecomputed, hreused_nonneg, hrecomputed_nonneg, hsum,
    ?_⟩, ?_⟩
  · rw [hrealized]
    unfold expected_realized
    split
    · rename_i hzero
      exact .inl ⟨rfl, hzero⟩
    · rename_i hsome
      split
      · rename_i hzero
        exact .inr (.inl ⟨rfl, hsome, hzero⟩)
      · rename_i hrest
        exact .inr (.inr ⟨rfl, hsome, hrest⟩)
  · intro other hother hid
    rw [hobservation other hother hid]
    exact hplanned

theorem Accepted.rows_length (haccepted : Accepted runtime records report) :
    report.engine_accounting.length = records.requests.length := by
  rw [← haccepted.rows.length_eq, List.length_insertionSort, List.length_map, Records.requestIds,
    List.length_map]

theorem Accepted.sum_realized (haccepted : Accepted runtime records report) :
    (report.realized_decision_mix.map Prod.snd).sum = report.request_count := by
  rw [haccepted.realized, sum_sorted_counts, List.length_map, haccepted.rows_length, haccepted.request_count]

/-- The applied mix counts the observations whose decision it knows. -/
theorem Accepted.sum_applied (haccepted : Accepted runtime records report) :
    (report.applied_decision_mix.map Prod.snd).sum =
      (records.observations.map (field "runtime_effective_decision")).countP fun value =>
        ["recompute", "partial_reuse", "full_reuse"].any fun decision => value.eq (.str decision) := by
  rw [haccepted.applied, ← sum_decision_counts, List.map_map]
  simp only [List.countP_map]
  rfl

theorem Accepted.length_eq (haccepted : Accepted runtime records report) {texts observed : List String}
    (htexts : records.requestIds = texts.map .str) (hobserved : records.observations.map requestId = observed.map .str)
    (hnodup : observed.Nodup) (hmem : ∀ text, text ∈ observed ↔ text ∈ texts) :
    records.observations.length = records.requests.length := by
  have hdistinct := haccepted.distinct
  rw [htexts, Json.distinct_str_iff] at hdistinct
  have hperm : observed.Perm texts := (List.perm_ext_iff_of_nodup hnodup hdistinct).mpr hmem
  have hleft := congrArg List.length hobserved
  have hright := congrArg List.length htexts
  rw [Records.requestIds] at hright
  rw [List.length_map, List.length_map] at hleft hright
  rw [hleft, hright, hperm.length_eq]

theorem known_decisions_iff :
    (records.observations.map (field "runtime_effective_decision")).countP (fun value =>
        ["recompute", "partial_reuse", "full_reuse"].any fun decision => value.eq (.str decision)) =
      records.observations.length ↔
    ∀ row ∈ records.observations, ∃ decision ∈ ["recompute", "partial_reuse", "full_reuse"],
      field "runtime_effective_decision" row = .str decision := by
  have hlength : records.observations.length =
      (records.observations.map (field "runtime_effective_decision")).length := (List.length_map _).symm
  rw [hlength, List.countP_eq_length, List.forall_mem_map]
  simp only [List.any_eq_true, eq_str_iff]

/-- A closed bundle is one to one: the lookup of every request shows its id to be a
text, and the counts leave no room for a second observation or an unknown decision. -/
theorem Accepted.oneToOne (haccepted : Accepted runtime records report)
    (hclosed : Closed runtime records report) : OneToOne records := by
  have htexts : ∀ id ∈ records.requestIds, ∃ text, id = .str text := by
    intro id hid
    have hpos : 0 < eventCount runtime records "lookup" id := by
      rw [hclosed.looked_up id hid]
      exact Nat.one_pos
    obtain ⟨event, _, hevent⟩ := List.countP_pos_iff.mp hpos
    have hbelongs := (Bool.and_eq_true_iff.mp hevent).1
    unfold belongs at hbelongs
    split at hbelongs
    · split at hbelongs
      · exact ⟨_, Json.str_same_iff.mp hbelongs⟩
      · cases hbelongs
    · cases hbelongs
  obtain ⟨texts, htexts_eq⟩ := texts_of_forall htexts
  obtain ⟨observed, hobserved, hmem⟩ := haccepted.observed_texts htexts_eq
  have hnodup : observed.Nodup := by
    rw [List.nodup_iff_count_eq_one]
    intro text htext
    rw [← countP_requestId hobserved]
    apply hclosed.observed
    rw [htexts_eq]
    exact List.mem_map.mpr ⟨text, (hmem text).mp htext, rfl⟩
  refine ⟨htexts, ?_, ?_⟩
  · rw [hobserved, Json.distinct_str_iff]
    exact hnodup
  · rw [← known_decisions_iff, ← haccepted.sum_applied, hclosed.applied, haccepted.request_count,
      haccepted.length_eq htexts_eq hobserved hnodup hmem]

theorem Accepted.closed (haccepted : Accepted runtime records report) (hone : OneToOne records) :
    Closed runtime records report := by
  obtain ⟨texts, htexts⟩ := texts_of_forall hone.texts
  obtain ⟨observed, hobserved, hmem⟩ := haccepted.observed_texts htexts
  have hobserved_once := hone.observed_once
  rw [hobserved, Json.distinct_str_iff] at hobserved_once
  have hrow_ids := haccepted.row_ids htexts
  have hdistinct := haccepted.distinct
  rw [htexts, Json.distinct_str_iff] at hdistinct
  have hids : ∀ {holds : Json F → Prop}, (∀ text ∈ texts, holds (.str text)) →
      ∀ id ∈ records.requestIds, holds id := by
    intro holds hholds id hid
    rw [htexts] at hid
    obtain ⟨text, htext, rfl⟩ := List.mem_map.mp hid
    exact hholds text htext
  have hsorted : ∀ text ∈ texts, text ∈ (records.requestIds.map runtime.str).insertionSort (· ≤ ·) := by
    intro text htext
    rw [List.mem_insertionSort, htexts, List.map_map]
    exact List.mem_map.mpr ⟨text, htext, runtime.str_text text⟩
  constructor
  case distinct => exact haccepted.distinct
  case observed =>
    apply hids
    intro text htext
    rw [countP_requestId hobserved]
    exact List.count_eq_one_of_mem hobserved_once ((hmem text).mpr htext)
  case looked_up =>
    apply hids
    intro text htext
    obtain ⟨row, _, _, hlookup, _⟩ := exists_right_of_mem haccepted.rows (hsorted text htext)
    exact hlookup
  case committed =>
    apply hids
    intro text htext
    obtain ⟨row, _, _, _, hcommit, _⟩ := exists_right_of_mem haccepted.rows (hsorted text htext)
    exact hcommit
  case accounted =>
    apply hids
    intro text htext
    have hcount : report.engine_accounting.countP (fun row => (Json.str row.request_id : Json F).same (.str text)) =
        (report.engine_accounting.map AccountingRow.request_id).count text := by
      rw [List.count, List.countP_map]
      exact List.countP_congr fun row _ => (Json.same_str (F := F)).trans beq_iff_eq.symm
    rw [hcount, hrow_ids.count_eq]
    exact List.count_eq_one_of_mem hdistinct htext
  case balanced =>
    intro row hrow
    obtain ⟨id, _, rfl, _, _, hcounted⟩ := exists_left_of_mem haccepted.rows hrow
    apply hcounted.balanced
    intro other hother hid
    exact (observation_of_eq hobserved hobserved_once hother hid).symm
  case applied =>
    rw [haccepted.sum_applied, known_decisions_iff.mpr hone.known_decisions, haccepted.request_count,
      haccepted.length_eq htexts hobserved hobserved_once hmem]
  case realized => exact haccepted.sum_realized

end Closure

/-- A bundle validates only if no file is missing and what it reads does. -/
theorem validate_bundle_read {runtime : Runtime F} {bundle : Bundle F}
    {label : Option String} {require : Bool} {result : Validation F}
    (hresult : validate_bundle runtime bundle label require = .ok result) (hvalid : result.valid = true) :
    (bundle.required_files.filter fun file => !file.2) = [] ∧
      ∃ records, bundle.read = .ok records ∧ validate_records runtime records label require = .ok result := by
  unfold validate_bundle at hresult
  dsimp only at hresult
  split at hresult
  · rename_i hmissing
    rw [pure_eq_ok_iff] at hresult
    subst hresult
    exact absurd (List.isEmpty_iff.mp hvalid) hmissing
  · rename_i hmissing
    rw [bind_eq_ok_iff] at hresult
    exact ⟨List.map_eq_nil_iff.mp (not_not.mp hmissing), hresult⟩

/-- A bundle that validates is closed exactly if its ids are texts, no request is
observed twice and every observation applied one of the three decisions. -/
theorem valid_bundle_closed_iff (runtime : Runtime F) (bundle : Bundle F) (label : Option String)
    (realized_partial_required : Bool) (result : Validation F)
    (hresult : validate_bundle runtime bundle label realized_partial_required = .ok result)
    (hvalid : result.valid = true) :
    ∃ records report, bundle.read = .ok records ∧ result.report = some report ∧
      (Closed runtime records report ↔ OneToOne records) := by
  obtain ⟨_, records, hrecords, hresult⟩ := validate_bundle_read hresult hvalid
  obtain ⟨report, hreport, haccepted⟩ := validate_records_spec hresult hvalid
  exact ⟨records, report, hrecords, hreport, haccepted.oneToOne, haccepted.closed⟩

def accepts (outcome : Except Exception (Validation F)) : Bool :=
  match outcome with
  | .ok result => result.valid
  | .error _ => false

omit [PyNumber F] in
theorem accepts_iff {outcome : Except Exception (Validation F)} :
    accepts outcome = true ↔ ∃ result, outcome = .ok result ∧ result.valid = true := by
  cases outcome with
  | error error => simp [accepts]
  | ok result => simp [accepts]

/-- A run of one request that recomputed its prompt. -/
def oneRequest (observations : List (Json ℚ)) : Bundle ℚ where
  environment_manifest := some (.ok (.dict [
    ("evidence_label", .str "real-online/formal-matrix"), ("protocol_fingerprint", .str "f3a1"),
    ("execution_mode_evidence", .list [.str "enforce_eager=False"])]))
  run_manifest := some (.ok (.dict [
    ("evidence_label", .str "real-online/formal-matrix"), ("status", .str "completed")]))
  request_summary := some (.ok (.dict [
    ("requests", .int 1), ("completed", .int 1), ("failures", .list []),
    ("mean_latency_ms", .float 1000), ("p95_latency_ms", .float 1000),
    ("mean_ttft_ms", .float 100), ("p95_ttft_ms", .float 100)]))
  request_results := some (.ok [.dict [
    ("request_id", .str "r1"), ("ok", .bool true), ("latency_s", .float 1), ("ttft_s", .float (1 / 10)),
    ("raw_events", .list [.dict []])]])
  runtime_observations := some (.ok observations)
  runtime_events := some (.ok [
    .dict [("request_id", .str "chatcmpl-r1"), ("event", .str "lookup"),
      ("engine_prompt_tokens", .int 100), ("engine_reused_tokens", .int 0),
      ("engine_recomputed_tokens", .int 100), ("applied_decision", .str "recompute"),
      ("observed_decision", .str "recompute"), ("target_reuse_tokens", .int 0),
      ("realized_decision", .str "recompute")],
    .dict [("request_id", .str "chatcmpl-r1"), ("event", .str "commit")]])
  server_log := true
  client_log := true
  cleanup := some (.ok (.dict [("port_free_after", .bool true), ("device_idle_after", .bool true)]))

def recomputeObservation : Json ℚ := .dict [
  ("request_id", .str "r1"), ("decision", .str "recompute"),
  ("runtime_effective_decision", .str "recompute"), ("runtime_target_reuse_tokens", .int 0),
  ("runtime_target_tail_tokens", .int 100), ("runtime_fallback_reason", .null),
  ("prompt_tokens", .int 100)]

theorem valid_bundle_closed_iff_one_request :
    ∃ result, validate_bundle Runtime.ascii (oneRequest [recomputeObservation]) none false = .ok result ∧
      result.valid = true ∧ ∃ records report, (oneRequest [recomputeObservation]).read = .ok records ∧
        result.report = some report ∧ (Closed Runtime.ascii records report ↔ OneToOne records) := by
  have haccepts : accepts
      (validate_bundle Runtime.ascii (oneRequest [recomputeObservation]) none false) = true := by
    decide +kernel
  obtain ⟨result, hresult, hvalid⟩ := accepts_iff.mp haccepts
  exact ⟨result, hresult, hvalid, valid_bundle_closed_iff _ _ _ _ _ hresult hvalid⟩

/-- A second copy of the observation goes unnoticed, and is counted. -/
theorem duplicate_observation_accepted :
    ¬ ∀ result, validate_bundle Runtime.ascii (oneRequest [recomputeObservation, recomputeObservation])
        none false = .ok result → result.valid = true →
      ∃ records report,
        (oneRequest [recomputeObservation, recomputeObservation]).read = .ok records ∧
          result.report = some report ∧ Closed Runtime.ascii records report := by
  intro hclaim
  have haccepts : accepts (validate_bundle Runtime.ascii
      (oneRequest [recomputeObservation, recomputeObservation]) none false) = true := by
    decide +kernel
  obtain ⟨result, hresult, hvalid⟩ := accepts_iff.mp haccepts
  obtain ⟨records, report, hread, _, hclosed⟩ := hclaim result hresult hvalid
  cases hread
  have hobserved := hclosed.observed (.str "r1") List.mem_cons_self
  revert hobserved
  decide +kernel

end validate_online_bundle
