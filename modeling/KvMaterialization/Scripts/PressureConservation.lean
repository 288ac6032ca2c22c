import KvMaterialization.Python.Keys
import KvMaterialization.Scripts.Bootstrap
import Mathlib.Algebra.BigOperators.Ring.Finset

open python

namespace rebuild_g0_formal

/-- What a transfer says of one of its requests. -/
structure Transfer (F : Type) where
  rid : Json F
  bytes : ℤ
  wait_ms : F
  in_flight : ℤ

structure LayerWait (F : Type) where
  rid : Json F
  wait_ms : F

/-- What an event says: the tokens of the request that it decides on, and its transfers and
waits, one for each of its requests. -/
structure Said (F : Type) where
  decision : Option (Json F × ℤ)
  transfers : List (Transfer F)
  layer_waits : List (LayerWait F)

section Events

variable {F : Type} [PyNumber F] (runtime : Runtime F)

def decision_said (event name request_id : Json F) : Except Exception (Option (Json F × ℤ)) := do
  if name.eq (.str "materialization_decision") && request_id.truthy then
    if ← Json.lt (.int 0) (← event.getD "external_hit_tokens" (.int 0)) then
      let tokens ← (← event.item "external_hit_tokens").toInt runtime.toInterpreter
      return some (← key request_id, tokens)
    return none
  return none

def transfer_said (event rid : Json F) : Except Exception (Transfer F) := do
  let byte_map ← event.getD "request_materialization_bytes" (.dict [])
  let rid ← key rid
  let bytes ← (← entry_at byte_map rid).toInt runtime.toInterpreter
  let wait_ns ← (← event.getD "connector_queue_wait_ns" (.int 0)).toFloat runtime.toInterpreter
  let wait_ms ← PyFloat.div wait_ns (lit 1000000)
  let in_flight ← (← event.getD "bytes_in_flight" (.int 0)).toInt runtime.toInterpreter
  return ⟨rid, bytes, wait_ms, in_flight⟩

def layer_wait_said (event rid : Json F) : Except Exception (LayerWait F) := do
  let rid ← key rid
  let wait_ns ← (← event.getD "layer_ready_wait_ns" (.int 0)).toFloat runtime.toInterpreter
  let wait_ms ← PyFloat.div wait_ns (lit 1000000)
  return ⟨rid, wait_ms⟩

def said (event : Json F) : Except Exception (Said F) := do
  let name ← event.get "event"
  let decision ← decision_said runtime event name (← event.get "request_id")
  let request_ids ← event.getD "request_ids" (.list [])
  if name.eq (.str "transfer_started") then
    return ⟨decision, ← (← request_ids.iterate).mapM (transfer_said runtime event), []⟩
  else if name.eq (.str "layer_ready_wait_finished") then
    return ⟨decision, [], ← (← request_ids.iterate).mapM (layer_wait_said runtime event)⟩
  else
    return ⟨decision, [], []⟩

variable {runtime}

def Pressure.decide (pressure : Pressure F) : Option (Json F × ℤ) → Pressure F
  | some decision => { pressure with reuse := assignAt Json.same pressure.reuse decision.1 decision.2 }
  | none => pressure

def Pressure.transfer (pressure : Pressure F) (transfer : Transfer F) : Pressure F :=
  { pressure with
    requested := changeAt pressure.requested transfer.rid 0 (· + transfer.bytes)
    queue_wait := changeAt pressure.queue_wait transfer.rid [] (· ++ [transfer.wait_ms])
    inflight := changeAt pressure.inflight transfer.rid [] (· ++ [transfer.in_flight]) }

def Pressure.wait (pressure : Pressure F) (wait : LayerWait F) : Pressure F :=
  { pressure with layer_wait := changeAt pressure.layer_wait wait.rid [] (· ++ [wait.wait_ms]) }

def Pressure.take (pressure : Pressure F) (said : Said F) : Pressure F :=
  said.layer_waits.foldl Pressure.wait (said.transfers.foldl Pressure.transfer (pressure.decide said.decision))

theorem record_decision_eq (event name request_id : Json F) (pressure : Pressure F) :
    record_decision runtime event name request_id pressure =
      (do return pressure.decide (← decision_said runtime event name request_id)) := by
  unfold record_decision decision_said
  split
  · cases event.getD "external_hit_tokens" (.int 0) with
    | error error => rfl
    | ok hit =>
      change (Json.lt (.int 0) hit >>= _) = (Json.lt (.int 0) hit >>= _) >>= _
      cases Json.lt (.int 0) hit with
      | error error => rfl
      | ok positive =>
        cases positive with
        | false => rfl
        | true =>
          cases event.item "external_hit_tokens" with
          | error error => rfl
          | ok tokens =>
            change (tokens.toInt runtime.toInterpreter >>= _) = (tokens.toInt runtime.toInterpreter >>= _) >>= _
            cases tokens.toInt runtime.toInterpreter with
            | error error => rfl
            | ok tokens => cases key request_id <;> rfl
  · rfl

theorem record_transfer_eq (event : Json F) (pressure : Pressure F) (rid : Json F) :
    record_transfer runtime event pressure rid = (do return pressure.transfer (← transfer_said runtime event rid)) := by
  simp only [record_transfer, transfer_said, bind_assoc, pure_bind]
  rfl

theorem record_layer_wait_eq (event : Json F) (pressure : Pressure F) (rid : Json F) :
    record_layer_wait runtime event pressure rid = (do return pressure.wait (← layer_wait_said runtime event rid)) := by
  simp only [record_layer_wait, layer_wait_said, bind_assoc, pure_bind]
  rfl

/-- An event is recorded as what it says, whatever was recorded before. -/
theorem record_event_eq (pressure : Pressure F) (event : Json F) :
    record_event runtime pressure event = (do return pressure.take (← said runtime event)) := by
  unfold record_event said
  simp only [record_decision_eq, bind_assoc, pure_bind]
  refine bind_congr fun name => bind_congr fun request_id => bind_congr fun decision => bind_congr fun request_ids => ?_
  split
  · simp only [bind_assoc, pure_bind, foldlM_eq_mapM (record_transfer_eq event)]
    rfl
  · split
    · simp only [bind_assoc, pure_bind, foldlM_eq_mapM (record_layer_wait_eq event)]
      rfl
    · rfl

/-- What is recorded of decisions, transfers and waits that come in this order. -/
def pressureOf (decisions : List (Json F × ℤ)) (transfers : List (Transfer F)) (waits : List (LayerWait F)) :
    Pressure F where
  reuse := decisions.foldl (fun entries decision => assignAt Json.same entries decision.1 decision.2) []
  requested := transfers.foldl (fun entries transfer => changeAt entries transfer.rid 0 (· + transfer.bytes)) []
  queue_wait :=
    transfers.foldl (fun entries transfer => changeAt entries transfer.rid [] (· ++ [transfer.wait_ms])) []
  layer_wait := waits.foldl (fun entries wait => changeAt entries wait.rid [] (· ++ [wait.wait_ms])) []
  inflight :=
    transfers.foldl (fun entries transfer => changeAt entries transfer.rid [] (· ++ [transfer.in_flight])) []

theorem foldl_transfer (decisions : List (Json F × ℤ)) (transfers more : List (Transfer F))
    (waits : List (LayerWait F)) :
    more.foldl Pressure.transfer (pressureOf decisions transfers waits) =
      pressureOf decisions (transfers ++ more) waits := by
  induction more generalizing transfers with
  | nil => rw [List.append_nil, List.foldl_nil]
  | cons transfer rest ih =>
    have hnext : (pressureOf decisions transfers waits).transfer transfer =
        pressureOf decisions (transfers ++ [transfer]) waits := by
      simp only [pressureOf, Pressure.transfer, List.foldl_append, List.foldl_cons, List.foldl_nil]
    rw [List.foldl_cons, hnext, ih, List.append_assoc]
    rfl

theorem foldl_wait (decisions : List (Json F × ℤ)) (transfers : List (Transfer F))
    (waits more : List (LayerWait F)) :
    more.foldl Pressure.wait (pressureOf decisions transfers waits) =
      pressureOf decisions transfers (waits ++ more) := by
  induction more generalizing waits with
  | nil => rw [List.append_nil, List.foldl_nil]
  | cons wait rest ih =>
    have hnext : (pressureOf decisions transfers waits).wait wait =
        pressureOf decisions transfers (waits ++ [wait]) := by
      simp only [pressureOf, Pressure.wait, List.foldl_append, List.foldl_cons, List.foldl_nil]
    rw [List.foldl_cons, hnext, ih, List.append_assoc]
    rfl

/-- Each accumulator takes what concerns it, and in the order of the events. -/
theorem foldl_take (sayings : List (Said F)) :
    sayings.foldl Pressure.take Pressure.empty =
      pressureOf (sayings.filterMap Said.decision) (sayings.flatMap Said.transfers)
        (sayings.flatMap Said.layer_waits) := by
  induction sayings using List.reverseRecOn with
  | nil => rfl
  | append_singleton sayings last ih =>
    have hdecide : (pressureOf (sayings.filterMap Said.decision) (sayings.flatMap Said.transfers)
        (sayings.flatMap Said.layer_waits)).decide last.decision =
        pressureOf (sayings.filterMap Said.decision ++ last.decision.toList) (sayings.flatMap Said.transfers)
          (sayings.flatMap Said.layer_waits) := by
      cases last.decision with
      | none => rw [Option.toList_none, List.append_nil, Pressure.decide]
      | some decision =>
        simp only [pressureOf, Pressure.decide, Option.toList_some, List.foldl_append, List.foldl_cons,
          List.foldl_nil]
    have hlast : List.filterMap Said.decision [last] = last.decision.toList := by
      cases hdecision : last.decision with
      | none => simp [hdecision]
      | some decision => simp [hdecision]
    rw [List.foldl_append, ih, List.foldl_cons, List.foldl_nil, Pressure.take, hdecide, foldl_transfer, foldl_wait,
      List.filterMap_append, hlast, List.flatMap_append, List.flatMap_append, List.flatMap_singleton,
      List.flatMap_singleton]

/-- The requests that something is said of can be keys. -/
structure Said.Hashable (said : Said F) : Prop where
  decision : ∀ decision ∈ said.decision, decision.1.hashable = true
  transfers : ∀ transfer ∈ said.transfers, transfer.rid.hashable = true
  layer_waits : ∀ wait ∈ said.layer_waits, wait.rid.hashable = true

omit [PyNumber F] in
theorem key_eq_ok {value found : Json F} (hkey : key value = .ok found) : found.hashable = true ∧ found = value := by
  unfold key at hkey
  split at hkey
  · rename_i hhashable
    cases hkey
    exact ⟨hhashable, rfl⟩
  · cases hkey

theorem decision_said_eq_ok {event name request_id : Json F} {decision : Json F × ℤ}
    (hdecision : decision_said runtime event name request_id = .ok (some decision)) :
    decision.1.hashable = true := by
  unfold decision_said at hdecision
  split at hdecision
  · simp only [bind_eq_ok_iff] at hdecision
    obtain ⟨hit, _, positive, _, hdecision⟩ := hdecision
    split at hdecision
    · simp only [bind_eq_ok_iff, pure_eq_ok_iff, Option.some.injEq] at hdecision
      obtain ⟨_, _, tokens, _, rid, hrid, rfl⟩ := hdecision
      exact (key_eq_ok hrid).1
    · cases hdecision
  · cases hdecision

theorem transfer_said_eq_ok {event rid : Json F} {transfer : Transfer F}
    (htransfer : transfer_said runtime event rid = .ok transfer) : transfer.rid.hashable = true := by
  simp only [transfer_said, bind_eq_ok_iff, pure_eq_ok_iff] at htransfer
  obtain ⟨_, _, found, hkey, _, _, _, _, _, _, _, _, _, _, _, _, _, _, rfl⟩ := htransfer
  exact (key_eq_ok hkey).1

theorem layer_wait_said_eq_ok {event rid : Json F} {wait : LayerWait F}
    (hwait : layer_wait_said runtime event rid = .ok wait) : wait.rid.hashable = true := by
  simp only [layer_wait_said, bind_eq_ok_iff, pure_eq_ok_iff] at hwait
  obtain ⟨found, hkey, _, _, _, _, _, _, rfl⟩ := hwait
  exact (key_eq_ok hkey).1

/-- What an event says is what its name lets it say. -/
theorem said_eq_ok {event : Json F} {saying : Said F} (hsaid : said runtime event = .ok saying) :
    (∃ name request_id, event.get "event" = .ok name ∧ event.get "request_id" = .ok request_id ∧
        decision_said runtime event name request_id = .ok saying.decision) ∧
      (∀ transfer ∈ saying.transfers, ∃ rid, transfer_said runtime event rid = .ok transfer) ∧
      ∀ wait ∈ saying.layer_waits, ∃ rid, layer_wait_said runtime event rid = .ok wait := by
  unfold said at hsaid
  simp only [bind_eq_ok_iff] at hsaid
  obtain ⟨name, hname, request_id, hrequest, decision, hdecision, request_ids, _, hsaid⟩ := hsaid
  split at hsaid
  · simp only [bind_eq_ok_iff, pure_eq_ok_iff] at hsaid
    obtain ⟨rids, _, transfers, htransfers, rfl⟩ := hsaid
    refine ⟨⟨name, request_id, hname, hrequest, hdecision⟩, ?_, by simp⟩
    intro transfer htransfer
    obtain ⟨rid, _, hrid⟩ := mem_of_mapM_ok htransfers htransfer
    exact ⟨rid, hrid⟩
  · split at hsaid
    · simp only [bind_eq_ok_iff, pure_eq_ok_iff] at hsaid
      obtain ⟨rids, _, waits, hwaits, rfl⟩ := hsaid
      refine ⟨⟨name, request_id, hname, hrequest, hdecision⟩, by simp, ?_⟩
      intro wait hwait
      obtain ⟨rid, _, hrid⟩ := mem_of_mapM_ok hwaits hwait
      exact ⟨rid, hrid⟩
    · rw [pure_eq_ok_iff] at hsaid
      subst hsaid
      exact ⟨⟨name, request_id, hname, hrequest, hdecision⟩, by simp, by simp⟩

theorem said_hashable {event : Json F} {saying : Said F} (hsaid : said runtime event = .ok saying) :
    saying.Hashable := by
  obtain ⟨⟨name, request_id, _, _, hdecision⟩, htransfers, hwaits⟩ := said_eq_ok hsaid
  refine ⟨?_, ?_, ?_⟩
  · intro decision hmem
    rw [hmem] at hdecision
    exact decision_said_eq_ok hdecision
  · intro transfer hmem
    obtain ⟨rid, hrid⟩ := htransfers transfer hmem
    exact transfer_said_eq_ok hrid
  · intro wait hmem
    obtain ⟨rid, hrid⟩ := hwaits wait hmem
    exact layer_wait_said_eq_ok hrid

section Lookups

variable [LawfulNumber F] {decisions : List (Json F × ℤ)} {transfers : List (Transfer F)}
  {waits : List (LayerWait F)} {rid : Json F}

/-- Numbers that are counted up make their sum. -/
theorem foldl_add_eq {α : Type} (f : α → ℤ) (items : List α) (start : ℤ) :
    items.foldl (fun total item => total + f item) start = start + (items.map f).sum := by
  induction items generalizing start with
  | nil => simp
  | cons item rest ih => rw [List.foldl_cons, ih, List.map_cons, List.sum_cons, add_assoc]

theorem foldl_append_singleton {α β : Type} (f : α → β) (items : List α) (start : List β) :
    items.foldl (fun values item => values ++ [f item]) start = start ++ items.map f := by
  induction items generalizing start with
  | nil => simp
  | cons item rest ih => rw [List.foldl_cons, ih, List.map_cons, List.append_assoc, List.singleton_append]

/-- What is appended at the keys of items is found as the values of those with that key. -/
theorem lookup_appended {α β : Type} (ridOf : α → Json F) (valueOf : α → β) {items : List α}
    (hitems : ∀ item ∈ items, (ridOf item).hashable = true) (hrid : rid.hashable = true) :
    (lookup Json.same (items.foldl (fun entries item => changeAt entries (ridOf item) [] (· ++ [valueOf item])) [])
      rid).getD [] = (items.filter fun item => rid.same (ridOf item)).map valueOf := by
  have hlookup := Json.keyTest.lookup_foldl ridOf [] (fun values item => values ++ [valueOf item]) [] hitems
    (by simp) hrid
  exact hlookup.trans (foldl_append_singleton valueOf _ [])

/-- The bytes requested for a request are those of its transfers. -/
theorem lookup_requested (htransfers : ∀ transfer ∈ transfers, transfer.rid.hashable = true)
    (hrid : rid.hashable = true) :
    (lookup Json.same (pressureOf decisions transfers waits).requested rid).getD 0 =
      ((transfers.filter fun transfer => rid.same transfer.rid).map Transfer.bytes).sum := by
  have hlookup := Json.keyTest.lookup_foldl Transfer.rid 0 (fun total transfer => total + transfer.bytes) []
    htransfers (by simp) hrid
  exact hlookup.trans ((foldl_add_eq Transfer.bytes _ 0).trans (zero_add _))

end Lookups

end Events

section Groups

variable {pressure pressure' : Pressure ℚ}

def Group.append (group more : Group ℚ) : Group ℚ where
  requested := group.requested ++ more.requested
  queue := group.queue ++ more.queue
  layer := group.layer ++ more.layer
  inflight := group.inflight ++ more.inflight

/-- What a request adds to the group of its tokens. -/
def contribution (pressure : Pressure ℚ) (rid : Json ℚ) : Group ℚ where
  requested := [((lookup Json.same pressure.requested rid).getD 0 : ℤ)]
  queue := (lookup Json.same pressure.queue_wait rid).getD []
  layer := (lookup Json.same pressure.layer_wait rid).getD []
  inflight := ((lookup Json.same pressure.inflight rid).getD []).map fun value : ℤ => (value : ℚ)

theorem add_request_eq (pressure : Pressure ℚ) (grouped : Dict ℤ (Group ℚ)) (reused : Json ℚ × ℤ) :
    add_request pressure grouped reused = .ok (grouped.set reused.2
      (((grouped.get? reused.2).getD Group.empty).append (contribution pressure reused.1))) := by
  have hinflight : ∀ values : List ℤ, values.mapM (ofInt : ℤ → Except Exception ℚ) =
      .ok (values.map fun value : ℤ => (value : ℚ)) := fun values => mapM_ok _ values
  unfold add_request
  dsimp only
  rw [hinflight]
  rfl

/-- The group of the requests that reuse some number of tokens. -/
def groupOf (pressure : Pressure ℚ) (tokens : ℤ) : Group ℚ :=
  (pressure.reuse.filter fun reused => reused.2 = tokens).foldl
    (fun group reused => group.append (contribution pressure reused.1)) Group.empty

/-- The numbers of tokens that are reused, in their order. -/
def tokenCounts (pressure : Pressure ℚ) : List ℤ := (pressure.reuse.map Prod.snd).dedup.insertionSort (· ≤ ·)

theorem grouped_eq (pressure : Pressure ℚ) :
    ∃ grouped, pressure.reuse.foldlM (add_request pressure) Dict.empty = .ok grouped ∧
      (grouped.entries.insertionSort fun a b => a.1 ≤ b.1) =
        (tokenCounts pressure).map fun tokens => (tokens, groupOf pressure tokens) := by
  have hadd : add_request pressure = fun grouped reused => pure (grouped.set reused.2
      (((grouped.get? reused.2).getD Group.empty).append (contribution pressure reused.1))) := by
    funext grouped reused
    exact add_request_eq pressure grouped reused
  rw [hadd, List.foldlM_pure]
  refine ⟨_, rfl, ?_⟩
  have hget := fun tokens => Dict.getD_foldl_set Prod.snd Group.empty
    (fun group reused => group.append (contribution pressure reused.1)) pressure.reuse Dict.empty tokens
  have hkeys := fun tokens => Dict.mem_keys_foldl_set Prod.snd (fun (grouped : Dict ℤ (Group ℚ)) reused =>
    ((grouped.get? reused.2).getD Group.empty).append (contribution pressure reused.1)) pressure.reuse
    Dict.empty tokens
  generalize List.foldl _ Dict.empty pressure.reuse = grouped at hget hkeys ⊢
  have hentry : ∀ entry ∈ grouped.entries, (entry.1, groupOf pressure entry.1) = entry := by
    intro entry hentry
    have hvalue := hget entry.1
    rw [grouped.get?_of_mem hentry, Option.getD_some] at hvalue
    exact Prod.ext rfl hvalue.symm
  have hperm : grouped.keys.Perm (pressure.reuse.map Prod.snd).dedup := by
    refine (List.perm_ext_iff_of_nodup grouped.nodup (List.nodup_dedup _)).mpr ?_
    intro tokens
    rw [List.mem_dedup]
    exact (hkeys tokens).trans (or_iff_right List.not_mem_nil)
  rw [insertionSort_eq_map (fun tokens => (tokens, groupOf pressure tokens)) hentry, tokenCounts,
    ← insertionSort_eq_of_perm hperm]
  rfl

/-- The groups of what is recorded, if all that the events say is well formed. -/
theorem reuse_pressure_groups_eq {runtime : Runtime ℚ} {events : List (Json ℚ)} {sayings : List (Said ℚ)}
    (hsaid : events.mapM (said runtime) = .ok sayings) {pressure : Pressure ℚ}
    (hpressure : pressure = pressureOf (sayings.filterMap Said.decision) (sayings.flatMap Said.transfers)
      (sayings.flatMap Said.layer_waits)) :
    reuse_pressure_groups runtime events =
      (tokenCounts pressure).mapM fun tokens => summarize_group pressure (tokens, groupOf pressure tokens) := by
  obtain ⟨grouped, hgrouped, hsorted⟩ := grouped_eq pressure
  have hrecorded : events.foldlM (record_event runtime) Pressure.empty = .ok pressure := by
    rw [foldlM_eq_mapM record_event_eq, hsaid, hpressure, ← foldl_take]
    rfl
  unfold reuse_pressure_groups
  rw [hrecorded]
  change (pressure.reuse.foldlM (add_request pressure) Dict.empty >>= fun grouped =>
    (grouped.entries.insertionSort fun a b => a.1 ≤ b.1).mapM (summarize_group pressure)) = _
  rw [hgrouped]
  change (grouped.entries.insertionSort fun a b => a.1 ≤ b.1).mapM (summarize_group pressure) = _
  rw [hsorted, List.mapM_map]
  rfl

/-- Fieldwise the same values, in any order. -/
structure Group.Perm (group group' : Group ℚ) : Prop where
  requested : group.requested.Perm group'.requested
  queue : group.queue.Perm group'.queue
  layer : group.layer.Perm group'.layer
  inflight : group.inflight.Perm group'.inflight

/-- A field of a group is made of what its requests add to it. -/
theorem groupOf_field (field : Group ℚ → List ℚ) (hempty : field Group.empty = [])
    (hfield : ∀ group more, field (group.append more) = field group ++ field more) (pressure : Pressure ℚ)
    (tokens : ℤ) :
    field (groupOf pressure tokens) = (pressure.reuse.filter fun reused => reused.2 = tokens).flatMap
      fun reused => field (contribution pressure reused.1) := by
  have hfold : ∀ (requests : List (Json ℚ × ℤ)) (group : Group ℚ),
      field (requests.foldl (fun group reused => group.append (contribution pressure reused.1)) group) =
        field group ++ requests.flatMap fun reused => field (contribution pressure reused.1) := by
    intro requests
    induction requests with
    | nil => simp
    | cons reused rest ih =>
      intro group
      rw [List.foldl_cons, ih, hfield, List.flatMap_cons, List.append_assoc]
  rw [groupOf, hfold, hempty, List.nil_append]

theorem groupOf_perm (hreuse : pressure.reuse.Perm pressure'.reuse)
    (hcontribution : ∀ reused ∈ pressure.reuse,
      (contribution pressure reused.1).Perm (contribution pressure' reused.1)) (tokens : ℤ) :
    (groupOf pressure tokens).Perm (groupOf pressure' tokens) := by
  have hfield : ∀ field : Group ℚ → List ℚ, field Group.empty = [] →
      (∀ group more, field (group.append more) = field group ++ field more) →
      (∀ reused ∈ pressure.reuse,
        (field (contribution pressure reused.1)).Perm (field (contribution pressure' reused.1))) →
      (field (groupOf pressure tokens)).Perm (field (groupOf pressure' tokens)) := by
    intro field hempty happend hreused
    rw [groupOf_field field hempty happend, groupOf_field field hempty happend]
    exact (hreuse.filter _).flatMap fun reused hmem => hreused reused (List.mem_of_mem_filter hmem)
  exact ⟨hfield Group.requested rfl (fun _ _ => rfl) fun reused hreused => (hcontribution reused hreused).requested,
    hfield Group.queue rfl (fun _ _ => rfl) fun reused hreused => (hcontribution reused hreused).queue,
    hfield Group.layer rfl (fun _ _ => rfl) fun reused hreused => (hcontribution reused hreused).layer,
    hfield Group.inflight rfl (fun _ _ => rfl) fun reused hreused => (hcontribution reused hreused).inflight⟩

theorem percentile_exact_perm {values values' : List ℚ} (hperm : values.Perm values') (q : Number ℚ) :
    percentile values q = percentile values' q := by
  have hempty : values = [] ↔ values' = [] := by
    rw [← List.length_eq_zero_iff, ← List.length_eq_zero_iff, hperm.length_eq]
  unfold percentile
  simp only [hempty, sorted_exact_perm hperm]

theorem mean_exact_perm {values values' : List ℚ} (hperm : values.Perm values') : mean values = mean values' :=
  mean_eq_of_perm 0 (fun _ _ hnone => by cases hnone) hperm

/-- The summary of a group does not depend on the order of its values. -/
theorem summarize_group_perm (hreuse : pressure.reuse.Perm pressure'.reuse) {group group' : Group ℚ}
    (hgroup : group.Perm group') (tokens : ℤ) :
    summarize_group pressure (tokens, group) = summarize_group pressure' (tokens, group') := by
  have hcount : (pressure.reuse.map Prod.snd).count tokens = (pressure'.reuse.map Prod.snd).count tokens :=
    (hreuse.map Prod.snd).count_eq tokens
  unfold summarize_group
  dsimp only
  rw [hcount, mean_exact_perm hgroup.requested, percentile_exact_perm hgroup.queue,
    percentile_exact_perm hgroup.layer, percentile_exact_perm hgroup.inflight]

end Groups

section Conservation

/-- The request that an event decides on with a positive number of hit tokens. -/
def decided {F : Type} [PyNumber F] (event : Json F) : Option (Json F) :=
  match event.get "event", event.get "request_id", event.getD "external_hit_tokens" (.int 0) with
  | .ok name, .ok request_id, .ok hit =>
    if name.eq (.str "materialization_decision") && request_id.truthy &&
        (Json.lt (.int 0) hit).toOption = some true then some request_id
    else none
  | _, _, _ => none

/-- The bytes that an event attributes to some requests, each of them told apart from the others. -/
def attributed {F : Type} [PyNumber F] (runtime : Runtime F) (requests : List (Json F)) (event : Json F) : ℤ :=
  match said runtime event with
  | .ok said => ((said.transfers.filter fun transfer => transfer.rid.memberOf requests).map Transfer.bytes).sum
  | .error _ => 0

variable {runtime : Runtime ℚ}

theorem decision_said_decided {event name request_id : Json ℚ} {decision : Option (Json ℚ × ℤ)}
    (hname : event.get "event" = .ok name) (hrequest : event.get "request_id" = .ok request_id)
    (hdecision : decision_said runtime event name request_id = .ok decision) :
    decided event = decision.map Prod.fst := by
  unfold decided
  rw [hname, hrequest]
  unfold decision_said at hdecision
  split at hdecision
  · rename_i hcandidate
    simp only [bind_eq_ok_iff] at hdecision
    obtain ⟨hit, hhit, positive, hpositive, hdecision⟩ := hdecision
    rw [hhit]
    dsimp only
    rw [hpositive, hcandidate]
    cases positive with
    | false =>
      cases hdecision
      rfl
    | true =>
      simp only [if_true, bind_eq_ok_iff, pure_eq_ok_iff] at hdecision
      obtain ⟨_, _, tokens, _, rid, hrid, rfl⟩ := hdecision
      rw [(key_eq_ok hrid).2]
      rfl
  · rename_i hcandidate
    cases hdecision
    cases event.getD "external_hit_tokens" (.int 0) with
    | error error => rfl
    | ok hit =>
      dsimp only
      rw [Bool.eq_false_iff.mpr hcandidate]
      rfl

theorem said_decided {event : Json ℚ} {saying : Said ℚ} (hsaid : said runtime event = .ok saying) :
    decided event = saying.decision.map Prod.fst := by
  obtain ⟨⟨name, request_id, hname, hrequest, hdecision⟩, _⟩ := said_eq_ok hsaid
  exact decision_said_decided hname hrequest hdecision

/-- What the events of a log say, as far as the results speak of it. -/
theorem said_events {events : List (Json ℚ)} {sayings : List (Said ℚ)}
    (hsaid : events.mapM (said runtime) = .ok sayings) (requests : List (Json ℚ)) :
    events.filterMap decided = (sayings.filterMap Said.decision).map Prod.fst ∧
      (events.map (attributed runtime requests)).sum =
        (((sayings.flatMap Said.transfers).filter fun transfer => transfer.rid.memberOf requests).map
          Transfer.bytes).sum ∧ ∀ saying ∈ sayings, saying.Hashable := by
  have hrelated := forall₂_of_mapM_ok hsaid
  clear hsaid
  induction hrelated with
  | nil => exact ⟨rfl, rfl, by simp⟩
  | @cons event saying events sayings hevent _ ih =>
    obtain ⟨hdecided, hattributed, hhashable⟩ := ih
    refine ⟨?_, ?_, List.forall_mem_cons.mpr ⟨said_hashable hevent, hhashable⟩⟩
    · rw [List.filterMap_cons, List.filterMap_cons, said_decided hevent, hdecided]
      cases saying.decision with
      | none => rfl
      | some decision => rfl
    · have hfirst : attributed runtime requests event =
          ((saying.transfers.filter fun transfer => transfer.rid.memberOf requests).map Transfer.bytes).sum := by
        unfold attributed
        rw [hevent]
      rw [List.map_cons, List.sum_cons, hattributed, hfirst, List.flatMap_cons, List.filter_append, List.map_append,
        List.sum_append]

/-- What a log comes to. -/
def recorded (sayings : List (Said ℚ)) : Pressure ℚ :=
  pressureOf (sayings.filterMap Said.decision) (sayings.flatMap Said.transfers) (sayings.flatMap Said.layer_waits)

section Recorded

variable {sayings sayings' : List (Said ℚ)}

theorem recorded_reuse (hdistinct : Json.Distinct ((sayings.filterMap Said.decision).map Prod.fst)) :
    (recorded sayings).reuse = sayings.filterMap Said.decision :=
  foldl_assignAt_of_distinct (List.pairwise_map.mp hdistinct)

theorem hashable_transfers (hhashable : ∀ saying ∈ sayings, saying.Hashable) :
    ∀ transfer ∈ sayings.flatMap Said.transfers, transfer.rid.hashable = true := by
  intro transfer htransfer
  obtain ⟨saying, hsaying, hmem⟩ := List.mem_flatMap.mp htransfer
  exact (hhashable saying hsaying).transfers transfer hmem

theorem hashable_waits (hhashable : ∀ saying ∈ sayings, saying.Hashable) :
    ∀ wait ∈ sayings.flatMap Said.layer_waits, wait.rid.hashable = true := by
  intro wait hwait
  obtain ⟨saying, hsaying, hmem⟩ := List.mem_flatMap.mp hwait
  exact (hhashable saying hsaying).layer_waits wait hmem

theorem hashable_decisions (hhashable : ∀ saying ∈ sayings, saying.Hashable) :
    ∀ decision ∈ sayings.filterMap Said.decision, decision.1.hashable = true := by
  intro decision hdecision
  obtain ⟨saying, hsaying, hmem⟩ := List.mem_filterMap.mp hdecision
  exact (hhashable saying hsaying).decision decision hmem

/-- What a request adds to its group is read off the transfers and waits that are its own. -/
theorem contribution_recorded (hhashable : ∀ saying ∈ sayings, saying.Hashable) {rid : Json ℚ}
    (hrid : rid.hashable = true) :
    contribution (recorded sayings) rid =
      let transfers := (sayings.flatMap Said.transfers).filter fun transfer => rid.same transfer.rid
      let waits := (sayings.flatMap Said.layer_waits).filter fun wait => rid.same wait.rid
      { requested := [((transfers.map Transfer.bytes).sum : ℤ)]
        queue := transfers.map Transfer.wait_ms
        layer := waits.map LayerWait.wait_ms
        inflight := (transfers.map Transfer.in_flight).map fun value : ℤ => (value : ℚ) } := by
  have htransfers := hashable_transfers hhashable
  unfold contribution recorded
  dsimp only
  rw [lookup_requested htransfers hrid, pressureOf, lookup_appended _ _ htransfers hrid,
    lookup_appended _ _ (hashable_waits hhashable) hrid, lookup_appended _ _ htransfers hrid]

/-- A request adds the same to its group wherever its events stand in the log. -/
theorem contribution_perm (hhashable : ∀ saying ∈ sayings, saying.Hashable) (hperm : sayings.Perm sayings')
    {rid : Json ℚ} (hrid : rid.hashable = true) :
    (contribution (recorded sayings) rid).Perm (contribution (recorded sayings') rid) := by
  have hhashable' : ∀ saying ∈ sayings', saying.Hashable := fun saying hsaying =>
    hhashable saying (hperm.mem_iff.mpr hsaying)
  have htransfers : ((sayings.flatMap Said.transfers).filter fun transfer => rid.same transfer.rid).Perm
      ((sayings'.flatMap Said.transfers).filter fun transfer => rid.same transfer.rid) :=
    (hperm.flatMap_right Said.transfers).filter _
  have hwaits : ((sayings.flatMap Said.layer_waits).filter fun wait => rid.same wait.rid).Perm
      ((sayings'.flatMap Said.layer_waits).filter fun wait => rid.same wait.rid) :=
    (hperm.flatMap_right Said.layer_waits).filter _
  rw [contribution_recorded hhashable hrid, contribution_recorded hhashable' hrid]
  refine ⟨?_, htransfers.map _, hwaits.map _, (htransfers.map _).map _⟩
  dsimp only
  rw [(htransfers.map Transfer.bytes).sum_eq]

end Recorded

theorem said_of_groups {events : List (Json ℚ)} {groups : List (ReuseGroup ℚ)}
    (hgroups : reuse_pressure_groups runtime events = .ok groups) :
    ∃ sayings, events.mapM (said runtime) = .ok sayings := by
  unfold reuse_pressure_groups at hgroups
  rw [foldlM_eq_mapM record_event_eq, bind_eq_ok_iff] at hgroups
  obtain ⟨pressure, hpressure, _⟩ := hgroups
  obtain ⟨sayings, hsayings, _⟩ := bind_eq_ok_iff.mp hpressure
  exact ⟨sayings, hsayings⟩

/-- The requests that a log decides on can be keys, if all that it says is well formed. -/
theorem hashable_decided {events : List (Json ℚ)} {sayings : List (Said ℚ)}
    (hsaid : events.mapM (said runtime) = .ok sayings) :
    ∀ request ∈ events.filterMap decided, request.hashable = true := by
  obtain ⟨hdecided, _, hhashable⟩ := said_events hsaid []
  rw [hdecided, List.forall_mem_map]
  exact hashable_decisions hhashable

/-- The results are the same for another order of the events. -/
theorem reuse_pressure_groups_perm {events events' : List (Json ℚ)} (hperm : events.Perm events')
    (honce : Json.Distinct (events.filterMap decided)) {groups : List (ReuseGroup ℚ)}
    (hgroups : reuse_pressure_groups runtime events = .ok groups) :
    reuse_pressure_groups runtime events' = .ok groups := by
  obtain ⟨sayings, hsaid⟩ := said_of_groups hgroups
  obtain ⟨sayings', hsaid', hsayings⟩ := mapM_perm hperm hsaid
  obtain ⟨hdecided, _, hhashable⟩ := said_events hsaid []
  obtain ⟨hdecided', _, _⟩ := said_events hsaid' []
  have hdecisions : (sayings.filterMap Said.decision).Perm (sayings'.filterMap Said.decision) :=
    hsayings.filterMap Said.decision
  have honce' := honce.perm (hashable_decided hsaid) (hperm.filterMap decided)
  rw [hdecided] at honce
  rw [hdecided'] at honce'
  have hreuse : (recorded sayings).reuse.Perm (recorded sayings').reuse := by
    rw [recorded_reuse honce, recorded_reuse honce']
    exact hdecisions
  have hcontribution : ∀ reused ∈ (recorded sayings).reuse,
      (contribution (recorded sayings) reused.1).Perm (contribution (recorded sayings') reused.1) := by
    intro reused hreused
    rw [recorded_reuse honce] at hreused
    exact contribution_perm hhashable hsayings (hashable_decisions hhashable reused hreused)
  have hcounts : tokenCounts (recorded sayings) = tokenCounts (recorded sayings') :=
    insertionSort_eq_of_perm (hreuse.map Prod.snd).dedup
  rw [reuse_pressure_groups_eq hsaid rfl] at hgroups
  rw [reuse_pressure_groups_eq hsaid' rfl, ← hgroups]
  change (tokenCounts (recorded sayings')).mapM _ = (tokenCounts (recorded sayings)).mapM _
  rw [← hcounts]
  refine mapM_congr fun tokens _ => ?_
  exact (summarize_group_perm hreuse (groupOf_perm hreuse hcontribution tokens) tokens).symm

section Sums

/-- A sum over items is the sum over their keys of the sums over the items of a key. -/
theorem sum_by_key {α M : Type} [AddCommGroup M] (keyOf : α → ℤ) (f : α → M) {keys : List ℤ} (hnodup : keys.Nodup)
    {items : List α} (hkeys : ∀ item ∈ items, keyOf item ∈ keys) :
    (keys.map fun key => ((items.filter fun item => keyOf item = key).map f).sum).sum = (items.map f).sum := by
  induction items with
  | nil => simp
  | cons item rest ih =>
    rw [List.forall_mem_cons] at hkeys
    have hitem : ∀ key : ℤ, (((item :: rest).filter fun item => keyOf item = key).map f).sum =
        (if key = keyOf item then f item else 0) + ((rest.filter fun item => keyOf item = key).map f).sum := by
      intro key
      rw [List.filter_cons]
      by_cases hkey : keyOf item = key
      · rw [if_pos (decide_eq_true hkey), if_pos hkey.symm, List.map_cons, List.sum_cons]
      · rw [if_neg (by simpa using hkey), if_neg (Ne.symm hkey), zero_add]
    simp only [hitem]
    rw [List.sum_map_add, ih hkeys.2, List.sum_map_ite_eq keys (fun _ => f item) (fun _ => 0) (keyOf item),
      List.count_eq_one_of_mem hnodup hkeys.1, one_nsmul, sub_zero, List.map_const', List.sum_replicate, nsmul_zero,
      add_zero, List.map_cons, List.sum_cons]

/-- At most one of some requests that are told apart is a given one. -/
theorem sum_same {requests : List (Json ℚ)} (hhashable : ∀ request ∈ requests, request.hashable = true)
    (hdistinct : Json.Distinct requests) {rid : Json ℚ} (hrid : rid.hashable = true) (bytes : ℤ) :
    (requests.map fun request => if request.same rid = true then bytes else 0).sum =
      if rid.memberOf requests = true then bytes else 0 := by
  induction requests with
  | nil => rfl
  | cons first rest ih =>
    obtain ⟨hfirst, hrest⟩ := List.forall_mem_cons.mp hhashable
    obtain ⟨hapart, hdistinct⟩ := List.pairwise_cons.mp hdistinct
    have hiff : first.same rid = true ↔ rid.same first = true :=
      ⟨Json.same_symm hfirst, Json.same_symm hrid⟩
    have hmember : rid.memberOf (first :: rest) = (rid.same first || rid.memberOf rest) := List.any_cons
    rw [List.map_cons, List.sum_cons, ih hrest hdistinct, hmember]
    by_cases hsame : rid.same first = true
    · have hnone : rid.memberOf rest = false := by
        rw [Json.memberOf, List.any_eq_false]
        intro later hlater hlatersame
        have htwice := Json.same_trans (hrest later hlater) (Json.same_symm hrid hlatersame) hsame
        rw [hapart later hlater] at htwice
        cases htwice
      rw [if_pos (hiff.mpr hsame), hsame, hnone]
      simp
    · rw [if_neg (mt hiff.mp hsame), Bool.eq_false_iff.mpr hsame, zero_add, Bool.false_or]

/-- The transfers of requests that are told apart are those that are of any of them. -/
theorem sum_transfers {requests : List (Json ℚ)} (hhashable : ∀ request ∈ requests, request.hashable = true)
    (hdistinct : Json.Distinct requests) {transfers : List (Transfer ℚ)}
    (htransfers : ∀ transfer ∈ transfers, transfer.rid.hashable = true) :
    (requests.map fun request =>
        ((transfers.filter fun transfer => request.same transfer.rid).map Transfer.bytes).sum).sum =
      ((transfers.filter fun transfer => transfer.rid.memberOf requests).map Transfer.bytes).sum := by
  induction transfers with
  | nil => simp
  | cons transfer rest ih =>
    rw [List.forall_mem_cons] at htransfers
    have hfilter : ∀ accepted : Transfer ℚ → Bool,
        (((transfer :: rest).filter accepted).map Transfer.bytes).sum =
          (if accepted transfer = true then transfer.bytes else 0) +
            ((rest.filter accepted).map Transfer.bytes).sum := by
      intro accepted
      rw [List.filter_cons]
      split
      · rw [List.map_cons, List.sum_cons]
      · rw [zero_add]
    simp only [hfilter]
    rw [List.sum_map_add, ih htransfers.2, sum_same hhashable hdistinct htransfers.1]

/-- Values have a mean if there are any, and so many times their mean is their sum. -/
theorem mean_exact_eq_ok {values : List ℚ} {average : ℚ} (hmean : mean values = .ok average) :
    (values.length : ℚ) * average = values.sum := by
  unfold mean at hmean
  split at hmean
  · cases hmean
  · rename_i hne
    have hratio : values.mapM (PyNumber.ratio : ℚ → Option ℚ) = some values :=
      (List.mapM_pure (m := Option) (l := values) (f := id)).trans (by rw [List.map_id]; rfl)
    rw [hratio] at hmean
    cases hmean
    have hlength : (values.length : ℚ) ≠ 0 := by
      rw [Nat.cast_ne_zero, ne_eq, List.length_eq_zero_iff]
      exact hne
    field_simp

theorem summarize_group_eq_ok {pressure : Pressure ℚ} {tokens : ℤ} {group : ReuseGroup ℚ}
    (hgroup : summarize_group pressure (tokens, groupOf pressure tokens) = .ok group) :
    group.requests = (pressure.reuse.map Prod.snd).count tokens ∧
      (group.requests : ℚ) * group.requested_bytes_mean =
        ((pressure.reuse.filter fun reused => reused.2 = tokens).map fun reused =>
          (((lookup Json.same pressure.requested reused.1).getD 0 : ℤ) : ℚ)).sum := by
  simp only [summarize_group, bind_eq_ok_iff, pure_eq_ok_iff] at hgroup
  obtain ⟨average, haverage, _, _, _, _, _, _, rfl⟩ := hgroup
  have hrequested : (groupOf pressure tokens).requested =
      (pressure.reuse.filter fun reused => reused.2 = tokens).map fun reused =>
        (((lookup Json.same pressure.requested reused.1).getD 0 : ℤ) : ℚ) := by
    rw [groupOf_field Group.requested rfl (fun _ _ => rfl), List.map_eq_flatMap]
    rfl
  have hcount : (pressure.reuse.map Prod.snd).count tokens = (groupOf pressure tokens).requested.length := by
    rw [hrequested, List.length_map, List.count_eq_countP, List.countP_map, List.countP_eq_length_filter]
    rfl
  refine ⟨rfl, ?_⟩
  dsimp only
  rw [hcount, mean_exact_eq_ok haverage, hrequested]

end Sums

section Totals

variable {events : List (Json ℚ)} {groups : List (ReuseGroup ℚ)} {sayings : List (Said ℚ)}

/-- The groups are those of the recorded pressure, in the order of their tokens. -/
theorem groups_of_recorded (hsaid : events.mapM (said runtime) = .ok sayings)
    (hgroups : reuse_pressure_groups runtime events = .ok groups) :
    (groups.map fun group => group.requests) =
        (tokenCounts (recorded sayings)).map (((recorded sayings).reuse.map Prod.snd).count ·) ∧
      (groups.map fun group => (group.requests : ℚ) * group.requested_bytes_mean) =
        (tokenCounts (recorded sayings)).map fun tokens =>
          (((recorded sayings).reuse.filter fun reused => reused.2 = tokens).map fun reused =>
            (((lookup Json.same (recorded sayings).requested reused.1).getD 0 : ℤ) : ℚ)).sum := by
  rw [reuse_pressure_groups_eq hsaid rfl] at hgroups
  exact ⟨map_eq_of_mapM_ok hgroups fun _ _ hgroup => (summarize_group_eq_ok hgroup).1,
    map_eq_of_mapM_ok hgroups fun _ _ hgroup => (summarize_group_eq_ok hgroup).2⟩

theorem tokenCounts_perm (pressure : Pressure ℚ) :
    (tokenCounts pressure).Perm (pressure.reuse.map Prod.snd).dedup := List.perm_insertionSort _ _

/-- Every request that is decided on is counted in one group. -/
theorem sum_requests (hsaid : events.mapM (said runtime) = .ok sayings)
    (honce : Json.Distinct (events.filterMap decided))
    (hgroups : reuse_pressure_groups runtime events = .ok groups) :
    (groups.map fun group => group.requests).sum = (events.filterMap decided).length := by
  obtain ⟨hdecided, _, _⟩ := said_events hsaid []
  rw [hdecided] at honce ⊢
  rw [(groups_of_recorded hsaid hgroups).1, ((tokenCounts_perm (recorded sayings)).map _).sum_eq,
    List.sum_map_count_dedup_eq_length, recorded_reuse honce, List.length_map, List.length_map]

/-- The bytes of the groups are those that are attributed to the requests decided on. -/
theorem sum_requested (hsaid : events.mapM (said runtime) = .ok sayings)
    (honce : Json.Distinct (events.filterMap decided))
    (hgroups : reuse_pressure_groups runtime events = .ok groups) :
    (groups.map fun group => (group.requests : ℚ) * group.requested_bytes_mean).sum =
      ((events.map (attributed runtime (events.filterMap decided))).sum : ℤ) := by
  have hrequests := hashable_decided hsaid
  obtain ⟨hdecided, hattributed, hhashable⟩ := said_events hsaid (events.filterMap decided)
  have htransfers := hashable_transfers hhashable
  have hreuse : (recorded sayings).reuse.map Prod.fst = events.filterMap decided := by
    rw [hdecided] at honce ⊢
    rw [recorded_reuse honce]
  have hnodup : (tokenCounts (recorded sayings)).Nodup :=
    (tokenCounts_perm (recorded sayings)).nodup_iff.mpr (List.nodup_dedup _)
  have hkeys : ∀ reused ∈ (recorded sayings).reuse, reused.2 ∈ tokenCounts (recorded sayings) := by
    intro reused hreused
    rw [(tokenCounts_perm (recorded sayings)).mem_iff, List.mem_dedup]
    exact List.mem_map_of_mem hreused
  have hlookup : ∀ request ∈ events.filterMap decided,
      (lookup Json.same (recorded sayings).requested request).getD 0 =
        (((sayings.flatMap Said.transfers).filter fun transfer => request.same transfer.rid).map
          Transfer.bytes).sum := fun request hrequest => lookup_requested htransfers (hrequests request hrequest)
  calc (groups.map fun group => (group.requests : ℚ) * group.requested_bytes_mean).sum
      = ((recorded sayings).reuse.map fun reused =>
          (((lookup Json.same (recorded sayings).requested reused.1).getD 0 : ℤ) : ℚ)).sum := by
        rw [(groups_of_recorded hsaid hgroups).2]
        exact sum_by_key Prod.snd _ hnodup hkeys
    _ = (((events.filterMap decided).map fun request =>
          (lookup Json.same (recorded sayings).requested request).getD 0).sum : ℤ) := by
        rw [Int.cast_list_sum, ← hreuse, List.map_map, List.map_map]
        rfl
    _ = (((events.filterMap decided).map fun request =>
          (((sayings.flatMap Said.transfers).filter fun transfer => request.same transfer.rid).map
            Transfer.bytes).sum).sum : ℤ) := by rw [List.map_congr_left hlookup]
    _ = ((events.map (attributed runtime (events.filterMap decided))).sum : ℤ) := by
        rw [sum_transfers hrequests honce htransfers, hattributed]

end Totals

/-- For a log that decides at most once on a request, the groups are the same whatever the
order of the events, every such request is in one of them, and the bytes of the groups are
those that the transfers attribute to these requests. -/
theorem reuse_pressure_groups_conserve (runtime : Runtime ℚ) (events events' : List (Json ℚ))
    (hperm : events.Perm events') (honce : Json.Distinct (events.filterMap decided)) :
    (∀ groups, reuse_pressure_groups runtime events = .ok groups ↔
        reuse_pressure_groups runtime events' = .ok groups) ∧
      ∀ groups, reuse_pressure_groups runtime events = .ok groups →
        (groups.map fun group => group.requests).sum = (events.filterMap decided).length ∧
        (groups.map fun group => (group.requests : ℚ) * group.requested_bytes_mean).sum =
          ((events.map (attributed runtime (events.filterMap decided))).sum : ℤ) := by
  constructor
  · intro groups
    constructor
    · exact reuse_pressure_groups_perm hperm honce
    · intro hgroups
      obtain ⟨sayings', hsaid'⟩ := said_of_groups hgroups
      obtain ⟨sayings, hsaid, _⟩ := mapM_perm hperm.symm hsaid'
      have honce' := honce.perm (hashable_decided hsaid) (hperm.filterMap decided)
      exact reuse_pressure_groups_perm hperm.symm honce' hgroups
  · intro groups hgroups
    obtain ⟨sayings, hsaid⟩ := said_of_groups hgroups
    exact ⟨sum_requests hsaid honce hgroups, sum_requested hsaid honce hgroups⟩

/-- A transfer for two requests, before the decision on the first of them. -/
def earlyTransfer : List (Json ℚ) := [
  .dict [("event", .str "transfer_started"), ("request_ids", .list [.str "case-0", .str "case-1"]),
    ("request_materialization_bytes", .dict [("case-0", .int 4096), ("case-1", .int 1024)]),
    ("connector_queue_wait_ns", .int 3000000), ("bytes_in_flight", .int 5120)],
  .dict [("event", .str "materialization_decision"), ("request_id", .str "case-0"),
    ("external_hit_tokens", .int 512)]]

theorem reuse_pressure_groups_conserve_early :
    ∃ groups, reuse_pressure_groups (Interpreter.ascii.printing fun _ => "") earlyTransfer = .ok groups ∧
      reuse_pressure_groups (Interpreter.ascii.printing fun _ => "") earlyTransfer.reverse = .ok groups ∧
      (groups.map fun group => group.requests).sum = 1 ∧
      (groups.map fun group => (group.requests : ℚ) * group.requested_bytes_mean).sum = 4096 := by
  have hreturns : Returns (reuse_pressure_groups (Interpreter.ascii.printing fun _ => "") earlyTransfer) := by
    decide +kernel
  obtain ⟨groups, hgroups⟩ := hreturns
  have hdecided : earlyTransfer.filterMap decided = [.str "case-0"] := by rfl
  have hattributed : (earlyTransfer.map (attributed (Interpreter.ascii.printing fun _ => "")
      [.str "case-0"])).sum = 4096 := by decide +kernel
  obtain ⟨hsame, hsums⟩ := reuse_pressure_groups_conserve (Interpreter.ascii.printing fun _ => "") earlyTransfer
    earlyTransfer.reverse (List.reverse_perm _).symm (by rw [hdecided]; exact List.pairwise_singleton _ _)
  obtain ⟨hrequests, hbytes⟩ := hsums groups hgroups
  rw [hdecided] at hrequests hbytes
  rw [hattributed] at hbytes
  exact ⟨groups, hgroups, (hsame groups).mp hgroups, hrequests, by exact_mod_cast hbytes⟩

end Conservation

end rebuild_g0_formal
