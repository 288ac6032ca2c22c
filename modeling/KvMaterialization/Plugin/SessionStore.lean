import KvMaterialization.LiveControl.Exact
import KvMaterialization.LiveControl.Serializability
import KvMaterialization.Plugin.RequestProcessing
import KvMaterialization.Python.Capped
import Mathlib.Data.List.Induction

open python
open vllm_kv_materialization.live_control

namespace vllm_kv_materialization.plugin

/-- The functions a request enters the controller by. -/
inductive Entry where
  | compute_runtime_control
  | process_request
  | observe_request
  deriving DecidableEq, Repr

/-- A request, with the function that handles it. -/
structure Arrival extends RequestProcessingContext where
  entry : Entry

section

variable {F : Type} [PyFloat F] (py : Interpreter F) (env : Environment)

/-- The headers bound while the request is handled. -/
def Arrival.bound (arrival : Arrival) : Headers := bind_request_headers py.lower arrival.headers

def Arrival.identity (arrival : Arrival) : String := primary_anchor_id (arrival.bound py)

/-- One request, by whichever function it enters. -/
def handle (session : Session) (arrival : Arrival) : Except Exception Unit × Session :=
  match arrival.entry with
  | .compute_runtime_control =>
    let controlled := compute_runtime_control py env session (arrival.bound py)
      arrival.request_id arrival.prompt_tokens arrival.max_tokens
    (controlled.1.map fun _ => (), controlled.2)
  | .process_request =>
    let processed := process_request py env session arrival.toRequestProcessingContext
    (processed.1.map fun _ => (), processed.2)
  | .observe_request =>
    let observed := observe_request py env session (arrival.bound py)
      arrival.request_id arrival.prompt_tokens arrival.max_tokens
    (observed.1.map fun _ => (), observed.2)

/-- The session after a sequence of requests. -/
def handleAll (arrivals : List Arrival) : Session :=
  arrivals.foldl (fun session arrival => (handle py env session arrival).2) .init

/-- Every request of the sequence is answered. -/
def Handled (arrivals : List Arrival) : Prop :=
  ∀ earlier arrival, earlier ++ [arrival] <+: arrivals →
    Returns (handle py env (handleAll py env earlier) arrival).1

/-- What a request leaves in the history after an earlier entry: its tokens, and the
turn it states or else the next one. -/
def Arrival.visit (arrival : Arrival) (entry : Option (ℤ × ℤ × ℤ)) : ℤ × ℤ × ℤ :=
  (max arrival.prompt_tokens 0, max arrival.max_tokens 0,
    (statedInt py (arrival.bound py) HEADER_TURN_INDEX).getD
      (match entry with
        | some (_, _, turn_index) => turn_index + 1
        | none => 0))

/-- The last request of an anchor in a sequence. -/
def lastVisit (anchor : String) (arrivals : List Arrival) : Option (ℤ × ℤ × ℤ) :=
  arrivals.foldl (fun entry arrival =>
    if arrival.identity py = anchor then some (arrival.visit py entry) else entry) none

/-- A count of the store, which has no entry for what was never seen. -/
def counted (count : ℕ) : Option ℤ := if count = 0 then none else some count

/-- The store says of every anchor how often it was requested and what its last request
was. -/
structure StoreMatches (arrivals : List Arrival) (session : Session) : Prop where
  counts : ∀ anchor, anchor ≠ "" → session.anchor_seen_counts.get? anchor =
    counted (arrivals.countP fun arrival => arrival.identity py = anchor)
  history : ∀ anchor, anchor ≠ "" → session.session_history.get? anchor = lastVisit py anchor arrivals

/-- How often a request is counted. -/
def Arrival.weight (arrival : Arrival) : ℕ := if arrival.entry = .observe_request then 2 else 1

def visits (anchor : String) (arrivals : List Arrival) : ℕ :=
  (arrivals.map fun arrival => if arrival.identity py = anchor then arrival.weight else 0).sum

end

section

variable {F : Type} [PyFloat F] {py : Interpreter F} {env : Environment}

theorem handleAll_append (arrivals : List Arrival) (arrival : Arrival) :
    handleAll py env (arrivals ++ [arrival]) = (handle py env (handleAll py env arrivals) arrival).2 := by
  unfold handleAll
  rw [List.foldl_append]
  rfl

omit [PyFloat F] in
theorem lastVisit_append (anchor : String) (arrivals : List Arrival) (arrival : Arrival) :
    lastVisit py anchor (arrivals ++ [arrival]) =
      if arrival.identity py = anchor then some (arrival.visit py (lastVisit py anchor arrivals))
      else lastVisit py anchor arrivals := by
  simp [lastVisit]

omit [PyFloat F] in
theorem visits_append (anchor : String) (arrivals : List Arrival) (arrival : Arrival) :
    visits py anchor (arrivals ++ [arrival]) =
      visits py anchor arrivals + if arrival.identity py = anchor then arrival.weight else 0 := by
  simp [visits]

theorem Handled.of_append {arrivals : List Arrival} {arrival : Arrival}
    (hhandled : Handled py env (arrivals ++ [arrival])) : Handled py env arrivals :=
  fun earlier later hle => hhandled earlier later (hle.trans (List.prefix_append _ _))

theorem Handled.last {arrivals : List Arrival} {arrival : Arrival}
    (hhandled : Handled py env (arrivals ++ [arrival])) :
    Returns (handle py env (handleAll py env arrivals) arrival).1 :=
  hhandled arrivals arrival (List.prefix_refl _)

theorem handled_append {arrivals : List Arrival} {arrival : Arrival} (hhandled : Handled py env arrivals)
    (hlast : Returns (handle py env (handleAll py env arrivals) arrival).1) :
    Handled py env (arrivals ++ [arrival]) := by
  intro earlier later hle
  obtain hall | hle := List.prefix_concat_iff.mp hle
  · obtain ⟨rfl, hlater⟩ := List.append_inj' hall rfl
    obtain rfl := List.singleton_inj.mp hlater
    exact hlast
  · exact hhandled earlier later hle

/-- An estimate that succeeds has gone through both critical sections. -/
theorem estimate_signals_session_of_ok {session : Session} {headers : Headers} {prompt_tokens output_tokens : ℤ}
    (hreturns : Returns (estimate_signals py env session headers prompt_tokens output_tokens).1) :
    (estimate_signals py env session headers prompt_tokens output_tokens).2 =
      write_session (read_session session (primary_anchor_id headers)).2 (primary_anchor_id headers)
        prompt_tokens output_tokens
        (request_turn_index py headers (read_session session (primary_anchor_id headers)).1) := by
  rw [estimate_signals_result, returns_bind_iff] at hreturns
  obtain ⟨reusable_prefix_tokens, hestimate, _⟩ := hreturns
  unfold estimate_signals
  dsimp only
  rw [finish_session_of_ok hestimate]

/-- What an answered request has done to the store: its anchor is counted as often as the
weight says and has the request for its history, and no other anchor is touched. -/
structure Recorded (py : Interpreter F) (arrival : Arrival) (weight : ℕ) (before after : Session) : Prop where
  count : arrival.identity py ≠ "" → after.anchor_seen_counts.get? (arrival.identity py) =
    some ((before.anchor_seen_counts.get? (arrival.identity py)).getD 0 + weight)
  history : arrival.identity py ≠ "" → after.session_history.get? (arrival.identity py) =
    some (arrival.visit py (before.session_history.get? (arrival.identity py)))
  others : ∀ anchor, anchor ≠ arrival.identity py ∨ arrival.identity py = "" →
    after.anchor_seen_counts.get? anchor = before.anchor_seen_counts.get? anchor ∧
      after.session_history.get? anchor = before.session_history.get? anchor

omit [PyFloat F] in
/-- The turn a request takes is the stated one, or the one after the entry it read. -/
theorem request_turn_index_eq (py : Interpreter F) (session : Session) {headers : Headers}
    (hanchor : primary_anchor_id headers ≠ "") :
    request_turn_index py headers (read_session session (primary_anchor_id headers)).1 =
      (statedInt py headers HEADER_TURN_INDEX).getD
        (match session.session_history.get? (primary_anchor_id headers) with
          | some (_, _, turn_index) => turn_index + 1
          | none => 0) := by
  unfold request_turn_index read_session
  rw [header_int_eq, if_neg hanchor]
  cases session.session_history.get? (primary_anchor_id headers) with
  | none => rfl
  | some entry => rfl

theorem estimate_signals_recorded {session : Session} {arrival : Arrival}
    (hreturns : Returns (estimate_signals py env session (arrival.bound py) arrival.prompt_tokens
      arrival.max_tokens).1) :
    Recorded py arrival 1 session (estimate_signals py env session (arrival.bound py) arrival.prompt_tokens
      arrival.max_tokens).2 := by
  rw [estimate_signals_session_of_ok hreturns]
  have hidentity : primary_anchor_id (arrival.bound py) = arrival.identity py := rfl
  by_cases hanchor : arrival.identity py = ""
  · refine ⟨fun h => absurd hanchor h, fun h => absurd hanchor h, ?_⟩
    intro anchor _
    unfold write_session read_session
    rw [hidentity, if_pos hanchor, if_pos hanchor]
    exact ⟨rfl, rfl⟩
  · have hturn := request_turn_index_eq py session hanchor
    unfold write_session
    rw [hidentity] at hturn ⊢
    rw [if_neg hanchor, hturn]
    unfold read_session
    rw [if_neg hanchor]
    refine ⟨?_, ?_, ?_⟩
    · intro _
      rw [Dict.get?_set_self, Nat.cast_one]
    · intro _
      rw [Dict.get?_set_self]
      rfl
    · rintro anchor (hne | hanonymous)
      · exact ⟨Dict.get?_set_of_ne _ _ hne, Dict.get?_set_of_ne _ _ hne⟩
      · exact absurd hanonymous hanchor

/-- The part all three functions share. -/
theorem compute_runtime_control_recorded {session : Session} {arrival : Arrival}
    {observation : LiveObservation F} {plan : RuntimeControlPlan}
    (hcontrol : (compute_runtime_control py env session (arrival.bound py) arrival.request_id
      arrival.prompt_tokens arrival.max_tokens).1 = .ok (observation, plan)) :
    observation.primary_anchor_id = arrival.identity py ∧
    Recorded py arrival 1 session (compute_runtime_control py env session (arrival.bound py) arrival.request_id
      arrival.prompt_tokens arrival.max_tokens).2 := by
  obtain ⟨signals, extras, _, _, hestimated, _, _, hobservation⟩ := compute_runtime_control_spec hcontrol
  obtain ⟨_, _, hextras⟩ := estimate_signals_spec hestimated
  constructor
  · have hanchor : extras.primary_anchor_id = primary_anchor_id (arrival.bound py) := by
      rw [hextras, request_extras]
    rw [hobservation, Arrival.identity, ← hanchor, live_observation]
  · rw [compute_runtime_control_session]
    exact estimate_signals_recorded ⟨_, hestimated⟩

omit [PyFloat F] in
/-- A request that is observed is counted on top of that. -/
theorem Recorded.observed {session after : Session} {arrival : Arrival}
    (hrecorded : Recorded py arrival 1 session after) (hanchor : arrival.identity py ≠ "") :
    Recorded py arrival 2 session { after with
      anchor_seen_counts := after.anchor_seen_counts.set (arrival.identity py)
        ((after.anchor_seen_counts.get? (arrival.identity py)).getD 0 + 1) } := by
  refine ⟨?_, hrecorded.history, ?_⟩
  · intro _
    rw [Dict.get?_set_self, hrecorded.count hanchor, Option.getD_some, Nat.cast_one, Nat.cast_two, add_assoc]
    rfl
  · rintro anchor (hne | hanonymous)
    · obtain ⟨hcount, hhistory⟩ := hrecorded.others anchor (.inl hne)
      exact ⟨(Dict.get?_set_of_ne _ _ hne).trans hcount, hhistory⟩
    · exact absurd hanonymous hanchor

omit [PyFloat F] in
theorem Recorded.anonymous {session after : Session} {arrival : Arrival} {weight : ℕ}
    (hrecorded : Recorded py arrival weight session after) (hanchor : arrival.identity py = "") (weight' : ℕ) :
    Recorded py arrival weight' session after :=
  ⟨fun h => absurd hanchor h, hrecorded.history, hrecorded.others⟩

theorem observe_request_recorded {session : Session} {arrival : Arrival}
    (hreturns : Returns (observe_request py env session (arrival.bound py) arrival.request_id
      arrival.prompt_tokens arrival.max_tokens).1) :
    Recorded py arrival 2 session (observe_request py env session (arrival.bound py) arrival.request_id
      arrival.prompt_tokens arrival.max_tokens).2 := by
  unfold observe_request at hreturns ⊢
  cases hcontrol : compute_runtime_control py env session (arrival.bound py) arrival.request_id
      arrival.prompt_tokens arrival.max_tokens with
  | mk controlled after =>
    rw [hcontrol] at hreturns
    cases controlled with
    | error error =>
      obtain ⟨_, hobserved⟩ := hreturns
      cases hobserved
    | ok result =>
      obtain ⟨observation, plan⟩ := result
      obtain ⟨hidentity, hrecorded⟩ := compute_runtime_control_recorded (congrArg Prod.fst hcontrol)
      rw [hcontrol] at hrecorded
      dsimp only at hrecorded ⊢
      rw [hidentity]
      by_cases hanchor : arrival.identity py = ""
      · rw [if_pos hanchor]
        exact hrecorded.anonymous hanchor 2
      · rw [if_neg hanchor]
        exact hrecorded.observed hanchor

theorem process_request_recorded {session : Session} {arrival : Arrival}
    (hreturns : Returns (process_request py env session arrival.toRequestProcessingContext).1) :
    Recorded py arrival 1 session (process_request py env session arrival.toRequestProcessingContext).2 := by
  unfold process_request at hreturns ⊢
  dsimp only at hreturns ⊢
  obtain ⟨_, hprocessed⟩ := hreturns
  rw [map_eq_ok_iff] at hprocessed
  obtain ⟨⟨observation, plan⟩, hcontrol, _⟩ := hprocessed
  exact (compute_runtime_control_recorded hcontrol).2

theorem returns_of_map {α : Type} {x : Except Exception α} (hreturns : Returns (x.map fun _ => ())) :
    ∃ a, x = .ok a := by
  obtain ⟨_, hok⟩ := hreturns
  rw [map_eq_ok_iff] at hok
  obtain ⟨a, ha, _⟩ := hok
  exact ⟨a, ha⟩

/-- What any of the three functions does to the store. -/
theorem handle_recorded {session : Session} {arrival : Arrival}
    (hreturns : Returns (handle py env session arrival).1) :
    Recorded py arrival arrival.weight session (handle py env session arrival).2 := by
  cases hentry : arrival.entry with
  | compute_runtime_control =>
    have hweight : arrival.weight = 1 := by rw [Arrival.weight, hentry, if_neg Entry.noConfusion]
    rw [hweight]
    simp only [handle, hentry] at hreturns ⊢
    obtain ⟨⟨observation, plan⟩, hcontrol⟩ := returns_of_map hreturns
    exact (compute_runtime_control_recorded hcontrol).2
  | process_request =>
    have hweight : arrival.weight = 1 := by rw [Arrival.weight, hentry, if_neg Entry.noConfusion]
    rw [hweight]
    simp only [handle, hentry] at hreturns ⊢
    exact process_request_recorded (returns_of_map hreturns)
  | observe_request =>
    have hweight : arrival.weight = 2 := by rw [Arrival.weight, hentry, if_pos rfl]
    rw [hweight]
    simp only [handle, hentry] at hreturns ⊢
    exact observe_request_recorded (returns_of_map hreturns)

theorem counted_add {count weight : ℕ} (hweight : weight ≠ 0) :
    counted (count + weight) = some ((counted count).getD 0 + weight) := by
  unfold counted
  rw [if_neg (by omega)]
  split
  · rename_i hzero
    rw [hzero]
    simp
  · simp

/-- After answered requests the history is the last visit of every anchor, and the counts
are the visits, those of an observed request being two. -/
theorem handleAll_stored {arrivals : List Arrival} (hhandled : Handled py env arrivals) {anchor : String}
    (hanchor : anchor ≠ "") :
    (handleAll py env arrivals).anchor_seen_counts.get? anchor = counted (visits py anchor arrivals) ∧
      (handleAll py env arrivals).session_history.get? anchor = lastVisit py anchor arrivals := by
  induction arrivals using List.reverseRecOn with
  | nil => exact ⟨rfl, rfl⟩
  | append_singleton arrivals arrival ih =>
    obtain ⟨hcounts, hhistory⟩ := ih hhandled.of_append
    have hrecorded := handle_recorded hhandled.last
    rw [handleAll_append, visits_append, lastVisit_append]
    by_cases heq : arrival.identity py = anchor
    · subst heq
      have hweight : arrival.weight ≠ 0 := by
        unfold Arrival.weight
        split <;> omega
      rw [if_pos rfl, if_pos rfl, hrecorded.count hanchor, hrecorded.history hanchor, hcounts, hhistory,
        counted_add hweight]
      exact ⟨rfl, rfl⟩
    · obtain ⟨hcounts', hhistory'⟩ := hrecorded.others anchor (.inl (Ne.symm heq))
      rw [if_neg heq, if_neg heq, add_zero, hcounts', hhistory']
      exact ⟨hcounts, hhistory⟩

omit [PyFloat F] in
theorem visits_eq (anchor : String) (arrivals : List Arrival) :
    visits py anchor arrivals = (arrivals.countP fun arrival => arrival.identity py = anchor) +
      arrivals.countP fun arrival => decide (arrival.identity py = anchor) && arrival.entry = .observe_request := by
  induction arrivals with
  | nil => rfl
  | cons arrival rest ih =>
    have hcons : visits py anchor (arrival :: rest) =
        (if arrival.identity py = anchor then arrival.weight else 0) + visits py anchor rest := rfl
    rw [hcons, ih, List.countP_cons, List.countP_cons]
    by_cases hidentity : arrival.identity py = anchor
    · by_cases hobserved : arrival.entry = .observe_request
      · simp only [hidentity, hobserved, Arrival.weight, if_true, decide_true, Bool.and_self]
        omega
      · simp only [hidentity, hobserved, Arrival.weight, if_true, if_false, decide_true, decide_false,
          Bool.and_false, Bool.false_eq_true]
        omega
    · simp [hidentity]

theorem counted_injective {count count' : ℕ} (heq : counted count = counted count') : count = count' := by
  unfold counted at heq
  split at heq <;> split at heq <;> simp_all

/-- The store is the one a sequence of answered requests calls for, after each of them,
exactly if none of them is observed under an anchor. -/
theorem answered_store_matches_iff (py : Interpreter F) (env : Environment) (arrivals : List Arrival)
    (hhandled : Handled py env arrivals) :
    (∀ earlier, earlier <+: arrivals → StoreMatches py earlier (handleAll py env earlier)) ↔
      ∀ arrival ∈ arrivals, arrival.entry = .observe_request → arrival.identity py = "" := by
  constructor
  · intro hmatches arrival hmem hobserved
    by_contra hanchor
    have hcounts := (hmatches arrivals (List.prefix_refl _)).counts _ hanchor
    rw [(handleAll_stored hhandled hanchor).1, visits_eq] at hcounts
    have hnone : (arrivals.countP fun other => decide (other.identity py = arrival.identity py) &&
        other.entry = .observe_request) = 0 := by
      have heq := counted_injective hcounts
      omega
    rw [List.countP_eq_zero] at hnone
    exact hnone arrival hmem (by simp [hobserved])
  · intro hunobserved earlier hle
    have hhandled' : Handled py env earlier := fun first arrival hfirst => hhandled first arrival (hfirst.trans hle)
    refine ⟨?_, ?_⟩
    · intro anchor hanchor
      have hnone : (earlier.countP fun other => decide (other.identity py = anchor) &&
          other.entry = .observe_request) = 0 := by
        rw [List.countP_eq_zero]
        intro arrival hmem
        rw [Bool.and_eq_true, not_and, decide_eq_true_eq, decide_eq_true_eq]
        intro hidentity hobserved
        rw [hunobserved arrival (hle.subset hmem) hobserved] at hidentity
        exact hanchor hidentity.symm
      rw [(handleAll_stored hhandled' hanchor).1, visits_eq, hnone, add_zero]
    · intro anchor hanchor
      exact (handleAll_stored hhandled' hanchor).2

end

section

variable {py : Interpreter ℚ} {env : Environment}

theorem map_returns {α β : Type} {x : Except Exception α} (f : α → β) (hreturns : Returns x) :
    Returns (x.map f) := by
  obtain ⟨a, rfl⟩ := hreturns
  exact ⟨f a, rfl⟩

/-- Exact arithmetic answers every request under a valid policy mode. -/
theorem handle_exact (hmode : ValidPolicyMode py env) (session : Session) (arrival : Arrival) :
    Returns (handle py env session arrival).1 := by
  obtain ⟨observation, plan, hcontrol⟩ := compute_runtime_control_exact py env hmode session (arrival.bound py)
    arrival.request_id arrival.prompt_tokens arrival.max_tokens
  cases hentry : arrival.entry with
  | compute_runtime_control =>
    simp only [handle, hentry]
    exact map_returns _ ⟨_, hcontrol⟩
  | process_request =>
    simp only [handle, hentry]
    have hprocessed : Returns (process_request py env session arrival.toRequestProcessingContext).1 := by
      simp only [process_request]
      exact map_returns _ ⟨(observation, plan), hcontrol⟩
    exact map_returns _ hprocessed
  | observe_request =>
    simp only [handle, hentry]
    refine map_returns _ ?_
    unfold observe_request
    cases hcontrolled : compute_runtime_control py env session (arrival.bound py) arrival.request_id
        arrival.prompt_tokens arrival.max_tokens with
    | mk controlled after =>
      rw [hcontrolled] at hcontrol
      dsimp only at hcontrol
      rw [hcontrol]
      exact ⟨observation, rfl⟩

end

/-- The store is the one a sequence of requests calls for, after each of them, exactly if
none of them is observed under an anchor: `observe_request` counts its request twice. The
sequence is one whose requests are answered, as exact arithmetic answers every one under
a valid policy mode. -/
theorem store_matches_iff (arrivals : List Arrival) :
    (∀ {F : Type} [PyFloat F] (py : Interpreter F) (env : Environment), Handled py env arrivals →
      ((∀ earlier, earlier <+: arrivals → StoreMatches py earlier (handleAll py env earlier)) ↔
        ∀ arrival ∈ arrivals, arrival.entry = .observe_request → arrival.identity py = "")) ∧
    ∀ (py : Interpreter ℚ) (env : Environment), ValidPolicyMode py env →
      ((∀ earlier, earlier <+: arrivals → StoreMatches py earlier (handleAll py env earlier)) ↔
        ∀ arrival ∈ arrivals, arrival.entry = .observe_request → arrival.identity py = "") := by
  constructor
  · intro F _ py env hhandled
    exact answered_store_matches_iff py env arrivals hhandled
  · intro py env hmode
    exact answered_store_matches_iff py env arrivals (fun _ arrival _ => handle_exact hmode _ arrival)

/-- A conversation of two entries, with an observed request of no session in between. -/
def conversation : List Arrival := [
  ⟨⟨[("X-KV-Primary-Anchor-Id", "session")], "request-1", 1000, 64⟩, .compute_runtime_control⟩,
  ⟨⟨[], "request-2", 500, 64⟩, .observe_request⟩,
  ⟨⟨[("x-correlation-id", "session")], "request-3", 1200, 64⟩, .process_request⟩]

theorem conversation_handled : Handled Interpreter.binary64 (.ofList []) conversation := by
  have hempty : Handled Interpreter.binary64 (.ofList []) [] := by
    intro earlier arrival hle
    simp at hle
  have hfirst := @handled_append _ _ Interpreter.binary64 (.ofList []) [] conversation[0] hempty (by decide +kernel)
  have hsecond := handled_append hfirst (show Returns (handle _ _ _ conversation[1]).1 by decide +kernel)
  exact handled_append hsecond (show Returns (handle _ _ _ conversation[2]).1 by decide +kernel)

theorem store_matches_iff_conversation :
    StoreMatches Interpreter.binary64 conversation (handleAll Interpreter.binary64 (.ofList []) conversation) ∧
      StoreMatches Interpreter.ascii conversation (handleAll Interpreter.ascii (.ofList []) conversation) := by
  constructor
  · exact ((store_matches_iff conversation).1 Interpreter.binary64 (.ofList []) conversation_handled).mpr (by decide)
      conversation (List.prefix_refl _)
  · exact ((store_matches_iff conversation).2 Interpreter.ascii (.ofList []) (by decide)).mpr (by decide)
      conversation (List.prefix_refl _)

/-- The first observed request of a session leaves it counted twice. -/
theorem observed_once_counted_twice :
    let arrivals : List Arrival :=
      [⟨⟨[("X-KV-Primary-Anchor-Id", "session")], "request-1", 1000, 64⟩, .observe_request⟩]
    ValidPolicyMode Interpreter.ascii (.ofList []) ∧
      (handleAll Interpreter.ascii (.ofList []) arrivals).anchor_seen_counts.get? "session" = some 2 ∧
      (arrivals.countP fun arrival => arrival.identity Interpreter.ascii = "session") = 1 ∧
      ¬ StoreMatches Interpreter.ascii arrivals (handleAll Interpreter.ascii (.ofList []) arrivals) := by
  intro arrivals
  have hstored : (handleAll Interpreter.ascii (.ofList []) arrivals).anchor_seen_counts.get? "session" = some 2 := by
    decide +kernel
  have hcounted : (arrivals.countP fun arrival => arrival.identity Interpreter.ascii = "session") = 1 := by
    decide +kernel
  refine ⟨by decide, hstored, hcounted, ?_⟩
  intro hmatches
  have hcounts := hmatches.counts "session" (by decide)
  rw [hstored, hcounted] at hcounts
  exact absurd hcounts (by decide)

end vllm_kv_materialization.plugin
