import KvMaterialization.LiveControl.Concurrency
import Mathlib.Data.List.Permutation

open python

namespace vllm_kv_materialization.live_control

/-- What a request reads of a history entry, none standing for no earlier request. -/
def previous (entry : Option (ℤ × ℤ × ℤ)) : ℤ × ℤ × ℤ := entry.getD (0, 0, -1)

def SessionRead.previous (read : SessionRead) : ℤ × ℤ × ℤ :=
  (read.previous_prompt_tokens, read.previous_output_tokens, read.previous_turn_index)

/-- The integer a header states, where it states one. -/
def statedInt {F : Type} (py : Interpreter F) (headers : Headers) (name : String) : Option ℤ :=
  if strip (header headers name) = "" then none else py.int (strip (header headers name))

theorem header_int_eq {F : Type} (py : Interpreter F) (headers : Headers) (name : String) (default : ℤ) :
    header_int py headers name default = (statedInt py headers name).getD default := by
  unfold header_int statedInt
  dsimp only
  split
  · rfl
  · rfl

section

variable {F : Type} [PyFloat F] (py : Interpreter F)

/-- What a request is handed after a given history. -/
def handed (request : Request) (previous : ℤ × ℤ × ℤ) : Handed where
  turn_index := header_int py request.headers HEADER_TURN_INDEX (previous.2.2 + 1)
  reusable_prefix_tokens := estimate_reusable_prefix_tokens py request.headers request.prompt_tokens
    previous.1 previous.2.1

variable {ι : Type} [DecidableEq ι] (requests : ι → Request)

/-- The bookkeeping of one anchor as transactions on its history entry. -/
def sessionProgram : transaction.Program ι (Option (ℤ × ℤ × ℤ)) Handed where
  reply id entry := handed py (requests id) (previous entry)
  update id entry current :=
    match (handed py (requests id) (previous entry)).reusable_prefix_tokens with
    | .ok _ => some (max (requests id).prompt_tokens 0, max (requests id).output_tokens 0,
        (handed py (requests id) (previous entry)).turn_index)
    | .error _ => current

/-- A call under way holds what it read of an entry. -/
inductive PhaseTracks : transaction.Phase SessionRead Handed →
    transaction.Phase (Option (ℤ × ℤ × ℤ)) Handed → Prop where
  | pending : PhaseTracks .pending .pending
  | reading {read : SessionRead} {entry : Option (ℤ × ℤ × ℤ)} (hread : read.previous = previous entry) :
    PhaseTracks (.reading read) (.reading entry)
  | done (reply : Handed) : PhaseTracks (.done reply) (.done reply)

/-- The session of the calls on one anchor, seen as its history entry. -/
structure Tracks (anchor : String) (state : Concurrent ι)
    (abstract : transaction.State ι (Option (ℤ × ℤ × ℤ)) Handed) : Prop where
  history : state.session.session_history.get? anchor = abstract.shared
  phase : ∀ id, PhaseTracks (state.phase id) (abstract.phase id)

theorem read_session_previous {anchor : String} (hanchor : anchor ≠ "") (session : Session) :
    (read_session session anchor).1.previous = previous (session.session_history.get? anchor) := by
  unfold read_session
  rw [if_neg hanchor]
  rfl

theorem read_session_history (session : Session) (anchor : String) :
    (read_session session anchor).2.session_history = session.session_history := by
  unfold read_session
  split
  · rfl
  · rfl

variable {py requests} {anchor : String} {state : Concurrent ι}
  {abstract : transaction.State ι (Option (ℤ × ℤ × ℤ)) Handed}

theorem handed_of_read (py : Interpreter F) (request : Request) {read : SessionRead} {entry : Option (ℤ × ℤ × ℤ)}
    (hread : read.previous = previous entry) :
    (⟨request_turn_index py request.headers read, estimate_reusable_prefix_tokens py request.headers
      request.prompt_tokens read.previous_prompt_tokens read.previous_output_tokens⟩ : Handed) =
      handed py request (previous entry) := by
  rw [← hread]
  rfl

omit [DecidableEq ι] in
/-- The write of a call is the update of its transaction. -/
theorem finish_session_tracks (py : Interpreter F) (session : Session) {id : ι} {read : SessionRead}
    {entry : Option (ℤ × ℤ × ℤ)} (hanchor : primary_anchor_id (requests id).headers = anchor)
    (hidentity : anchor ≠ "") (hread : read.previous = previous entry) :
    (finish_session py session (requests id).headers read (requests id).prompt_tokens
        (requests id).output_tokens).2.session_history.get? anchor =
      (sessionProgram py requests).update id entry (session.session_history.get? anchor) ∧
    (⟨request_turn_index py (requests id).headers read,
      (finish_session py session (requests id).headers read (requests id).prompt_tokens
        (requests id).output_tokens).1⟩ : Handed) = (sessionProgram py requests).reply id entry := by
  have hhanded := handed_of_read py (requests id) hread
  unfold sessionProgram
  dsimp only
  rw [← hhanded]
  dsimp only
  cases hestimate : estimate_reusable_prefix_tokens py (requests id).headers
      (requests id).prompt_tokens read.previous_prompt_tokens read.previous_output_tokens with
  | error error =>
    rw [finish_session_of_error hestimate]
    exact ⟨rfl, rfl⟩
  | ok reusable_prefix_tokens =>
    rw [finish_session_of_ok hestimate, hanchor]
    unfold write_session
    rw [if_neg hidentity]
    exact ⟨Dict.get?_set_self .., rfl⟩

theorem Tracks.update (htracks : Tracks anchor state abstract) {id : ι} {session : Session}
    {entry : Option (ℤ × ℤ × ℤ)} {phase : transaction.Phase SessionRead Handed}
    {phase' : transaction.Phase (Option (ℤ × ℤ × ℤ)) Handed}
    (hhistory : session.session_history.get? anchor = entry) (hphase : PhaseTracks phase phase') :
    Tracks anchor ⟨session, Function.update state.phase id phase⟩
      ⟨entry, Function.update abstract.phase id phase'⟩ := by
  refine ⟨hhistory, ?_⟩
  intro other
  by_cases heq : other = id
  · subst heq
    dsimp only
    rw [Function.update_self, Function.update_self]
    exact hphase
  · dsimp only
    rw [Function.update_of_ne heq, Function.update_of_ne heq]
    exact htracks.phase other

/-- Every critical section is the section of its transaction. -/
theorem Tracks.step (hanchor : ∀ id, primary_anchor_id (requests id).headers = anchor)
    (hidentity : anchor ≠ "") (htracks : Tracks anchor state abstract)
    (section_ : transaction.Section ι) :
    Tracks anchor (Concurrent.step py requests state section_).2
      (transaction.step (sessionProgram py requests) abstract section_).2 := by
  cases section_ with
  | read id =>
    have hphase := htracks.phase id
    generalize hconcrete : state.phase id = concrete at hphase
    generalize habstract : abstract.phase id = abstracted at hphase
    cases hphase with
    | pending =>
      rw [Concurrent.step_read hconcrete, transaction.step_read habstract, hanchor id]
      apply htracks.update
      · rw [read_session_history]
        exact htracks.history
      · apply PhaseTracks.reading
        rw [read_session_previous hidentity, htracks.history]
    | reading hread => simpa only [Concurrent.step, transaction.step, hconcrete, habstract] using htracks
    | done reply => simpa only [Concurrent.step, transaction.step, hconcrete, habstract] using htracks
  | finish id =>
    have hphase := htracks.phase id
    generalize hconcrete : state.phase id = concrete at hphase
    generalize habstract : abstract.phase id = abstracted at hphase
    cases hphase with
    | pending => simpa only [Concurrent.step, transaction.step, hconcrete, habstract] using htracks
    | reading hread =>
      obtain ⟨hhistory, hreply⟩ := finish_session_tracks py state.session
        (hanchor id) hidentity hread
      rw [Concurrent.step_finish hconcrete, transaction.step_finish habstract, hreply]
      apply htracks.update
      · rw [hhistory, htracks.history]
      · exact .done _
    | done reply => simpa only [Concurrent.step, transaction.step, hconcrete, habstract] using htracks

theorem Tracks.run (py : Interpreter F) (hanchor : ∀ id, primary_anchor_id (requests id).headers = anchor)
    (hidentity : anchor ≠ "") (session : Session) (sections : List (transaction.Section ι)) :
    Tracks anchor (Concurrent.run py requests session sections)
      (machine.run (transaction.step (sessionProgram py requests))
        (.init (session.session_history.get? anchor)) sections) :=
  machine.run_related _ (fun _ _ section_ htracks => htracks.step hanchor hidentity section_)
    ⟨rfl, fun _ => .pending⟩ sections

end

section

variable {F : Type} [PyFloat F] (py : Interpreter F) {ι : Type} (requests : ι → Request)
  (anchor : String)

/-- At its write, what a request takes over from the history is still what it
read there: its turn index where it states none, its prefix where it states none. -/
def Undisturbed (state : Concurrent ι) : transaction.Section ι → Prop
  | .read _ => True
  | .finish id => ∀ read, state.phase id = .reading read →
    ((statedInt py (requests id).headers HEADER_TURN_INDEX).isSome ∨
      read.previous.2.2 = (previous (state.session.session_history.get? anchor)).2.2) ∧
    ((∃ tokens ≥ 0, statedInt py (requests id).headers HEADER_SHARED_PREFIX_TOKENS = some tokens) ∨
      (read.previous.1 = (previous (state.session.session_history.get? anchor)).1 ∧
        read.previous.2.1 = (previous (state.session.session_history.get? anchor)).2.1))

/-- At its write, a request that states its turn index is past the turn of the history. -/
def StatesLaterTurn (state : Concurrent ι) : transaction.Section ι → Prop
  | .read _ => True
  | .finish id => ∀ turn_index, statedInt py (requests id).headers HEADER_TURN_INDEX = some turn_index →
    (previous (state.session.session_history.get? anchor)).2.2 < turn_index

/-- A run is the serial one of the requests it finished, in the order given: each
is handed what it is handed there, and the history entry is the one left there. -/
structure SerialIn [DecidableEq ι] (session : Session) (order : List ι) (state : Concurrent ι) : Prop where
  nodup : order.Nodup
  mem_iff : ∀ id, id ∈ order ↔ ∃ reply, state.phase id = .done reply
  handed_eq : ∀ id ∈ order,
    (Concurrent.run py requests session (transaction.serial order)).phase id = state.phase id
  history_eq : (Concurrent.run py requests session
    (transaction.serial order)).session.session_history.get? anchor =
      state.session.session_history.get? anchor

variable {py requests anchor}

theorem handed_congr (request : Request) {first second : ℤ × ℤ × ℤ}
    (hturn : (statedInt py request.headers HEADER_TURN_INDEX).isSome ∨ first.2.2 = second.2.2)
    (hreusable : (∃ tokens ≥ 0,
        statedInt py request.headers HEADER_SHARED_PREFIX_TOKENS = some tokens) ∨
      (first.1 = second.1 ∧ first.2.1 = second.2.1)) :
    handed py request first = handed py request second := by
  have hturns : header_int py request.headers HEADER_TURN_INDEX (first.2.2 + 1) =
      header_int py request.headers HEADER_TURN_INDEX (second.2.2 + 1) := by
    obtain hstated | heq := hturn
    · obtain ⟨turn_index, hstated⟩ := Option.isSome_iff_exists.mp hstated
      rw [header_int_eq, header_int_eq, hstated]
      rfl
    · rw [heq]
  have hestimates : estimate_reusable_prefix_tokens py request.headers request.prompt_tokens
        first.1 first.2.1 =
      estimate_reusable_prefix_tokens py request.headers request.prompt_tokens
        second.1 second.2.1 := by
    obtain ⟨tokens, hnonneg, hstated⟩ | ⟨hprompt, houtput⟩ := hreusable
    · unfold estimate_reusable_prefix_tokens
      rw [header_int_eq, hstated]
      dsimp only [Option.getD_some]
      rw [if_pos hnonneg, if_pos hnonneg]
    · rw [hprompt, houtput]
  unfold handed
  rw [hturns, hestimates]

variable [DecidableEq ι] {state : Concurrent ι}
  {abstract : transaction.State ι (Option (ℤ × ℤ × ℤ)) Handed}

omit [PyFloat F] in
theorem PhaseTracks.of_reading {phase : transaction.Phase SessionRead Handed}
    {entry : Option (ℤ × ℤ × ℤ)} (hphase : PhaseTracks phase (.reading entry)) :
    ∃ read, phase = .reading read ∧ read.previous = previous entry := by
  cases hphase with
  | reading hread => exact ⟨_, rfl, hread⟩

omit [DecidableEq ι] in
/-- A request that is not disturbed acts on no stale entry. -/
theorem Tracks.fresh (htracks : Tracks anchor state abstract) {section_ : transaction.Section ι}
    (hundisturbed : Undisturbed py requests anchor state section_) :
    transaction.Fresh (sessionProgram py requests) abstract section_ := by
  cases section_ with
  | read id => trivial
  | finish id =>
    intro entry hreading
    have hphase := htracks.phase id
    rw [hreading] at hphase
    obtain ⟨read, hconcrete, hread⟩ := hphase.of_reading
    obtain ⟨hturn, hreusable⟩ := hundisturbed read hconcrete
    rw [hread, htracks.history] at hturn hreusable
    have hhanded := handed_congr (requests id) hturn hreusable
    refine ⟨hhanded, ?_⟩
    unfold sessionProgram
    dsimp only
    rw [hhanded]

/-- The turn index of a history entry, and the one a request is handed with its
estimate; a call that raises hands over none. -/
def entryTurn (entry : Option (ℤ × ℤ × ℤ)) : ℤ := (previous entry).2.2

theorem entryTurn_some (prompt_tokens output_tokens turn_index : ℤ) :
    entryTurn (some (prompt_tokens, output_tokens, turn_index)) = turn_index := rfl

def Handed.turn (reply : Handed) : Option ℤ :=
  match reply.reusable_prefix_tokens with
  | .ok _ => some reply.turn_index
  | .error _ => none

omit [DecidableEq ι] in
theorem Tracks.advances (htracks : Tracks anchor state abstract) {section_ : transaction.Section ι}
    (hundisturbed : Undisturbed py requests anchor state section_)
    (hlater : StatesLaterTurn py requests anchor state section_) :
    transaction.Advances entryTurn Handed.turn (sessionProgram py requests) abstract section_ := by
  cases section_ with
  | read id => trivial
  | finish id =>
    intro entry hreading
    have hphase := htracks.phase id
    rw [hreading] at hphase
    obtain ⟨read, hconcrete, hread⟩ := hphase.of_reading
    obtain ⟨hturn, _⟩ := hundisturbed read hconcrete
    have hpast : entryTurn abstract.shared < (handed py (requests id) (previous entry)).turn_index := by
      unfold handed
      dsimp only
      rw [header_int_eq]
      cases hstated : statedInt py (requests id).headers HEADER_TURN_INDEX with
      | some turn_index =>
        have hlt := hlater turn_index hstated
        rw [htracks.history] at hlt
        exact hlt
      | none =>
        rw [hstated, hread, htracks.history] at hturn
        have heq := hturn.resolve_left (by simp)
        unfold entryTurn
        rw [Option.getD_none, heq]
        omega
    cases hestimate : (handed py (requests id) (previous entry)).reusable_prefix_tokens with
    | error error =>
      simp [sessionProgram, Handed.turn, hestimate]
    | ok reusable_prefix_tokens =>
      simp only [sessionProgram, Handed.turn, hestimate]
      refine ⟨?_, by simp⟩
      intro turn_index heq
      rw [Option.some.injEq] at heq
      rw [← heq]
      exact ⟨hpast, entryTurn_some _ _ _⟩

theorem PhaseTracks.done_iff {phase : transaction.Phase SessionRead Handed}
    {phase' : transaction.Phase (Option (ℤ × ℤ × ℤ)) Handed} (hphase : PhaseTracks phase phase')
    (reply : Handed) : phase = .done reply ↔ phase' = .done reply := by
  cases hphase with
  | pending => simp
  | reading hread => simp
  | done reply' => simp

/-- Where no request is disturbed between its two critical sections, any
interleaving of requests on one anchor is a serial one, in the order of the
writes; and where the turns stated go up as well, no two are handed the same. -/
theorem undisturbed_serializable (py : Interpreter F) (requests : ι → Request) (anchor : String)
    (hanchor : ∀ id, primary_anchor_id (requests id).headers = anchor) (hidentity : anchor ≠ "")
    (session : Session) (sections : List (transaction.Section ι))
    (hundisturbed : ∀ event ∈ machine.trace (Concurrent.step py requests) (.init session) sections,
      Undisturbed py requests anchor event.before event.call) :
    (∃ order, SerialIn py requests anchor session order (Concurrent.run py requests session sections)) ∧
      ((∀ event ∈ machine.trace (Concurrent.step py requests) (.init session) sections,
          StatesLaterTurn py requests anchor event.before event.call) →
        ∀ id id' reply reply' turn_index, id ≠ id' →
          (Concurrent.run py requests session sections).phase id = .done reply →
          (Concurrent.run py requests session sections).phase id' = .done reply' →
          reply.turn = some turn_index → reply'.turn ≠ some turn_index) := by
  have htracks := fun sections => Tracks.run py hanchor hidentity session sections
  rw [machine.forall_mem_trace_iff] at hundisturbed
  constructor
  · obtain ⟨order, hserialized⟩ := transaction.serializable_of_fresh (sessionProgram py requests)
      (session.session_history.get? anchor) sections (by
        rw [machine.forall_mem_trace_iff]
        intro earlier section_ later hsections
        exact (htracks earlier).fresh (hundisturbed earlier section_ later hsections))
    refine ⟨order, hserialized.nodup, ?_, ?_, ?_⟩
    · intro id
      rw [hserialized.mem_iff]
      simp only [((htracks sections).phase id).done_iff]
    · intro id hmem
      obtain ⟨reply, hdone⟩ := (hserialized.mem_iff id).mp hmem
      have hserial := hserialized.phase_eq id hmem
      rw [hdone] at hserial
      rw [(((htracks sections).phase id).done_iff reply).mpr hdone,
        (((htracks (transaction.serial order)).phase id).done_iff reply).mpr hserial]
    · rw [(htracks sections).history, (htracks (transaction.serial order)).history,
        hserialized.shared_eq]
  · intro hlater id id' reply reply' turn_index hne hdone hdone'
    rw [machine.forall_mem_trace_iff] at hlater
    have hascending := transaction.ascending_of_advances entryTurn Handed.turn
      (sessionProgram py requests) (session.session_history.get? anchor) sections (by
        rw [machine.forall_mem_trace_iff]
        intro earlier section_ later hsections
        exact (htracks earlier).advances (hundisturbed earlier section_ later hsections)
          (hlater earlier section_ later hsections))
    exact hascending.distinct id id' reply reply' turn_index hne
      ((((htracks sections).phase id).done_iff reply).mp hdone)
      ((((htracks sections).phase id').done_iff reply').mp hdone')

end

/-- Two requests whose sections overlap, and which state their turns and prefixes. -/
theorem undisturbed_serializable_stated :
    ∃ order, SerialIn Interpreter.ascii
      (fun second : Bool => ⟨bind_request_headers asciiLower [("X-KV-Primary-Anchor-Id", "session"),
        ("X-KV-Turn-Index", if second then "2" else "1"), ("X-KV-Shared-Prefix-Tokens", "512")], 1000, 64⟩)
      "session" .init order
      (Concurrent.run Interpreter.ascii
        (fun second : Bool => ⟨bind_request_headers asciiLower [("X-KV-Primary-Anchor-Id", "session"),
          ("X-KV-Turn-Index", if second then "2" else "1"), ("X-KV-Shared-Prefix-Tokens", "512")],
          1000, 64⟩)
        .init [.read false, .read true, .finish true, .finish false]) := by
  refine (undisturbed_serializable Interpreter.ascii _ "session" (by decide) (by decide) .init
    [.read false, .read true, .finish true, .finish false] ?_).1
  intro event _
  cases event.call with
  | read id => trivial
  | finish second =>
    intro read _
    refine ⟨.inl ?_, .inl ⟨512, by decide, ?_⟩⟩
    · cases second <;> decide
    · cases second <;> decide

/-- Two requests that both read before either writes: neither finds the other, and
in either order one of them would. -/
theorem overlapping_requests_share_turn :
    let requests : Bool → Request := fun second =>
      ⟨bind_request_headers asciiLower [("X-KV-Primary-Anchor-Id", "session")],
        if second then 1200 else 1000, 64⟩
    let overlapping := Concurrent.run Interpreter.ascii requests .init
      [.read false, .read true, .finish false, .finish true]
    overlapping.phase false = .done ⟨0, .ok 350⟩ ∧ overlapping.phase true = .done ⟨0, .ok 420⟩ ∧
      ∀ order : List Bool, order.Perm [false, true] → ∃ id,
        (Concurrent.run Interpreter.ascii requests .init (transaction.serial order)).phase id ≠
          overlapping.phase id := by
  dsimp only
  refine ⟨by decide +kernel, by decide +kernel, ?_⟩
  intro order hperm
  have horders : ∀ order ∈ [false, true].permutations', ∃ id,
      (Concurrent.run Interpreter.ascii (fun second : Bool => ⟨bind_request_headers asciiLower
        [("X-KV-Primary-Anchor-Id", "session")], if second then 1200 else 1000, 64⟩) .init
        (transaction.serial order)).phase id ≠
      (Concurrent.run Interpreter.ascii (fun second : Bool => ⟨bind_request_headers asciiLower
        [("X-KV-Primary-Anchor-Id", "session")], if second then 1200 else 1000, 64⟩) .init
        [.read false, .read true, .finish false, .finish true]).phase id := by decide +kernel
  exact horders order (List.mem_permutations'.mpr hperm)

end vllm_kv_materialization.live_control
