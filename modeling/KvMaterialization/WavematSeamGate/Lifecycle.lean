import KvMaterialization.WavematSeamGate.WellFormed

open python machine

namespace vllm_kv_materialization.wavemat_seam_gate

/-- The moves a slot's owner may make: ready, consumed and acked in that order,
or a failed load before anything was consumed. -/
inductive Status.Edge : Status → Status → Prop where
  | ready : Edge .registered .ready
  | consume : Edge .ready .consumed
  | ack : Edge .consumed .acked
  | registered_failed : Edge .registered .load_failed
  | ready_failed : Edge .ready .load_failed

/-- A call that leaves the status alone makes no move. -/
def Status.Moves (old new : Status) : Prop := new = old ∨ Edge old new

/-- An accepted consume of one generation of one identity. -/
def consumes (key : Identity) (generation : Int) (event : Event WavematGateState Call Reply) : Bool :=
  match event.call with
  | .consume ref _ => event.reply.succeeded && ref.identity = key && ref.generation = generation
  | _ => false

/-- An accepted acknowledgement of one generation of one identity. -/
def acks (key : Identity) (generation : Int) (event : Event WavematGateState Call Reply) : Bool :=
  match event.call with
  | .ack ref _ => event.reply.succeeded && ref.identity = key && ref.generation = generation
  | _ => false

/-- The slot at a key has reached a phase of a generation, or a newer generation
has been registered over it. -/
def Reached (state : WavematGateState) (key : Identity) (generation : Int)
    (phase : Status → Prop) : Prop :=
  ∃ slot, state.slots.get? key = some slot ∧
    (generation < slot.ref.generation ∨ slot.ref.generation = generation ∧ phase slot.status)

/-- The lifecycle of every slot over a whole run is forward only. -/
structure ForwardOnly (calls : List Call) : Prop where
  forward : ∀ event ∈ trace step .init calls, event.reply.succeeded = true →
    ∀ key old new, event.before.slots.get? key = some old → event.after.slots.get? key = some new →
      new.ref.generation = old.ref.generation → old.status.Moves new.status
  consumed_once : ∀ key generation, (trace step .init calls).countP (consumes key generation) ≤ 1
  acked_once : ∀ key generation, (trace step .init calls).countP (acks key generation) ≤ 1
  acked_stays : ∀ earlier later, calls = earlier ++ later → ∀ key slot,
    (run step .init earlier).slots.get? key = some slot → slot.status = .acked →
      Reached (run step .init calls) key slot.ref.generation (· = .acked)

/-- A readiness or failure report that arrives for the slot's own generation (and
digest) after the slot has been consumed. The source guards `consume` and `ack`
against every such status, and these two calls against none of them. -/
def Late (state : WavematGateState) : Call → Prop
  | .mark_ready ref digest _ => ∃ slot, state.slots.get? ref.identity = some slot ∧
      slot.ref.generation = ref.generation ∧ slot.digest = digest ∧
      (slot.status = .consumed ∨ slot.status = .acked)
  | .mark_load_failure ref => ∃ slot, state.slots.get? ref.identity = some slot ∧
      slot.ref.generation = ref.generation ∧ (slot.status = .consumed ∨ slot.status = .acked)
  | _ => False

theorem Advance.moves {state : WavematGateState} {ref : LayerGroupRef} {slot slot' : Slot} {call : Call}
    (hadvance : Advance ref slot call slot') (hslot : state.slots.get? ref.identity = some slot)
    (hgeneration : slot.ref.generation = ref.generation) (htimely : ¬ Late state call) :
    slot.status.Moves slot'.status := by
  cases hadvance with
  | mark_load_failure =>
    cases hstatus : slot.status with
    | registered => exact .inr .registered_failed
    | ready => exact .inr .ready_failed
    | load_failed => exact .inl rfl
    | consumed => exact absurd ⟨slot, hslot, hgeneration, .inl hstatus⟩ htimely
    | acked => exact absurd ⟨slot, hslot, hgeneration, .inr hstatus⟩ htimely
  | mark_ready ready_event hfailed =>
    cases hstatus : slot.status with
    | registered => exact .inr .ready
    | ready => exact .inl rfl
    | load_failed => exact absurd hstatus hfailed
    | consumed => exact absurd ⟨slot, hslot, hgeneration, rfl, .inl hstatus⟩ htimely
    | acked => exact absurd ⟨slot, hslot, hgeneration, rfl, .inr hstatus⟩ htimely
  | consume hready =>
    rw [hready]
    exact .inr .consume
  | ack hconsumed =>
    rw [hconsumed]
    exact .inr .ack

/-- An accepted call registers a newer generation over a slot, or takes its status to one
that every operation is related to take it to. -/
theorem Accepts.related {state state' : WavematGateState} {call : Call} (hwell : WellFormed state)
    (haccepts : Accepts state call state') {R : Status → Status → Prop} (hrefl : ∀ status, R status status)
    (hadvance : ∀ {ref : LayerGroupRef} {slot slot' : Slot}, state.slots.get? ref.identity = some slot →
      slot.ref.generation = ref.generation → Advance ref slot call slot' → R slot.status slot'.status)
    {key : Identity} {old : Slot} (hold : state.slots.get? key = some old) :
    ∃ new, state'.slots.get? key = some new ∧
      (old.ref.generation < new.ref.generation ∨
        new.ref.generation = old.ref.generation ∧ R old.status new.status) := by
  cases haccepts with
  | register hfree hnewer =>
    rename_i ref digest ready_event
    simp only [Dict.get?_set]
    split
    · rename_i hkey
      subst hkey
      exact ⟨_, rfl, .inl (hnewer _ (hwell.generation _ _ hold))⟩
    · exact ⟨old, hold, .inr ⟨rfl, hrefl _⟩⟩
  | advance hslot hgeneration hmove =>
    rename_i ref slot slot'
    simp only [Dict.get?_set]
    split
    · rename_i hkey
      subst hkey
      rw [hslot] at hold
      cases hold
      refine ⟨slot', rfl, .inr ⟨?_, hadvance hslot hgeneration hmove⟩⟩
      rw [hmove.ref_eq]
    · exact ⟨old, hold, .inr ⟨rfl, hrefl _⟩⟩
  | recover =>
    rw [(recover_frame state).1]
    exact ⟨old, hold, .inr ⟨rfl, hrefl _⟩⟩

/-- One accepted timely call moves every slot forward, or registers a newer
generation over it. -/
theorem Accepts.moves {state state' : WavematGateState} {call : Call} (hwell : WellFormed state)
    (haccepts : Accepts state call state') (htimely : ¬ Late state call) {key : Identity} {old : Slot}
    (hold : state.slots.get? key = some old) :
    ∃ new, state'.slots.get? key = some new ∧
      (old.ref.generation < new.ref.generation ∨
        new.ref.generation = old.ref.generation ∧ old.status.Moves new.status) :=
  haccepts.related hwell (fun _ => .inl rfl)
    (fun hslot hgeneration hadvance => hadvance.moves hslot hgeneration htimely) hold

/-- Generations only grow under an accepted call. -/
theorem Accepts.grows {state state' : WavematGateState} {call : Call} (hwell : WellFormed state)
    (haccepts : Accepts state call state') {key : Identity} {old : Slot}
    (hold : state.slots.get? key = some old) :
    ∃ new, state'.slots.get? key = some new ∧ old.ref.generation ≤ new.ref.generation := by
  obtain ⟨new, hnew, hgeneration⟩ := @Accepts.related _ _ _ hwell haccepts (fun _ _ => True) (fun _ => trivial)
    (fun _ _ _ => trivial) _ _ hold
  exact ⟨new, hnew, by omega⟩

/-- A timely event keeps every phase that the lifecycle does not leave. -/
theorem reached_step {event : Event WavematGateState Call Reply} (hwell : WellFormed event.before)
    (hstep : step event.before event.call = (event.reply, event.after))
    (htimely : ¬ Late event.before event.call) {key : Identity} {generation : Int}
    {phase : Status → Prop} (hphase : ∀ old new, phase old → Status.Edge old new → phase new)
    (hreached : Reached event.before key generation phase) :
    Reached event.after key generation phase := by
  obtain ⟨old, hold, hwhere⟩ := hreached
  have hafter : (step event.before event.call).2 = event.after := by rw [hstep]
  cases hok : (step event.before event.call).1.succeeded with
  | false =>
    obtain ⟨hslots, _⟩ := frame_of_not_succeeded hok
    rw [hafter] at hslots
    exact ⟨old, by rw [hslots]; exact hold, hwhere⟩
  | true =>
    have haccepts := accepts_of_succeeded hok
    rw [hafter] at haccepts
    obtain ⟨new, hnew, hmove⟩ := haccepts.moves hwell htimely hold
    refine ⟨new, hnew, ?_⟩
    obtain hnewer | ⟨hsame, hold_phase⟩ := hwhere
    · obtain hgrows | ⟨hkeeps, _⟩ := hmove
      · exact .inl (by omega)
      · exact .inl (by omega)
    · obtain hgrows | ⟨hkeeps, hstay | hedge⟩ := hmove
      · exact .inl (by omega)
      · exact .inr ⟨by omega, by rw [hstay]; exact hold_phase⟩
      · exact .inr ⟨by omega, hphase _ _ hold_phase hedge⟩

theorem consumed_phase_closed (old new : Status) (hold : old = .consumed ∨ old = .acked)
    (hedge : Status.Edge old new) : new = .consumed ∨ new = .acked := by
  rcases hold with rfl | rfl <;> cases hedge
  exact .inr rfl

theorem acked_phase_closed (old new : Status) (hold : old = .acked) (hedge : Status.Edge old new) :
    new = .acked := by
  subst hold
  cases hedge

theorem event_accepts {calls : List Call} {event : Event WavematGateState Call Reply}
    (hmem : event ∈ trace step .init calls) (hok : event.reply.succeeded = true) :
    Accepts event.before event.call event.after := by
  have hstep := step_of_mem_trace step hmem
  have hsucceeded : (step event.before event.call).1.succeeded = true := by rw [hstep]; exact hok
  have haccepts := accepts_of_succeeded hsucceeded
  rwa [hstep] at haccepts

/-- An event finds the slot of a generation in one status and leaves it in another. -/
structure Takes (key : Identity) (generation : Int) (old new : Status)
    (event : Event WavematGateState Call Reply) : Prop where
  before : ∃ slot, event.before.slots.get? key = some slot ∧ slot.ref.generation = generation ∧ slot.status = old
  after : ∃ slot, event.after.slots.get? key = some slot ∧ slot.ref.generation = generation ∧ slot.status = new

theorem takes_of_accepts {state state' : WavematGateState} {call : Call} {reply : Reply} {ref : LayerGroupRef}
    {digest : String} {old new : Status} (haccepts : Accepts state call state')
    (hcall : call = .consume ref digest ∨ call = .ack ref digest)
    (hadvance : ∀ slot slot', Advance ref slot call slot' → slot.status = old ∧ slot'.status = new) :
    Takes ref.identity ref.generation old new ⟨state, call, reply, state'⟩ := by
  cases haccepts with
  | register => simp at hcall
  | recover => simp at hcall
  | advance hslot hgeneration hmove =>
    rename_i ref' slot slot'
    obtain rfl : ref' = ref := by
      obtain rfl | rfl := hcall
      · cases hmove
        rfl
      · cases hmove
        rfl
    obtain ⟨hold, hnew⟩ := hadvance slot slot' hmove
    refine ⟨⟨slot, hslot, hgeneration, hold⟩, slot', Dict.get?_set_self _ _ _, ?_, hnew⟩
    rw [hmove.ref_eq, hgeneration]

/-- An accepted consume finds its slot ready and leaves it consumed. -/
theorem consumes_spec {calls : List Call} {event : Event WavematGateState Call Reply}
    (hmem : event ∈ trace step .init calls) {key : Identity} {generation : Int}
    (hconsumes : consumes key generation event = true) : Takes key generation .ready .consumed event := by
  obtain ⟨before, call, reply, after⟩ := event
  cases call <;> simp only [consumes, Bool.false_eq_true] at hconsumes
  rename_i ref digest
  simp only [Bool.and_eq_true, decide_eq_true_eq] at hconsumes
  obtain ⟨⟨hok, rfl⟩, rfl⟩ := hconsumes
  refine takes_of_accepts (event_accepts hmem hok) (.inl rfl) fun slot slot' hadvance => ?_
  cases hadvance with
  | consume hready => exact ⟨hready, rfl⟩

/-- An accepted acknowledgement finds its slot consumed and leaves it acked. -/
theorem acks_spec {calls : List Call} {event : Event WavematGateState Call Reply}
    (hmem : event ∈ trace step .init calls) {key : Identity} {generation : Int}
    (hacks : acks key generation event = true) : Takes key generation .consumed .acked event := by
  obtain ⟨before, call, reply, after⟩ := event
  cases call <;> simp only [acks, Bool.false_eq_true] at hacks
  rename_i ref digest
  simp only [Bool.and_eq_true, decide_eq_true_eq] at hacks
  obtain ⟨⟨hok, rfl⟩, rfl⟩ := hacks
  refine takes_of_accepts (event_accepts hmem hok) (.inr rfl) fun slot slot' hadvance => ?_
  cases hadvance with
  | ack hconsumed => exact ⟨hconsumed, rfl⟩

theorem not_reached_of_status {state : WavematGateState} {key : Identity} {generation : Int}
    {phase : Status → Prop} {slot : Slot} (hslot : state.slots.get? key = some slot)
    (hgeneration : slot.ref.generation = generation) (hstatus : ¬ phase slot.status) :
    ¬ Reached state key generation phase := by
  rintro ⟨found, hfound, hwhere⟩
  rw [hslot] at hfound
  cases hfound
  obtain hnewer | ⟨_, hphase⟩ := hwhere
  · omega
  · exact hstatus hphase

/-- A late report is accepted, and takes the slot backwards. -/
theorem late_moves_back {state : WavematGateState} {call : Call} (hlate : Late state call) :
    ∃ key old new, (step state call).1.succeeded = true ∧ state.slots.get? key = some old ∧
      (step state call).2.slots.get? key = some new ∧
      new.ref.generation = old.ref.generation ∧ ¬ old.status.Moves new.status := by
  have hback : ∀ old new : Status, (old = .consumed ∨ old = .acked) →
      (new = .ready ∨ new = .load_failed) → ¬ old.Moves new := by
    rintro old new (rfl | rfl) (rfl | rfl) (hstay | hedge)
    all_goals first | cases hstay | cases hedge
  cases call with
  | mark_ready ref digest ready_event =>
    obtain ⟨slot, hslot, hgeneration, rfl, hstatus⟩ := hlate
    have hfailed : slot.status ≠ .load_failed := by rcases hstatus with h | h <;> simp [h]
    have hstep : state.mark_ready ref slot.digest ready_event = (.ok (), { state with
        slots := state.slots.set ref.identity { slot with ready_event, status := .ready } }) := by
      simp [WavematGateState.mark_ready, hslot, hgeneration, hfailed]
    refine ⟨ref.identity, slot, { slot with ready_event, status := .ready }, ?_, hslot, ?_, rfl,
      hback _ _ hstatus (.inl rfl)⟩
    · simp only [step, hstep]
      rfl
    · simp only [step, hstep, Prod.map_snd, id]
      exact Dict.get?_set_self _ _ _
  | mark_load_failure ref =>
    obtain ⟨slot, hslot, hgeneration, hstatus⟩ := hlate
    have hstep : state.mark_load_failure ref = (.ok (), { state with
        slots := state.slots.set ref.identity { slot with status := .load_failed } }) := by
      simp [WavematGateState.mark_load_failure, hslot, hgeneration]
    refine ⟨ref.identity, slot, { slot with status := .load_failed }, ?_, hslot, ?_, rfl,
      hback _ _ hstatus (.inr rfl)⟩
    · simp only [step, hstep]
      rfl
    · simp only [step, hstep, Prod.map_snd, id]
      exact Dict.get?_set_self _ _ _
  | register | consume | ack | recover => exact hlate.elim

section Timely

variable {calls : List Call}
  (htimely : ∀ event ∈ trace step .init calls, ¬ Late event.before event.call)
include htimely

theorem reached_stable (key : Identity) (generation : Int) {phase : Status → Prop}
    (hphase : ∀ old new, phase old → Status.Edge old new → phase new) :
    ∀ event ∈ trace step .init calls,
      Reached event.before key generation phase → Reached event.after key generation phase :=
  fun event hmem => reached_step (wellFormed_before hmem) (step_of_mem_trace step hmem)
    (htimely event hmem) hphase

/-- What takes a slot into a phase that it does not leave happens once in a generation. -/
theorem timely_once (key : Identity) (generation : Int) {phase : Status → Prop}
    (hphase : ∀ old new, phase old → Status.Edge old new → phase new) {old new : Status}
    (hold : ¬ phase old) (hnew : phase new) {takes : Event WavematGateState Call Reply → Bool}
    (htakes : ∀ event ∈ trace step .init calls, takes event = true → Takes key generation old new event) :
    (trace step .init calls).countP takes ≤ 1 := by
  refine (countP_trace_le_one step (P := fun state => Reached state key generation phase)
    (reached_stable htimely key generation hphase) ?_ ?_).1
  · intro event hmem htaken
    obtain ⟨slot, hslot, hgeneration, hstatus⟩ := (htakes event hmem htaken).after
    exact ⟨slot, hslot, .inr ⟨hgeneration, by rwa [hstatus]⟩⟩
  · intro event hmem htaken
    obtain ⟨slot, hslot, hgeneration, hstatus⟩ := (htakes event hmem htaken).before
    exact not_reached_of_status hslot hgeneration (by rwa [hstatus])

theorem timely_consumed_once (key : Identity) (generation : Int) :
    (trace step .init calls).countP (consumes key generation) ≤ 1 :=
  timely_once htimely key generation consumed_phase_closed (by simp) (.inl rfl) fun _ hmem => consumes_spec hmem

theorem timely_acked_once (key : Identity) (generation : Int) :
    (trace step .init calls).countP (acks key generation) ≤ 1 :=
  timely_once htimely key generation acked_phase_closed (by simp) rfl fun _ hmem => acks_spec hmem

theorem timely_acked_stays {earlier later : List Call} (hcalls : calls = earlier ++ later)
    {key : Identity} {slot : Slot} (hslot : (run step .init earlier).slots.get? key = some slot)
    (hacked : slot.status = .acked) :
    Reached (run step .init calls) key slot.ref.generation (· = .acked) := by
  have hstable := reached_stable htimely key slot.ref.generation acked_phase_closed
  rw [hcalls, trace_append] at hstable
  rw [hcalls, run_append]
  exact run_stable step (P := fun state => Reached state key slot.ref.generation (· = .acked))
    (fun event hmem => hstable event (List.mem_append_right _ hmem))
    ⟨slot, hslot, .inr ⟨rfl, hacked⟩⟩

end Timely

/-- A run keeps every slot's lifecycle forward only, with one consume and one
acknowledgement of each generation, exactly when it holds no late report. -/
theorem forward_only_iff_no_late_report (calls : List Call) :
    ForwardOnly calls ↔ ∀ event ∈ trace step .init calls, ¬ Late event.before event.call := by
  constructor
  · intro hforward event hmem hlate
    obtain ⟨key, old, new, hok, hold, hnew, hgeneration, hback⟩ := late_moves_back hlate
    rw [step_of_mem_trace step hmem] at hok hnew
    exact hback (hforward.forward event hmem hok key old new hold hnew hgeneration)
  · intro htimely
    refine ⟨?_, timely_consumed_once htimely, timely_acked_once htimely,
      fun earlier later hcalls key slot => timely_acked_stays htimely hcalls⟩
    intro event hmem hok key old new hold hnew hgeneration
    obtain ⟨found, hfound, hmove⟩ := (event_accepts hmem hok).moves (wellFormed_before hmem)
      (htimely event hmem) hold
    rw [hnew] at hfound
    cases hfound
    obtain hnewer | ⟨_, hmoves⟩ := hmove
    · omega
    · exact hmoves

/-- A slot that is marked ready again after its consume is consumed twice. -/
theorem repeated_ready_consumes_twice :
    ¬ ForwardOnly
      [.register ⟨"req-1", "cache-1", 0, 4, 1⟩ "digest-a" "event-a",
        .mark_ready ⟨"req-1", "cache-1", 0, 4, 1⟩ "digest-a" "event-a",
        .consume ⟨"req-1", "cache-1", 0, 4, 1⟩ "digest-a",
        .mark_ready ⟨"req-1", "cache-1", 0, 4, 1⟩ "digest-a" "event-a",
        .consume ⟨"req-1", "cache-1", 0, 4, 1⟩ "digest-a"] := by
  intro hforward
  have honce := hforward.consumed_once ("req-1", "cache-1", 0, 4) 1
  revert honce
  decide

end vllm_kv_materialization.wavemat_seam_gate
