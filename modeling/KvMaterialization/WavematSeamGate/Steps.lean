import KvMaterialization.WavematSeamGate.State

open python

namespace vllm_kv_materialization.wavemat_seam_gate

/-- What each operation on a registered layer group asks of its slot, and the
slot it leaves behind. The generation check, common to all four, is made before. -/
inductive Advance (ref : LayerGroupRef) (slot : Slot) : Call → Slot → Prop where
  | mark_load_failure :
    Advance ref slot (.mark_load_failure ref) { slot with status := .load_failed }
  | mark_ready (ready_event : String) (hstatus : slot.status ≠ .load_failed) :
    Advance ref slot (.mark_ready ref slot.digest ready_event)
      { slot with ready_event, status := .ready }
  | consume (hstatus : slot.status = .ready) :
    Advance ref slot (.consume ref slot.digest) { slot with status := .consumed }
  | ack (hstatus : slot.status = .consumed) :
    Advance ref slot (.ack ref slot.digest) { slot with status := .acked }

theorem Advance.ref_eq {ref : LayerGroupRef} {slot slot' : Slot} {call : Call}
    (hadvance : Advance ref slot call slot') : slot'.ref = slot.ref := by
  cases hadvance <;> rfl

theorem Advance.digest_eq {ref : LayerGroupRef} {slot slot' : Slot} {call : Call}
    (hadvance : Advance ref slot call slot') : slot'.digest = slot.digest := by
  cases hadvance <;> rfl

/-- What an accepted call asks of the state and the state it leaves behind. -/
inductive Accepts (state : WavematGateState) : Call → WavematGateState → Prop where
  | register {ref : LayerGroupRef} {digest ready_event : String}
    (hfree : ∀ previous, state.slots.get? ref.identity = some previous → previous.status = .acked)
    (hnewer : ∀ last, state.last_generation.get? ref.identity = some last → last < ref.generation) :
    Accepts state (.register ref digest ready_event)
      { state with
        slots := state.slots.set ref.identity ⟨ref, digest, ready_event, .registered⟩
        last_generation := state.last_generation.set ref.identity ref.generation }
  | advance {ref : LayerGroupRef} {slot slot' : Slot} {call : Call}
    (hslot : state.slots.get? ref.identity = some slot)
    (hgeneration : slot.ref.generation = ref.generation)
    (hadvance : Advance ref slot call slot') :
    Accepts state call { state with slots := state.slots.set ref.identity slot' }
  | recover : Accepts state .recover state.recover.2

/-- A call settles when it is accepted, or raises a rejection that the log
records and that changes nothing else. -/
def Settles (state : WavematGateState) (call : Call)
    (result : Except SeamGateViolation Unit × WavematGateState) : Prop :=
  (result.1 = .ok () ∧ Accepts state call result.2) ∨
    ∃ violation, result =
      (.error violation, { state with rejections := state.rejections ++ [violation] })

theorem violation_settles (state : WavematGateState) (call : Call) (code : ViolationCode)
    (message : Message) : Settles state call (state.violation code message) :=
  .inr ⟨⟨code, message⟩, rfl⟩

theorem register_generation_settles (state : WavematGateState) (ref : LayerGroupRef)
    (digest ready_event : String)
    (hfree : ∀ previous, state.slots.get? ref.identity = some previous → previous.status = .acked) :
    Settles state (.register ref digest ready_event)
      (state.register_generation ref digest ready_event) := by
  unfold WavematGateState.register_generation
  cases hlast : state.last_generation.get? ref.identity with
  | none => exact .inl ⟨rfl, .register hfree (by simp [hlast])⟩
  | some last_generation =>
    by_cases hold : ref.generation ≤ last_generation
    · simp only [hold, if_true]
      exact violation_settles _ _ _ _
    · simp only [hold, if_false]
      refine .inl ⟨rfl, .register hfree ?_⟩
      intro last hget
      rw [hlast] at hget
      cases hget
      omega

theorem register_settles (state : WavematGateState) (ref : LayerGroupRef)
    (digest ready_event : String) :
    Settles state (.register ref digest ready_event) (state.register ref digest ready_event) := by
  unfold WavematGateState.register
  cases hslot : state.slots.get? ref.identity with
  | none => exact register_generation_settles state ref digest ready_event (by simp [hslot])
  | some previous =>
    by_cases hstatus : previous.status = .acked
    · simp only [hstatus, ne_eq, not_true_eq_false, if_false]
      apply register_generation_settles
      intro other hget
      rw [hslot] at hget
      cases hget
      exact hstatus
    · simp only [ne_eq, hstatus, not_false_eq_true, if_true]
      exact violation_settles _ _ _ _

theorem mark_load_failure_settles (state : WavematGateState) (ref : LayerGroupRef) :
    Settles state (.mark_load_failure ref) (state.mark_load_failure ref) := by
  simp only [WavematGateState.mark_load_failure]
  cases hslot : state.slots.get? ref.identity with
  | none => exact violation_settles _ _ _ _
  | some slot =>
    by_cases hgeneration : slot.ref.generation = ref.generation
    · simp only [hgeneration, ne_eq, not_true_eq_false, if_false]
      exact .inl ⟨rfl, .advance hslot hgeneration .mark_load_failure⟩
    · simp only [hgeneration, ne_eq, not_false_eq_true, if_true]
      exact violation_settles _ _ _ _

theorem mark_ready_settles (state : WavematGateState) (ref : LayerGroupRef)
    (digest ready_event : String) :
    Settles state (.mark_ready ref digest ready_event) (state.mark_ready ref digest ready_event) := by
  simp only [WavematGateState.mark_ready]
  cases hslot : state.slots.get? ref.identity with
  | none => exact violation_settles _ _ _ _
  | some slot =>
    dsimp only
    split
    · exact violation_settles _ _ _ _
    · rename_i hgeneration
      split
      · exact violation_settles _ _ _ _
      · rename_i hfailed
        split
        · exact violation_settles _ _ _ _
        · rename_i hdigest
          obtain rfl : slot.digest = digest := not_not.mp hdigest
          exact .inl ⟨rfl, .advance hslot (not_not.mp hgeneration) (.mark_ready ready_event hfailed)⟩

theorem consume_settles (state : WavematGateState) (ref : LayerGroupRef) (digest : String) :
    Settles state (.consume ref digest) (state.consume ref digest) := by
  simp only [WavematGateState.consume]
  cases hslot : state.slots.get? ref.identity with
  | none => exact violation_settles _ _ _ _
  | some slot =>
    dsimp only
    split
    · exact violation_settles _ _ _ _
    · rename_i hgeneration
      cases hstatus : slot.status with
      | registered | consumed | acked | load_failed =>
        simp only [reduceCtorEq, if_true, if_false]
        exact violation_settles _ _ _ _
      | ready =>
        simp only [reduceCtorEq, if_false]
        split
        · exact violation_settles _ _ _ _
        · rename_i hdigest
          obtain rfl : slot.digest = digest := not_not.mp hdigest
          exact .inl ⟨rfl, .advance hslot (not_not.mp hgeneration) (.consume hstatus)⟩

theorem ack_settles (state : WavematGateState) (ref : LayerGroupRef) (digest : String) :
    Settles state (.ack ref digest) (state.ack ref digest) := by
  simp only [WavematGateState.ack]
  cases hslot : state.slots.get? ref.identity with
  | none => exact violation_settles _ _ _ _
  | some slot =>
    dsimp only
    split
    · exact violation_settles _ _ _ _
    · rename_i hgeneration
      split
      · exact violation_settles _ _ _ _
      · rename_i hstatus
        split
        · exact violation_settles _ _ _ _
        · rename_i hdigest
          obtain rfl : slot.digest = digest := not_not.mp hdigest
          exact .inl ⟨rfl, .advance hslot (not_not.mp hgeneration) (.ack (not_not.mp hstatus))⟩

theorem Settles.step {state : WavematGateState} {call : Call}
    {result : Except SeamGateViolation Unit × WavematGateState} (hsettles : Settles state call result)
    (hstep : step state call = (Reply.ofResult result.1, result.2)) :
    ((step state call).1.succeeded = true ∧ Accepts state call (step state call).2) ∨
      ∃ violation, step state call =
        (.rejected violation, { state with rejections := state.rejections ++ [violation] }) := by
  obtain ⟨hok, haccepts⟩ | ⟨violation, hraise⟩ := hsettles
  · refine .inl ⟨?_, ?_⟩
    · rw [hstep, hok]
      rfl
    · rw [hstep]
      exact haccepts
  · refine .inr ⟨violation, ?_⟩
    rw [hstep, hraise]
    rfl

/-- Every call of a run settles, whatever its arguments. -/
theorem step_settles (state : WavematGateState) (call : Call) :
    ((step state call).1.succeeded = true ∧ Accepts state call (step state call).2) ∨
      ∃ violation, step state call =
        (.rejected violation, { state with rejections := state.rejections ++ [violation] }) := by
  cases call with
  | register ref digest ready_event => exact (register_settles state ref digest ready_event).step rfl
  | mark_load_failure ref => exact (mark_load_failure_settles state ref).step rfl
  | mark_ready ref digest ready_event => exact (mark_ready_settles state ref digest ready_event).step rfl
  | consume ref digest => exact (consume_settles state ref digest).step rfl
  | ack ref digest => exact (ack_settles state ref digest).step rfl
  | recover => exact .inl ⟨rfl, .recover⟩

/-- An operation whose slot is as it asks for succeeds. -/
theorem step_of_advance {state : WavematGateState} {ref : LayerGroupRef} {slot slot' : Slot}
    {call : Call} (hslot : state.slots.get? ref.identity = some slot)
    (hgeneration : slot.ref.generation = ref.generation) (hadvance : Advance ref slot call slot') :
    step state call = (.done, { state with slots := state.slots.set ref.identity slot' }) := by
  have hdone : ∀ result : Except SeamGateViolation Unit × WavematGateState,
      result = (.ok (), { state with slots := state.slots.set ref.identity slot' }) →
        result.map Reply.ofResult id =
          (.done, { state with slots := state.slots.set ref.identity slot' }) := by
    rintro result rfl
    rfl
  cases hadvance with
  | mark_load_failure =>
    refine hdone (state.mark_load_failure ref) ?_
    simp [WavematGateState.mark_load_failure, hslot, hgeneration]
  | mark_ready ready_event hstatus =>
    refine hdone (state.mark_ready ref slot.digest ready_event) ?_
    simp [WavematGateState.mark_ready, hslot, hgeneration, hstatus]
  | consume hstatus =>
    refine hdone (state.consume ref slot.digest) ?_
    simp [WavematGateState.consume, hslot, hgeneration, hstatus]
  | ack hstatus =>
    refine hdone (state.ack ref slot.digest) ?_
    simp [WavematGateState.ack, hslot, hgeneration, hstatus]

/-- So does a registration in an identity that is free for a newer generation. -/
theorem step_of_register {state : WavematGateState} (ref : LayerGroupRef) (digest ready_event : String)
    (hfree : ∀ previous, state.slots.get? ref.identity = some previous → previous.status = .acked)
    (hnewer : ∀ last, state.last_generation.get? ref.identity = some last → last < ref.generation) :
    (step state (.register ref digest ready_event)).1 = .done := by
  have hgeneration : (state.register_generation ref digest ready_event).1 = .ok () := by
    unfold WavematGateState.register_generation
    cases hlast : state.last_generation.get? ref.identity with
    | none => rfl
    | some last =>
      have hlt := hnewer last hlast
      have hnot : ¬ ref.generation ≤ last := by omega
      simp only [hnot, if_false]
      rfl
  have hregister : (state.register ref digest ready_event).1 = .ok () := by
    unfold WavematGateState.register
    cases hslot : state.slots.get? ref.identity with
    | none => exact hgeneration
    | some previous =>
      simp only [hfree previous hslot, ne_eq, not_true_eq_false, if_false]
      exact hgeneration
  exact congrArg Reply.ofResult hregister

theorem accepts_of_succeeded {state : WavematGateState} {call : Call}
    (hok : (step state call).1.succeeded = true) : Accepts state call (step state call).2 := by
  obtain ⟨_, haccepts⟩ | ⟨violation, hraise⟩ := step_settles state call
  · exact haccepts
  · rw [hraise] at hok
    cases hok

/-- A rejected call leaves slots and generations as they were. -/
theorem frame_of_not_succeeded {state : WavematGateState} {call : Call}
    (hrejected : (step state call).1.succeeded = false) :
    (step state call).2.slots = state.slots ∧
      (step state call).2.last_generation = state.last_generation := by
  obtain ⟨hok, _⟩ | ⟨violation, hraise⟩ := step_settles state call
  · rw [hok] at hrejected
    cases hrejected
  · rw [hraise]
    exact ⟨rfl, rfl⟩

theorem recover_frame (state : WavematGateState) :
    state.recover.2.slots = state.slots ∧
      state.recover.2.last_generation = state.last_generation := by
  simp only [WavematGateState.recover]
  split
  · exact ⟨rfl, rfl⟩
  · exact ⟨rfl, rfl⟩

end vllm_kv_materialization.wavemat_seam_gate
