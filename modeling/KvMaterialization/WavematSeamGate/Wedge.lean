import KvMaterialization.WavematSeamGate.WellFormed

open python machine

namespace vllm_kv_materialization.wavemat_seam_gate

def LoadFailed (state : WavematGateState) (key : Identity) : Prop :=
  ∃ slot, state.slots.get? key = some slot ∧ slot.status = .load_failed

/-- Some calls lead to a state that accepts a registration of the identity in a
generation beyond the one it has now. -/
def Escapable (state : WavematGateState) (key : Identity) : Prop :=
  ∃ calls ref digest ready_event, ref.identity = key ∧
    (∀ last, state.last_generation.get? key = some last → last < ref.generation) ∧
    (step (run step state calls) (.register ref digest ready_event)).1.succeeded = true

variable {state : WavematGateState} {key : Identity}

/-- Every operation that would take a slot out of `load_failed` is refused there. -/
theorem loadFailed_step (hfailed : LoadFailed state key) (call : Call) :
    LoadFailed (step state call).2 key := by
  obtain ⟨slot, hslot, hstatus⟩ := hfailed
  obtain ⟨-, haccepts⟩ | ⟨violation, hraise⟩ := step_settles state call
  · generalize (step state call).2 = after at haccepts ⊢
    cases haccepts with
    | register hfree hnewer =>
      rename_i ref digest ready_event
      have hne : key ≠ ref.identity := by
        rintro rfl
        rw [hfree slot hslot] at hstatus
        cases hstatus
      exact ⟨slot, by rw [Dict.get?_set_of_ne _ _ hne, hslot], hstatus⟩
    | advance hold hgeneration hadvance =>
      rename_i ref old new
      by_cases hkey : key = ref.identity
      · subst hkey
        rw [hslot, Option.some.injEq] at hold
        subst hold
        refine ⟨new, Dict.get?_set_self _ _ _, ?_⟩
        cases hadvance with
        | mark_load_failure => rfl
        | mark_ready ready_event hready => exact absurd hstatus hready
        | consume hready => rw [hstatus] at hready; cases hready
        | ack hconsumed => rw [hstatus] at hconsumed; cases hconsumed
      · exact ⟨slot, by rw [Dict.get?_set_of_ne _ _ hkey, hslot], hstatus⟩
    | recover =>
      rw [← (recover_frame state).1] at hslot
      exact ⟨slot, hslot, hstatus⟩
  · rw [hraise]
    exact ⟨slot, hslot, hstatus⟩

theorem loadFailed_run (hfailed : LoadFailed state key) (calls : List Call) :
    LoadFailed (run step state calls) key :=
  run_invariant step (P := fun state => LoadFailed state key)
    (fun _ call hbefore => loadFailed_step hbefore call) hfailed calls

theorem not_escapable_of_loadFailed (hfailed : LoadFailed state key) : ¬ Escapable state key := by
  rintro ⟨calls, ref, digest, ready_event, rfl, _, hok⟩
  obtain ⟨slot, hslot, hstatus⟩ := loadFailed_run hfailed calls
  have haccepts := accepts_of_succeeded hok
  generalize (step _ _).2 = after at haccepts
  cases haccepts with
  | register hfree hnewer =>
    rw [hfree slot hslot] at hstatus
    cases hstatus
  | advance _ _ hadvance => cases hadvance

/-- Some calls lead to a state in which the slot of the identity is acked, in the
generation it has now. -/
def Ackable (state : WavematGateState) (key : Identity) : Prop :=
  ∃ calls slot, (run step state calls).slots.get? key = some slot ∧ slot.status = .acked ∧
    (run step state calls).last_generation = state.last_generation

/-- One operation on the way to the acknowledgement. -/
theorem ackable_of_advance {slot slot' : Slot} {call : Call}
    (hslot : state.slots.get? slot.ref.identity = some slot) (hadvance : Advance slot.ref slot call slot')
    (hrest : ∀ after : WavematGateState, after.slots.get? slot'.ref.identity = some slot' →
      Ackable after slot'.ref.identity) :
    Ackable state slot.ref.identity := by
  have hstep := step_of_advance hslot rfl hadvance
  have hackable := hrest { state with slots := state.slots.set slot.ref.identity slot' }
    (by rw [hadvance.ref_eq]; exact Dict.get?_set_self _ _ _)
  rw [hadvance.ref_eq] at hackable
  obtain ⟨calls, acked, hacked, hstatus, hlast⟩ := hackable
  have hrun : run step state (call :: calls) =
      run step { state with slots := state.slots.set slot.ref.identity slot' } calls := by
    rw [run, hstep]
  exact ⟨call :: calls, acked, by rw [hrun]; exact hacked, hstatus, by rw [hrun]; exact hlast⟩

theorem ackable_of_consumed {slot : Slot} (hslot : state.slots.get? slot.ref.identity = some slot)
    (hstatus : slot.status = .consumed) : Ackable state slot.ref.identity := by
  apply ackable_of_advance hslot (.ack hstatus)
  intro after hafter
  exact ⟨[], _, hafter, rfl, rfl⟩

theorem ackable_of_ready {slot : Slot} (hslot : state.slots.get? slot.ref.identity = some slot)
    (hstatus : slot.status = .ready) : Ackable state slot.ref.identity := by
  apply ackable_of_advance hslot (.consume hstatus)
  intro after hafter
  exact ackable_of_consumed hafter rfl

theorem ackable_of_not_failed {slot : Slot} (hslot : state.slots.get? slot.ref.identity = some slot)
    (hstatus : slot.status ≠ .load_failed) : Ackable state slot.ref.identity := by
  cases hcase : slot.status with
  | registered =>
    apply ackable_of_advance hslot (.mark_ready slot.ready_event hstatus)
    intro after hafter
    exact ackable_of_ready hafter rfl
  | ready => exact ackable_of_ready hslot hcase
  | consumed => exact ackable_of_consumed hslot hcase
  | acked => exact ⟨[], slot, hslot, hcase, rfl⟩
  | load_failed => exact absurd hcase hstatus

/-- An identity can be put in a generation beyond its last one as soon as it has no
slot or an acked one. -/
theorem registers_next (key : Identity)
    (hfree : ∀ previous, state.slots.get? key = some previous → previous.status = .acked) :
    ∃ ref digest ready_event, ref.identity = key ∧
      (∀ last, state.last_generation.get? key = some last → last < ref.generation) ∧
      (step state (.register ref digest ready_event)).1.succeeded = true := by
  let next : LayerGroupRef :=
    ⟨key.1, key.2.1, key.2.2.1, key.2.2.2, (state.last_generation.get? key).getD 0 + 1⟩
  have hidentity : next.identity = key := rfl
  have hnewer : ∀ last, state.last_generation.get? key = some last → last < next.generation := by
    intro last hlast
    simp only [next, hlast, Option.getD_some]
    omega
  refine ⟨next, "", "", hidentity, hnewer, ?_⟩
  rw [step_of_register next "" "" hfree hnewer]
  rfl

theorem escapable_of_not_failed (hwell : WellFormed state) (hworks : ¬ LoadFailed state key) :
    Escapable state key := by
  have hack : ∃ calls, (∀ previous, (run step state calls).slots.get? key = some previous →
      previous.status = .acked) ∧ (run step state calls).last_generation = state.last_generation := by
    cases hslot : state.slots.get? key with
    | none =>
      refine ⟨[], ?_, rfl⟩
      intro previous hprevious
      rw [run, hslot] at hprevious
      cases hprevious
    | some slot =>
      obtain rfl := hwell.identity key slot hslot
      obtain ⟨calls, acked, hacked, hstatus, hlast⟩ :=
        ackable_of_not_failed hslot (fun hfailed => hworks ⟨slot, hslot, hfailed⟩)
      refine ⟨calls, ?_, hlast⟩
      intro previous hprevious
      rw [hacked, Option.some.injEq] at hprevious
      rw [← hprevious]
      exact hstatus
  obtain ⟨calls, hfree, hlast⟩ := hack
  obtain ⟨ref, digest, ready_event, hidentity, hnewer, hok⟩ := registers_next key hfree
  rw [hlast] at hnewer
  exact ⟨calls, ref, digest, ready_event, hidentity, hnewer, hok⟩

/-- The identities of a reachable gate that a newer generation can still be
registered in are those whose slot is not load-failed; the others stay as they are. -/
theorem escapable_iff_not_load_failed (calls : List Call) (key : Identity) :
    (Escapable (run step .init calls) key ↔ ¬ LoadFailed (run step .init calls) key) ∧
      (LoadFailed (run step .init calls) key →
        ∀ later, LoadFailed (run step .init (calls ++ later)) key) := by
  refine ⟨⟨?_, escapable_of_not_failed (wellFormed_run calls)⟩, ?_⟩
  · intro hescapable hfailed
    exact not_escapable_of_loadFailed hfailed hescapable
  · intro hfailed later
    rw [run_append]
    exact loadFailed_run hfailed later

/-- One failed load of its first generation wedges a layer group. -/
theorem failed_load_wedges :
    ¬ Escapable
      (run step .init
        [.register ⟨"req-1", "cache-1", 0, 4, 1⟩ "digest-a" "event-a",
          .mark_load_failure ⟨"req-1", "cache-1", 0, 4, 1⟩])
      ("req-1", "cache-1", 0, 4) := by
  apply not_escapable_of_loadFailed
  exact ⟨⟨⟨"req-1", "cache-1", 0, 4, 1⟩, "digest-a", "event-a", .load_failed⟩, by decide, rfl⟩

end vllm_kv_materialization.wavemat_seam_gate
