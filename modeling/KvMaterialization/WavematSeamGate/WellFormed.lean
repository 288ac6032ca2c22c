import KvMaterialization.Machine
import KvMaterialization.WavematSeamGate.Steps

open python machine

namespace vllm_kv_materialization.wavemat_seam_gate

/-- What ties the two maps of a gate together: the same keys in the same order,
every slot filed under its own identity, and every slot at the last generation
registered there. -/
structure WellFormed (state : WavematGateState) : Prop where
  same_keys : state.slots.keys = state.last_generation.keys
  identity : ∀ key slot, state.slots.get? key = some slot → slot.ref.identity = key
  generation : ∀ key slot, state.slots.get? key = some slot →
    state.last_generation.get? key = some slot.ref.generation

theorem wellFormed_init : WellFormed .init :=
  ⟨rfl, by simp [WavematGateState.init], by simp [WavematGateState.init]⟩

theorem WellFormed.of_frame {state state' : WavematGateState} (hwell : WellFormed state)
    (hslots : state'.slots = state.slots) (hlast : state'.last_generation = state.last_generation) :
    WellFormed state' := by
  obtain ⟨hkeys, hidentity, hgeneration⟩ := hwell
  refine ⟨?_, ?_, ?_⟩
  · rw [hslots, hlast]
    exact hkeys
  · rw [hslots]
    exact hidentity
  · rw [hslots, hlast]
    exact hgeneration

theorem WellFormed.accepts {state state' : WavematGateState} {call : Call}
    (hwell : WellFormed state) (haccepts : Accepts state call state') : WellFormed state' := by
  cases haccepts with
  | register hfree hnewer =>
    rename_i ref digest ready_event
    refine ⟨?_, ?_, ?_⟩
    · rw [Dict.keys_set, Dict.keys_set, hwell.same_keys]
    · intro key slot hget
      simp only [Dict.get?_set] at hget
      split at hget
      · rename_i hkey
        cases hget
        exact hkey.symm
      · exact hwell.identity key slot hget
    · intro key slot hget
      simp only [Dict.get?_set] at hget ⊢
      split at hget
      · rename_i hkey
        cases hget
        rw [if_pos hkey]
      · rename_i hkey
        rw [if_neg hkey]
        exact hwell.generation key slot hget
  | advance hslot hgeneration hadvance =>
    rename_i ref slot slot'
    have href := hadvance.ref_eq
    have hpresent : ref.identity ∈ state.slots.keys := (Dict.mem_keys_iff _ _).mpr ⟨slot, hslot⟩
    refine ⟨?_, ?_, ?_⟩
    · simp only [Dict.keys_set, if_pos hpresent]
      exact hwell.same_keys
    · intro key found hget
      simp only [Dict.get?_set] at hget
      split at hget
      · rename_i hkey
        cases hget
        rw [href, hwell.identity _ _ hslot, hkey]
      · exact hwell.identity key found hget
    · intro key found hget
      simp only [Dict.get?_set] at hget
      split at hget
      · rename_i hkey
        cases hget
        rw [hkey, href]
        exact hwell.generation _ _ hslot
      · exact hwell.generation key found hget
  | recover => exact hwell.of_frame (recover_frame state).1 (recover_frame state).2

theorem wellFormed_step (state : WavematGateState) (call : Call) (hwell : WellFormed state) :
    WellFormed (step state call).2 := by
  cases hok : (step state call).1.succeeded with
  | true => exact hwell.accepts (accepts_of_succeeded hok)
  | false =>
    obtain ⟨hslots, hlast⟩ := frame_of_not_succeeded hok
    exact hwell.of_frame hslots hlast

/-- Every state that calls lead to from the empty gate is well formed. -/
theorem wellFormed_run (calls : List Call) : WellFormed (run step .init calls) :=
  run_invariant step wellFormed_step wellFormed_init calls

theorem wellFormed_before {calls : List Call} {event : Event WavematGateState Call Reply}
    (hmem : event ∈ trace step .init calls) : WellFormed event.before := by
  obtain ⟨earlier, _, _, hbefore, _⟩ := (mem_trace_iff step).mp hmem
  rw [hbefore]
  exact wellFormed_run earlier

end vllm_kv_materialization.wavemat_seam_gate
