import KvMaterialization.WavematSeamGate.Lifecycle

open python machine

namespace vllm_kv_materialization.wavemat_seam_gate

/-- The run has acknowledged a generation of an identity. -/
def Acknowledged (calls : List Call) (key : Identity) (generation : Int) : Prop :=
  ∃ event ∈ trace step .init calls, acks key generation event = true

/-- The reference of an identity in a generation. -/
def refAt (key : Identity) (generation : Int) : LayerGroupRef :=
  ⟨key.1, key.2.1, key.2.2.1, key.2.2.2, generation⟩

/-- The references `recover` returns for one identity. -/
def recovered (state : WavematGateState) (key : Identity) : List LayerGroupRef :=
  state.recover.1.filter (fun ref => ref.identity = key)

/-- What `recover` says after a run: the current reference of every identity whose
current generation is not acknowledged, once, and nothing else. It logs an orphan
rejection if there is any, and leaves the gate as it was. -/
structure RecoveryComplete (calls : List Call) : Prop where
  unacked : ∀ key generation, (run step .init calls).last_generation.get? key = some generation →
    ¬ Acknowledged calls key generation →
      recovered (run step .init calls) key = [refAt key generation]
  acked : ∀ key generation, (run step .init calls).last_generation.get? key = some generation →
    Acknowledged calls key generation → recovered (run step .init calls) key = []
  unregistered : ∀ key, (run step .init calls).last_generation.get? key = none →
    recovered (run step .init calls) key = []
  audited : (run step .init calls).recover.2.rejections = (run step .init calls).rejections ++
    if (run step .init calls).recover.1 = [] then []
    else [⟨.orphan_after_recovery, .orphan_slots (run step .init calls).recover.1.length⟩]
  slots : (run step .init calls).recover.2.slots = (run step .init calls).slots
  last_generation : (run step .init calls).recover.2.last_generation =
    (run step .init calls).last_generation

/-- The statuses `recover` returns a slot in. -/
def Status.Pending (status : Status) : Prop := status ∈ [Status.registered, .ready, .consumed]

instance (status : Status) : Decidable status.Pending := by
  unfold Status.Pending
  infer_instance

/-- The calls that part the statuses from the acknowledgements: a load failure that
meets its own slot while it is pending, and a readiness report that meets its own
slot once it is acked. -/
def Miscounts (state : WavematGateState) : Call → Prop
  | .mark_load_failure ref => ∃ slot, state.slots.get? ref.identity = some slot ∧
      slot.ref.generation = ref.generation ∧ slot.status.Pending
  | .mark_ready ref digest _ => ∃ slot, state.slots.get? ref.identity = some slot ∧
      slot.ref.generation = ref.generation ∧ slot.digest = digest ∧ slot.status = .acked
  | _ => False

theorem recover_rejections (state : WavematGateState) :
    state.recover.2.rejections = state.rejections ++
      if state.recover.1 = [] then []
      else [⟨.orphan_after_recovery, .orphan_slots state.recover.1.length⟩] := by
  by_cases hnone : state.recover.1 = []
  · rw [if_pos hnone, List.append_nil]
    unfold WavematGateState.recover at hnone ⊢
    dsimp only at hnone ⊢
    rw [if_neg (not_not.mpr hnone)]
  · rw [if_neg hnone]
    unfold WavematGateState.recover at hnone ⊢
    dsimp only at hnone ⊢
    rw [if_pos hnone]

/-- `recover` returns the reference of the identity's own slot while it is pending. -/
theorem recovered_eq {state : WavematGateState} (hwell : WellFormed state) (key : Identity) :
    recovered state key =
      ((state.slots.get? key).toList.filter (fun slot => slot.status.Pending)).map Slot.ref := by
  have hname := state.slots.values_filter_name (fun slot => slot.ref.identity) hwell.identity key
  rw [← hname, List.filter_filter]
  unfold recovered WavematGateState.recover WavematGateState.orphans
  dsimp only
  rw [List.filter_map, List.filter_filter]
  congr 2
  funext slot
  simp [Status.Pending, Bool.and_comm]

/-- A slot is pending exactly as long as its generation is not acknowledged. -/
def Faithful (calls : List Call) : Prop :=
  ∀ key slot, (run step .init calls).slots.get? key = some slot →
    (slot.status.Pending ↔ ¬ Acknowledged calls key slot.ref.generation)

theorem ref_eq_refAt {ref : LayerGroupRef} {key : Identity} (hidentity : ref.identity = key) :
    ref = refAt key ref.generation := by
  subst hidentity
  rfl

theorem recoveryComplete_iff_faithful (calls : List Call) : RecoveryComplete calls ↔ Faithful calls := by
  have hwell := wellFormed_run calls
  constructor
  · intro hcomplete key slot hslot
    have hlast := hwell.generation key slot hslot
    have hrecovered := recovered_eq hwell key
    rw [hslot, Option.toList_some] at hrecovered
    by_cases hacknowledged : Acknowledged calls key slot.ref.generation
    · rw [hcomplete.acked key _ hlast hacknowledged] at hrecovered
      have hnot : ¬ slot.status.Pending := by
        intro hpending
        simp [hpending] at hrecovered
      exact ⟨fun hpending => absurd hpending hnot, fun h => absurd hacknowledged h⟩
    · rw [hcomplete.unacked key _ hlast hacknowledged] at hrecovered
      refine ⟨fun _ => hacknowledged, fun _ => ?_⟩
      by_contra hnot
      simp [hnot] at hrecovered
  · intro hfaithful
    have hslot_of_last : ∀ key generation,
        (run step .init calls).last_generation.get? key = some generation →
        ∃ slot, (run step .init calls).slots.get? key = some slot ∧ slot.ref.generation = generation := by
      intro key generation hlast
      have hkey : key ∈ (run step .init calls).slots.keys := by
        rw [hwell.same_keys]
        exact (Dict.mem_keys_iff _ _).mpr ⟨generation, hlast⟩
      obtain ⟨slot, hslot⟩ := (Dict.mem_keys_iff _ _).mp hkey
      have hgeneration := hwell.generation key slot hslot
      rw [hlast, Option.some.injEq] at hgeneration
      exact ⟨slot, hslot, hgeneration.symm⟩
    refine ⟨?_, ?_, ?_, recover_rejections _, (recover_frame _).1, (recover_frame _).2⟩
    · intro key generation hlast hacknowledged
      obtain ⟨slot, hslot, rfl⟩ := hslot_of_last key generation hlast
      have hpending := (hfaithful key slot hslot).mpr hacknowledged
      rw [recovered_eq hwell, hslot]
      simp only [Option.toList_some, List.filter_cons, hpending, decide_true, if_true, List.filter_nil,
        List.map_cons, List.map_nil]
      rw [← ref_eq_refAt (hwell.identity key slot hslot)]
    · intro key generation hlast hacknowledged
      obtain ⟨slot, hslot, rfl⟩ := hslot_of_last key generation hlast
      have hpending : ¬ slot.status.Pending :=
        fun hpending => (hfaithful key slot hslot).mp hpending hacknowledged
      rw [recovered_eq hwell, hslot]
      simp [hpending]
    · intro key hlast
      have hnone : (run step .init calls).slots.get? key = none := by
        cases hslot : (run step .init calls).slots.get? key with
        | none => rfl
        | some slot =>
          have hgeneration := hwell.generation key slot hslot
          rw [hlast] at hgeneration
          cases hgeneration
      rw [recovered_eq hwell, hnone]
      rfl

theorem acknowledged_snoc (calls : List Call) (call : Call) (key : Identity) (generation : Int) :
    Acknowledged (calls ++ [call]) key generation ↔ Acknowledged calls key generation ∨
      acks key generation ⟨run step .init calls, call, (step (run step .init calls) call).1,
        (step (run step .init calls) call).2⟩ = true := by
  unfold Acknowledged
  rw [trace_snoc]
  simp only [List.mem_append, List.mem_singleton]
  constructor
  · rintro ⟨event, hmem | rfl, hacks⟩
    · exact .inl ⟨event, hmem, hacks⟩
    · exact .inr hacks
  · rintro (⟨event, hmem, hacks⟩ | hacks)
    · exact ⟨event, .inl hmem, hacks⟩
    · exact ⟨_, .inr rfl, hacks⟩

/-- What is acknowledged has been registered, and is no newer than the slot. -/
theorem Acknowledged.le_slot {calls : List Call} {key : Identity} {generation : Int}
    (hacknowledged : Acknowledged calls key generation) :
    ∃ slot, (run step .init calls).slots.get? key = some slot ∧ generation ≤ slot.ref.generation := by
  induction calls using List.reverseRecOn with
  | nil =>
    obtain ⟨event, hmem, _⟩ := hacknowledged
    cases hmem
  | append_singleton calls call ih =>
    have hwell := wellFormed_run calls
    have hgrows : ∀ old, (run step .init calls).slots.get? key = some old →
        ∃ new, (step (run step .init calls) call).2.slots.get? key = some new ∧
          old.ref.generation ≤ new.ref.generation := by
      intro old hold
      obtain ⟨-, haccepts⟩ | ⟨violation, hraise⟩ := step_settles (run step .init calls) call
      · exact haccepts.grows hwell hold
      · rw [hraise]
        exact ⟨old, hold, Int.le_refl _⟩
    rw [run_snoc]
    obtain hearlier | hnow := (acknowledged_snoc calls call key generation).mp hacknowledged
    · obtain ⟨old, hold, hle⟩ := ih hearlier
      obtain ⟨new, hnew, hge⟩ := hgrows old hold
      exact ⟨new, hnew, Int.le_trans hle hge⟩
    · have hmem : (⟨run step .init calls, call, (step (run step .init calls) call).1,
          (step (run step .init calls) call).2⟩ : Event WavematGateState Call Reply) ∈
          trace step .init (calls ++ [call]) := by
        rw [trace_snoc]
        exact List.mem_append_right _ (List.mem_singleton.mpr rfl)
      obtain ⟨slot, hslot, hgeneration, -⟩ := (acks_spec hmem hnow).after
      exact ⟨slot, hslot, Int.le_of_eq (by rw [hgeneration])⟩

/-- A miscounting call is accepted, and parts the status it leaves behind from the
acknowledgements so far. -/
theorem Miscounts.not_faithful {calls : List Call} {call : Call} (hfaithful : Faithful calls)
    (hmiscounts : Miscounts (run step .init calls) call) : ¬ Faithful (calls ++ [call]) := by
  intro hafter
  cases call with
  | mark_load_failure ref =>
    obtain ⟨slot, hslot, hgeneration, hpending⟩ := hmiscounts
    have hstep := step_of_advance hslot hgeneration .mark_load_failure
    have hacknowledged := (hfaithful _ slot hslot).mp hpending
    have hnew := hafter ref.identity { slot with status := .load_failed }
      (by rw [run_snoc, hstep]; exact Dict.get?_set_self _ _ _)
    rw [acknowledged_snoc] at hnew
    have hpending' := hnew.mpr (by simpa [acks] using hacknowledged)
    simp [Status.Pending] at hpending'
  | mark_ready ref digest ready_event =>
    obtain ⟨slot, hslot, hgeneration, rfl, hacked⟩ := hmiscounts
    have hfailed : slot.status ≠ .load_failed := by simp [hacked]
    have hstep := step_of_advance hslot hgeneration (.mark_ready ready_event hfailed)
    have hnew := hafter ref.identity { slot with ready_event, status := .ready }
      (by rw [run_snoc, hstep]; exact Dict.get?_set_self _ _ _)
    have hunacked := hnew.mp (by simp [Status.Pending])
    have hpending := (hfaithful _ slot hslot).mpr
      (fun hearlier => hunacked ((acknowledged_snoc ..).mpr (.inl hearlier)))
    simp [Status.Pending, hacked] at hpending
  | register | consume | ack | recover => exact hmiscounts

/-- Every other accepted operation moves its slot as it moves the acknowledgements. -/
theorem Advance.pending_iff {calls : List Call} {ref : LayerGroupRef} {slot slot' : Slot} {call : Call}
    (hadvance : Advance ref slot call slot')
    (hslot : (run step .init calls).slots.get? ref.identity = some slot)
    (hgeneration : slot.ref.generation = ref.generation)
    (hcounts : ¬ Miscounts (run step .init calls) call)
    (hold : slot.status.Pending ↔ ¬ Acknowledged calls ref.identity slot.ref.generation) :
    slot'.status.Pending ↔ ¬ Acknowledged (calls ++ [call]) ref.identity slot'.ref.generation := by
  have hstep := step_of_advance hslot hgeneration hadvance
  rw [acknowledged_snoc, hstep, hadvance.ref_eq, not_or, ← hold]
  cases hadvance with
  | mark_load_failure =>
    have hnot : ¬ slot.status.Pending := fun hpending => hcounts ⟨slot, hslot, hgeneration, hpending⟩
    simp [Status.Pending] at hnot ⊢
    tauto
  | mark_ready ready_event hfailed =>
    have hnot : slot.status ≠ .acked := fun hacked => hcounts ⟨slot, hslot, hgeneration, rfl, hacked⟩
    have hpending : slot.status.Pending := by
      cases hstatus : slot.status with
      | registered | ready | consumed => simp [Status.Pending]
      | acked => exact absurd hstatus hnot
      | load_failed => exact absurd hstatus hfailed
    simp [acks, hpending]
    simp [Status.Pending]
  | consume hready =>
    simp [acks, Status.Pending, hready]
  | ack hconsumed =>
    simp [acks, Status.Pending, hgeneration, Reply.succeeded]

theorem acks_frame {state : WavematGateState} {ref : LayerGroupRef} {slot slot' : Slot} {call : Call}
    (hadvance : Advance ref slot call slot') {key : Identity} (hne : key ≠ ref.identity)
    (generation : Int) (reply : Reply) (after : WavematGateState) :
    acks key generation ⟨state, call, reply, after⟩ = false := by
  cases hadvance with
  | ack hconsumed => simp [acks, Ne.symm hne]
  | mark_load_failure | mark_ready | consume => rfl

theorem Faithful.snoc {calls : List Call} {call : Call} (hfaithful : Faithful calls)
    (hcounts : ¬ Miscounts (run step .init calls) call) : Faithful (calls ++ [call]) := by
  intro key slot hslot
  rw [run_snoc] at hslot
  obtain ⟨hok, haccepts⟩ | ⟨violation, hraise⟩ := step_settles (run step .init calls) call
  · generalize hafter : (step (run step .init calls) call).2 = after at haccepts hslot
    cases haccepts with
    | register hfree hnewer =>
      rename_i ref digest ready_event
      rw [acknowledged_snoc, hafter]
      simp only [Dict.get?_set] at hslot
      split at hslot
      · rename_i hkey
        cases hslot
        have hfresh : ¬ Acknowledged calls key ref.generation := by
          intro hearlier
          obtain ⟨old, hold, hle⟩ := hearlier.le_slot
          rw [hkey] at hold
          have hlt := hnewer _ ((wellFormed_run calls).generation _ _ hold)
          omega
        simp [acks, hfresh, Status.Pending]
      · simpa [acks] using hfaithful key slot hslot
    | advance hold hgeneration hadvance =>
      rename_i ref old new
      simp only [Dict.get?_set] at hslot
      split at hslot
      · rename_i hkey
        subst hkey
        cases hslot
        exact hadvance.pending_iff hold hgeneration hcounts (hfaithful _ old hold)
      · rename_i hne
        rw [acknowledged_snoc, acks_frame hadvance hne]
        simpa using hfaithful key slot hslot
    | recover =>
      rw [(recover_frame _).1] at hslot
      rw [acknowledged_snoc]
      simpa [acks] using hfaithful key slot hslot
  · rw [hraise] at hslot
    rw [acknowledged_snoc, hraise]
    have hacks : ∀ after, acks key slot.ref.generation
        ⟨run step .init calls, call, .rejected violation, after⟩ = false := by
      intro after
      cases call <;> rfl
    rw [hacks]
    simpa using hfaithful key slot hslot

theorem faithful_snoc_iff {calls : List Call} {call : Call} (hfaithful : Faithful calls) :
    Faithful (calls ++ [call]) ↔ ¬ Miscounts (run step .init calls) call :=
  ⟨fun hafter hmiscounts => hmiscounts.not_faithful hfaithful hafter, hfaithful.snoc⟩

/-- `recover` is complete all along a run exactly if no load failure meets a pending
slot of its own generation in it, and no readiness report an acked one. -/
theorem recovery_complete_iff_no_miscount (calls : List Call) :
    (∀ earlier later, calls = earlier ++ later → RecoveryComplete earlier) ↔
      ∀ event ∈ trace step .init calls, ¬ Miscounts event.before event.call := by
  induction calls using List.reverseRecOn with
  | nil =>
    have hempty : RecoveryComplete [] := by
      rw [recoveryComplete_iff_faithful]
      intro key slot hslot
      simp [run, WavematGateState.init] at hslot
    constructor
    · intro _ event hmem
      cases hmem
    · intro _ earlier later hcalls
      rw [(List.append_eq_nil_iff.mp hcalls.symm).1]
      exact hempty
  | append_singleton calls call ih =>
    rw [trace_snoc]
    simp only [List.forall_mem_append, List.forall_mem_singleton]
    rw [← ih]
    constructor
    · intro hcomplete
      have hbefore := hcomplete calls [call] rfl
      have hafter := hcomplete (calls ++ [call]) [] (List.append_nil _).symm
      rw [recoveryComplete_iff_faithful] at hbefore hafter
      refine ⟨?_, (faithful_snoc_iff hbefore).mp hafter⟩
      intro earlier later hcalls
      exact hcomplete earlier (later ++ [call]) (by rw [hcalls, List.append_assoc])
    · rintro ⟨hearlier, hcounts⟩ earlier later hcalls
      have hbefore := hearlier calls [] (List.append_nil _).symm
      rw [recoveryComplete_iff_faithful] at hbefore
      cases later using List.reverseRecOn with
      | nil =>
        rw [List.append_nil] at hcalls
        rw [← hcalls, recoveryComplete_iff_faithful]
        exact hbefore.snoc hcounts
      | append_singleton later last =>
        rw [← List.append_assoc] at hcalls
        obtain ⟨hcalls, _⟩ := List.append_inj' hcalls rfl
        exact hearlier earlier later hcalls

/-- The slot of a failed load is not acked, and `recover` does not return it. -/
theorem failed_load_not_recovered :
    ¬ RecoveryComplete
      [.register ⟨"req-1", "cache-1", 0, 4, 1⟩ "digest-a" "event-a",
        .mark_load_failure ⟨"req-1", "cache-1", 0, 4, 1⟩] := by
  intro hcomplete
  have hreturned := hcomplete.unacked ("req-1", "cache-1", 0, 4) 1 (by decide)
    (by rintro ⟨event, hmem, hacks⟩; revert event; decide)
  revert hreturned
  decide

end vllm_kv_materialization.wavemat_seam_gate
