import KvMaterialization.WavematSeamGate.WellFormed

open python machine

namespace vllm_kv_materialization.wavemat_seam_gate

/-- The accepted calls of a run from the empty gate, oldest first. -/
def accepted (calls : List Call) : List Call :=
  ((trace step .init calls).filter (fun event => event.reply.succeeded)).map Event.call

theorem accepted_snoc (calls : List Call) (call : Call) :
    accepted (calls ++ [call]) = accepted calls ++
      if (step (run step .init calls) call).1.succeeded = true then [call] else [] := by
  rw [accepted, trace_snoc, List.filter_append, List.map_append]
  congr 1
  split
  · rename_i hok
    simp [hok]
  · rename_i hok
    simp [hok]

/-- The calls that take one generation from registration to a status, all with
the digest it was registered with. Only the two events are free. -/
def stages (ref : LayerGroupRef) (digest registered_event ready_event : String) :
    Status → List Call
  | .registered | .load_failed => [.register ref digest registered_event]
  | .ready => [.register ref digest registered_event, .mark_ready ref digest ready_event]
  | .consumed => [.register ref digest registered_event, .mark_ready ref digest ready_event,
      .consume ref digest]
  | .acked => [.register ref digest registered_event, .mark_ready ref digest ready_event,
      .consume ref digest, .ack ref digest]

/-- A log contains, in order, the calls that brought a slot to its status. -/
def Recorded (log : List Call) (slot : Slot) : Prop :=
  ∃ registered_event ready_event,
    (stages slot.ref slot.digest registered_event ready_event slot.status).Sublist log

theorem Recorded.append {log : List Call} {slot : Slot} (hrecorded : Recorded log slot)
    (later : List Call) : Recorded (log ++ later) slot := by
  obtain ⟨registered_event, ready_event, hsublist⟩ := hrecorded
  exact ⟨registered_event, ready_event, hsublist.trans (List.sublist_append_left _ _)⟩

/-- Every status is reached from a registration, which its record starts with. -/
theorem Recorded.registered {log : List Call} {slot : Slot} (hrecorded : Recorded log slot) :
    ∃ registered_event, [Call.register slot.ref slot.digest registered_event].Sublist log := by
  obtain ⟨registered_event, ready_event, hsublist⟩ := hrecorded
  refine ⟨registered_event, List.Sublist.trans ?_ hsublist⟩
  rw [List.singleton_sublist]
  cases slot.status <;> exact List.mem_cons_self

/-- How a log of accepted calls accounts for a state: each slot's record is in
it, and no registration in it is newer than the slot of its identity. -/
structure Accounts (log : List Call) (state : WavematGateState) : Prop where
  recorded : ∀ key slot, state.slots.get? key = some slot → Recorded log slot
  newest : ∀ ref digest ready_event, Call.register ref digest ready_event ∈ log →
    ∃ slot, state.slots.get? ref.identity = some slot ∧
      (ref.generation < slot.ref.generation ∨
        ref.generation = slot.ref.generation ∧ digest = slot.digest)

theorem accounts_init : Accounts [] .init :=
  ⟨by simp [WavematGateState.init], by simp⟩

/-- A reference is its identity and its generation. -/
theorem LayerGroupRef.eq_of_identity {first second : LayerGroupRef}
    (hidentity : first.identity = second.identity)
    (hgeneration : first.generation = second.generation) : first = second := by
  cases first
  cases second
  simp only [LayerGroupRef.identity, Prod.mk.injEq] at hidentity
  obtain ⟨hrequest, hcache, hstart, hend⟩ := hidentity
  simp only at hgeneration
  subst hrequest hcache hstart hend hgeneration
  rfl

theorem Advance.recorded {log : List Call} {slot slot' : Slot} {call : Call}
    (hadvance : Advance slot.ref slot call slot') (hrecorded : Recorded log slot) :
    Recorded (log ++ [call]) slot' := by
  obtain ⟨registered_event, hregistered⟩ := hrecorded.registered
  obtain ⟨first_event, second_event, hsublist⟩ := hrecorded
  cases hadvance with
  | mark_load_failure =>
    exact ⟨registered_event, "", hregistered.trans (List.sublist_append_left _ _)⟩
  | mark_ready ready_event hfailed =>
    exact ⟨registered_event, ready_event, hregistered.append (List.Sublist.refl [_])⟩
  | consume hready =>
    rw [hready] at hsublist
    exact ⟨first_event, second_event, hsublist.append (List.Sublist.refl [_])⟩
  | ack hconsumed =>
    rw [hconsumed] at hsublist
    exact ⟨first_event, second_event, hsublist.append (List.Sublist.refl [_])⟩

/-- An accepted call extends the account by itself. -/
theorem Accounts.accepts {log : List Call} {state state' : WavematGateState} {call : Call}
    (haccounts : Accounts log state) (hwell : WellFormed state)
    (haccepts : Accepts state call state') : Accounts (log ++ [call]) state' := by
  cases haccepts with
  | register hfree hnewer =>
    rename_i ref digest ready_event
    refine ⟨?_, ?_⟩
    · intro key slot hget
      simp only [Dict.get?_set] at hget
      split at hget
      · cases hget
        exact ⟨ready_event, "", List.sublist_append_right log [_]⟩
      · exact (haccounts.recorded key slot hget).append _
    · intro other digest' event hmem
      simp only [Dict.get?_set]
      obtain hearlier | hnow := List.mem_append.mp hmem
      · obtain ⟨slot, hslot, hold⟩ := haccounts.newest other digest' event hearlier
        split
        · rename_i hkey
          rw [hkey] at hslot
          have hlast := hnewer _ (hwell.generation _ _ hslot)
          refine ⟨_, rfl, .inl ?_⟩
          dsimp only
          rcases hold with hold | ⟨hold, _⟩ <;> omega
        · exact ⟨slot, hslot, hold⟩
      · cases List.mem_singleton.mp hnow
        exact ⟨_, if_pos rfl, .inr ⟨rfl, rfl⟩⟩
  | advance hslot hgeneration hadvance =>
    rename_i ref slot slot'
    have href : ref = slot.ref :=
      LayerGroupRef.eq_of_identity (hwell.identity _ _ hslot).symm hgeneration.symm
    refine ⟨?_, ?_⟩
    · intro key found hget
      simp only [Dict.get?_set] at hget
      split at hget
      · cases hget
        rw [href] at hadvance hslot
        exact hadvance.recorded (haccounts.recorded _ _ hslot)
      · exact (haccounts.recorded key found hget).append _
    · intro other digest event hmem
      have hearlier : Call.register other digest event ∈ log := by
        obtain hearlier | hnow := List.mem_append.mp hmem
        · exact hearlier
        · cases List.mem_singleton.mp hnow
          cases hadvance
      obtain ⟨found, hfound, hold⟩ := haccounts.newest other digest event hearlier
      simp only [Dict.get?_set]
      split
      · rename_i hkey
        rw [hkey, hslot] at hfound
        cases hfound
        rw [← hadvance.ref_eq, ← hadvance.digest_eq] at hold
        exact ⟨slot', rfl, hold⟩
      · exact ⟨found, hfound, hold⟩
  | recover =>
    obtain ⟨hslots, _⟩ := recover_frame state
    refine ⟨?_, ?_⟩
    · intro key slot hget
      rw [hslots] at hget
      exact (haccounts.recorded key slot hget).append _
    · intro ref digest event hmem
      have hearlier : Call.register ref digest event ∈ log := by simpa using hmem
      rw [hslots]
      exact haccounts.newest ref digest event hearlier

/-- The accepted calls of a run account for the state it ends in. -/
theorem accounts_run (calls : List Call) : Accounts (accepted calls) (run step .init calls) := by
  induction calls using List.reverseRecOn with
  | nil => exact accounts_init
  | append_singleton calls call ih =>
    rw [accepted_snoc, run_snoc]
    split
    · rename_i hok
      exact ih.accepts (wellFormed_run calls) (accepts_of_succeeded hok)
    · rename_i hok
      obtain ⟨hslots, _⟩ := frame_of_not_succeeded (Bool.eq_false_iff.mpr hok)
      rw [List.append_nil]
      exact ⟨by rw [hslots]; exact ih.recorded, by rw [hslots]; exact ih.newest⟩

/-- The reference a call on a registered layer group carries. -/
def Call.slot_ref : Call → Option LayerGroupRef
  | .mark_load_failure ref => some ref
  | .mark_ready ref _ _ => some ref
  | .consume ref _ => some ref
  | .ack ref _ => some ref
  | .register .. => none
  | .recover => none

/-- A call for any generation but the last registered one is rejected as stale. -/
theorem stale_generation_rejected {state : WavematGateState} (hwell : WellFormed state) {call : Call}
    {ref : LayerGroupRef} (href : call.slot_ref = some ref)
    (hstale : state.last_generation.get? ref.identity ≠ some ref.generation) :
    ∃ message, (step state call).1 = .rejected ⟨.stale_generation, message⟩ := by
  have hgeneration : ∀ slot, state.slots.get? ref.identity = some slot →
      slot.ref.generation ≠ ref.generation := by
    intro slot hslot hsame
    apply hstale
    rw [hwell.generation _ _ hslot, hsame]
  cases call with
  | register | recover => cases href
  | mark_load_failure ref' =>
    cases href
    simp only [step, WavematGateState.mark_load_failure]
    cases hslot : state.slots.get? ref.identity with
    | none => exact ⟨_, rfl⟩
    | some slot =>
      simp only [if_pos (hgeneration slot hslot)]
      exact ⟨_, rfl⟩
  | mark_ready ref' digest ready_event =>
    cases href
    simp only [step, WavematGateState.mark_ready]
    cases hslot : state.slots.get? ref.identity with
    | none => exact ⟨_, rfl⟩
    | some slot =>
      simp only [if_pos (hgeneration slot hslot)]
      exact ⟨_, rfl⟩
  | consume ref' digest =>
    cases href
    simp only [step, WavematGateState.consume]
    cases hslot : state.slots.get? ref.identity with
    | none => exact ⟨_, rfl⟩
    | some slot =>
      simp only [if_pos (hgeneration slot hslot)]
      exact ⟨_, rfl⟩
  | ack ref' digest =>
    cases href
    simp only [step, WavematGateState.ack]
    cases hslot : state.slots.get? ref.identity with
    | none => exact ⟨_, rfl⟩
    | some slot =>
      simp only [if_pos (hgeneration slot hslot)]
      exact ⟨_, rfl⟩

/-- What the earlier part of a run shows when a registration over the slot
`previous` is accepted: the new generation exceeds every one ever registered for
the identity, the old one was registered with one digest only, and under that
digest it was marked ready, consumed and acked, in that order. -/
structure ReuseEarned (log : List Call) (ref : LayerGroupRef) (previous : Slot) : Prop where
  newer : ∀ older digest ready_event, Call.register older digest ready_event ∈ log →
    older.identity = ref.identity → older.generation < ref.generation
  one_digest : ∀ older digest ready_event, Call.register older digest ready_event ∈ log →
    older.identity = ref.identity → older.generation = previous.ref.generation →
      digest = previous.digest
  lifecycle : ∃ registered_event ready_event,
    [Call.register previous.ref previous.digest registered_event,
      Call.mark_ready previous.ref previous.digest ready_event,
      Call.consume previous.ref previous.digest,
      Call.ack previous.ref previous.digest].Sublist log

theorem reuse_earned {calls : List Call} {ref : LayerGroupRef} {digest ready_event : String}
    {previous : Slot} (hprevious : (run step .init calls).slots.get? ref.identity = some previous)
    (hok : (step (run step .init calls) (.register ref digest ready_event)).1.succeeded = true) :
    ReuseEarned (accepted calls) ref previous := by
  have haccounts := accounts_run calls
  have hwell := wellFormed_run calls
  have haccepts := accepts_of_succeeded hok
  generalize hstate : (step (run step .init calls) (.register ref digest ready_event)).2 = state at haccepts
  cases haccepts with
  | advance _ _ hadvance => cases hadvance
  | register hfree hnewer =>
    have hlast := hnewer _ (hwell.generation _ _ hprevious)
    refine ⟨?_, ?_, ?_⟩
    · intro older digest' event hmem hidentity
      obtain ⟨slot, hslot, hold⟩ := haccounts.newest older digest' event hmem
      rw [hidentity, hprevious] at hslot
      cases hslot
      rcases hold with hold | ⟨hold, _⟩ <;> omega
    · intro older digest' event hmem hidentity hsame
      obtain ⟨slot, hslot, hold⟩ := haccounts.newest older digest' event hmem
      rw [hidentity, hprevious] at hslot
      cases hslot
      obtain hold | ⟨_, hdigest⟩ := hold
      · omega
      · exact hdigest
    · obtain ⟨registered_event, ready_event', hsublist⟩ := haccounts.recorded _ _ hprevious
      rw [hfree previous hprevious] at hsublist
      exact ⟨registered_event, ready_event', hsublist⟩

/-- No buffer is reused before it is acked and no generation comes back: every
accepted registration over a slot is earned by the run before it, every state
of the run is well formed, and a call for any other generation is stale. -/
theorem no_reuse_before_ack (calls : List Call) :
    (∀ earlier later ref digest ready_event previous,
      calls = earlier ++ Call.register ref digest ready_event :: later →
      (run step .init earlier).slots.get? ref.identity = some previous →
      (step (run step .init earlier) (.register ref digest ready_event)).1.succeeded = true →
        ReuseEarned (accepted earlier) ref previous) ∧
    WellFormed (run step .init calls) ∧
    ∀ call ref, call.slot_ref = some ref →
      (run step .init calls).last_generation.get? ref.identity ≠ some ref.generation →
        ∃ message, (step (run step .init calls) call).1 = .rejected ⟨.stale_generation, message⟩ :=
  ⟨fun _ _ _ _ _ _ _ hprevious hok => reuse_earned hprevious hok, wellFormed_run calls,
    fun _ _ href hstale => stale_generation_rejected (wellFormed_run calls) href hstale⟩

theorem no_reuse_before_ack_second_generation :
    ReuseEarned
      (accepted
        [.register ⟨"req-1", "cache-1", 0, 4, 1⟩ "digest-a" "event-a",
          .mark_ready ⟨"req-1", "cache-1", 0, 4, 1⟩ "digest-a" "event-b",
          .consume ⟨"req-1", "cache-1", 0, 4, 1⟩ "digest-a",
          .ack ⟨"req-1", "cache-1", 0, 4, 1⟩ "digest-a"])
      ⟨"req-1", "cache-1", 0, 4, 2⟩
      ⟨⟨"req-1", "cache-1", 0, 4, 1⟩, "digest-a", "event-b", .acked⟩ :=
  (no_reuse_before_ack
    [.register ⟨"req-1", "cache-1", 0, 4, 1⟩ "digest-a" "event-a",
      .mark_ready ⟨"req-1", "cache-1", 0, 4, 1⟩ "digest-a" "event-b",
      .consume ⟨"req-1", "cache-1", 0, 4, 1⟩ "digest-a",
      .ack ⟨"req-1", "cache-1", 0, 4, 1⟩ "digest-a",
      .register ⟨"req-1", "cache-1", 0, 4, 2⟩ "digest-b" "event-c"]).1
    _ [] ⟨"req-1", "cache-1", 0, 4, 2⟩ "digest-b" "event-c" _ rfl (by decide) (by decide)

end vllm_kv_materialization.wavemat_seam_gate
