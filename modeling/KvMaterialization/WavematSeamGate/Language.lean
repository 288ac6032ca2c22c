import Mathlib.Data.List.Chain
import KvMaterialization.WavematSeamGate.Commutation
import KvMaterialization.WavematSeamGate.History

open python machine

namespace vllm_kv_materialization.wavemat_seam_gate

/-- A call that leaves a layer group registered under its digest, with no load failure. -/
inductive Holds (ref : LayerGroupRef) (digest : String) : Call → Prop where
  | register (ready_event : String) : Holds ref digest (.register ref digest ready_event)
  | mark_ready (ready_event : String) : Holds ref digest (.mark_ready ref digest ready_event)
  | consume : Holds ref digest (.consume ref digest)
  | ack : Holds ref digest (.ack ref digest)

/-- What may come on an identity right after a call on it. -/
inductive Follows : Call → Call → Prop where
  | register {ref ref' : LayerGroupRef} {digest digest' ready_event : String}
    (hnewer : ref.generation < ref'.generation) :
    Follows (.ack ref digest) (.register ref' digest' ready_event)
  | mark_load_failure {ref : LayerGroupRef} {last : Call} (href : last.ref = some ref) :
    Follows last (.mark_load_failure ref)
  | mark_ready {ref : LayerGroupRef} {digest : String} {last : Call} (ready_event : String)
    (hholds : Holds ref digest last) :
    Follows last (.mark_ready ref digest ready_event)
  | consume {ref : LayerGroupRef} {digest ready_event : String} :
    Follows (.mark_ready ref digest ready_event) (.consume ref digest)
  | ack {ref : LayerGroupRef} {digest : String} : Follows (.consume ref digest) (.ack ref digest)

/-- What may come first on an identity. -/
inductive Starts : Call → Prop where
  | register (ref : LayerGroupRef) (digest ready_event : String) : Starts (.register ref digest ready_event)

/-- A sequence of calls on one identity that the gate takes as a whole: it starts with a
registration, and each of its calls may follow the one before. -/
def Word (word : List Call) : Prop :=
  (∀ first ∈ word.head?, Starts first) ∧ word.IsChain Follows

/-- What may come on an identity after a sequence of calls on it. -/
def Extends (word : List Call) (call : Call) : Prop :=
  match word.getLast? with
  | none => Starts call
  | some last => Follows last call

theorem word_nil : Word [] := ⟨by simp, .nil⟩

theorem word_snoc_iff {word : List Call} {call : Call} : Word (word ++ [call]) ↔ Word word ∧ Extends word call := by
  unfold Word Extends
  rw [List.isChain_append]
  cases word using List.reverseRecOn with
  | nil => simp
  | append_singleton word last =>
    have hhead : ((word ++ [last]) ++ [call]).head? = (word ++ [last]).head? := by
      cases word <;> rfl
    rw [hhead]
    simp [and_assoc]

/-- The slot that an accepted call leaves under its identity. -/
inductive Leaves : Call → Slot → Prop where
  | register (ref : LayerGroupRef) (digest ready_event : String) :
    Leaves (.register ref digest ready_event) ⟨ref, digest, ready_event, .registered⟩
  | mark_load_failure (slot : Slot) : Leaves (.mark_load_failure slot.ref) { slot with status := .load_failed }
  | mark_ready (slot : Slot) (ready_event : String) :
    Leaves (.mark_ready slot.ref slot.digest ready_event) { slot with ready_event, status := .ready }
  | consume (slot : Slot) : Leaves (.consume slot.ref slot.digest) { slot with status := .consumed }
  | ack (slot : Slot) : Leaves (.ack slot.ref slot.digest) { slot with status := .acked }

theorem Leaves.ref_eq {call : Call} {slot : Slot} (hleaves : Leaves call slot) : call.ref = some slot.ref := by
  cases hleaves <;> rfl

theorem Leaves.holds {call : Call} {slot : Slot} (hleaves : Leaves call slot) (hstatus : slot.status ≠ .load_failed) :
    Holds slot.ref slot.digest call := by
  cases hleaves with
  | register => exact .register _
  | mark_load_failure => contradiction
  | mark_ready => exact .mark_ready _
  | consume => exact .consume
  | ack => exact .ack

/-- A call that holds a digest leaves a slot of its reference that has not failed. -/
theorem Leaves.of_holds {ref : LayerGroupRef} {digest : String} {call : Call} {slot : Slot}
    (hleaves : Leaves call slot) (hholds : Holds ref digest call) :
    slot.ref = ref ∧ slot.digest = digest ∧ slot.status ≠ .load_failed := by
  cases hholds <;> cases hleaves <;> exact ⟨rfl, rfl, nofun⟩

theorem Advance.leaves {slot slot' : Slot} {call : Call} (hadvance : Advance slot.ref slot call slot') :
    Leaves call slot' := by
  cases hadvance with
  | mark_load_failure => exact .mark_load_failure slot
  | mark_ready ready_event => exact .mark_ready slot ready_event
  | consume => exact .consume slot
  | ack => exact .ack slot

/-- The cell of an identity, as the last call that was accepted on it has left it. -/
def Shows (word : List Call) (shown : Option Slot × Option Int) : Prop :=
  match word.getLast? with
  | none => shown = (none, none)
  | some last => ∃ slot, Leaves last slot ∧ shown = (some slot, some slot.ref.generation)

theorem shows_snoc (word : List Call) {call : Call} {slot : Slot} (hleaves : Leaves call slot) :
    Shows (word ++ [call]) (some slot, some slot.ref.generation) := by
  unfold Shows
  rw [List.getLast?_concat]
  exact ⟨slot, hleaves, rfl⟩

section

variable {state : WavematGateState} {word : List Call} {key : Identity} {call : Call}

/-- A slot that is found has been left there by the last call of the word. -/
theorem Shows.of_slot (hshows : Shows word (cell state key)) {slot : Slot} (hslot : state.slots.get? key = some slot) :
    ∃ last, word.getLast? = some last ∧ Leaves last slot := by
  unfold Shows at hshows
  split at hshows
  · have hnone := congrArg Prod.fst hshows
    rw [cell, hslot] at hnone
    cases hnone
  · rename_i last hlast
    obtain ⟨found, hleaves, hcell⟩ := hshows
    have hfound := congrArg Prod.fst hcell
    rw [cell, hslot] at hfound
    obtain rfl := Option.some.inj hfound
    exact ⟨last, hlast, hleaves⟩

/-- A call that is accepted extends the word of its identity. -/
theorem Shows.extends_of_accepts (hshows : Shows word (cell state key)) (hwell : WellFormed state)
    {after : WavematGateState} (haccepts : Accepts state call after) (hkey : call.identity = some key) :
    Extends word call := by
  cases haccepts with
  | recover => cases hkey
  | register hfree hnewer =>
    cases hkey
    rename_i ref digest ready_event
    cases hslot : state.slots.get? ref.identity with
    | none =>
      unfold Shows at hshows
      unfold Extends
      split at hshows
      · exact .register _ _ _
      · obtain ⟨slot, _, hcell⟩ := hshows
        have hfound := congrArg Prod.fst hcell
        rw [cell, hslot] at hfound
        cases hfound
    | some slot =>
      obtain ⟨last, hlast, hleaves⟩ := hshows.of_slot hslot
      have hacked := hfree slot hslot
      have hlt := hnewer _ (hwell.generation _ _ hslot)
      rw [Extends, hlast]
      cases hleaves with
      | ack => exact .register hlt
      | register | mark_load_failure | mark_ready | consume => cases hacked
  | advance hslot hgeneration hadvance =>
    rename_i ref slot slot'
    have hidentity : ref.identity = key := by
      cases hadvance <;> exact Option.some.inj hkey
    subst hidentity
    obtain rfl := LayerGroupRef.eq_of_identity (hwell.identity _ _ hslot) hgeneration
    obtain ⟨last, hlast, hleaves⟩ := hshows.of_slot hslot
    rw [Extends, hlast]
    cases hadvance with
    | mark_load_failure => exact .mark_load_failure hleaves.ref_eq
    | mark_ready ready_event hstatus => exact .mark_ready ready_event (hleaves.holds hstatus)
    | consume hstatus =>
      cases hleaves with
      | mark_ready => exact .consume
      | register | mark_load_failure | consume | ack => cases hstatus
    | ack hstatus =>
      cases hleaves with
      | consume => exact .ack
      | register | mark_load_failure | mark_ready | ack => cases hstatus

/-- What the last call of a word has left is found under its identity. -/
theorem Shows.slot_of_last (hshows : Shows word (cell state key)) {last : Call} (hlast : word.getLast? = some last) :
    ∃ slot, Leaves last slot ∧ state.slots.get? key = some slot ∧
      state.last_generation.get? key = some slot.ref.generation := by
  rw [Shows, hlast] at hshows
  obtain ⟨slot, hleaves, hcell⟩ := hshows
  exact ⟨slot, hleaves, congrArg Prod.fst hcell, congrArg Prod.snd hcell⟩

/-- A call that extends the word of its identity is accepted. -/
theorem Shows.accepted_of_extends (hshows : Shows word (cell state key)) (hwell : WellFormed state)
    (hextends : Extends word call) (hkey : call.identity = some key) : (step state call).1.succeeded = true := by
  unfold Extends at hextends
  split at hextends
  · rename_i hempty
    rw [Shows, hempty] at hshows
    obtain ⟨ref, digest, ready_event⟩ := hextends
    cases hkey
    have hslot : state.slots.get? ref.identity = none := congrArg Prod.fst hshows
    have hlast : state.last_generation.get? ref.identity = none := congrArg Prod.snd hshows
    rw [step_of_register ref digest ready_event (by simp [hslot]) (by simp [hlast])]
    rfl
  · rename_i last hlast
    obtain ⟨slot, hleaves, hslot, hgeneration⟩ := hshows.slot_of_last hlast
    -- The call is on the reference of the slot, unless it registers a newer one.
    have hadvances : ∀ slot', Advance slot.ref slot call slot' → (step state call).1.succeeded = true := by
      intro slot' hadvance
      rw [← hwell.identity _ _ hslot] at hslot
      rw [step_of_advance hslot rfl hadvance]
      rfl
    cases hextends with
    | register hnewer =>
      cases hkey
      cases hleaves with
      | ack old =>
        rw [step_of_register]
        · rfl
        · intro previous hprevious
          rw [hslot] at hprevious
          cases hprevious
          rfl
        · intro newest hnewest
          rw [hgeneration] at hnewest
          cases hnewest
          exact hnewer
    | mark_load_failure href =>
      rw [hleaves.ref_eq] at href
      cases href
      exact hadvances _ .mark_load_failure
    | mark_ready ready_event hholds =>
      obtain ⟨rfl, rfl, hstatus⟩ := hleaves.of_holds hholds
      exact hadvances _ (.mark_ready ready_event hstatus)
    | consume => cases hleaves; exact hadvances _ (.consume rfl)
    | ack => cases hleaves; exact hadvances _ (.ack rfl)

/-- An accepted call shows under its identity. -/
theorem shows_of_accepts (hwell : WellFormed state) {after : WavematGateState} (haccepts : Accepts state call after)
    (hkey : call.identity = some key) : Shows (word ++ [call]) (cell after key) := by
  cases haccepts with
  | recover => cases hkey
  | register hfree hnewer =>
    cases hkey
    rename_i ref digest ready_event
    have hshows := shows_snoc word (Leaves.register ref digest ready_event)
    simpa only [cell, Dict.get?_set_self] using hshows
  | advance hslot hgeneration hadvance =>
    rename_i ref slot slot'
    have hidentity : ref.identity = key := by
      cases hadvance <;> exact Option.some.inj hkey
    subst hidentity
    obtain rfl := LayerGroupRef.eq_of_identity (hwell.identity _ _ hslot) hgeneration
    have hlast := hwell.generation _ _ hslot
    have hshows := shows_snoc word hadvance.leaves
    simpa only [cell, Dict.get?_set_self, hlast, hadvance.ref_eq] using hshows

end

/-- The calls on one identity, in their order. -/
def callsAt (key : Identity) (calls : List Call) : List Call := calls.filter fun call => call.identity = some key

theorem callsAt_snoc_of_eq {key : Identity} {call : Call} (hkey : call.identity = some key) (calls : List Call) :
    callsAt key (calls ++ [call]) = callsAt key calls ++ [call] := by
  simp [callsAt, hkey]

theorem callsAt_snoc_of_ne {key : Identity} {call : Call} (hkey : call.identity ≠ some key) (calls : List Call) :
    callsAt key (calls ++ [call]) = callsAt key calls := by
  simp [callsAt, hkey]

/-- After any run, an identity shows what the last accepted call on it has left, and these
calls are a word. -/
theorem shows_run (calls : List Call) (key : Identity) :
    Shows (callsAt key (accepted calls)) (cell (run step .init calls) key) ∧ Word (callsAt key (accepted calls)) := by
  induction calls using List.reverseRecOn with
  | nil => exact ⟨rfl, word_nil⟩
  | append_singleton calls call ih =>
    obtain ⟨hshows, hword⟩ := ih
    have hwell := wellFormed_run calls
    rw [accepted_snoc, run_snoc]
    obtain ⟨hok, haccepts⟩ | ⟨violation, hraise⟩ := step_settles (run step .init calls) call
    · rw [if_pos hok]
      by_cases hkey : call.identity = some key
      · rw [callsAt_snoc_of_eq hkey]
        exact ⟨shows_of_accepts hwell haccepts hkey,
          word_snoc_iff.mpr ⟨hword, hshows.extends_of_accepts hwell haccepts hkey⟩⟩
      · rw [callsAt_snoc_of_ne hkey, haccepts.frame hkey]
        exact ⟨hshows, hword⟩
    · rw [hraise, if_neg (by simp [Reply.succeeded]), List.append_nil]
      exact ⟨hshows, hword⟩

theorem succeeded_iff_extends (calls : List Call) {call : Call} {key : Identity} (hkey : call.identity = some key) :
    (step (run step .init calls) call).1.succeeded = true ↔ Extends (callsAt key (accepted calls)) call := by
  obtain ⟨hshows, _⟩ := shows_run calls key
  have hwell := wellFormed_run calls
  constructor
  · intro hok
    exact hshows.extends_of_accepts hwell (accepts_of_succeeded hok) hkey
  · intro hextends
    exact hshows.accepted_of_extends hwell hextends hkey

theorem succeeded_iff (calls : List Call) (call : Call) :
    (step (run step .init calls) call).1.succeeded = true ↔
      ∀ key, call.identity = some key → Word (callsAt key (accepted calls) ++ [call]) := by
  constructor
  · intro hok key hkey
    exact word_snoc_iff.mpr ⟨(shows_run calls key).2, (succeeded_iff_extends calls hkey).mp hok⟩
  · intro hword
    cases hidentity : call.identity with
    | some key => exact (succeeded_iff_extends calls hidentity).mpr (word_snoc_iff.mp (hword key hidentity)).2
    | none =>
      cases call with
      | recover => rfl
      | register | mark_load_failure | mark_ready | consume | ack => cases hidentity

/-- Whatever has been called before, rejected calls included, a call is accepted exactly if
the calls accepted on its identity and it are a word. -/
theorem call_accepted_iff_word (calls : List Call) :
    (∀ key, Word (callsAt key (accepted calls))) ∧
      ∀ call, (step (run step .init calls) call).1.succeeded = true ↔
        ∀ key, call.identity = some key → Word (callsAt key (accepted calls) ++ [call]) :=
  ⟨fun key => (shows_run calls key).2, succeeded_iff calls⟩

theorem accepted_of_all {calls : List Call}
    (hall : ∀ event ∈ trace step .init calls, event.reply.succeeded = true) : accepted calls = calls := by
  rw [accepted, List.filter_eq_self.mpr hall]
  exact trace_calls step .init calls

theorem all_succeeded_snoc (calls : List Call) (call : Call) :
    (∀ event ∈ trace step .init (calls ++ [call]), event.reply.succeeded = true) ↔
      (∀ event ∈ trace step .init calls, event.reply.succeeded = true) ∧
        (step (run step .init calls) call).1.succeeded = true := by
  rw [trace_snoc]
  simp only [List.forall_mem_append, List.forall_mem_singleton]

/-- However the calls of several identities are interleaved, a run has no rejection exactly
if the calls on each identity are a word by themselves. -/
theorem run_accepted_iff_words (calls : List Call) :
    (∀ event ∈ trace step .init calls, event.reply.succeeded = true) ↔ ∀ key, Word (callsAt key calls) := by
  induction calls using List.reverseRecOn with
  | nil => simp [trace, callsAt, word_nil]
  | append_singleton calls call ih =>
    rw [all_succeeded_snoc]
    constructor
    · rintro ⟨hall, hok⟩ key
      by_cases hkey : call.identity = some key
      · rw [callsAt_snoc_of_eq hkey, word_snoc_iff]
        refine ⟨ih.mp hall key, ?_⟩
        have hextends := (succeeded_iff_extends calls hkey).mp hok
        rwa [accepted_of_all hall] at hextends
      · rw [callsAt_snoc_of_ne hkey]
        exact ih.mp hall key
    · intro hwords
      have hall : ∀ event ∈ trace step .init calls, event.reply.succeeded = true := by
        refine ih.mpr fun key => ?_
        by_cases hkey : call.identity = some key
        · have hword := hwords key
          rw [callsAt_snoc_of_eq hkey, word_snoc_iff] at hword
          exact hword.1
        · rw [← callsAt_snoc_of_ne hkey]
          exact hwords key
      refine ⟨hall, (succeeded_iff _ _).mpr ?_⟩
      intro key hkey
      have hword := hwords key
      rw [callsAt_snoc_of_eq hkey] at hword
      rwa [accepted_of_all hall]

end vllm_kv_materialization.wavemat_seam_gate
