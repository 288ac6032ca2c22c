import KvMaterialization.Locality
import KvMaterialization.WavematSeamGate.WellFormed

open python machine

namespace vllm_kv_materialization.wavemat_seam_gate

/-- The reference a call is made with; `recover` takes none. -/
def Call.ref : Call → Option LayerGroupRef
  | .register ref _ _ => some ref
  | .mark_load_failure ref => some ref
  | .mark_ready ref _ _ => some ref
  | .consume ref _ => some ref
  | .ack ref _ => some ref
  | .recover => none

def Call.identity (call : Call) : Option Identity := call.ref.map LayerGroupRef.identity

/-- What a gate holds for one identity. -/
def cell (state : WavematGateState) (key : Identity) : Option Slot × Option Int :=
  (state.slots.get? key, state.last_generation.get? key)

/-- Two results of an operation that agree at a key: in what they raise, and in
what they leave there. -/
def AgreeAt (key : Identity) (result result' : Except SeamGateViolation Unit × WavematGateState) : Prop :=
  result.1 = result'.1 ∧ cell result.2 key = cell result'.2 key

variable {state state' : WavematGateState} {ref : LayerGroupRef} {key : Identity}

theorem agreeAt_violation (hcell : cell state key = cell state' key) (code : ViolationCode)
    (message : Message) : AgreeAt key (state.violation code message) (state'.violation code message) :=
  ⟨rfl, hcell⟩

theorem agreeAt_set (hcell : cell state key = cell state' key) (slot : Slot) :
    AgreeAt key (.ok (), { state with slots := state.slots.set key slot })
      (.ok (), { state' with slots := state'.slots.set key slot }) := by
  refine ⟨rfl, ?_⟩
  have hlast := congrArg Prod.snd hcell
  unfold cell at hlast ⊢
  dsimp only at hlast ⊢
  rw [Dict.get?_set_self, Dict.get?_set_self, hlast]

theorem register_agree (hcell : cell state ref.identity = cell state' ref.identity)
    (digest ready_event : String) :
    AgreeAt ref.identity (state.register ref digest ready_event)
      (state'.register ref digest ready_event) := by
  have hinstall : AgreeAt ref.identity (state.install ref digest ready_event)
      (state'.install ref digest ready_event) := by
    refine ⟨rfl, ?_⟩
    unfold cell WavematGateState.install
    dsimp only
    rw [Dict.get?_set_self, Dict.get?_set_self, Dict.get?_set_self, Dict.get?_set_self]
  have hslot : state.slots.get? ref.identity = state'.slots.get? ref.identity := congrArg Prod.fst hcell
  have hlast : state.last_generation.get? ref.identity = state'.last_generation.get? ref.identity :=
    congrArg Prod.snd hcell
  have hgeneration : AgreeAt ref.identity (state.register_generation ref digest ready_event)
      (state'.register_generation ref digest ready_event) := by
    unfold WavematGateState.register_generation
    rw [hlast]
    split
    · split
      · exact agreeAt_violation hcell _ _
      · exact hinstall
    · exact hinstall
  unfold WavematGateState.register
  rw [hslot]
  split
  · split
    · exact agreeAt_violation hcell _ _
    · exact hgeneration
  · exact hgeneration

theorem mark_load_failure_agree (hcell : cell state ref.identity = cell state' ref.identity) :
    AgreeAt ref.identity (state.mark_load_failure ref) (state'.mark_load_failure ref) := by
  have hslot : state.slots.get? ref.identity = state'.slots.get? ref.identity := congrArg Prod.fst hcell
  unfold WavematGateState.mark_load_failure
  dsimp only
  rw [hslot]
  split
  · exact agreeAt_violation hcell _ _
  · split
    · exact agreeAt_violation hcell _ _
    · exact agreeAt_set hcell _

theorem mark_ready_agree (hcell : cell state ref.identity = cell state' ref.identity)
    (digest ready_event : String) :
    AgreeAt ref.identity (state.mark_ready ref digest ready_event)
      (state'.mark_ready ref digest ready_event) := by
  have hslot : state.slots.get? ref.identity = state'.slots.get? ref.identity := congrArg Prod.fst hcell
  unfold WavematGateState.mark_ready
  dsimp only
  rw [hslot]
  split
  · exact agreeAt_violation hcell _ _
  · split
    · exact agreeAt_violation hcell _ _
    split
    · exact agreeAt_violation hcell _ _
    split
    · exact agreeAt_violation hcell _ _
    · exact agreeAt_set hcell _

theorem consume_agree (hcell : cell state ref.identity = cell state' ref.identity) (digest : String) :
    AgreeAt ref.identity (state.consume ref digest) (state'.consume ref digest) := by
  have hslot : state.slots.get? ref.identity = state'.slots.get? ref.identity := congrArg Prod.fst hcell
  unfold WavematGateState.consume
  dsimp only
  rw [hslot]
  split
  · exact agreeAt_violation hcell _ _
  · split
    · exact agreeAt_violation hcell _ _
    split
    · exact agreeAt_violation hcell _ _
    split
    · exact agreeAt_violation hcell _ _
    split
    · exact agreeAt_violation hcell _ _
    split
    · exact agreeAt_violation hcell _ _
    split
    · exact agreeAt_violation hcell _ _
    · exact agreeAt_set hcell _

theorem ack_agree (hcell : cell state ref.identity = cell state' ref.identity) (digest : String) :
    AgreeAt ref.identity (state.ack ref digest) (state'.ack ref digest) := by
  have hslot : state.slots.get? ref.identity = state'.slots.get? ref.identity := congrArg Prod.fst hcell
  unfold WavematGateState.ack
  dsimp only
  rw [hslot]
  split
  · exact agreeAt_violation hcell _ _
  · split
    · exact agreeAt_violation hcell _ _
    split
    · exact agreeAt_violation hcell _ _
    split
    · exact agreeAt_violation hcell _ _
    · exact agreeAt_set hcell _

/-- A call is answered from the cell of its identity, which alone it changes. -/
theorem step_agree (state state' : WavematGateState) (call : Call) (key : Identity)
    (hkey : call.identity = some key) (hcell : cell state key = cell state' key) :
    (step state call).1 = (step state' call).1 ∧
      cell (step state call).2 key = cell (step state' call).2 key := by
  have hreply : ∀ result result' : Except SeamGateViolation Unit × WavematGateState,
      AgreeAt key result result' →
        (result.map Reply.ofResult id).1 = (result'.map Reply.ofResult id).1 ∧
          cell (result.map Reply.ofResult id).2 key = cell (result'.map Reply.ofResult id).2 key := by
    intro result result' hagree
    exact ⟨congrArg Reply.ofResult hagree.1, hagree.2⟩
  cases call with
  | recover => cases hkey
  | register ref digest ready_event =>
    cases hkey
    exact hreply _ _ (register_agree hcell digest ready_event)
  | mark_load_failure ref =>
    cases hkey
    exact hreply _ _ (mark_load_failure_agree hcell)
  | mark_ready ref digest ready_event =>
    cases hkey
    exact hreply _ _ (mark_ready_agree hcell digest ready_event)
  | consume ref digest =>
    cases hkey
    exact hreply _ _ (consume_agree hcell digest)
  | ack ref digest =>
    cases hkey
    exact hreply _ _ (ack_agree hcell digest)

/-- An accepted call leaves every cell but that of its identity. -/
theorem Accepts.frame {call : Call} (haccepts : Accepts state call state')
    (hkey : call.identity ≠ some key) : cell state' key = cell state key := by
  unfold cell
  cases haccepts with
  | register hfree hnewer =>
    rename_i ref digest ready_event
    have hne : key ≠ ref.identity := fun h => hkey (congrArg some h.symm)
    dsimp only
    rw [Dict.get?_set_of_ne _ _ hne, Dict.get?_set_of_ne _ _ hne]
  | advance hslot hgeneration hadvance =>
    rename_i ref slot slot'
    have hne : key ≠ ref.identity := by
      intro heq
      apply hkey
      rw [heq]
      cases hadvance <;> rfl
    dsimp only
    rw [Dict.get?_set_of_ne _ _ hne]
  | recover =>
    obtain ⟨hslots, hlast⟩ := recover_frame state
    rw [hslots, hlast]

theorem step_frame (state : WavematGateState) (call : Call) (key : Identity)
    (hkey : call.identity ≠ some key) : cell (step state call).2 key = cell state key := by
  obtain ⟨_, haccepts⟩ | ⟨violation, hraise⟩ := step_settles state call
  · exact haccepts.frame hkey
  · rw [hraise]
    rfl

theorem step_local : Local step Call.identity cell where
  reply state state' call key hkey hcell := (step_agree state state' call key hkey hcell).1
  update state state' call key hkey hcell := (step_agree state state' call key hkey hcell).2
  frame := step_frame

/-- What a call on `ref` leaves behind: a rejection nothing but its own log entry,
a success nothing but what it says about the identity of `ref`. -/
def Audited (state : WavematGateState) (call : Call) (ref : LayerGroupRef) : Prop :=
  match step state call with
  | (.rejected violation, after) =>
    after.slots = state.slots ∧ after.last_generation = state.last_generation ∧
      after.rejections = state.rejections ++ [violation]
  | (_, after) =>
    after.rejections = state.rejections ∧
      (∀ key, key ≠ ref.identity → after.slots.get? key = state.slots.get? key) ∧
      (∀ key, key ≠ ref.identity → after.last_generation.get? key = state.last_generation.get? key) ∧
      ((∀ digest ready_event, call ≠ .register ref digest ready_event) →
        after.last_generation = state.last_generation)

theorem Accepts.audited {call : Call} (haccepts : Accepts state call state') (href : call.ref = some ref) :
    state'.rejections = state.rejections ∧
      ((∀ digest ready_event, call ≠ .register ref digest ready_event) →
        state'.last_generation = state.last_generation) := by
  cases haccepts with
  | register hfree hnewer =>
    cases href
    exact ⟨rfl, fun hother => absurd rfl (hother _ _)⟩
  | advance hslot hgeneration hadvance => exact ⟨rfl, fun _ => rfl⟩
  | recover => cases href

theorem step_audited (state : WavematGateState) {call : Call} (href : call.ref = some ref) :
    Audited state call ref := by
  unfold Audited
  obtain ⟨hok, haccepts⟩ | ⟨violation, hraise⟩ := step_settles state call
  · obtain ⟨hrejections, hlast⟩ := haccepts.audited href
    have hframe : ∀ key, key ≠ ref.identity → cell (step state call).2 key = cell state key := by
      intro key hne
      apply haccepts.frame
      rw [Call.identity, href]
      exact fun heq => hne (Option.some.inj heq).symm
    split
    · rename_i violation after heq
      rw [heq] at hok
      cases hok
    · rename_i reply after _ heq
      rw [heq] at hrejections hlast hframe
      exact ⟨hrejections, fun key hne => congrArg Prod.fst (hframe key hne),
        fun key hne => congrArg Prod.snd (hframe key hne), hlast⟩
  · rw [hraise]
    exact ⟨rfl, rfl, rfl⟩

/-- In every reachable state every operation is atomic and audited, and two
operations on different identities commute: neither outcome depends on which goes
first, and the maps end up with the same entries. -/
theorem rejections_atomic_audited (calls : List Call) :
    (∀ call ref, call.ref = some ref → Audited (run step .init calls) call ref) ∧
    ∀ first second ref ref', first.ref = some ref → second.ref = some ref' →
      ref.identity ≠ ref'.identity →
      let state := run step .init calls
      (step (step state second).2 first).1 = (step state first).1 ∧
      (step (step state first).2 second).1 = (step state second).1 ∧
      ∀ key,
        (run step state [first, second]).slots.get? key = (run step state [second, first]).slots.get? key ∧
        (run step state [first, second]).last_generation.get? key =
          (run step state [second, first]).last_generation.get? key := by
  refine ⟨fun call ref href => step_audited _ href, ?_⟩
  intro first second ref ref' hfirst hsecond hne state
  have hidentity : first.identity = some ref.identity := by rw [Call.identity, hfirst]; rfl
  have hidentity' : second.identity = some ref'.identity := by rw [Call.identity, hsecond]; rfl
  refine ⟨?_, ?_, ?_⟩
  · apply step_local.reply_after state hidentity
    rw [hidentity']
    exact fun heq => hne (Option.some.inj heq).symm
  · apply step_local.reply_after state hidentity'
    rw [hidentity]
    exact fun heq => hne (Option.some.inj heq)
  · intro key
    have hcell := step_local.view_comm state hidentity hidentity' hne key
    exact ⟨congrArg Prod.fst hcell, congrArg Prod.snd hcell⟩

/-- A registration and a consume that is refused, on two layer ranges of one request. -/
theorem rejections_atomic_audited_two_ranges :
    let state := run step .init [.register ⟨"req-1", "cache-1", 0, 4, 1⟩ "digest-a" "event-a"]
    (step (step state (.consume ⟨"req-1", "cache-1", 0, 4, 1⟩ "digest-a")).2
        (.register ⟨"req-1", "cache-1", 4, 8, 1⟩ "digest-b" "event-b")).1 =
      (step state (.register ⟨"req-1", "cache-1", 4, 8, 1⟩ "digest-b" "event-b")).1 :=
  ((rejections_atomic_audited [.register ⟨"req-1", "cache-1", 0, 4, 1⟩ "digest-a" "event-a"]).2
    (.register ⟨"req-1", "cache-1", 4, 8, 1⟩ "digest-b" "event-b")
    (.consume ⟨"req-1", "cache-1", 0, 4, 1⟩ "digest-a") _ _ rfl rfl (by decide)).1

end vllm_kv_materialization.wavemat_seam_gate
