import KvMaterialization.Machine
import Mathlib.Data.List.Induction
import Mathlib.Data.List.Nodup
import Mathlib.Logic.Function.Basic
import Mathlib.Order.Lattice

namespace transaction

/-- Parties that share a value and each access it in two critical sections: one
reads it, the other replies from what was read and updates the shared value. -/
structure Program (ι ν β : Type) where
  reply : ι → ν → β
  /-- From the value the party read and the one it finds at the write. -/
  update : ι → ν → ν → ν

inductive Section (ι : Type) where
  | read (id : ι)
  | finish (id : ι)
  deriving DecidableEq

inductive Phase (ρ β : Type) where
  | pending
  | reading (read : ρ)
  | done (reply : β)
  deriving DecidableEq

structure State (ι ν β : Type) where
  shared : ν
  phase : ι → Phase ν β

variable {ι ν β : Type} [DecidableEq ι] (program : Program ι ν β)

def State.init (shared : ν) : State ι ν β := ⟨shared, fun _ => .pending⟩

/-- A section that is not the party's next does nothing. -/
def step (state : State ι ν β) : Section ι → Unit × State ι ν β
  | .read id =>
    match state.phase id with
    | .pending => ((), { state with phase := Function.update state.phase id (.reading state.shared) })
    | _ => ((), state)
  | .finish id =>
    match state.phase id with
    | .reading value =>
      ((), ⟨program.update id value state.shared,
        Function.update state.phase id (.done (program.reply id value))⟩)
    | _ => ((), state)

/-- Each party in turn, both of its sections together. -/
def serial (order : List ι) : List (Section ι) := order.flatMap (fun id => [.read id, .finish id])

/-- A section does not act on a stale value: what it replies and writes from the
value it read is what it would from the value it finds. -/
def Fresh (state : State ι ν β) : Section ι → Prop
  | .read _ => True
  | .finish id => ∀ value, state.phase id = .reading value →
    program.reply id value = program.reply id state.shared ∧
      program.update id value state.shared = program.update id state.shared state.shared

section Step

variable {program} {state : State ι ν β} {id : ι}

theorem step_read (hphase : state.phase id = .pending) :
    (step program state (.read id)).2 =
      ⟨state.shared, Function.update state.phase id (.reading state.shared)⟩ := by
  simp only [step, hphase]

theorem step_finish {value : ν} (hphase : state.phase id = .reading value) :
    (step program state (.finish id)).2 = ⟨program.update id value state.shared,
      Function.update state.phase id (.done (program.reply id value))⟩ := by
  simp only [step, hphase]

/-- A section advances its own party only, and that by one phase or not at all. -/
theorem step_cases (program : Program ι ν β) (state : State ι ν β) (section_ : Section ι) :
    (∃ id, section_ = .read id ∧ state.phase id = .pending) ∨
      (∃ id value, section_ = .finish id ∧ state.phase id = .reading value) ∨
      (step program state section_).2 = state := by
  cases section_ with
  | read id =>
    cases hphase : state.phase id with
    | pending => exact .inl ⟨id, rfl, hphase⟩
    | reading value => exact .inr (.inr (by simp only [step, hphase]))
    | done reply => exact .inr (.inr (by simp only [step, hphase]))
  | finish id =>
    cases hphase : state.phase id with
    | pending => exact .inr (.inr (by simp only [step, hphase]))
    | reading value => exact .inr (.inl ⟨id, value, rfl, hphase⟩)
    | done reply => exact .inr (.inr (by simp only [step, hphase]))

end Step

section Serial

omit [DecidableEq ι] in
theorem serial_snoc (order : List ι) (id : ι) :
    serial (order ++ [id]) = serial order ++ [.read id, .finish id] := by
  simp [serial]

theorem run_serial_snoc (start : State ι ν β) (order : List ι) (id : ι) :
    machine.run (step program) start (serial (order ++ [id])) =
      (step program (step program (machine.run (step program) start (serial order)) (.read id)).2
        (.finish id)).2 := by
  rw [serial_snoc, machine.run_append]
  rfl

/-- A party whose turn comes finishes from the value it finds. -/
theorem step_read_finish {state : State ι ν β} {id : ι} (hphase : state.phase id = .pending) :
    (step program (step program state (.read id)).2 (.finish id)).2 =
      ⟨program.update id state.shared state.shared,
        Function.update state.phase id (.done (program.reply id state.shared))⟩ := by
  have hreading : (step program state (.read id)).2.phase id = .reading state.shared := by
    rw [step_read hphase]
    exact Function.update_self ..
  rw [step_finish hreading, step_read hphase, Function.update_idem]

end Serial

/-- What a run shares with the serial run of the parties it finished. -/
structure SerializedBy (program : Program ι ν β) (start : ν) (order : List ι)
    (state : State ι ν β) : Prop where
  nodup : order.Nodup
  mem_iff : ∀ id, id ∈ order ↔ ∃ reply, state.phase id = .done reply
  pending : ∀ id, id ∉ order →
    (machine.run (step program) (State.init start) (serial order)).phase id = .pending
  phase_eq : ∀ id ∈ order,
    (machine.run (step program) (State.init start) (serial order)).phase id = state.phase id
  shared_eq : (machine.run (step program) (State.init start) (serial order)).shared = state.shared

variable {program}

theorem SerializedBy.read {start : ν} {order : List ι} {state : State ι ν β}
    (hserialized : SerializedBy program start order state) {id : ι} (hphase : state.phase id = .pending) :
    SerializedBy program start order (step program state (.read id)).2 := by
  have hnot : id ∉ order := by
    intro hmem
    obtain ⟨reply, hdone⟩ := (hserialized.mem_iff id).mp hmem
    rw [hphase] at hdone
    cases hdone
  rw [step_read hphase]
  refine ⟨hserialized.nodup, ?_, hserialized.pending, ?_, hserialized.shared_eq⟩
  · intro other
    rw [hserialized.mem_iff]
    by_cases heq : other = id
    · subst heq
      simp [hphase]
    · simp [Function.update_of_ne heq]
  · intro other hmem
    have hne : other ≠ id := fun heq => hnot (heq ▸ hmem)
    dsimp only
    rw [Function.update_of_ne hne]
    exact hserialized.phase_eq other hmem

theorem SerializedBy.finish {start : ν} {order : List ι} {state : State ι ν β}
    (hserialized : SerializedBy program start order state) {id : ι} {value : ν}
    (hphase : state.phase id = .reading value) (hfresh : Fresh program state (.finish id)) :
    SerializedBy program start (order ++ [id]) (step program state (.finish id)).2 := by
  obtain ⟨hreply, hupdate⟩ := hfresh value hphase
  have hnot : id ∉ order := by
    intro hmem
    obtain ⟨reply, hdone⟩ := (hserialized.mem_iff id).mp hmem
    rw [hphase] at hdone
    cases hdone
  have hserial := step_read_finish program (hserialized.pending id hnot)
  rw [hserialized.shared_eq] at hserial
  rw [step_finish hphase, hreply, hupdate]
  refine ⟨?_, ?_, ?_, ?_, ?_⟩
  · rw [List.nodup_append]
    refine ⟨hserialized.nodup, List.nodup_singleton id, ?_⟩
    intro first hfirst second hsecond heq
    rw [List.mem_singleton] at hsecond
    exact hnot (by rw [← hsecond, ← heq]; exact hfirst)
  · intro other
    rw [List.mem_append, List.mem_singleton, hserialized.mem_iff]
    by_cases heq : other = id
    · subst heq
      simp
    · simp [heq]
  · intro other hmem
    rw [List.mem_append, List.mem_singleton, not_or] at hmem
    rw [run_serial_snoc, hserial]
    dsimp only
    rw [Function.update_of_ne hmem.2]
    exact hserialized.pending other hmem.1
  · intro other hmem
    rw [run_serial_snoc, hserial]
    dsimp only
    by_cases heq : other = id
    · subst heq
      rw [Function.update_self, Function.update_self]
    · rw [Function.update_of_ne heq, Function.update_of_ne heq]
      rw [List.mem_append, List.mem_singleton] at hmem
      exact hserialized.phase_eq other (hmem.resolve_right heq)
  · rw [run_serial_snoc, hserial]

/-- Where no section acts on a stale value, every interleaving is the serial run
of the parties in the order they wrote. -/
theorem serializable_of_fresh (program : Program ι ν β) (start : ν) (sections : List (Section ι))
    (hfresh : ∀ event ∈ machine.trace (step program) (State.init start) sections,
      Fresh program event.before event.call) :
    ∃ order, SerializedBy program start order
      (machine.run (step program) (State.init start) sections) := by
  induction sections using List.reverseRecOn with
  | nil => exact ⟨[], List.nodup_nil, by simp [machine.run, State.init], fun _ _ => rfl, by simp, rfl⟩
  | append_singleton sections section_ ih =>
    rw [machine.trace_snoc] at hfresh
    simp only [List.mem_append, List.mem_singleton, or_imp, forall_and, forall_eq] at hfresh
    obtain ⟨hearlier, hlast⟩ := hfresh
    obtain ⟨order, hserialized⟩ := ih hearlier
    rw [machine.run_snoc]
    obtain ⟨id, rfl, hphase⟩ | ⟨id, value, rfl, hphase⟩ | hidle :=
      step_cases program (machine.run (step program) (State.init start) sections) section_
    · exact ⟨order, hserialized.read hphase⟩
    · exact ⟨order ++ [id], hserialized.finish hphase hlast⟩
    · rw [hidle]
      exact ⟨order, hserialized⟩

section Stamps

variable {κ : Type} [LinearOrder κ] (stamp : ν → κ) (stamped : β → Option κ)

/-- A finishing party that replies with a stamp leaves that stamp behind, above
the one it found. -/
def Advances (program : Program ι ν β) (state : State ι ν β) : Section ι → Prop
  | .read _ => True
  | .finish id => ∀ value, state.phase id = .reading value →
    (∀ t, stamped (program.reply id value) = some t →
      stamp state.shared < t ∧ stamp (program.update id value state.shared) = t) ∧
    (stamped (program.reply id value) = none →
      stamp (program.update id value state.shared) = stamp state.shared)

/-- The stamps of the replies given so far are distinct, and none is above the
stamp of the shared value. -/
structure Ascending (state : State ι ν β) : Prop where
  le_stamp : ∀ id reply t, state.phase id = .done reply → stamped reply = some t →
    t ≤ stamp state.shared
  distinct : ∀ id id' reply reply' t, id ≠ id' → state.phase id = .done reply →
    state.phase id' = .done reply' → stamped reply = some t → stamped reply' ≠ some t

/-- Reading gives no reply. -/
theorem done_of_update_reading {phase : ι → Phase ν β} {id other : ι} {value : ν} {reply : β}
    (hdone : Function.update phase id (.reading value) other = .done reply) :
    phase other = .done reply := by
  by_cases heq : other = id
  · subst heq
    rw [Function.update_self] at hdone
    cases hdone
  · rwa [Function.update_of_ne heq] at hdone

/-- After a finish the replies are the new one and those given before. -/
theorem done_of_update_done {phase : ι → Phase ν β} {id other : ι} {last reply : β}
    (hdone : Function.update phase id (.done last) other = .done reply) :
    (other = id ∧ reply = last) ∨ (other ≠ id ∧ phase other = .done reply) := by
  by_cases heq : other = id
  · subst heq
    rw [Function.update_self, Phase.done.injEq] at hdone
    exact .inl ⟨rfl, hdone.symm⟩
  · rw [Function.update_of_ne heq] at hdone
    exact .inr ⟨heq, hdone⟩

theorem Ascending.read {state : State ι ν β} (hascending : Ascending stamp stamped state) (id : ι) :
    Ascending stamp stamped { state with phase := Function.update state.phase id (.reading state.shared) } := by
  refine ⟨?_, ?_⟩
  · intro other reply t hdone
    exact hascending.le_stamp other reply t (done_of_update_reading hdone)
  · intro first second reply reply' t hne hdone hdone'
    exact hascending.distinct first second reply reply' t hne (done_of_update_reading hdone)
      (done_of_update_reading hdone')

theorem Ascending.finish {state : State ι ν β} (hascending : Ascending stamp stamped state)
    {id : ι} {value : ν} (hphase : state.phase id = .reading value)
    (hadvances : Advances stamp stamped program state (.finish id)) :
    Ascending stamp stamped
      { shared := program.update id value state.shared
        phase := Function.update state.phase id (.done (program.reply id value)) } := by
  obtain ⟨hstamped, hunstamped⟩ := hadvances value hphase
  -- Every earlier stamp is at most the one found, which the new one exceeds.
  have hmono : stamp state.shared ≤ stamp (program.update id value state.shared) := by
    cases hreply : stamped (program.reply id value) with
    | none => exact (hunstamped hreply).ge
    | some t =>
      obtain ⟨hlt, heq⟩ := hstamped t hreply
      rw [heq]
      exact hlt.le
  have hfresh : ∀ other reply t, state.phase other = .done reply → stamped reply = some t →
      stamped (program.reply id value) ≠ some t := by
    intro other reply t hdone hreply hlast
    have hle := hascending.le_stamp other reply t hdone hreply
    exact absurd (hstamped t hlast).1 (not_lt.mpr hle)
  refine ⟨?_, ?_⟩
  · intro other reply t hdone hreply
    obtain ⟨rfl, rfl⟩ | ⟨_, hearlier⟩ := done_of_update_done hdone
    · exact (hstamped t hreply).2.ge
    · exact (hascending.le_stamp other reply t hearlier hreply).trans hmono
  · intro first second reply reply' t hne hdone hdone' hreply hreply'
    obtain ⟨rfl, rfl⟩ | ⟨_, hfirst⟩ := done_of_update_done hdone
    · obtain ⟨rfl, _⟩ | ⟨_, hsecond⟩ := done_of_update_done hdone'
      · exact absurd rfl hne
      · exact hfresh second reply' t hsecond hreply' hreply
    · obtain ⟨rfl, rfl⟩ | ⟨_, hsecond⟩ := done_of_update_done hdone'
      · exact hfresh first reply t hfirst hreply hreply'
      · exact hascending.distinct first second reply reply' t hne hfirst hsecond hreply hreply'

theorem Ascending.step {state : State ι ν β} (hascending : Ascending stamp stamped state)
    {section_ : Section ι} (hadvances : Advances stamp stamped program state section_) :
    Ascending stamp stamped (step program state section_).2 := by
  obtain ⟨id, rfl, hphase⟩ | ⟨id, value, rfl, hphase⟩ | hidle :=
    step_cases program state section_
  · rw [step_read hphase]
    exact hascending.read stamp stamped id
  · rw [step_finish hphase]
    exact hascending.finish stamp stamped hphase hadvances
  · rw [hidle]
    exact hascending

/-- Where every write advances the stamp, no two parties are given the same one. -/
theorem ascending_of_advances (program : Program ι ν β) (start : ν) (sections : List (Section ι))
    (hadvances : ∀ event ∈ machine.trace (step program) (State.init start) sections,
      Advances stamp stamped program event.before event.call) :
    Ascending stamp stamped (machine.run (step program) (State.init start) sections) := by
  induction sections using List.reverseRecOn with
  | nil => exact ⟨by simp [machine.run, State.init], by simp [machine.run, State.init]⟩
  | append_singleton sections section_ ih =>
    rw [machine.trace_snoc] at hadvances
    simp only [List.mem_append, List.mem_singleton, or_imp, forall_and, forall_eq] at hadvances
    rw [machine.run_snoc]
    exact (ih hadvances.1).step stamp stamped hadvances.2

end Stamps

end transaction
