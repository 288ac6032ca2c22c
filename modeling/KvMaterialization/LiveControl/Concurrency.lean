import KvMaterialization.LiveControl.Estimates
import KvMaterialization.Transaction

open python
open vllm_kv_materialization.policy

namespace vllm_kv_materialization.live_control

structure Request where
  headers : Headers
  prompt_tokens : ℤ
  output_tokens : ℤ

/-- What the two critical sections of a call hand to its request. -/
structure Handed where
  turn_index : ℤ
  reusable_prefix_tokens : Except Exception ℤ
  deriving DecidableEq

/-- The session with the calls that are under way on it. -/
structure Concurrent (ι : Type) where
  session : Session
  phase : ι → transaction.Phase SessionRead Handed

def Concurrent.init {ι : Type} (session : Session) : Concurrent ι := ⟨session, fun _ => .pending⟩

section

variable {F : Type} [PyFloat F] (py : Interpreter F) {ι : Type} [DecidableEq ι]
  (requests : ι → Request)

/-- One critical section of one of the calls, under `_ANCHOR_LOCK`. -/
def Concurrent.step (state : Concurrent ι) : transaction.Section ι → Unit × Concurrent ι
  | .read id =>
    match state.phase id with
    | .pending =>
      let (read, session) := read_session state.session (primary_anchor_id (requests id).headers)
      ((), ⟨session, Function.update state.phase id (.reading read)⟩)
    | _ => ((), state)
  | .finish id =>
    match state.phase id with
    | .reading read =>
      let (reusable_prefix_tokens, session) := finish_session py state.session (requests id).headers
        read (requests id).prompt_tokens (requests id).output_tokens
      ((), ⟨session, Function.update state.phase id
        (.done ⟨request_turn_index py (requests id).headers read, reusable_prefix_tokens⟩)⟩)
    | _ => ((), state)

/-- The calls of a run, from a session in which none is under way. -/
def Concurrent.run (session : Session) (sections : List (transaction.Section ι)) : Concurrent ι :=
  machine.run (Concurrent.step py requests) (.init session) sections

variable {py requests} {state : Concurrent ι} {id : ι}

theorem Concurrent.step_read (hphase : state.phase id = .pending) :
    (Concurrent.step py requests state (.read id)).2 =
      ⟨(read_session state.session (primary_anchor_id (requests id).headers)).2,
        Function.update state.phase id
          (.reading (read_session state.session (primary_anchor_id (requests id).headers)).1)⟩ := by
  simp only [Concurrent.step, hphase]

theorem Concurrent.step_finish {read : SessionRead} (hphase : state.phase id = .reading read) :
    (Concurrent.step py requests state (.finish id)).2 =
      ⟨(finish_session py state.session (requests id).headers read (requests id).prompt_tokens
          (requests id).output_tokens).2,
        Function.update state.phase id (.done ⟨request_turn_index py (requests id).headers read,
          (finish_session py state.session (requests id).headers read (requests id).prompt_tokens
            (requests id).output_tokens).1⟩)⟩ := by
  simp only [Concurrent.step, hphase]

end

end vllm_kv_materialization.live_control
