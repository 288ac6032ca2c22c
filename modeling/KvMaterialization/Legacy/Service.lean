import KvMaterialization.Legacy.Alignment
import KvMaterialization.Scopes
import Mathlib.Logic.Function.Basic

open python
open vllm_kv_materialization.live_control

namespace vllm_kv_materialization.legacy_vllm_023

/-- The context variables of a task. -/
structure Context (F : Type) where
  headers : Headers
  observations : Cursor (LiveObservation F)

/-- A task of the server. `entered` has the contexts that the `create` calls it is inside
of will put back, the innermost first. -/
structure Task (F : Type) where
  context : Context F
  entered : List (Context F)

/-- The tasks of a server share the controller's session, the request objects and the log. -/
structure Process (F V H : Type) where
  session : Session
  requests : ℕ → Request V H
  tasks : ℕ → Task F
  recorded : List (LiveObservation F)

/-- What is called with a request object. The renderers read the headers of their task. -/
inductive Method (V H O C E D : Type) where
  | render_chat (result : Except Exception (C × List (PromptValue O) ⊕ E))
  | render_completion (result : Except Exception (List (PromptValue O) ⊕ E))
  | to_sampling_params (max_tokens : ℤ) (default_sampling_params : D)
  | assign (vllm_xargs : Option (Dict String (XArg V))) (host : H)

/-- What a task does between two points where another may run. A task that is spawned
copies the context of the one that spawns it. -/
inductive Activity (V H O C E D : Type) where
  | spawn (child : ℕ)
  | allocate (object : ℕ) (request : Request V H)
  | create (raw_headers : List (String × String))
  | finish
  | request (object : ℕ) (method : Method V H O C E D)
  | log_inputs (request_id : String) (original recording : Option Exception)

section

variable {F V H O C E D R : Type}

def Method.call (headers : Headers) : Method V H O C E D → Call V H O C E D
  | .render_chat result => .render_chat headers result
  | .render_completion result => .render_completion headers result
  | .to_sampling_params max_tokens default_sampling_params => .to_sampling_params max_tokens default_sampling_params
  | .assign vllm_xargs host => .assign vllm_xargs host

inductive Answer (O C E R : Type) where
  | request (reply : Reply O C E R)
  | logged (result : Except Exception Unit)
  | done

def Answer.prompts : Answer O C E R → Option (List (PromptValue O))
  | .request reply => reply.prompts
  | _ => none

/-- The observation under the id the engine logs the request by, unless its client has named it. -/
def logged_observation (headers : Headers) (request_id : String) (observation : LiveObservation F) :
    LiveObservation F :=
  if header headers HEADER_REQUEST_ID = "" then { observation with request_id } else observation

/-- `original` is what the original method raises. Nothing is raised past it. -/
def patched_log_inputs (env : Environment) (context : Context F) (recorded : List (LiveObservation F))
    (request_id : String) (original recording : Option Exception) :
    Except Exception Unit × Context F × List (LiveObservation F) :=
  match original with
  | some error => (.error error, context, recorded)
  | none =>
    match context.observations.next with
    | (none, _) => (.ok (), context, recorded)
    | (some observation, observations) =>
      (.ok (), { context with observations },
        (record_observation env recording (logged_observation context.headers request_id observation) recorded).2)

def Process.context (process : Process F V H) (task : ℕ) : Context F := (process.tasks task).context

def Process.entered (process : Process F V H) (task : ℕ) : List (Context F) := (process.tasks task).entered

def Process.set_task (process : Process F V H) (task : ℕ) (state : Task F) : Process F V H :=
  { process with tasks := Function.update process.tasks task state }

/-- The context of `create`: its own headers, and no observations yet. -/
def bound (py : Interpreter F) (raw_headers : List (String × String)) : Context F :=
  ⟨bind_request_headers py.lower raw_headers, .start []⟩

/-- What a request object and its task see of the process. -/
def Process.state (process : Process F V H) (task object : ℕ) : State F V H :=
  ⟨process.session, process.requests object, (process.context task).observations⟩

def Process.set_state (process : Process F V H) (task object : ℕ) (state : State F V H) : Process F V H :=
  { process with
    session := state.session
    requests := Function.update process.requests object state.request
    tasks := Function.update process.tasks task
      { process.tasks task with
        context := { (process.tasks task).context with observations := state.observations } } }

end

section

variable {F V H O C E D R : Type} [PyFloat F] (py : Interpreter F) (env : Environment)
  (vllm : Host V H O D R)

/-- One activity of a task. `finish` is the `finally` block of its innermost `create`. -/
def serve (process : Process F V H) : ℕ × Activity V H O C E D → Answer O C E R × Process F V H
  | (task, .spawn child) =>
    (.done, process.set_task child ⟨process.context task, process.entered child⟩)
  | (_, .allocate object request) =>
    (.done, { process with requests := Function.update process.requests object request })
  | (task, .create raw_headers) =>
    (.done, process.set_task task ⟨bound py raw_headers, process.context task :: process.entered task⟩)
  | (task, .finish) =>
    match process.entered task with
    | [] => (.done, process)
    | context :: entered => (.done, process.set_task task ⟨context, entered⟩)
  | (task, .request object method) =>
    let (reply, state) := step py env { vllm with identity := object } (process.state task object)
      (method.call (process.context task).headers)
    (.request reply, process.set_state task object state)
  | (task, .log_inputs request_id original recording) =>
    let (result, context, recorded) :=
      patched_log_inputs env (process.context task) process.recorded request_id original recording
    (.logged result, { process.set_task task ⟨context, process.entered task⟩ with recorded })

end

section Tasks

variable {F V H : Type} (process : Process F V H)

@[simp] theorem context_set_task_self (task : ℕ) (state : Task F) :
    (process.set_task task state).context task = state.context := by
  simp [Process.set_task, Process.context]

@[simp] theorem entered_set_task_self (task : ℕ) (state : Task F) :
    (process.set_task task state).entered task = state.entered := by
  simp [Process.set_task, Process.entered]

theorem context_set_task_of_ne {task other : ℕ} (hne : other ≠ task) (state : Task F) :
    (process.set_task task state).context other = process.context other := by
  simp [Process.set_task, Process.context, hne]

theorem entered_set_task_of_ne {task other : ℕ} (hne : other ≠ task) (state : Task F) :
    (process.set_task task state).entered other = process.entered other := by
  simp [Process.set_task, Process.entered, hne]

@[simp] theorem context_set_state_self (task object : ℕ) (state : State F V H) :
    (process.set_state task object state).context task =
      { process.context task with observations := state.observations } := by
  simp [Process.set_state, Process.context]

theorem context_set_state_of_ne {task other : ℕ} (hne : other ≠ task) (object : ℕ) (state : State F V H) :
    (process.set_state task object state).context other = process.context other := by
  simp [Process.set_state, Process.context, hne]

@[simp] theorem entered_set_state (task other object : ℕ) (state : State F V H) :
    (process.set_state task object state).entered other = process.entered other := by
  unfold Process.set_state Process.entered
  obtain rfl | hne := eq_or_ne other task
  · simp
  · simp [hne]

@[simp] theorem requests_set_state_self (task object : ℕ) (state : State F V H) :
    (process.set_state task object state).requests object = state.request := by
  simp [Process.set_state]

theorem requests_set_state_of_ne {object other : ℕ} (hne : other ≠ object) (task : ℕ) (state : State F V H) :
    (process.set_state task object state).requests other = process.requests other := by
  simp [Process.set_state, hne]

end Tasks

section Scoping

variable {F V H O C E D R : Type}

/-- What an activity does to the context of a task. -/
def mark (task : ℕ) : ℕ × Activity V H O C E D → scopes.Mark
  | (actor, .create _) => if actor = task then .enter else .inside
  | (actor, .finish) => if actor = task then .leave else .inside
  | _ => .inside

theorem mark_enter {task : ℕ} {activity : ℕ × Activity V H O C E D} (henter : mark task activity = .enter) :
    ∃ raw_headers, activity = (task, .create raw_headers) := by
  unfold mark at henter
  split at henter
  · rename_i actor raw_headers
    split at henter
    · rename_i hactor
      exact ⟨raw_headers, by rw [hactor]⟩
    · cases henter
  · split at henter <;> cases henter
  · cases henter

theorem mark_leave {task : ℕ} {activity : ℕ × Activity V H O C E D} (hleave : mark task activity = .leave) :
    activity = (task, .finish) := by
  unfold mark at hleave
  split at hleave
  · split at hleave <;> cases hleave
  · split at hleave
    · rename_i hactor
      rw [hactor]
    · cases hleave
  · cases hleave

variable [PyFloat F] (py : Interpreter F) (env : Environment) (vllm : Host V H O D R)

theorem serve_log_inputs_context (task : ℕ) (process : Process F V H) (request_id : String)
    (original recording : Option Exception) :
    (serve (C := C) (E := E) py env vllm process (task, .log_inputs request_id original recording)).2.context task =
      (patched_log_inputs env (process.context task) process.recorded request_id original recording).2.1 :=
  context_set_task_self process task _

/-- An activity that does not open or close the scope of a task leaves what the task has
entered, and unless the task is spawned by it, the headers it has bound. -/
theorem serve_inside {task : ℕ} (process : Process F V H) {activity : ℕ × Activity V H O C E D}
    (hinside : mark task activity = .inside) :
    (serve py env vllm process activity).2.entered task = process.entered task ∧
      (activity.2 ≠ .spawn task →
        ((serve py env vllm process activity).2.context task).headers = (process.context task).headers) := by
  obtain ⟨actor, activity⟩ := activity
  cases activity with
  | spawn child =>
    simp only [serve]
    obtain rfl | hne := eq_or_ne task child
    · simp
    · simp [context_set_task_of_ne, entered_set_task_of_ne, hne]
  | allocate object request => exact ⟨rfl, fun _ => rfl⟩
  | create raw_headers =>
    have hne : task ≠ actor := by
      rintro rfl
      simp [mark] at hinside
    simp [serve, context_set_task_of_ne, entered_set_task_of_ne, hne]
  | finish =>
    have hne : task ≠ actor := by
      rintro rfl
      simp [mark] at hinside
    simp only [serve]
    split
    · exact ⟨rfl, fun _ => rfl⟩
    · simp [context_set_task_of_ne, entered_set_task_of_ne, hne]
  | request object method =>
    simp only [serve, entered_set_state, true_and]
    intro _
    obtain rfl | hne := eq_or_ne task actor
    · simp
    · rw [context_set_state_of_ne _ hne]
  | log_inputs request_id original recording =>
    obtain rfl | hne := eq_or_ne task actor
    · refine ⟨entered_set_task_self _ _ _, fun _ => ?_⟩
      rw [serve_log_inputs_context]
      unfold patched_log_inputs
      split
      · rfl
      · split <;> rfl
    · exact ⟨entered_set_task_of_ne _ hne _, fun _ => congrArg Context.headers (context_set_task_of_ne _ hne _)⟩

/-- The context of a task is scoped by its `create` calls, whatever other tasks do. -/
theorem context_scoped (task : ℕ) : scopes.Scoped (serve (C := C) (E := E) py env vllm) (mark task)
    (fun process => process.context task) (fun process => process.entered task) where
  enter process activity henter := by
    obtain ⟨raw_headers, rfl⟩ := mark_enter henter
    simp [serve]
  leave process activity context entered hleave hentered := by
    obtain rfl := mark_leave hleave
    simp [serve, hentered]
  inside process activity hinside := (serve_inside py env vllm process hinside).1

end Scoping

end vllm_kv_materialization.legacy_vllm_023
