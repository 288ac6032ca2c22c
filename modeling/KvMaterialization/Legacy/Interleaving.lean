import KvMaterialization.Legacy.Service

open python
open vllm_kv_materialization.live_control

namespace vllm_kv_materialization.legacy_vllm_023

section

variable {V H O C E D : Type}

def Method.isRender : Method V H O C E D → Bool
  | .render_chat _ => true
  | .render_completion _ => true
  | _ => false

def Method.isSampling : Method V H O C E D → Bool
  | .to_sampling_params _ _ => true
  | _ => false

@[simp] theorem Method.call_isRender (headers : Headers) (method : Method V H O C E D) :
    (method.call headers).isRender = method.isRender := by
  cases method <;> rfl

@[simp] theorem Method.call_isSampling (headers : Headers) (method : Method V H O C E D) :
    (method.call headers).isSampling = method.isSampling := by
  cases method <;> rfl

/-- The activity gives a task other observations to log. -/
def rebinds (task : ℕ) : ℕ × Activity V H O C E D → Bool
  | (_, .spawn child) => child = task
  | (actor, .create _) => actor = task
  | (actor, .finish) => actor = task
  | (actor, .request _ method) => method.isRender && actor = task
  | _ => false

/-- The activity gives a request object other plans. -/
def replans (object : ℕ) : ℕ × Activity V H O C E D → Bool
  | (_, .allocate other _) => other = object
  | (_, .request other method) => method.isRender && other = object
  | _ => false

/-- A task logs its inputs, and the original method returns. -/
def logs (task : ℕ) : ℕ × Activity V H O C E D → Bool
  | (actor, .log_inputs _ original _) => original.isNone && actor = task
  | _ => false

/-- The sampling parameters of a request object are made. -/
def samples (object : ℕ) : ℕ × Activity V H O C E D → Bool
  | (_, .request other method) => method.isSampling && other = object
  | _ => false

theorem mark_of_not_rebinds {task : ℕ} {activity : ℕ × Activity V H O C E D} (hkeeps : rebinds task activity = false) :
    mark task activity = .inside ∧ activity.2 ≠ .spawn task := by
  obtain ⟨actor, activity⟩ := activity
  cases activity with
  | spawn child =>
    refine ⟨rfl, fun hspawn => ?_⟩
    cases hspawn
    simp [rebinds] at hkeeps
  | allocate object request => exact ⟨rfl, by simp⟩
  | create raw_headers =>
    have hne : actor ≠ task := by simpa [rebinds] using hkeeps
    exact ⟨if_neg hne, by simp⟩
  | finish =>
    have hne : actor ≠ task := by simpa [rebinds] using hkeeps
    exact ⟨if_neg hne, by simp⟩
  | request object method => exact ⟨rfl, by simp⟩
  | log_inputs request_id original recording => exact ⟨rfl, by simp⟩

end

section Logs

variable {F : Type} (env : Environment)

theorem log_inputs_observations (context : Context F) (recorded : List (LiveObservation F)) (request_id : String)
    (original recording : Option Exception) :
    (patched_log_inputs env context recorded request_id original recording).2.1.observations =
      context.observations.skip (if original.isNone then 1 else 0) := by
  unfold patched_log_inputs
  cases original with
  | some error => rfl
  | none =>
    dsimp only
    split
    · rename_i observations hnext
      have hnone : context.observations.next.1 = none := congrArg Prod.fst hnext
      exact (Cursor.next_of_none hnone).symm
    · rename_i observation observations hnext
      exact (congrArg Prod.snd hnext).symm

/-- What is logged is the observation that is next. -/
theorem log_inputs_recorded (context : Context F) (recorded : List (LiveObservation F)) (request_id : String)
    (recording : Option Exception) :
    (patched_log_inputs env context recorded request_id none recording).2.2 =
      match context.observations.next.1 with
      | some observation =>
        (record_observation env recording (logged_observation context.headers request_id observation) recorded).2
      | none => recorded := by
  unfold patched_log_inputs
  dsimp only
  split
  · rename_i observations hnext
    rw [hnext]
  · rename_i observation observations hnext
    rw [hnext]

end Logs

section Steps

variable {F V H O C E D R : Type} [PyFloat F] (py : Interpreter F) (env : Environment) (vllm : Host V H O D R)

/-- Without a render a call leaves the observations alone. -/
theorem step_observations (state : State F V H) {call : Call V H O C E D} (hcall : call.isRender = false) :
    (step py env vllm state call).2.observations = state.observations := by
  cases call with
  | render_chat headers result => cases hcall
  | render_completion headers result => cases hcall
  | to_sampling_params max_tokens default_sampling_params => rfl
  | assign vllm_xargs host => rfl

/-- The observations of a task move on by one with every log of the task itself. -/
theorem serve_observations (task : ℕ) (process : Process F V H) {activity : ℕ × Activity V H O C E D}
    (hkeeps : rebinds task activity = false) :
    ((serve py env vllm process activity).2.context task).observations =
      (process.context task).observations.skip (if logs task activity then 1 else 0) := by
  obtain ⟨actor, activity⟩ := activity
  cases activity with
  | spawn child =>
    have hne : task ≠ child := by simpa [rebinds, eq_comm] using hkeeps
    exact congrArg Context.observations (context_set_task_of_ne process hne _)
  | allocate object request => rfl
  | create raw_headers =>
    have hne : task ≠ actor := by simpa [rebinds, eq_comm] using hkeeps
    exact congrArg Context.observations (context_set_task_of_ne process hne _)
  | finish =>
    have hne : task ≠ actor := by simpa [rebinds, eq_comm] using hkeeps
    simp only [serve]
    split
    · rfl
    · exact congrArg Context.observations (context_set_task_of_ne process hne _)
  | request object method =>
    obtain rfl | hne := eq_or_ne task actor
    · have hrender : method.isRender = false := by simpa [rebinds] using hkeeps
      simp only [serve, context_set_state_self]
      rw [step_observations _ _ _ _ (by rw [Method.call_isRender, hrender])]
      rfl
    · exact congrArg Context.observations (context_set_state_of_ne process hne _ _)
  | log_inputs request_id original recording =>
    obtain rfl | hne := eq_or_ne task actor
    · rw [serve_log_inputs_context, log_inputs_observations]
      simp [logs]
    · have hother :
          logs task ((actor, .log_inputs request_id original recording) : ℕ × Activity V H O C E D) = false := by
        simp [logs, hne.symm]
      rw [hother]
      exact congrArg Context.observations (context_set_task_of_ne process hne _)

/-- The plans of a request object move on by one with every call for sampling parameters,
whichever task makes it. -/
theorem serve_runtime_plans (object : ℕ) (process : Process F V H) {activity : ℕ × Activity V H O C E D}
    (hkeeps : replans object activity = false) :
    ((serve py env vllm process activity).2.requests object).runtime_plans =
      (process.requests object).runtime_plans.skip (if samples object activity then 1 else 0) := by
  obtain ⟨actor, activity⟩ := activity
  cases activity with
  | spawn child => rfl
  | allocate other request =>
    have hne : object ≠ other := by simpa [replans, eq_comm] using hkeeps
    exact congrArg Request.runtime_plans (Function.update_of_ne hne _ _)
  | create raw_headers => rfl
  | finish =>
    simp only [serve]
    split <;> rfl
  | request other method =>
    obtain rfl | hne := eq_or_ne object other
    · have hrender : method.isRender = false := by simpa [replans] using hkeeps
      simp only [serve, requests_set_state_self]
      rw [step_runtime_plans _ (by rw [Method.call_isRender, hrender]), Method.call_isSampling]
      simp [samples, Process.state]
    · have hother : samples object ((actor, .request other method) : ℕ × Activity V H O C E D) = false := by
        simp [samples, hne.symm]
      rw [hother]
      exact congrArg Request.runtime_plans (requests_set_state_of_ne process hne _ _)
  | log_inputs request_id original recording => rfl

end Steps

section Runs

variable {F V H O C E D R : Type} [PyFloat F] (py : Interpreter F) (env : Environment) (vllm : Host V H O D R)

theorem run_observations (task : ℕ) (process : Process F V H) {activities : List (ℕ × Activity V H O C E D)}
    (hkeep : ∀ activity ∈ activities, rebinds task activity = false) :
    ((machine.run (serve py env vllm) process activities).context task).observations =
      (process.context task).observations.skip (activities.countP (logs task)) := by
  induction activities using List.reverseRecOn with
  | nil => rfl
  | append_singleton activities activity ih =>
    rw [List.forall_mem_append] at hkeep
    obtain ⟨hearlier, hlast⟩ := hkeep
    rw [machine.run_snoc, serve_observations _ _ _ _ _ (hlast activity List.mem_cons_self), ih hearlier,
      List.countP_append, List.countP_singleton]
    cases logs task activity <;> rfl

theorem run_headers (task : ℕ) (process : Process F V H) {activities : List (ℕ × Activity V H O C E D)}
    (hkeep : ∀ activity ∈ activities, rebinds task activity = false) :
    ((machine.run (serve py env vllm) process activities).context task).headers = (process.context task).headers := by
  induction activities using List.reverseRecOn with
  | nil => rfl
  | append_singleton activities activity ih =>
    rw [List.forall_mem_append] at hkeep
    obtain ⟨hearlier, hlast⟩ := hkeep
    obtain ⟨hinside, hspawn⟩ := mark_of_not_rebinds (hlast activity List.mem_cons_self)
    rw [machine.run_snoc, (serve_inside py env vllm _ hinside).2 hspawn, ih hearlier]

theorem run_object_plans (object : ℕ) (process : Process F V H) {activities : List (ℕ × Activity V H O C E D)}
    (hkeep : ∀ activity ∈ activities, replans object activity = false) :
    ((machine.run (serve py env vllm) process activities).requests object).runtime_plans =
      (process.requests object).runtime_plans.skip (activities.countP (samples object)) := by
  induction activities using List.reverseRecOn with
  | nil => rfl
  | append_singleton activities activity ih =>
    rw [List.forall_mem_append] at hkeep
    obtain ⟨hearlier, hlast⟩ := hkeep
    rw [machine.run_snoc, serve_runtime_plans _ _ _ _ _ (hlast activity List.mem_cons_self), ih hearlier,
      List.countP_append, List.countP_singleton]
    cases samples object activity <;> rfl

end Runs

section Rendered

variable {F V H O C E D R : Type} [PyFloat F] (py : Interpreter F) (env : Environment) (vllm : Host V H O D R)

/-- The controller was asked for the prompts one after the other, each in the session the
one before left. -/
def Computed (request : Request V H) (session : Session) (rendering : Rendering O)
    (controlled : List (Controlled F O)) : Prop :=
  controlled.length = rendering.prompts.length ∧ ∃ sessions : ℕ → Session, sessions 0 = session ∧
    ∀ k prompt, rendering.prompts[k]? = some prompt → ∃ observation plan,
      compute_runtime_control py env (sessions k) rendering.headers
          (prompt_request_id rendering.endpoint vllm.identity request k)
          (prompt_token_count vllm prompt) rendering.output_tokens =
        (.ok (observation, plan), sessions (k + 1)) ∧
      controlled[k]? = some ⟨apply_runtime_control prompt plan, plan, observation⟩

variable {py env vllm} {state : State F V H} {call : Call V H O C E D} {rendering : Rendering O}
  {returned : List (PromptValue O)}

omit [PyFloat F] in
theorem rendering_headers {request : Request V H} {method : Method V H O C E D} {headers : Headers}
    (hrender : (method.call headers).rendering request = some rendering) : rendering.headers = headers := by
  unfold Method.call Call.rendering at hrender
  split at hrender
  · rename_i heq
    split at heq <;> cases heq
    cases hrender
    rfl
  · rename_i heq
    split at heq <;> cases heq
    cases hrender
    rfl
  · cases hrender

/-- Either endpoint's render is that of its prompts. -/
theorem step_render_prompts (hrender : call.rendering state.request = some rendering)
    (hreturned : (step py env vllm state call).1.prompts = some returned) :
    (render_prompts py env vllm rendering.headers rendering.endpoint rendering.output_tokens rendering.prompts
        state).1 = .ok returned ∧
      (step py env vllm state call).2 = (render_prompts py env vllm rendering.headers rendering.endpoint
        rendering.output_tokens rendering.prompts state).2 := by
  unfold Call.rendering at hrender
  split at hrender
  · rename_i headers conversation prompts
    cases hrender
    simp only [step, patched_render_chat] at hreturned ⊢
    cases hprompts : (render_prompts py env vllm headers "chat" (chat_output_tokens state.request) prompts
        state).1 with
    | error error =>
      rw [hprompts] at hreturned
      cases hreturned
    | ok controlled_prompts =>
      rw [hprompts] at hreturned
      cases hreturned
      exact ⟨rfl, trivial⟩
  · rename_i headers prompts
    cases hrender
    simp only [step, patched_render_completion] at hreturned ⊢
    cases hprompts : (render_prompts py env vllm headers "completion" (completion_output_tokens state.request)
        prompts state).1 with
    | error error =>
      rw [hprompts] at hreturned
      cases hreturned
    | ok controlled_prompts =>
      rw [hprompts] at hreturned
      cases hreturned
      exact ⟨rfl, trivial⟩
  · cases hrender

/-- A render that returns leaves the plans of its prompts with the request object, and
what was observed of them with the task. -/
theorem step_render_controlled (hrender : call.rendering state.request = some rendering)
    (hreturned : (step py env vllm state call).1.prompts = some returned) :
    ∃ controlled, Computed py env vllm state.request state.session rendering controlled ∧
      returned = controlled.map Controlled.prompt ∧
      (step py env vllm state call).2.request.runtime_plans = .start (controlled.map Controlled.plan) ∧
      (step py env vllm state call).2.observations = .start (controlled.map Controlled.observation) := by
  obtain ⟨hprompts, hstate⟩ := step_render_prompts hrender hreturned
  rw [hstate]
  unfold render_prompts at hprompts ⊢
  split at hprompts
  · cases hprompts
  rename_i controlled after hcontrolled
  obtain ⟨hlength, sessions, hstart, hcomputed⟩ := control_prompts_computed hcontrolled
  rw [Except.ok.injEq] at hprompts
  refine ⟨controlled, ⟨hlength, sessions, hstart, fun k prompt hprompt => ?_⟩, hprompts.symm, rfl, rfl⟩
  simpa using hcomputed k prompt hprompt

theorem Computed.observed {request : Request V H} {session : Session} {controlled : List (Controlled F O)}
    (hcomputed : Computed py env vllm request session rendering controlled) :
    ∀ item ∈ controlled, item.observation.runtime_effective_decision = item.plan.effective_decision ∧
      item.observation.runtime_cache_salt = item.plan.cache_salt := by
  obtain ⟨hlength, sessions, _, hcomputed⟩ := hcomputed
  intro item hitem
  obtain ⟨k, hk, rfl⟩ := List.mem_iff_getElem.mp hitem
  obtain ⟨observation, plan, hcontrol, hget⟩ :=
    hcomputed k _ (List.getElem?_eq_getElem (hlength ▸ hk))
  rw [List.getElem?_eq_getElem hk, Option.some.injEq] at hget
  rw [hget]
  exact compute_runtime_control_observed (congrArg Prod.fst hcontrol)

end Rendered

section Interleaved

variable {F V H O C E D R : Type} [PyFloat F]

/-- Inside a `create` call a task has the headers the call has bound, and after it the context
it had before, however deep its calls are nested and whatever other tasks do meanwhile. -/
theorem create_scoped (py : Interpreter F) (env : Environment) (vllm : Host V H O D R) (start : Process F V H)
    (task : ℕ)
    (raw_headers : List (String × String)) (body : List (ℕ × Activity V H O C E D))
    (hbody : scopes.Balanced (mark task) body) (hspawn : ∀ activity ∈ body, activity.2 ≠ .spawn task) :
    ((machine.run (serve py env vllm) start ((task, .create raw_headers) :: body)).context task).headers =
        bind_request_headers py.lower raw_headers ∧
      (machine.run (serve py env vllm) start ((task, .create raw_headers) :: body ++ [(task, .finish)])).context task =
        start.context task ∧
      (machine.run (serve py env vllm) start ((task, .create raw_headers) :: body ++ [(task, .finish)])).entered task =
        start.entered task := by
  have hscoped := context_scoped (C := C) (E := E) py env vllm task
  have henter : mark task ((task, .create raw_headers) : ℕ × Activity V H O C E D) = .enter := if_pos rfl
  have hleave : mark task ((task, .finish) : ℕ × Activity V H O C E D) = .leave := if_pos rfl
  refine ⟨?_, hscoped.restored henter hbody hleave start⟩
  have hview := hscoped.view_run Context.headers hbody
    (fun activity hmem hinside process => (serve_inside py env vllm process hinside).2 (hspawn activity hmem))
    (serve (C := C) (E := E) py env vllm start (task, .create raw_headers)).2
  refine hview.trans ?_
  simp [serve, bound]

/-- After a render, whatever the other tasks of the server do meanwhile, the logs of its task
record what was observed of its prompts, one after the other and nothing after the last; and
until the request object is rendered anew, its sampling parameters are made with the plans
that were observed. -/
theorem logs_aligned (py : Interpreter F) (env : Environment) (vllm : Host V H O D R) (start : Process F V H)
    (earlier : List (ℕ × Activity V H O C E D)) (task object : ℕ) (method : Method V H O C E D)
    (rendering : Rendering O) (returned : List (PromptValue O))
    (hrender : (method.call ((machine.run (serve py env vllm) start earlier).context task).headers).rendering
      ((machine.run (serve py env vllm) start earlier).requests object) = some rendering)
    (hreturned : (serve py env vllm (machine.run (serve py env vllm) start earlier)
      (task, .request object method)).1.prompts = some returned) :
    ∃ controlled, Computed py env { vllm with identity := object }
        ((machine.run (serve py env vllm) start earlier).requests object)
        (machine.run (serve py env vllm) start earlier).session rendering controlled ∧
      returned = controlled.map Controlled.prompt ∧
      (∀ item ∈ controlled, item.observation.runtime_effective_decision = item.plan.effective_decision ∧
        item.observation.runtime_cache_salt = item.plan.cache_salt) ∧
      ∀ later : List (ℕ × Activity V H O C E D),
        let process := machine.run (serve py env vllm) start (earlier ++ (task, .request object method) :: later)
        ((∀ activity ∈ later, rebinds task activity = false) → ∀ request_id recording,
          (serve py env vllm process
              ((task, .log_inputs request_id none recording) : ℕ × Activity V H O C E D)).2.recorded =
            match controlled[later.countP (logs task)]? with
            | some item => (record_observation env recording
                (logged_observation rendering.headers request_id item.observation) process.recorded).2
            | none => process.recorded) ∧
        ((∀ activity ∈ later, replans object activity = false) → ∀ max_tokens (default_sampling_params : D),
          ∃ vllm_xargs, RunsWith R (process.requests object) max_tokens default_sampling_params vllm_xargs ∧
            match controlled[later.countP (samples object)]? with
            | some item => WithControl (process.requests object).vllm_xargs item.plan vllm_xargs
            | none => vllm_xargs = (process.requests object).vllm_xargs) := by
  generalize hbegin : machine.run (serve py env vllm) start earlier = begun at hrender hreturned ⊢
  obtain ⟨controlled, hcomputed, hprompts, hplans, hobservations⟩ := step_render_controlled hrender hreturned
  refine ⟨controlled, hcomputed, hprompts, hcomputed.observed, ?_⟩
  intro later process
  have hprocess : process = machine.run (serve py env vllm)
      (serve py env vllm begun (task, .request object method)).2 later := by
    change machine.run (serve py env vllm) start (earlier ++ (task, .request object method) :: later) = _
    rw [machine.run_append, hbegin]
    rfl
  constructor
  · intro hkeeps request_id recording
    have hnext : (process.context task).observations.next.1 =
        (controlled[later.countP (logs task)]?).map Controlled.observation := by
      rw [hprocess, run_observations _ _ _ _ _ hkeeps]
      simp only [serve, context_set_state_self]
      rw [hobservations, Cursor.next_skip_start, List.getElem?_map]
    have hheaders : (process.context task).headers = rendering.headers := by
      rw [hprocess, run_headers _ _ _ _ _ hkeeps]
      simp only [serve, context_set_state_self]
      exact (rendering_headers hrender).symm
    change (patched_log_inputs env (process.context task) process.recorded request_id none recording).2.2 = _
    rw [log_inputs_recorded, hnext, hheaders]
    cases controlled[later.countP (logs task)]? <;> rfl
  · intro hkeeps max_tokens default_sampling_params
    have hnext : (process.requests object).runtime_plans.next.1 =
        (controlled[later.countP (samples object)]?).map Controlled.plan := by
      rw [hprocess, run_object_plans _ _ _ _ _ hkeeps]
      simp only [serve, requests_set_state_self]
      rw [hplans, Cursor.next_skip_start, List.getElem?_map]
    obtain ⟨vllm_xargs, hruns, hcontrol, hown⟩ :=
      attach_runsWith R (process.requests object) max_tokens default_sampling_params
    rw [hnext] at hcontrol hown
    refine ⟨vllm_xargs, hruns, ?_⟩
    cases hitem : controlled[later.countP (samples object)]? with
    | none => exact hown (by rw [hitem]; rfl)
    | some item => exact hcontrol item.plan (by rw [hitem]; rfl)

end Interleaved

/-- A server before its first request, whose tasks know no headers and no observations. -/
def idle : Process ℚ Unit Unit where
  session := .init
  requests _ := ⟨none, none, some 64, none, .start [], ()⟩
  tasks _ := ⟨⟨.empty, .start []⟩, []⟩
  recorded := []

/-- A host whose prompts are three tokens long. -/
def threeTokens : Host Unit Unit Unit Unit Unit :=
  ⟨fun _ => .ok (some [1, 2, 3]), 0, fun request _ _ => (.ok (), request.vllm_xargs, ())⟩

/-- A task is called inside of its own call, while another is. -/
theorem create_scoped_nested :
    let body : List (ℕ × Activity Unit Unit Unit Unit Unit Unit) :=
      [(2, .create [("X-Request-Id", "b")]), (1, .create []), (1, .finish), (2, .finish)]
    let run := machine.run (serve Interpreter.ascii (.ofList []) threeTokens) idle
    ((run ((1, .create [("X-Request-Id", "a")]) :: body)).context 1).headers =
        bind_request_headers asciiLower [("X-Request-Id", "a")] ∧
      (run ((1, .create [("X-Request-Id", "a")]) :: body ++ [(1, .finish)])).context 1 = ⟨.empty, .start []⟩ := by
  intro body run
  have hempty : scopes.Balanced (mark 1) ([] : List (ℕ × Activity Unit Unit Unit Unit Unit Unit)) := .nil
  have hbody : scopes.Balanced (mark 1) body := .inside rfl (.scope rfl hempty rfl (.inside rfl hempty))
  obtain ⟨hheaders, hcontext, _⟩ := create_scoped Interpreter.ascii (.ofList []) threeTokens idle 1
    [("X-Request-Id", "a")] body hbody (by simp [body])
  exact ⟨hheaders, hcontext⟩

/-- Another task samples, renders anew and logs the request object between the two logs of a
completion of two prompts. -/
theorem logs_aligned_two_tasks :
    let render : Method Unit Unit Unit Unit Unit Unit := .render_completion (.ok (.inl [.dict [], .dict []]))
    let earlier : List (ℕ × Activity Unit Unit Unit Unit Unit Unit) :=
      [(1, .create []), (2, .create [("X-Request-Id", "b")])]
    let first : List (ℕ × Activity Unit Unit Unit Unit Unit Unit) :=
      [(1, .log_inputs "a-0" none none), (2, .request 7 (.to_sampling_params 64 ()))]
    let between := first ++ [(2, .request 7 render), (2, .log_inputs "b-0" none none)]
    let env : Environment := .ofList [("VLLM_KV_MATERIALIZATION_LOG_PATH", "observations.jsonl")]
    let run := machine.run (serve Interpreter.ascii env threeTokens) idle
    let process := run (earlier ++ (1, .request 7 render) :: between)
    let sampled := run (earlier ++ (1, .request 7 render) :: first)
    ∃ controlled : List (Controlled ℚ Unit), controlled.length = 2 ∧ ∃ item, controlled[1]? = some item ∧
      (serve Interpreter.ascii env threeTokens process
          ((1, .log_inputs "a-1" none none) : ℕ × Activity Unit Unit Unit Unit Unit Unit)).2.recorded =
        process.recorded ++ [logged_observation .empty "a-1" item.observation] ∧
      ∃ vllm_xargs, RunsWith Unit (sampled.requests 7) 64 () vllm_xargs ∧
        WithControl (sampled.requests 7).vllm_xargs item.plan vllm_xargs := by
  intro render earlier first between env run process sampled
  have hreturned : ((serve Interpreter.ascii env threeTokens
      (machine.run (serve Interpreter.ascii env threeTokens) idle earlier)
      (1, .request 7 render)).1.prompts).isSome = true := by
    decide +kernel
  obtain ⟨returned, hreturned⟩ := Option.isSome_iff_exists.mp hreturned
  obtain ⟨controlled, hcomputed, _, _, haligned⟩ := logs_aligned Interpreter.ascii env threeTokens idle earlier
    1 7 render ⟨.empty, "completion", 64, [.dict [], .dict []]⟩ returned rfl hreturned
  have hlength : controlled.length = 2 := hcomputed.1
  have hitem : controlled[1]? = some controlled[1] := List.getElem?_eq_getElem (by omega)
  refine ⟨controlled, hlength, controlled[1], hitem, ?_, ?_⟩
  · have hlogged := (haligned between).1 (by simp [between, first, render, rebinds, Method.isRender]) "a-1" none
    have hcount : between.countP (logs 1) = 1 := rfl
    rw [hcount, hitem] at hlogged
    have hrecord : ∀ (observation : LiveObservation ℚ) recorded,
        (record_observation env none observation recorded).2 = recorded ++ [observation] := by
      intro observation recorded
      unfold record_observation
      rw [if_neg (by decide)]
    have hprocess : process = machine.run (serve Interpreter.ascii env threeTokens) idle
        (earlier ++ (1, .request 7 render) :: between) := rfl
    dsimp only at hlogged
    rw [hrecord, ← hprocess] at hlogged
    exact hlogged
  · obtain ⟨vllm_xargs, hruns, hcontrol⟩ :=
      (haligned first).2 (by simp [first, replans, Method.isRender]) 64 ()
    have hcount : first.countP (samples 7) = 1 := rfl
    have hsampled : sampled = machine.run (serve Interpreter.ascii env threeTokens) idle
        (earlier ++ (1, .request 7 render) :: first) := rfl
    rw [hcount, hitem] at hcontrol
    rw [← hsampled] at hruns hcontrol
    exact ⟨vllm_xargs, hruns, hcontrol⟩

end vllm_kv_materialization.legacy_vllm_023
