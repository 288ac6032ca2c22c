import KvMaterialization.Cursor
import KvMaterialization.Machine
import KvMaterialization.Legacy.Prompts

open python
open vllm_kv_materialization.live_control

namespace vllm_kv_materialization.live_control

/-- An extra argument of a request: the caller's own, or a control entry. -/
inductive XArg (V : Type) where
  | own (value : V)
  | control (payload : RuntimeControlPayload)

def merge_runtime_control_extra_args {V : Type} (extra_args : Option (Dict String (XArg V)))
    (plan : RuntimeControlPlan) : Dict String (XArg V) :=
  (extra_args.getD .empty).update
    ((build_runtime_control_extra_args plan).entries.map fun entry => (entry.1, .control entry.2))

end vllm_kv_materialization.live_control

namespace vllm_kv_materialization.legacy_vllm_023

/-- A request object. Its plain fields read as `None` where the attribute is missing, and
`runtime_plans` is the attribute pair of the plans and their cursor; `host` is the rest. -/
structure Request (V H : Type) where
  request_id : Option String
  max_completion_tokens : Option ℤ
  max_tokens : Option ℤ
  vllm_xargs : Option (Dict String (XArg V))
  runtime_plans : Cursor RuntimeControlPlan
  host : H

/-- What the adapter works on: the controller's session, the request object, and the
observations that wait to be logged. -/
structure State (F V H : Type) where
  session : Session
  request : Request V H
  observations : Cursor (LiveObservation F)

/-- A prompt the adapter has controlled, with what the controller returned for it. -/
structure Controlled (F O : Type) where
  prompt : PromptValue O
  plan : RuntimeControlPlan
  observation : LiveObservation F

section

variable {F V H : Type}

def store_runtime_plans (state : State F V H) (plans : List RuntimeControlPlan)
    (observations : List (LiveObservation F)) : State F V H :=
  { state with
    request := { state.request with runtime_plans := .start plans }
    observations := .start observations }

def consume_runtime_plan (request : Request V H) : Option RuntimeControlPlan × Request V H :=
  let (plan, runtime_plans) := request.runtime_plans.next
  (plan, { request with runtime_plans })

/-- The original method may raise, and may write the extra arguments and the host's part of
the request. The `finally` block runs either way. -/
def attach_runtime_plan_to_sampling_params {D R : Type}
    (original_to_sampling_params :
      Request V H → ℤ → D → Except Exception R × Option (Dict String (XArg V)) × H)
    (request : Request V H) (max_tokens : ℤ) (default_sampling_params : D) :
    Except Exception R × Request V H :=
  match consume_runtime_plan request with
  | (none, request) =>
    let (result, vllm_xargs, host) :=
      original_to_sampling_params request max_tokens default_sampling_params
    (result, { request with vllm_xargs, host })
  | (some plan, request) =>
    let previous_vllm_xargs := request.vllm_xargs
    let request :=
      { request with vllm_xargs := some (merge_runtime_control_extra_args previous_vllm_xargs plan) }
    let (result, _, host) := original_to_sampling_params request max_tokens default_sampling_params
    (result, { request with host, vllm_xargs := previous_vllm_xargs })

/-- `value or None`, of a count. -/
def truthy (count : Option ℤ) : Option ℤ := count.filter (· ≠ 0)

def chat_output_tokens (request : Request V H) : ℤ :=
  (truthy request.max_completion_tokens <|> truthy request.max_tokens).getD 0

def completion_output_tokens (request : Request V H) : ℤ := (truthy request.max_tokens).getD 0

/-- The id a prompt is planned under: that of the request, or else one made of the
request's identity as an object and the index of the prompt. -/
def prompt_request_id (endpoint : String) (identity : ℕ) (request : Request V H) (index : ℕ) : String :=
  let made := endpoint ++ "-" ++ toString identity ++ "-" ++ toString index
  match request.request_id with
  | some request_id => if request_id = "" then made else request_id
  | none => made

end

/-- What the adapter leaves to the host: how a prompt is taken apart into token ids, the
identity of the request object, and the sampling parameters it makes of a request, with the
extra arguments and the host's part that it leaves there. -/
structure Host (V H O D R : Type) where
  extract_prompt_components : PromptValue O → Except Exception (Option (List ℕ))
  identity : ℕ
  to_sampling_params : Request V H → ℤ → D → Except Exception R × Option (Dict String (XArg V)) × H

section

variable {F V H O D R : Type} [PyFloat F] (py : Interpreter F) (env : Environment)
  (vllm : Host V H O D R)

def prompt_token_count (prompt : PromptValue O) : ℤ :=
  match vllm.extract_prompt_components prompt with
  | .ok token_ids => (token_ids.getD []).length
  | .error _ => 0

/-- The loop of both renderers, from a prompt on. A call that raises ends it, with the
session as that call left it. -/
def control_prompts (headers : Headers) (request_id : ℕ → String) (output_tokens : ℤ) :
    ℕ → List (PromptValue O) → Session → Except Exception (List (Controlled F O)) × Session
  | _, [], session => (.ok [], session)
  | index, engine_prompt :: rest, session =>
    match compute_runtime_control py env session headers (request_id index)
        (prompt_token_count vllm engine_prompt) output_tokens with
    | (.error error, session) => (.error error, session)
    | (.ok (observation, plan), session) =>
      match control_prompts headers request_id output_tokens (index + 1) rest session with
      | (.error error, session) => (.error error, session)
      | (.ok controlled, session) =>
        (.ok (⟨apply_runtime_control engine_prompt plan, plan, observation⟩ :: controlled), session)

/-- What both renderers do with the prompts that were rendered. -/
def render_prompts (headers : Headers) (endpoint : String) (output_tokens : ℤ)
    (engine_prompts : List (PromptValue O)) (state : State F V H) :
    Except Exception (List (PromptValue O)) × State F V H :=
  match control_prompts py env vllm headers (prompt_request_id endpoint vllm.identity state.request)
      output_tokens 0 engine_prompts state.session with
  | (.error error, session) => (.error error, { state with session })
  | (.ok controlled, session) =>
    (.ok (controlled.map Controlled.prompt),
      store_runtime_plans { state with session } (controlled.map Controlled.plan)
        (controlled.map Controlled.observation))

/-- `result` is what the original renderer returned: a conversation with its prompts, or
anything else, which is passed on. -/
def patched_render_chat {C E : Type} (headers : Headers) (result : Except Exception (C × List (PromptValue O) ⊕ E))
    (state : State F V H) : Except Exception (C × List (PromptValue O) ⊕ E) × State F V H :=
  match result with
  | .error error => (.error error, state)
  | .ok (.inr other) => (.ok (.inr other), state)
  | .ok (.inl (conversation, engine_prompts)) =>
    let (controlled_prompts, state) :=
      render_prompts py env vllm headers "chat" (chat_output_tokens state.request) engine_prompts state
    (controlled_prompts.map (fun prompts => .inl (conversation, prompts)), state)

def patched_render_completion {E : Type} (headers : Headers) (result : Except Exception (List (PromptValue O) ⊕ E))
    (state : State F V H) : Except Exception (List (PromptValue O) ⊕ E) × State F V H :=
  match result with
  | .error error => (.error error, state)
  | .ok (.inr other) => (.ok (.inr other), state)
  | .ok (.inl engine_prompts) =>
    let (controlled_prompts, state) := render_prompts py env vllm headers "completion"
      (completion_output_tokens state.request) engine_prompts state
    (controlled_prompts.map .inl, state)

/-- What happens to a request object. Between the calls its caller may assign its
extra arguments and the host its own part. -/
inductive Call (V H O C E D : Type) where
  | render_chat (headers : Headers) (result : Except Exception (C × List (PromptValue O) ⊕ E))
  | render_completion (headers : Headers) (result : Except Exception (List (PromptValue O) ⊕ E))
  | to_sampling_params (max_tokens : ℤ) (default_sampling_params : D)
  | assign (vllm_xargs : Option (Dict String (XArg V))) (host : H)

inductive Reply (O C E R : Type) where
  | chat (result : Except Exception (C × List (PromptValue O) ⊕ E))
  | completion (result : Except Exception (List (PromptValue O) ⊕ E))
  | sampling_params (result : Except Exception R)
  | assigned

def step {C E : Type} (state : State F V H) : Call V H O C E D → Reply O C E R × State F V H
  | .render_chat headers result =>
    let (result, state) := patched_render_chat py env vllm headers result state
    (.chat result, state)
  | .render_completion headers result =>
    let (result, state) := patched_render_completion py env vllm headers result state
    (.completion result, state)
  | .to_sampling_params max_tokens default_sampling_params =>
    let (result, request) := attach_runtime_plan_to_sampling_params vllm.to_sampling_params state.request
      max_tokens default_sampling_params
    (.sampling_params result, { state with request })
  | .assign vllm_xargs host =>
    (.assigned, { state with request := { state.request with vllm_xargs, host } })

end

end vllm_kv_materialization.legacy_vllm_023
