import KvMaterialization.Legacy.Prompts

open python
open vllm_kv_materialization.live_control

namespace vllm_kv_materialization.school_vllm_028

/-- What the adapter raises itself, and what it lets through. -/
inductive Failure where
  | type_error (message : String)
  | value_error (message : String)
  | raised (error : Exception)
  deriving DecidableEq, Repr

/-- What the adapter leaves to the host: which values are lists and how long, which are
true, the digits of the uuid that is drawn as the nth, and what writing the observation
made under it to the log raises, if anything. -/
structure Host (O : Type) where
  list_length : O → Option ℕ
  truthy : O → Bool
  uuid4_hex : ℕ → String
  recording : ℕ → Option Exception

/-- The controller's session, the number of uuids that were drawn, and the observations
in the log. -/
structure State (F : Type) where
  session : Session
  drawn : ℕ
  recorded : List (LiveObservation F)

def State.init (F : Type) : State F := ⟨.init, 0, []⟩

section

variable {F O : Type} [PyFloat F] (py : Interpreter F) (env : Environment) (host : Host O)

/-- `bool(prompt.get(key))` -/
def truthy (entries : List (String × PromptValue O)) (key : String) : Bool :=
  match PromptValue.get? entries key with
  | none => false
  | some (.text value) => value ≠ ""
  | some (.dict entries) => !entries.isEmpty
  | some (.other value) => host.truthy value

/-- The length of `prompt["prompt_token_ids"]`, where that is a list. -/
def token_count (entries : List (String × PromptValue O)) : Option ℕ :=
  match PromptValue.get? entries "prompt_token_ids" with
  | some (.other value) => host.list_length value
  | _ => none

/-- The salt of the plan is one, and is found in the prompt. -/
def salt_applied (controlled : PromptValue O) (plan : RuntimeControlPlan) : Bool :=
  match plan.cache_salt, controlled with
  | some cache_salt, .dict entries =>
    match PromptValue.get? entries "cache_salt" with
    | some (.text found) => found = cache_salt && cache_salt ≠ ""
    | _ => false
  | _, _ => false

/-- `recording` is what writing the observation to the log raises. -/
def controlled_prompt (headers : Headers) (state : State F) (prompt : PromptValue O) (request_id : String)
    (max_tokens : ℤ) (recording : Option Exception) : Except Failure (PromptValue O) × State F :=
  match prompt with
  | .dict entries =>
    match token_count host entries with
    | none => (.error (.type_error "School 0.28 adapter requires a text token prompt"), state)
    | some prompt_tokens =>
      if truthy host entries "multi_modal_data" || truthy host entries "multi_modal_inputs" then
        (.error (.value_error "School 0.28 adapter does not qualify multimodal requests"), state)
      else
        match compute_runtime_control py env state.session headers request_id prompt_tokens max_tokens with
        | (.error error, session) => (.error (.raised error), { state with session })
        | (.ok (observation, plan), session) =>
          let state := { state with session }
          if plan.effective_decision ≠ .recompute then
            (.error (.value_error "School 0.28 adapter only qualifies request-scoped recompute"), state)
          else
            let controlled := apply_runtime_control prompt plan
            if !salt_applied controlled plan then
              (.error (.value_error "Request-scoped cache salt was not applied"), state)
            else
              match record_observation env recording observation state.recorded with
              | (.error error, recorded) => (.error (.raised error), { state with recorded })
              | (.ok _, recorded) => (.ok controlled, { state with recorded })
  | _ => (.error (.type_error "School 0.28 adapter requires a text token prompt"), state)

/-- The id the nth prompt of a process is controlled under. -/
def prompt_request_id (n : ℕ) : String := "school028-" ++ host.uuid4_hex n

/-- The list that `render` makes of the prompts. A prompt that is refused ends it. -/
def control_prompts (headers : Headers) (max_tokens : ℤ) :
    List (PromptValue O) → State F → Except Failure (List (PromptValue O)) × State F
  | [], state => (.ok [], state)
  | prompt :: rest, state =>
    match controlled_prompt py env host headers { state with drawn := state.drawn + 1 } prompt
        (prompt_request_id host state.drawn) max_tokens (host.recording state.drawn) with
    | (.error failure, state) => (.error failure, state)
    | (.ok controlled, state) =>
      match control_prompts headers max_tokens rest state with
      | (.error failure, state) => (.error failure, state)
      | (.ok others, state) => (.ok (controlled :: others), state)

/-- A call of `render` under the headers that `create` has bound. `result` is what the
original renderer returns: a conversation with its prompts, or anything else. -/
structure Render (O C E : Type) where
  headers : Headers
  max_completion_tokens : Option ℤ
  max_tokens : Option ℤ
  result : Except Exception (C × List (PromptValue O) ⊕ E)

/-- `request.max_completion_tokens or request.max_tokens or 0` -/
def Render.output_tokens {C E : Type} (call : Render O C E) : ℤ :=
  (call.max_completion_tokens.filter (· ≠ 0) <|> call.max_tokens.filter (· ≠ 0)).getD 0

def render {C E : Type} (state : State F) (call : Render O C E) :
    Except Failure (C × List (PromptValue O) ⊕ E) × State F :=
  match call.result with
  | .error error => (.error (.raised error), state)
  | .ok (.inr other) => (.ok (.inr other), state)
  | .ok (.inl (conversation, prompts)) =>
    let (controlled, state) := control_prompts py env host call.headers call.output_tokens prompts state
    (controlled.map fun prompts => .inl (conversation, prompts), state)

end

/-- The event of a request that is admitted, less its name and its scope. -/
structure Admission where
  request_id : String
  cache_salt_sha256 : String
  prompt_tokens : ℕ
  deriving DecidableEq, Repr

/-- What the patched `Request.__init__` has observed, once the original has run. -/
def initialized (sha256 : String → String) (request_id : String) (cache_salt : Option String)
    (prompt_token_ids : Option ℕ) : Option Admission :=
  match cache_salt with
  | some salt =>
    if "kvmat:recompute:".toList <+: salt.toList then
      some ⟨request_id, sha256 salt, prompt_token_ids.getD 0⟩
    else none
  | none => none

end vllm_kv_materialization.school_vllm_028
