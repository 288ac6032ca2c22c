import KvMaterialization.Legacy.Adapter
import KvMaterialization.LiveControl.Exact
import Mathlib.Data.List.Induction

open python
open vllm_kv_materialization.live_control

namespace vllm_kv_materialization.legacy_vllm_023

/-- What a render is asked for, whichever endpoint it serves. -/
structure Rendering (O : Type) where
  headers : Headers
  endpoint : String
  output_tokens : ℤ
  prompts : List (PromptValue O)

section

variable {V H O C E D R : Type}

/-- The prompts a call renders, if it renders any. -/
def Call.rendering (request : Request V H) : Call V H O C E D → Option (Rendering O)
  | .render_chat headers (.ok (.inl (_, prompts))) =>
    some ⟨headers, "chat", chat_output_tokens request, prompts⟩
  | .render_completion headers (.ok (.inl prompts)) =>
    some ⟨headers, "completion", completion_output_tokens request, prompts⟩
  | _ => none

def Call.isRender : Call V H O C E D → Bool
  | .render_chat _ _ => true
  | .render_completion _ _ => true
  | _ => false

def Call.isSampling : Call V H O C E D → Bool
  | .to_sampling_params _ _ => true
  | _ => false

/-- The prompts a call returned. -/
def Reply.prompts : Reply O C E R → Option (List (PromptValue O))
  | .chat (.ok (.inl (_, prompts))) => some prompts
  | .completion (.ok (.inl prompts)) => some prompts
  | _ => none

/-- The control entry of a plan, field by field. -/
structure States (payload : RuntimeControlPayload) (plan : RuntimeControlPlan) : Prop where
  schema_version : payload.schema_version = 1
  observed_decision : payload.observed_decision = plan.observed_decision.value
  effective_decision : payload.effective_decision = plan.effective_decision.value
  control_path : payload.control_path = plan.control_path.value
  cache_salt : payload.cache_salt = plan.cache_salt
  decision_supported : payload.decision_supported = plan.decision_supported
  support_tier : payload.support_tier = plan.support_tier.value
  fallback_reason : payload.fallback_reason = plan.fallback_reason.map FallbackReason.value
  target_reuse_tokens : payload.target_reuse_tokens = plan.target_reuse_tokens
  target_tail_tokens : payload.target_tail_tokens = plan.target_tail_tokens
  segmented_tail_cache_salt : payload.segmented_tail_cache_salt = plan.segmented_tail_cache_salt
  requires_segmented_materialization : payload.requires_segmented_materialization = true ↔
    plan.observed_decision = .partial_reuse

/-- The extra arguments are the previous ones and, under its key, the control entry of a plan. -/
def WithControl (previous : Option (Dict String (XArg V))) (plan : RuntimeControlPlan)
    (vllm_xargs : Option (Dict String (XArg V))) : Prop :=
  ∃ merged payload, vllm_xargs = some merged ∧
    merged.get? "kv_materialization_runtime_control" = some (.control payload) ∧ States payload plan ∧
    ∀ key, key ≠ "kv_materialization_runtime_control" → merged.get? key = (previous.getD .empty).get? key

/-- The original method is run on the request as it is, but for these extra arguments and the
plan that has been taken. -/
def RunsWith (R : Type) (request : Request V H) (max_tokens : ℤ) (default_sampling_params : D)
    (vllm_xargs : Option (Dict String (XArg V))) : Prop :=
  ∀ method : Request V H → ℤ → D → Except Exception R × Option (Dict String (XArg V)) × H,
    (attach_runtime_plan_to_sampling_params method request max_tokens default_sampling_params).1 =
      (method { request with runtime_plans := request.runtime_plans.next.2, vllm_xargs } max_tokens
        default_sampling_params).1

/-- A returned prompt carries the salt of its plan: a plan without one leaves the prompt
as it was rendered, and otherwise it is written where a dictionary prompt has its salt. -/
def Salted (prompt returned : PromptValue O) (plan : RuntimeControlPlan) : Prop :=
  (plan.cache_salt = none → returned = prompt) ∧
    ∀ cache_salt entries, plan.cache_salt = some cache_salt → prompt = .dict entries →
      returned.salt? = some (.text cache_salt)

end

section

variable {F V H O C E D R : Type} [PyFloat F] (py : Interpreter F) (env : Environment)
  (vllm : Host V H O D R)

/-- The plans are those the controller computed for the prompts, one after the other,
and the prompts that are returned carry their salts. -/
def Planned (request : Request V H) (session : Session) (rendering : Rendering O)
    (plans : List RuntimeControlPlan) (returned : List (PromptValue O)) : Prop :=
  plans.length = rendering.prompts.length ∧ returned.length = rendering.prompts.length ∧
    ∃ sessions : ℕ → Session, sessions 0 = session ∧
      ∀ k prompt, rendering.prompts[k]? = some prompt → ∃ observation plan controlled_prompt,
        compute_runtime_control py env (sessions k) rendering.headers
            (prompt_request_id rendering.endpoint vllm.identity request k)
            (prompt_token_count vllm prompt) rendering.output_tokens =
          (.ok (observation, plan), sessions (k + 1)) ∧
        plans[k]? = some plan ∧ returned[k]? = some controlled_prompt ∧ Salted prompt controlled_prompt plan

end

section Calls

variable {V H D R : Type}

theorem build_runtime_control_extra_args_states (plan : RuntimeControlPlan) : ∃ payload,
    build_runtime_control_extra_args plan = .ofList [("kv_materialization_runtime_control", payload)] ∧
      States payload plan := by
  have hvalue : ∀ decision : policy.MaterializationDecision,
      decision.value = "partial_reuse" ↔ decision = .partial_reuse := by
    intro decision
    cases decision <;> decide
  refine ⟨_, rfl, rfl, rfl, rfl, rfl, rfl, rfl, rfl, rfl, rfl, rfl, rfl, ?_⟩
  rw [decide_eq_true_eq, hvalue]

theorem merge_runtime_control_extra_args_withControl (extra_args : Option (Dict String (XArg V)))
    (plan : RuntimeControlPlan) :
    WithControl extra_args plan (some (merge_runtime_control_extra_args extra_args plan)) := by
  obtain ⟨payload, hbuilt, hstates⟩ := build_runtime_control_extra_args_states plan
  have hmerged := Dict.get?_update (extra_args.getD .empty) XArg.control
    (build_runtime_control_extra_args plan)
  refine ⟨_, payload, rfl, ?_, hstates, ?_⟩
  · unfold merge_runtime_control_extra_args
    rw [hmerged, hbuilt, Dict.get?_ofList_of_mem (by simp) List.mem_cons_self]
    rfl
  · intro key hkey
    unfold merge_runtime_control_extra_args
    have hnone : (build_runtime_control_extra_args plan).get? key = none := by
      rw [hbuilt]
      by_contra hget
      obtain ⟨value, hvalue⟩ := Option.ne_none_iff_exists'.mp hget
      have hmem := Dict.mem_of_get?_ofList hvalue
      rw [List.mem_singleton, Prod.mk.injEq] at hmem
      exact hkey hmem.1
    rw [hmerged, hnone]
    rfl

/-- While plans are left, a call runs on the request with the next one merged in, and
puts the extra arguments back however it ends. -/
theorem attach_of_plan (method : Request V H → ℤ → D → Except Exception R × Option (Dict String (XArg V)) × H)
    {request : Request V H} {plan : RuntimeControlPlan} (hplan : request.runtime_plans.next.1 = some plan)
    (max_tokens : ℤ) (default_sampling_params : D) :
    let seen := { request with
      runtime_plans := request.runtime_plans.next.2
      vllm_xargs := some (merge_runtime_control_extra_args request.vllm_xargs plan) }
    attach_runtime_plan_to_sampling_params method request max_tokens default_sampling_params =
      ((method seen max_tokens default_sampling_params).1, { request with
        runtime_plans := request.runtime_plans.next.2
        host := (method seen max_tokens default_sampling_params).2.2 }) := by
  unfold attach_runtime_plan_to_sampling_params consume_runtime_plan
  dsimp only
  rw [hplan]

/-- After the last plan a call is the original one. -/
theorem attach_of_none (method : Request V H → ℤ → D → Except Exception R × Option (Dict String (XArg V)) × H)
    {request : Request V H} (hplan : request.runtime_plans.next.1 = none) (max_tokens : ℤ)
    (default_sampling_params : D) :
    attach_runtime_plan_to_sampling_params method request max_tokens default_sampling_params =
      ((method request max_tokens default_sampling_params).1, { request with
        vllm_xargs := (method request max_tokens default_sampling_params).2.1
        host := (method request max_tokens default_sampling_params).2.2 }) := by
  unfold attach_runtime_plan_to_sampling_params consume_runtime_plan
  dsimp only
  rw [hplan, Cursor.next_of_none hplan]

/-- The extra arguments that are run with: those of the next plan, or the caller's own. -/
theorem attach_runsWith (R : Type) (request : Request V H) (max_tokens : ℤ) (default_sampling_params : D) :
    ∃ vllm_xargs, RunsWith R request max_tokens default_sampling_params vllm_xargs ∧
      (∀ plan, request.runtime_plans.next.1 = some plan → WithControl request.vllm_xargs plan vllm_xargs) ∧
      (request.runtime_plans.next.1 = none → vllm_xargs = request.vllm_xargs) := by
  cases hplan : request.runtime_plans.next.1 with
  | none =>
    refine ⟨request.vllm_xargs, ?_, by simp, fun _ => rfl⟩
    intro method
    rw [attach_of_none method hplan, Cursor.next_of_none hplan]
  | some plan =>
    refine ⟨some (merge_runtime_control_extra_args request.vllm_xargs plan), ?_, ?_, by simp⟩
    · intro method
      exact congrArg Prod.fst (attach_of_plan method hplan max_tokens default_sampling_params)
    · intro plan' hsame
      rw [← Option.some.inj hsame]
      exact merge_runtime_control_extra_args_withControl request.vllm_xargs plan

/-- A call with a plan leaves the extra arguments as they were, and one without as the
original method leaves them. -/
theorem attach_vllm_xargs (method : Request V H → ℤ → D → Except Exception R × Option (Dict String (XArg V)) × H)
    (request : Request V H) (max_tokens : ℤ) (default_sampling_params : D) :
    (attach_runtime_plan_to_sampling_params method request max_tokens default_sampling_params).2.vllm_xargs =
      if request.runtime_plans.next.1.isSome then request.vllm_xargs
      else (method request max_tokens default_sampling_params).2.1 := by
  cases hplan : request.runtime_plans.next.1 with
  | none =>
    rw [attach_of_none method hplan]
    rfl
  | some plan =>
    rw [attach_of_plan method hplan]
    rfl

/-- A call takes one plan, whether the original method returns or raises. -/
theorem attach_runtime_plans
    (method : Request V H → ℤ → D → Except Exception R × Option (Dict String (XArg V)) × H)
    (request : Request V H) (max_tokens : ℤ) (default_sampling_params : D) :
    (attach_runtime_plan_to_sampling_params method request max_tokens default_sampling_params).2.runtime_plans =
      request.runtime_plans.next.2 := by
  cases hplan : request.runtime_plans.next.1 with
  | none => rw [attach_of_none method hplan, Cursor.next_of_none hplan]
  | some plan => rw [attach_of_plan method hplan]

end Calls

section Renders

variable {F V H O C E D R : Type} [PyFloat F] {py : Interpreter F} {env : Environment}
  {vllm : Host V H O D R}

theorem apply_runtime_control_salted (prompt : PromptValue O) (plan : RuntimeControlPlan) :
    Salted prompt (apply_runtime_control prompt plan) plan := by
  refine ⟨fun hnone => apply_runtime_control_of_none hnone prompt, ?_⟩
  rintro cache_salt entries hsalt rfl
  exact salt?_apply_runtime_control hsalt entries

/-- The loop of the renderers controls every prompt, each in the session the one before
it left. -/
theorem control_prompts_computed {headers : Headers} {request_id : ℕ → String} {output_tokens : ℤ}
    {index : ℕ} {prompts : List (PromptValue O)} {session after : Session} {controlled : List (Controlled F O)}
    (hcontrolled : control_prompts py env vllm headers request_id output_tokens index prompts session =
      (.ok controlled, after)) :
    controlled.length = prompts.length ∧ ∃ sessions : ℕ → Session, sessions 0 = session ∧
      ∀ k prompt, prompts[k]? = some prompt → ∃ observation plan,
        compute_runtime_control py env (sessions k) headers (request_id (index + k))
            (prompt_token_count vllm prompt) output_tokens = (.ok (observation, plan), sessions (k + 1)) ∧
        controlled[k]? = some ⟨apply_runtime_control prompt plan, plan, observation⟩ := by
  induction prompts generalizing index session controlled with
  | nil =>
    rw [control_prompts, Prod.mk.injEq, Except.ok.injEq] at hcontrolled
    obtain ⟨rfl, rfl⟩ := hcontrolled
    exact ⟨rfl, fun _ => session, rfl, fun k prompt hprompt => by simp at hprompt⟩
  | cons first rest ih =>
    rw [control_prompts] at hcontrolled
    split at hcontrolled
    · simp at hcontrolled
    rename_i observation plan next hfirst
    split at hcontrolled
    · simp at hcontrolled
    rename_i others last hrest
    rw [Prod.mk.injEq, Except.ok.injEq] at hcontrolled
    obtain ⟨rfl, rfl⟩ := hcontrolled
    obtain ⟨hlength, sessions, hstart, hcomputed⟩ := ih hrest
    refine ⟨by simp [hlength], fun k => k.casesOn session sessions, rfl, ?_⟩
    intro k prompt hprompt
    cases k with
    | zero =>
      rw [List.getElem?_cons_zero, Option.some.injEq] at hprompt
      subst hprompt
      refine ⟨observation, plan, ?_, rfl⟩
      dsimp only
      rw [hstart]
      exact hfirst
    | succ k =>
      rw [List.getElem?_cons_succ] at hprompt
      obtain ⟨observation', plan', hcompute, hmem⟩ := hcomputed k prompt hprompt
      refine ⟨observation', plan', ?_, by rw [List.getElem?_cons_succ, hmem]⟩
      have hindex : index + 1 + k = index + (k + 1) := by omega
      rw [hindex] at hcompute
      exact hcompute

/-- A render that returns has planned its prompts and restarts the request at the first
plan. -/
theorem render_prompts_planned {headers : Headers} {endpoint : String} {output_tokens : ℤ}
    {prompts returned : List (PromptValue O)} {state : State F V H}
    (hreturned : (render_prompts py env vllm headers endpoint output_tokens prompts state).1 = .ok returned) :
    ∃ plans, Planned py env vllm state.request state.session ⟨headers, endpoint, output_tokens, prompts⟩
        plans returned ∧
      (render_prompts py env vllm headers endpoint output_tokens prompts state).2.request =
        { state.request with runtime_plans := .start plans } := by
  unfold render_prompts at hreturned ⊢
  split at hreturned
  · cases hreturned
  rename_i controlled after hcontrolled
  rw [Except.ok.injEq] at hreturned
  obtain ⟨hlength, sessions, hstart, hcomputed⟩ := control_prompts_computed hcontrolled
  refine ⟨controlled.map Controlled.plan, ⟨?_, ?_, sessions, hstart, ?_⟩, rfl⟩
  · rw [List.length_map, hlength]
  · rw [← hreturned, List.length_map, hlength]
  intro k prompt hprompt
  obtain ⟨observation, plan, hcompute, hmem⟩ := hcomputed k prompt hprompt
  rw [Nat.zero_add] at hcompute
  refine ⟨observation, plan, apply_runtime_control prompt plan, hcompute, ?_, ?_,
    apply_runtime_control_salted prompt plan⟩
  · rw [List.getElem?_map, hmem]
    rfl
  · rw [← hreturned, List.getElem?_map, hmem]
    rfl

/-- The same of either endpoint's render. -/
theorem step_render {state : State F V H} {render : Call V H O C E D} {rendering : Rendering O}
    {returned : List (PromptValue O)} (hrender : render.rendering state.request = some rendering)
    (hreturned : (step py env vllm state render).1.prompts = some returned) :
    ∃ plans, Planned py env vllm state.request state.session rendering plans returned ∧
      (step py env vllm state render).2.request = { state.request with runtime_plans := .start plans } := by
  unfold Call.rendering at hrender
  split at hrender
  · rename_i headers conversation prompts
    rw [Option.some.injEq] at hrender
    subst hrender
    simp only [step, patched_render_chat] at hreturned ⊢
    cases hprompts : (render_prompts py env vllm headers "chat" (chat_output_tokens state.request) prompts
        state).1 with
    | error error =>
      rw [hprompts] at hreturned
      cases hreturned
    | ok controlled_prompts =>
      rw [hprompts] at hreturned
      cases hreturned
      exact render_prompts_planned hprompts
  · rename_i headers prompts
    rw [Option.some.injEq] at hrender
    subst hrender
    simp only [step, patched_render_completion] at hreturned ⊢
    cases hprompts : (render_prompts py env vllm headers "completion"
        (completion_output_tokens state.request) prompts state).1 with
    | error error =>
      rw [hprompts] at hreturned
      cases hreturned
    | ok controlled_prompts =>
      rw [hprompts] at hreturned
      cases hreturned
      exact render_prompts_planned hprompts
  · cases hrender

/-- Between renders the plans move on by one with every call for sampling parameters. -/
theorem step_runtime_plans (state : State F V H) {call : Call V H O C E D} (hcall : call.isRender = false) :
    (step py env vllm state call).2.request.runtime_plans =
      state.request.runtime_plans.skip (if call.isSampling then 1 else 0) := by
  cases call with
  | render_chat headers result => cases hcall
  | render_completion headers result => cases hcall
  | to_sampling_params max_tokens default_sampling_params =>
    exact attach_runtime_plans vllm.to_sampling_params state.request max_tokens default_sampling_params
  | assign vllm_xargs host => rfl

theorem run_runtime_plans (state : State F V H) {calls : List (Call V H O C E D)}
    (hcalls : ∀ call ∈ calls, call.isRender = false) :
    (machine.run (step py env vllm) state calls).request.runtime_plans =
      state.request.runtime_plans.skip (calls.countP Call.isSampling) := by
  induction calls using List.reverseRecOn with
  | nil => rfl
  | append_singleton calls call ih =>
    rw [List.forall_mem_append] at hcalls
    obtain ⟨hearlier, hlast⟩ := hcalls
    rw [machine.run_snoc, step_runtime_plans _ (hlast call List.mem_cons_self), ih hearlier, List.countP_append]
    by_cases hsampling : call.isSampling = true
    · rw [if_pos hsampling, List.countP_singleton, if_pos hsampling]
      rfl
    · rw [if_neg hsampling, List.countP_singleton, if_neg hsampling]
      rfl

/-- After a render, whatever went before it, the calls for sampling parameters run with
the plans of its prompts in order and without one after the last, raise or return. A call
with a plan leaves the caller's extra arguments as they were, whatever the original method
makes of them; one without is the original method's own. -/
theorem calls_aligned (py : Interpreter F) (env : Environment) (vllm : Host V H O D R) (start : State F V H)
    (earlier later : List (Call V H O C E D)) (render : Call V H O C E D) (rendering : Rendering O)
    (returned : List (PromptValue O))
    (hrender : render.rendering (machine.run (step py env vllm) start earlier).request = some rendering)
    (hreturned : (step py env vllm (machine.run (step py env vllm) start earlier) render).1.prompts = some returned)
    (hlater : ∀ call ∈ later, call.isRender = false) :
    ∃ plans, Planned py env vllm (machine.run (step py env vllm) start earlier).request
        (machine.run (step py env vllm) start earlier).session rendering plans returned ∧
      ∀ before max_tokens default_sampling_params after,
        later = before ++ .to_sampling_params max_tokens default_sampling_params :: after →
        let state := machine.run (step py env vllm) start (earlier ++ render :: before)
        let left := (step py env vllm state
          (.to_sampling_params max_tokens default_sampling_params : Call V H O C E D)).2.request.vllm_xargs
        (∃ vllm_xargs, RunsWith R state.request max_tokens default_sampling_params vllm_xargs ∧
          match plans[before.countP Call.isSampling]? with
          | some plan => WithControl state.request.vllm_xargs plan vllm_xargs
          | none => vllm_xargs = state.request.vllm_xargs) ∧
        left = (if before.countP Call.isSampling < rendering.prompts.length then state.request.vllm_xargs
          else (vllm.to_sampling_params state.request max_tokens default_sampling_params).2.1) ∧
        ((vllm.to_sampling_params state.request max_tokens default_sampling_params).2.1 =
          state.request.vllm_xargs → left = state.request.vllm_xargs) := by
  obtain ⟨plans, hplanned, hrestarted⟩ := step_render hrender hreturned
  refine ⟨plans, hplanned, ?_⟩
  intro before max_tokens default_sampling_params after hsplit state left
  have hbefore : ∀ call ∈ before, call.isRender = false := fun call hmem =>
    hlater call (hsplit ▸ List.mem_append_left _ hmem)
  have hstate : state = machine.run (step py env vllm)
      (step py env vllm (machine.run (step py env vllm) start earlier) render).2 before := by
    change machine.run (step py env vllm) start (earlier ++ render :: before) = _
    rw [machine.run_append]
    rfl
  have hnext : state.request.runtime_plans.next.1 = plans[before.countP Call.isSampling]? := by
    rw [hstate, run_runtime_plans _ hbefore, hrestarted, Cursor.next_skip_start]
  have hplans : plans[before.countP Call.isSampling]?.isSome ↔
      before.countP Call.isSampling < rendering.prompts.length := by
    rw [← hplanned.1, Option.isSome_iff_ne_none, ne_eq, List.getElem?_eq_none_iff, not_le]
  have hleft : left = if before.countP Call.isSampling < rendering.prompts.length then state.request.vllm_xargs
      else (vllm.to_sampling_params state.request max_tokens default_sampling_params).2.1 := by
    change (attach_runtime_plan_to_sampling_params vllm.to_sampling_params state.request max_tokens
      default_sampling_params).2.vllm_xargs = _
    rw [attach_vllm_xargs, hnext]
    simp only [hplans]
  refine ⟨?_, hleft, ?_⟩
  · obtain ⟨vllm_xargs, hruns, hcontrol, hown⟩ :=
      attach_runsWith R state.request max_tokens default_sampling_params
    rw [hnext] at hcontrol hown
    refine ⟨vllm_xargs, hruns, ?_⟩
    cases hplan : plans[before.countP Call.isSampling]? with
    | none => exact hown hplan
    | some plan => exact hcontrol plan hplan
  · intro hkeeps
    rw [hleft, hkeeps, ite_self]

end Renders

/-- A completion of two prompts, under an original method that overwrites the extra arguments
of a controlled request and raises on any other: the second call runs with the second plan
and puts the caller's back, the third runs with none. -/
theorem calls_aligned_two_prompts :
    let vllm : Host Unit Unit Unit Unit Unit :=
      ⟨fun _ => .ok (some [1, 2, 3]), 7, fun request _ _ =>
        if request.vllm_xargs.isSome then (.ok (), some .empty, ()) else (.error .type_error, none, ())⟩
    let render : Call Unit Unit Unit Unit Unit Unit := .render_completion .empty (.ok (.inl [.dict [], .dict []]))
    let sampling : Call Unit Unit Unit Unit Unit Unit := .to_sampling_params 64 ()
    let run : List (Call Unit Unit Unit Unit Unit Unit) → State ℚ Unit Unit :=
      machine.run (step Interpreter.ascii (.ofList []) vllm)
        ⟨.init, ⟨none, none, some 64, none, .start [], ()⟩, .start []⟩
    ∃ plans : List RuntimeControlPlan, plans.length = 2 ∧
      (∃ vllm_xargs, RunsWith Unit (run [render, sampling]).request 64 () vllm_xargs ∧
        match plans[1]? with
        | some plan => WithControl (run [render, sampling]).request.vllm_xargs plan vllm_xargs
        | none => vllm_xargs = (run [render, sampling]).request.vllm_xargs) ∧
      (run [render, sampling, sampling]).request.vllm_xargs = (run [render, sampling]).request.vllm_xargs ∧
      RunsWith Unit (run [render, sampling, sampling]).request 64 ()
        (run [render, sampling, sampling]).request.vllm_xargs := by
  intro vllm render sampling run
  have hreturned : ((step Interpreter.ascii (.ofList []) vllm (run []) render).1.prompts).isSome = true := by
    decide +kernel
  obtain ⟨returned, hreturned⟩ := Option.isSome_iff_exists.mp hreturned
  obtain ⟨plans, ⟨hlength, _⟩, hcalls⟩ := calls_aligned Interpreter.ascii (.ofList []) vllm (run []) []
    [sampling, sampling, sampling] render _ returned rfl hreturned (by simp [sampling, Call.isRender])
  obtain ⟨hsecond, hback, _⟩ := hcalls [sampling] 64 () [sampling] rfl
  obtain ⟨⟨vllm_xargs, hruns, hxargs⟩, _⟩ := hcalls [sampling, sampling] 64 () [] rfl
  have hnone : plans[[sampling, sampling].countP Call.isSampling]? = none := by
    rw [List.getElem?_eq_none_iff, hlength]
    rfl
  rw [hnone] at hxargs
  subst hxargs
  exact ⟨plans, hlength, hsecond, hback, hruns⟩

end vllm_kv_materialization.legacy_vllm_023
