import KvMaterialization.Legacy.Alignment
import KvMaterialization.LiveControl.Isolation

open python
open vllm_kv_materialization.live_control

namespace vllm_kv_materialization.legacy_vllm_023

/-- The request-scoped salts of a batch are pairwise different. -/
def SaltsApart (plans : List RuntimeControlPlan) : Prop :=
  plans.Pairwise fun first second => ∀ salt ∈ first.request_salt, salt ∉ second.request_salt

section Ids

variable {V H : Type}

/-- The request names itself. -/
def Named (request : Request V H) : Prop := ∃ request_id, request.request_id = some request_id ∧ request_id ≠ ""

theorem prompt_request_id_of_named {request : Request V H} (hnamed : Named request) (endpoint : String)
    (identity : ℕ) (index index' : ℕ) :
    prompt_request_id endpoint identity request index = prompt_request_id endpoint identity request index' := by
  obtain ⟨request_id, hid, hne⟩ := hnamed
  unfold prompt_request_id
  simp only [hid, if_neg hne]

theorem prompt_request_id_of_not_named {request : Request V H} (hnamed : ¬ Named request) (endpoint : String)
    (identity index : ℕ) : prompt_request_id endpoint identity request index =
      endpoint ++ "-" ++ toString identity ++ "-" ++ toString index := by
  unfold prompt_request_id
  split
  · rename_i request_id hid
    rw [if_pos]
    by_contra hne
    exact hnamed ⟨request_id, hid, hne⟩
  · rfl

theorem toString_injective {n m : ℕ} (heq : toString n = toString m) : n = m := by
  rw [Nat.toString_eq_ofList_toDigits, Nat.toString_eq_ofList_toDigits, String.ofList_inj] at heq
  have hdigits : Nat.ofDigitChars 10 (Nat.toDigits 10 n) 0 = Nat.ofDigitChars 10 (Nat.toDigits 10 m) 0 := by
    rw [heq]
  rwa [Nat.ofDigitChars_toDigits (by decide) (by decide), Nat.ofDigitChars_toDigits (by decide) (by decide)]
    at hdigits

/-- The ids that are made of the index are different for different prompts. -/
theorem prompt_request_id_injective {request : Request V H} (hnamed : ¬ Named request) (endpoint : String)
    (identity : ℕ) {index index' : ℕ}
    (heq : prompt_request_id endpoint identity request index = prompt_request_id endpoint identity request index') :
    index = index' := by
  rw [prompt_request_id_of_not_named hnamed, prompt_request_id_of_not_named hnamed, String.append_right_inj] at heq
  exact toString_injective heq

end Ids

/-- One scope issues different ids different salts. -/
theorem request_scoped_salt_injective {primary_anchor_id workload_case request_id request_id' : String}
    (heq : make_request_scoped_salt primary_anchor_id workload_case request_id =
      make_request_scoped_salt primary_anchor_id workload_case request_id') : request_id = request_id' := by
  unfold make_request_scoped_salt at heq
  rwa [String.append_right_inj] at heq

section

variable {F V H O C E D R : Type} [PyFloat F] {py : Interpreter F} {env : Environment}
  {vllm : Host V H O D R} {request : Request V H} {session : Session} {rendering : Rendering O}
  {plans : List RuntimeControlPlan} {returned : List (PromptValue O)}

/-- Every plan of a batch was computed under the batch's headers and the id of its prompt. -/
theorem Planned.computed (hplanned : Planned py env vllm request session rendering plans returned) {k : ℕ}
    {plan : RuntimeControlPlan} (hplan : plans[k]? = some plan) : ∃ before prompt observation,
      (compute_runtime_control py env before rendering.headers
        (prompt_request_id rendering.endpoint vllm.identity request k) (prompt_token_count vllm prompt)
        rendering.output_tokens).1 = .ok (observation, plan) := by
  obtain ⟨hlength, _, sessions, _, hcomputed⟩ := hplanned
  have hinside := (List.getElem?_eq_some_iff.mp hplan).1
  rw [hlength] at hinside
  obtain ⟨observation, plan', _, hcompute, hplan', _⟩ :=
    hcomputed k _ (List.getElem?_eq_getElem hinside)
  rw [hplan, Option.some.injEq] at hplan'
  subst hplan'
  exact ⟨_, _, observation, congrArg Prod.fst hcompute⟩

theorem Planned.request_salt (hplanned : Planned py env vllm request session rendering plans returned) {k : ℕ}
    {plan : RuntimeControlPlan} (hplan : plans[k]? = some plan) {salt : String} (hsalt : salt ∈ plan.request_salt) :
    salt = make_request_scoped_salt (primary_anchor_id rendering.headers)
      (header rendering.headers HEADER_WORKLOAD_CASE)
      (prompt_request_id rendering.endpoint vllm.identity request k) := by
  obtain ⟨before, prompt, observation, hcompute⟩ := hplanned.computed hplan
  exact (compute_runtime_control_salts hcompute).1 salt hsalt

/-- A request without a name of its own keeps its prompts apart. -/
theorem Planned.isolated (hplanned : Planned py env vllm request session rendering plans returned)
    (hnamed : ¬ Named request) : plans.Pairwise fun first second => Isolated first second ∧ Isolated second first := by
  rw [List.pairwise_iff_getElem]
  intro i j hi hj hlt
  obtain ⟨before, prompt, observation, hcompute⟩ := hplanned.computed (List.getElem?_eq_getElem hi)
  obtain ⟨before', prompt', observation', hcompute'⟩ := hplanned.computed (List.getElem?_eq_getElem hj)
  have hne : make_request_scoped_salt (primary_anchor_id rendering.headers)
        (header rendering.headers HEADER_WORKLOAD_CASE)
        (prompt_request_id rendering.endpoint vllm.identity request i) ≠
      make_request_scoped_salt (primary_anchor_id rendering.headers)
        (header rendering.headers HEADER_WORKLOAD_CASE)
        (prompt_request_id rendering.endpoint vllm.identity request j) := by
    intro heq
    have hindex := prompt_request_id_injective hnamed _ _ (request_scoped_salt_injective heq)
    omega
  exact ⟨isolated_of_request_salt_ne hcompute hcompute' hne, isolated_of_request_salt_ne hcompute' hcompute hne.symm⟩

theorem saltsApart_of_isolated
    (hisolated : plans.Pairwise fun first second => Isolated first second ∧ Isolated second first) :
    SaltsApart plans := by
  refine hisolated.imp ?_
  intro first second hpair salt hsalt hshared
  exact hpair.1 salt hsalt (request_salt_mem_salts hshared)

/-- A named request has one salt for all of its prompts. -/
theorem Planned.one_salt (hplanned : Planned py env vllm request session rendering plans returned)
    (hnamed : Named request) {k k' : ℕ} {plan plan' : RuntimeControlPlan} (hplan : plans[k]? = some plan)
    (hplan' : plans[k']? = some plan') {salt salt' : String} (hsalt : salt ∈ plan.request_salt)
    (hsalt' : salt' ∈ plan'.request_salt) : salt = salt' := by
  rw [hplanned.request_salt hplan hsalt, hplanned.request_salt hplan' hsalt',
    prompt_request_id_of_named hnamed rendering.endpoint vllm.identity k k']

/-- The loop of the renderers returns if the controller plans every prompt. -/
theorem control_prompts_returns {headers : Headers} {request_id : ℕ → String} {output_tokens : ℤ}
    (hcontrol : ∀ session index prompt, Returns (compute_runtime_control py env session headers (request_id index)
      (prompt_token_count vllm prompt) output_tokens).1)
    (index : ℕ) (prompts : List (PromptValue O)) (session : Session) :
    Returns (control_prompts py env vllm headers request_id output_tokens index prompts session).1 := by
  induction prompts generalizing index session with
  | nil => exact returns_ok _
  | cons prompt rest ih =>
    obtain ⟨⟨observation, plan⟩, hplan⟩ := hcontrol session index prompt
    rw [control_prompts]
    split
    · rename_i error after hfirst
      rw [hfirst] at hplan
      cases hplan
    rename_i observation' plan' after hfirst
    have hrest := ih (index + 1) after
    split
    · rename_i error last hfailed
      rw [hfailed] at hrest
      obtain ⟨_, hreturned⟩ := hrest
      cases hreturned
    · exact returns_ok _

end

section

variable {V H O D R : Type}

/-- A completion of two empty prompts. -/
def twoPrompts (V H O C E D : Type) : Call V H O C E D :=
  .render_completion .empty (.ok (.inl [.dict [], .dict []]))

theorem twoPrompts_returns (vllm : Host V H O D R) (state : State ℚ V H) : ∃ returned,
    (step Interpreter.ascii recomputing vllm state (twoPrompts V H O Unit Unit D)).1.prompts = some returned := by
  have hcontrol : ∀ session index prompt, Returns (compute_runtime_control Interpreter.ascii recomputing session
      .empty (prompt_request_id "completion" vllm.identity state.request index) (prompt_token_count vllm prompt)
      (completion_output_tokens state.request)).1 := by
    intro session index prompt
    obtain ⟨observation, plan, hcompute, _⟩ := recomputing_issues_request_salt session .empty
      (prompt_request_id "completion" vllm.identity state.request index) (prompt_token_count vllm prompt)
      (completion_output_tokens state.request)
    exact ⟨_, hcompute⟩
  obtain ⟨controlled, hcontrolled⟩ := control_prompts_returns hcontrol 0 [.dict [], .dict []] state.session
  refine ⟨controlled.map Controlled.prompt, ?_⟩
  simp only [step, twoPrompts, patched_render_completion, render_prompts]
  cases hpair : control_prompts Interpreter.ascii recomputing vllm .empty
      (prompt_request_id "completion" vllm.identity state.request) (completion_output_tokens state.request) 0
      [.dict [], .dict []] state.session with
  | mk result after =>
    rw [hpair] at hcontrolled
    dsimp only at hcontrolled
    rw [hcontrolled]
    rfl

/-- Where everything is recomputed, each plan of a batch has a request-scoped salt. -/
theorem Planned.recomputing {vllm : Host V H O D R} {request : Request V H} {session : Session}
    {rendering : Rendering O} {plans : List RuntimeControlPlan} {returned : List (PromptValue O)}
    (hplanned : Planned Interpreter.ascii recomputing vllm request session rendering plans returned) {k : ℕ}
    {plan : RuntimeControlPlan} (hplan : plans[k]? = some plan) : ∃ salt, salt ∈ plan.request_salt := by
  obtain ⟨before, prompt, observation, hcompute⟩ := hplanned.computed hplan
  obtain ⟨observation', plan', hcompute', hsalt⟩ := recomputing_issues_request_salt before rendering.headers
    (prompt_request_id rendering.endpoint vllm.identity request k) (prompt_token_count vllm prompt)
    rendering.output_tokens
  rw [hcompute, Except.ok.injEq, Prod.mk.injEq] at hcompute'
  rw [hcompute'.2]
  exact ⟨_, hsalt⟩

/-- A named request whose two prompts are recomputed. -/
theorem twoPrompts_not_saltsApart (vllm : Host V H O D R) (state : State ℚ V H) (hnamed : Named state.request) :
    ¬ SaltsApart (step Interpreter.ascii recomputing vllm state
      (twoPrompts V H O Unit Unit D)).2.request.runtime_plans.items := by
  obtain ⟨returned, hreturned⟩ := twoPrompts_returns vllm state
  have hrender : (twoPrompts V H O Unit Unit D).rendering state.request =
      some ⟨.empty, "completion", completion_output_tokens state.request, [.dict [], .dict []]⟩ := rfl
  obtain ⟨plans, hplanned, hstored⟩ := step_render hrender hreturned
  rw [hstored]
  intro hapart
  change SaltsApart plans at hapart
  have hlength : plans.length = 2 := hplanned.1
  have hfirst : plans[0]? = some plans[0] := List.getElem?_eq_getElem (by omega)
  have hsecond : plans[1]? = some plans[1] := List.getElem?_eq_getElem (by omega)
  obtain ⟨salt, hsalt⟩ := hplanned.recomputing hfirst
  obtain ⟨salt', hsalt'⟩ := hplanned.recomputing hsecond
  have heq := hplanned.one_salt hnamed hfirst hsecond hsalt hsalt'
  subst heq
  exact List.pairwise_iff_getElem.mp hapart 0 1 (by omega) (by omega) (by omega) salt hsalt hsalt'

/-- The prompts of every batch have request-scoped salts of their own exactly if the
request does not name itself: its name takes the place of the prompt's index. -/
theorem batch_salts_apart_iff (vllm : Host V H O D R) (request : Request V H) :
    (∀ (F : Type) [PyFloat F] (py : Interpreter F) (env : Environment) (session : Session)
      (observations : Cursor (LiveObservation F)) (C E : Type) (render : Call V H O C E D) (rendering : Rendering O)
      (returned : List (PromptValue O)), render.rendering request = some rendering →
      (step py env vllm ⟨session, request, observations⟩ render).1.prompts = some returned →
      SaltsApart (step py env vllm ⟨session, request, observations⟩ render).2.request.runtime_plans.items) ↔
    ¬ Named request := by
  constructor
  · intro hapart hnamed
    obtain ⟨returned, hreturned⟩ := twoPrompts_returns vllm (⟨.init, request, .start []⟩ : State ℚ V H)
    exact twoPrompts_not_saltsApart vllm ⟨.init, request, .start []⟩ hnamed
      (hapart ℚ _ _ _ _ _ _ _ _ _ rfl hreturned)
  · intro hnamed F _ py env session observations C E render rendering returned hrender hreturned
    obtain ⟨plans, hplanned, hstored⟩ := step_render hrender hreturned
    rw [hstored]
    exact saltsApart_of_isolated (hplanned.isolated hnamed)

end

/-- A named completion request of two prompts under `always_recompute`. -/
theorem named_batch_shares_salt :
    let vllm : Host Unit Unit Unit Unit Unit :=
      ⟨fun _ => .ok (some [1, 2, 3]), 7, fun request _ _ => (.ok (), request.vllm_xargs, ())⟩
    let request : Request Unit Unit := ⟨some "request-1", none, some 64, none, .start [], ()⟩
    ¬ SaltsApart (step Interpreter.ascii recomputing vllm ⟨.init, request, .start []⟩
      (.render_completion .empty (.ok (.inl [.dict [], .dict []])) :
        Call Unit Unit Unit Unit Unit Unit)).2.request.runtime_plans.items :=
  twoPrompts_not_saltsApart _ _ ⟨"request-1", rfl, by decide⟩

end vllm_kv_materialization.legacy_vllm_023
