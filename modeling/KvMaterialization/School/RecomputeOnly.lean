import KvMaterialization.Legacy.Batches
import KvMaterialization.Python.Text
import KvMaterialization.School.Adapter

open python machine
open vllm_kv_materialization.live_control

namespace vllm_kv_materialization.school_vllm_028

/-- The salt of a request that is recomputed. -/
def recompute_salt (headers : Headers) (request_id : String) : String :=
  make_request_scoped_salt (primary_anchor_id headers) (header headers HEADER_WORKLOAD_CASE) request_id

/-- What reaches the log: every observation, where a path for it is configured. -/
def logged {F : Type} (env : Environment) (observations : List (LiveObservation F)) : List (LiveObservation F) :=
  if strip (getenv env "VLLM_KV_MATERIALIZATION_LOG_PATH" "") = "" then [] else observations

section

variable {F : Type} (env : Environment)

theorem logged_append (earlier later : List (LiveObservation F)) :
    logged env (earlier ++ later) = logged env earlier ++ logged env later := by
  unfold logged
  split
  · rfl
  · rfl

theorem logged_cons (observation : LiveObservation F) (later : List (LiveObservation F)) :
    logged env (observation :: later) = logged env [observation] ++ logged env later :=
  logged_append env [observation] later

theorem logged_sublist (observations : List (LiveObservation F)) : (logged env observations).Sublist observations := by
  unfold logged
  split
  · exact List.nil_sublist _
  · exact List.Sublist.refl _

/-- An observation reaches the log, or its recording raises and the log is as it was. -/
theorem record_observation_cases (recording : Option Exception) (observation : LiveObservation F)
    (recorded : List (LiveObservation F)) :
    record_observation env recording observation recorded = (.ok (), recorded ++ logged env [observation]) ∨
      ∃ error, record_observation env recording observation recorded = (.error error, recorded) := by
  unfold record_observation logged
  split
  · exact .inl (by rw [List.append_nil])
  · cases recording with
    | none => exact .inl rfl
    | some error => exact .inr ⟨error, rfl⟩

end

section

variable {F O : Type} {host : Host O} {env : Environment}

/-- A prompt as it is returned, with the observation that was made of it: it carries the
salt of its own request, and the request is recomputed. -/
structure Served (salt : String) (prompt controlled : PromptValue O) (observation : LiveObservation F) : Prop where
  salt_found : controlled.salt? = some (.text salt)
  tokens : ∃ entries entries', prompt = .dict entries ∧ controlled = .dict entries' ∧
    PromptValue.get? entries' "prompt_token_ids" = PromptValue.get? entries "prompt_token_ids"
  decision : observation.runtime_effective_decision = .recompute
  salt_observed : observation.runtime_cache_salt = some salt

/-- What controlling a prompt comes to: it is served and its observation recorded, or it is
refused and nothing is. -/
inductive Settled (env : Environment) (salt : String) (prompt : PromptValue O) (state : State F) :
    Except Failure (PromptValue O) × State F → Prop where
  | served {controlled : PromptValue O} {observation : LiveObservation F} (session : Session)
    (hserved : Served salt prompt controlled observation) :
    Settled env salt prompt state (.ok controlled, ⟨session, state.drawn, state.recorded ++ logged env [observation]⟩)
  | refused (failure : Failure) (session : Session) :
    Settled env salt prompt state (.error failure, ⟨session, state.drawn, state.recorded⟩)

/-- The prompts that were served under the uuids from the nth on, with the observations
made of them. -/
inductive Serves (host : Host O) (headers : Headers) :
    ℕ → List (PromptValue O) → List (PromptValue O) → List (LiveObservation F) → Prop where
  | nil (n : ℕ) : Serves host headers n [] [] []
  | cons {n : ℕ} {prompt controlled : PromptValue O} {observation : LiveObservation F}
    {prompts others : List (PromptValue O)} {observations : List (LiveObservation F)}
    (hserved : Served (recompute_salt headers (prompt_request_id host n)) prompt controlled observation)
    (hothers : Serves host headers (n + 1) prompts others observations) :
    Serves host headers n (prompt :: prompts) (controlled :: others) (observation :: observations)

/-- What rendering prompts comes to: all of them are served in their order, or one of them
is refused and those before it have been served, none of which is returned. -/
inductive Rendered (env : Environment) (host : Host O) (headers : Headers) (prompts : List (PromptValue O))
    (state : State F) :
    Except Failure (List (PromptValue O)) × State F → Prop where
  | served {controlled : List (PromptValue O)} {observations : List (LiveObservation F)} (session : Session)
    (hserves : Serves host headers state.drawn prompts controlled observations) :
    Rendered env host headers prompts state
      (.ok controlled, ⟨session, state.drawn + prompts.length, state.recorded ++ logged env observations⟩)
  | refused {earlier later controlled : List (PromptValue O)} {prompt : PromptValue O}
    {observations : List (LiveObservation F)} (failure : Failure) (session : Session)
    (hprompts : prompts = earlier ++ prompt :: later)
    (hserves : Serves host headers state.drawn earlier controlled observations) :
    Rendered env host headers prompts state
      (.error failure, ⟨session, state.drawn + earlier.length + 1, state.recorded ++ logged env observations⟩)

/-- A dictionary keeps its tokens when its salt is set. -/
theorem apply_runtime_control_tokens (entries : List (String × PromptValue O)) (plan : RuntimeControlPlan) :
    ∃ entries', apply_runtime_control (.dict entries) plan = .dict entries' ∧
      PromptValue.get? entries' "prompt_token_ids" = PromptValue.get? entries "prompt_token_ids" := by
  cases hsalt : plan.cache_salt with
  | none => exact ⟨entries, apply_runtime_control_of_none hsalt _, rfl⟩
  | some cache_salt =>
    simp only [apply_runtime_control, hsalt]
    cases hdecoder : PromptValue.decoder? entries with
    | none => exact ⟨_, rfl, PromptValue.get?_assign_of_ne _ _ (by decide)⟩
    | some decoder_prompt => exact ⟨_, rfl, PromptValue.get?_assign_of_ne _ _ (by decide)⟩

theorem salt_applied_spec {controlled : PromptValue O} {plan : RuntimeControlPlan}
    (happlied : salt_applied controlled plan = true) : ∃ salt, plan.cache_salt = some salt := by
  unfold salt_applied at happlied
  split at happlied
  · rename_i cache_salt entries hsalt
    exact ⟨cache_salt, hsalt⟩
  · cases happlied

theorem Serves.observed {headers : Headers} {n : ℕ} {prompts controlled : List (PromptValue O)}
    {observations : List (LiveObservation F)} (hserves : Serves host headers n prompts controlled observations) :
    List.Forall₂ (fun returned observation => returned.salt? = observation.runtime_cache_salt.map .text)
        controlled observations ∧
      ∀ observation ∈ observations, observation.runtime_effective_decision = .recompute := by
  induction hserves with
  | nil => exact ⟨.nil, by simp⟩
  | cons hserved _ ih =>
    refine ⟨.cons ?_ ih.1, List.forall_mem_cons.mpr ⟨hserved.decision, ih.2⟩⟩
    rw [hserved.salt_found, hserved.salt_observed]
    rfl

/-- A prompt was returned under the nth uuid. -/
def Issued (host : Host O) (n : ℕ) (returned : PromptValue O) : Prop :=
  ∃ headers, returned.salt? = some (.text (recompute_salt headers (prompt_request_id host n)))

theorem Serves.issued {headers : Headers} {n : ℕ} {prompts controlled : List (PromptValue O)}
    {observations : List (LiveObservation F)} (hserves : Serves host headers n prompts controlled observations) :
    List.Forall₂ (Issued host) (List.range' n prompts.length) controlled := by
  induction hserves with
  | nil => exact .nil
  | cons hserved _ ih => exact .cons ⟨_, hserved.salt_found⟩ ih

end

section

variable {F O : Type} [PyFloat F] {py : Interpreter F} {env : Environment} {host : Host O}

theorem recompute_salt_of_control {session : Session} {headers : Headers} {request_id : String}
    {prompt_tokens output_tokens : ℤ} {observation : LiveObservation F} {plan : RuntimeControlPlan}
    (hcontrol : (compute_runtime_control py env session headers request_id prompt_tokens output_tokens).1 =
      .ok (observation, plan)) (hrecompute : plan.effective_decision = .recompute) {salt : String}
    (hsalt : plan.cache_salt = some salt) : salt = recompute_salt headers request_id := by
  refine (compute_runtime_control_salts hcontrol).1 salt ?_
  rw [RuntimeControlPlan.request_salt, hrecompute, hsalt]
  rfl

variable (py env host) in
theorem controlled_prompt_settled (headers : Headers) (state : State F) (prompt : PromptValue O) (request_id : String)
    (max_tokens : ℤ) (recording : Option Exception) :
    Settled env (recompute_salt headers request_id) prompt state
      (controlled_prompt py env host headers state prompt request_id max_tokens recording) := by
  unfold controlled_prompt
  split
  · rename_i entries
    split
    · exact .refused _ _
    · rename_i prompt_tokens htokens
      split
      · exact .refused _ _
      · cases hcontrol : compute_runtime_control py env state.session headers request_id prompt_tokens max_tokens with
        | mk result session =>
          cases result with
          | error error => exact .refused _ _
          | ok planned =>
            obtain ⟨observation, plan⟩ := planned
            replace hcontrol := congrArg Prod.fst hcontrol
            dsimp only
            split
            · exact .refused _ _
            · rename_i hrecompute
              rw [not_not] at hrecompute
              split
              · exact .refused _ _
              · rename_i happlied
                rw [Bool.not_eq_true, Bool.not_eq_false'] at happlied
                obtain ⟨salt, hsalt⟩ := salt_applied_spec happlied
                obtain hrecord | ⟨error, hrecord⟩ :=
                  record_observation_cases env recording observation state.recorded
                · rw [hrecord]
                  obtain rfl := recompute_salt_of_control hcontrol hrecompute hsalt
                  obtain ⟨hdecision, hobserved⟩ := compute_runtime_control_observed hcontrol
                  obtain ⟨entries', happly, hkept⟩ := apply_runtime_control_tokens entries plan
                  refine .served session ⟨?_, ?_, ?_, ?_⟩
                  · exact salt?_apply_runtime_control hsalt entries
                  · exact ⟨entries, entries', rfl, happly, hkept⟩
                  · rw [hdecision, hrecompute]
                  · rw [hobserved, hsalt]
                · rw [hrecord]
                  exact .refused _ _
  · exact .refused _ _

variable (py env host) in
theorem control_prompts_rendered (headers : Headers) (max_tokens : ℤ) (prompts : List (PromptValue O))
    (state : State F) :
    Rendered env host headers prompts state (control_prompts py env host headers max_tokens prompts state) := by
  induction prompts generalizing state with
  | nil =>
    have hnone : Rendered env host headers [] state _ := .served state.session (.nil state.drawn)
    simpa [control_prompts, logged] using hnone
  | cons prompt rest ih =>
    unfold control_prompts
    have hsettled := controlled_prompt_settled py env host headers
      { state with drawn := state.drawn + 1 } prompt (prompt_request_id host state.drawn) max_tokens
      (host.recording state.drawn)
    generalize controlled_prompt py env host headers { state with drawn := state.drawn + 1 } prompt
      (prompt_request_id host state.drawn) max_tokens (host.recording state.drawn) = ended at hsettled
    cases hsettled with
    | refused failure session =>
      have hfirst : Rendered env host headers (prompt :: rest) state _ :=
        .refused failure session rfl (.nil state.drawn)
      simpa [logged] using hfirst
    | served session hserved =>
      rename_i controlled observation
      dsimp only
      have hrest := ih ⟨session, state.drawn + 1, state.recorded ++ logged env [observation]⟩
      generalize control_prompts py env host headers max_tokens rest
        ⟨session, state.drawn + 1, state.recorded ++ logged env [observation]⟩ = ended at hrest
      cases hrest with
      | served session hserves =>
        have hall : Rendered env host headers (prompt :: rest) state _ := .served session (.cons hserved hserves)
        rw [logged_cons] at hall
        simpa [Nat.add_assoc, Nat.add_comm 1] using hall
      | refused failure session hprompts hserves =>
        have hall : Rendered env host headers (prompt :: rest) state _ :=
          .refused failure session (by rw [hprompts]; rfl) (.cons hserved hserves)
        rw [logged_cons] at hall
        simpa [Nat.add_assoc, Nat.add_comm 1] using hall

end

section

variable {O C E : Type}

/-- The prompts of a reply; what the adapter passes on untouched has none. -/
def reply_prompts : Except Failure (C × List (PromptValue O) ⊕ E) → List (PromptValue O)
  | .ok (.inl (_, prompts)) => prompts
  | _ => []

/-- The prompts that a run has returned, in the order of its calls. -/
def returned {σ : Type} (events : List (Event σ (Render O C E) (Except Failure (C × List (PromptValue O) ⊕ E)))) :
    List (PromptValue O) :=
  events.flatMap fun event => reply_prompts event.reply

end

section

variable {F O : Type} {env : Environment} {host : Host O} {state after : State F} {prompts : List (PromptValue O)}

/-- How the state of the adapter accounts for what it has returned: each prompt was issued
under a uuid of its own, in the order they were drawn, and observed, in its turn and as
recomputed; and the log has these observations where there is one. -/
structure Accounts (env : Environment) (host : Host O) (state : State F) (prompts : List (PromptValue O)) : Prop where
  issued : ∃ draws : List ℕ, draws.Pairwise (· < ·) ∧ (∀ n ∈ draws, n < state.drawn) ∧
    List.Forall₂ (Issued host) draws prompts
  observed : ∃ observed : List (LiveObservation F),
    List.Forall₂ (fun returned observation => returned.salt? = observation.runtime_cache_salt.map .text)
      prompts observed ∧
    (∀ observation ∈ observed, observation.runtime_effective_decision = .recompute) ∧
    (logged env observed).Sublist state.recorded
  recompute : ∀ observation ∈ state.recorded, observation.runtime_effective_decision = .recompute
  unlogged : logged env state.recorded = state.recorded

theorem accounts_init : Accounts env host (State.init F) [] where
  issued := ⟨[], .nil, by simp, .nil⟩
  observed := ⟨[], .nil, by simp, logged_sublist env []⟩
  recompute := by simp [State.init]
  unlogged := by simp [State.init, logged]

/-- What is served before a call stops leaves its observations in the log, all recomputed. -/
theorem Accounts.silent {observations : List (LiveObservation F)} (haccounts : Accounts env host state prompts)
    (session : Session) {drawn : ℕ} (hdrawn : state.drawn ≤ drawn)
    (hrecompute : ∀ observation ∈ observations, observation.runtime_effective_decision = .recompute) :
    Accounts env host ⟨session, drawn, state.recorded ++ logged env observations⟩ prompts := by
  obtain ⟨⟨draws, hincreasing, hbound, hissued⟩, ⟨observed, hmatches, hobserved, hsublist⟩, hearlier, hlogged⟩ :=
    haccounts
  refine ⟨⟨draws, hincreasing, fun n hn => ?_, hissued⟩, ⟨observed, hmatches, hobserved, ?_⟩, ?_, ?_⟩
  · have hlt := hbound n hn
    dsimp only
    omega
  · exact hsublist.trans (List.sublist_append_left _ _)
  · exact List.forall_mem_append.mpr
      ⟨hearlier, fun observation hmem => hrecompute observation ((logged_sublist env _).subset hmem)⟩
  · dsimp only
    rw [logged_append, hlogged]
    congr 1
    unfold logged
    split <;> rfl

theorem Accounts.serve {headers : Headers} {rendered controlled : List (PromptValue O)}
    {observations : List (LiveObservation F)} (haccounts : Accounts env host state prompts) (session : Session)
    (hserves : Serves host headers state.drawn rendered controlled observations) :
    Accounts env host ⟨session, state.drawn + rendered.length, state.recorded ++ logged env observations⟩
      (prompts ++ controlled) := by
  obtain ⟨hmatched, hrecompute⟩ := hserves.observed
  have hsilent := haccounts.silent session (Nat.le_add_right state.drawn rendered.length) hrecompute
  obtain ⟨⟨draws, hincreasing, hbound, hissued⟩, ⟨observed, hmatches, hobserved, hsublist⟩, _⟩ := haccounts
  refine ⟨⟨draws ++ List.range' state.drawn rendered.length, ?_, ?_, ?_⟩, ⟨observed ++ observations, ?_, ?_, ?_⟩,
    hsilent.recompute, hsilent.unlogged⟩
  · rw [List.pairwise_append]
    refine ⟨hincreasing, List.pairwise_lt_range', fun earlier hdraw later hlater => ?_⟩
    have hlt := hbound earlier hdraw
    rw [List.mem_range'_1] at hlater
    omega
  · rw [List.forall_mem_append]
    refine ⟨fun n hn => ?_, fun n hn => ?_⟩
    · have hlt := hbound n hn
      dsimp only
      omega
    · rw [List.mem_range'_1] at hn
      exact hn.2
  · exact List.rel_append hissued hserves.issued
  · exact List.rel_append hmatches hmatched
  · exact List.forall_mem_append.mpr ⟨hobserved, hrecompute⟩
  · rw [logged_append]
    exact hsublist.append (List.Sublist.refl _)

end

section

variable {F O C E : Type} [PyFloat F] {py : Interpreter F} {env : Environment} {host : Host O}

theorem Accounts.render {state : State F} {prompts : List (PromptValue O)}
    (haccounts : Accounts env host state prompts) (call : Render O C E) :
    Accounts env host (render py env host state call).2
      (prompts ++ reply_prompts (render py env host state call).1) := by
  unfold school_vllm_028.render
  split
  · change Accounts env host state (prompts ++ [])
    rwa [List.append_nil]
  · change Accounts env host state (prompts ++ [])
    rwa [List.append_nil]
  · rename_i conversation rendered hresult
    have hrendered := control_prompts_rendered py env host call.headers call.output_tokens
      rendered state
    generalize control_prompts py env host call.headers call.output_tokens rendered state = ended at hrendered
    cases hrendered with
    | served session hserves => exact haccounts.serve session hserves
    | refused failure session hprompts hserves =>
      change Accounts env host _ (prompts ++ [])
      rw [List.append_nil]
      exact haccounts.silent session (by omega) hserves.observed.2

variable (py env host) in
theorem accounts_run (calls : List (Render O C E)) : Accounts env host (run (render py env host) (.init F) calls)
    (returned (trace (render py env host) (.init F) calls)) := by
  induction calls using List.reverseRecOn with
  | nil => exact accounts_init
  | append_singleton calls call ih =>
    rw [run_snoc, trace_snoc, returned, List.flatMap_append, List.flatMap_singleton]
    exact ih.render call

/-- Whatever is rendered, every observation in the log is of a request that is recomputed,
and every prompt that was returned carries the salt of a recomputation and was observed as
one, in their order; these observations are in the log, unless no path for it is configured
and nothing is. -/
theorem recorded_recompute_only (py : Interpreter F) (env : Environment) (host : Host O) (calls : List (Render O C E)) :
    let recorded := (run (render py env host) (.init F) calls).recorded
    let prompts := returned (trace (render py env host) (.init F) calls)
    (∀ observation ∈ recorded, observation.runtime_effective_decision = .recompute) ∧
      (∀ prompt ∈ prompts, ∃ headers request_id,
        prompt.salt? = some (.text (recompute_salt headers request_id))) ∧
      ∃ observed : List (LiveObservation F),
        List.Forall₂ (fun returned observation => returned.salt? = observation.runtime_cache_salt.map .text)
          prompts observed ∧
        (∀ observation ∈ observed, observation.runtime_effective_decision = .recompute) ∧
        if strip (getenv env "VLLM_KV_MATERIALIZATION_LOG_PATH" "") = "" then recorded = []
        else observed.Sublist recorded := by
  intro recorded prompts
  obtain ⟨⟨draws, _, _, hissued⟩, ⟨observed, hmatches, hobserved, hsublist⟩, hrecompute, hunlogged⟩ :=
    accounts_run py env host calls
  refine ⟨hrecompute, ?_, observed, hmatches, hobserved, ?_⟩
  · intro prompt hprompt
    obtain ⟨n, _, headers, hsalt⟩ := exists_left_of_mem hissued hprompt
    exact ⟨headers, prompt_request_id host n, hsalt⟩
  · split
    · rename_i hpath
      rw [logged, if_pos hpath] at hunlogged
      exact hunlogged.symm
    · rename_i hpath
      rwa [logged, if_neg hpath] at hsublist

end

/-- Different ids without a colon are given different salts, whatever they are scoped to. -/
theorem recompute_salt_ne {headers headers' : Headers} {request_id request_id' : String}
    (hne : request_id ≠ request_id') (hplain : ':' ∉ request_id.toList) (hplain' : ':' ∉ request_id'.toList) :
    recompute_salt headers request_id ≠ recompute_salt headers' request_id' := by
  unfold recompute_salt
  rw [ne_eq, request_scoped_salt_eq_iff hne, not_or]
  exact ⟨not_pieceShifted_of_no_colon hplain', not_pieceShifted_of_no_colon hplain⟩

/-- A request under the salt of a recomputation is observed when it is admitted. -/
theorem initialized_recompute_salt (sha256 : String → String) (request_id : String) (headers : Headers)
    (scoped_id : String) (prompt_token_ids : Option ℕ) :
    initialized sha256 request_id (some (recompute_salt headers scoped_id)) prompt_token_ids =
      some ⟨request_id, sha256 (recompute_salt headers scoped_id), prompt_token_ids.getD 0⟩ := by
  unfold initialized
  dsimp only
  rw [if_pos]
  unfold recompute_salt
  rw [make_request_scoped_salt_toList]
  exact List.prefix_append _ _

section

variable {F O C E : Type} [PyFloat F]

/-- As long as no uuid is drawn twice, no two prompts that a process has ever returned share
a salt, and the host's admission of each of them is observed. -/
theorem returned_salts_apart (py : Interpreter F) (env : Environment) (host : Host O)
    (hfresh : Function.Injective host.uuid4_hex) (hplain : ∀ n, ':' ∉ (host.uuid4_hex n).toList)
    (calls : List (Render O C E)) :
    (returned (trace (render py env host) (.init F) calls)).Pairwise (fun first second => first.salt? ≠ second.salt?) ∧
      ∀ prompt ∈ returned (trace (render py env host) (.init F) calls), ∃ salt, prompt.salt? = some (.text salt) ∧
        ∀ sha256 request_id prompt_token_ids, initialized sha256 request_id (some salt) prompt_token_ids =
          some ⟨request_id, sha256 salt, prompt_token_ids.getD 0⟩ := by
  obtain ⟨draws, hincreasing, _, hissued⟩ := (accounts_run py env host calls).issued
  have hid : ∀ n, ':' ∉ (prompt_request_id host n).toList := by
    intro n
    rw [prompt_request_id, String.toList_append, List.mem_append, not_or]
    exact ⟨by decide, hplain n⟩
  constructor
  · refine pairwise_of_forall₂ ?_ hissued hincreasing
    rintro n m first second hlt ⟨headers, hfirst⟩ ⟨headers', hsecond⟩ hsame
    rw [hfirst, hsecond, Option.some.injEq, PromptValue.text.injEq] at hsame
    refine recompute_salt_ne ?_ (hid n) (hid m) hsame
    rw [prompt_request_id, prompt_request_id, ne_eq, String.append_right_inj]
    exact fun heq => absurd (hfresh heq) (by omega)
  · intro prompt hprompt
    obtain ⟨n, _, headers, hsalt⟩ := exists_left_of_mem hissued hprompt
    exact ⟨_, hsalt, fun sha256 request_id => initialized_recompute_salt sha256 request_id headers _⟩

end

/-- A host whose uuids count up and whose prompts are lengths of lists. -/
def countingHost : Host ℕ where
  list_length := some
  truthy _ := false
  uuid4_hex := toString
  recording _ := none

/-- A request for three tokens of the session "chat". -/
def chatRequest : Render ℕ Unit Unit where
  headers := bind_request_headers asciiLower [("X-KV-Primary-Anchor-Id", "chat")]
  max_completion_tokens := some 8
  max_tokens := none
  result := .ok (.inl ((), [.dict [("prompt_token_ids", .other 3)]]))

theorem returned_salts_apart_counting :
    (returned (trace (render Interpreter.ascii recomputing countingHost) (.init ℚ)
        [chatRequest, chatRequest])).length = 2 ∧
      (returned (trace (render Interpreter.ascii recomputing countingHost) (.init ℚ)
        [chatRequest, chatRequest])).Pairwise
        (fun first second => first.salt? ≠ second.salt?) := by
  refine ⟨by decide +kernel, (returned_salts_apart Interpreter.ascii recomputing countingHost ?_ ?_ _).1⟩
  · exact fun n m heq => legacy_vllm_023.toString_injective heq
  · intro n hcolon
    exact absurd (isDigit_of_mem_toString hcolon) (by decide)

end vllm_kv_materialization.school_vllm_028
