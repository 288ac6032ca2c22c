import KvMaterialization.Delimited
import KvMaterialization.LiveControl.Consistency

open python
open vllm_kv_materialization.policy

namespace vllm_kv_materialization.live_control

/-- The salt that keeps what a plan recomputes out of every shared namespace. -/
def RuntimeControlPlan.request_salt (plan : RuntimeControlPlan) : Option String :=
  match plan.effective_decision with
  | .recompute => plan.cache_salt
  | .partial_reuse => plan.segmented_tail_cache_salt
  | .full_reuse => none

def RuntimeControlPlan.salts (plan : RuntimeControlPlan) : List String :=
  plan.cache_salt.toList ++ plan.segmented_tail_cache_salt.toList

/-- The request-scoped salt of the first plan is no salt of the second. -/
def Isolated (first second : RuntimeControlPlan) : Prop :=
  ∀ salt ∈ first.request_salt, salt ∉ second.salts

theorem request_salt_mem_salts {plan : RuntimeControlPlan} {salt : String}
    (hsalt : plan.request_salt = some salt) : salt ∈ plan.salts := by
  unfold RuntimeControlPlan.request_salt at hsalt
  unfold RuntimeControlPlan.salts
  rw [List.mem_append, Option.mem_toList, Option.mem_toList]
  split at hsalt
  · exact .inl hsalt
  · exact .inr hsalt
  · cases hsalt

/-- The second id is the first behind a piece that the second scope lacks. -/
def PieceShifted (scope id scope' id' : String) : Prop :=
  ∃ piece, id' = piece ++ ":" ++ id ∧ scope = scope' ++ ":" ++ piece

/-- A piece moves only into an id that has a colon. -/
theorem not_pieceShifted_of_no_colon {scope id scope' id' : String} (hcolon : ':' ∉ id'.toList) :
    ¬ PieceShifted scope id scope' id' := by
  rintro ⟨piece, rfl, _⟩
  apply hcolon
  rw [String.toList_append, String.toList_append, List.mem_append, List.mem_append]
  exact .inl (.inr (by decide))

/-- The salts that requests may share. -/
inductive SharedSalt : Option String → Prop where
  | none : SharedSalt none
  | anchor (anchor_id : String) : SharedSalt (some ("kvmat:anchor:" ++ anchor_id))
  | case (workload_case : String) : SharedSalt (some ("kvmat:case:" ++ workload_case))

section Salts

theorem make_anchor_scoped_salt_shared (primary_anchor_id workload_case : String) :
    SharedSalt (make_anchor_scoped_salt primary_anchor_id workload_case) := by
  unfold make_anchor_scoped_salt
  split
  · exact .anchor _
  split
  · exact .case _
  · exact .none

theorem make_partial_fallback_salt_shared (primary_anchor_id : String)
    (secondary_anchor_ids : List String) (workload_case : String) :
    SharedSalt (make_partial_fallback_salt primary_anchor_id secondary_anchor_ids workload_case) := by
  unfold make_partial_fallback_salt
  dsimp only
  split
  · exact .anchor _
  split
  · exact .case _
  · exact .none

theorem getElem?_toList_append {start : String} {i : ℕ} {c : Char}
    (hstart : start.toList[i]? = some c) (rest : String) : (start ++ rest).toList[i]? = some c := by
  have hlt : i < start.toList.length := (List.getElem?_eq_some_iff.mp hstart).1
  rw [String.toList_append, List.getElem?_append_left hlt, hstart]

/-- The namespaces part at the character after `kvmat:`. -/
theorem request_scoped_salt_not_shared {primary_anchor_id workload_case request_id : String} :
    ¬ SharedSalt (some (make_request_scoped_salt primary_anchor_id workload_case request_id)) := by
  have hrequest : (make_request_scoped_salt primary_anchor_id workload_case request_id).toList[6]? =
      some 'r' := by
    unfold make_request_scoped_salt
    rw [String.append_assoc, String.append_assoc]
    exact getElem?_toList_append (by decide) _
  intro hshared
  generalize make_request_scoped_salt primary_anchor_id workload_case request_id = salt at *
  cases hshared with
  | anchor anchor_id =>
    rw [getElem?_toList_append (c := 'a') (by decide) anchor_id] at hrequest
    exact absurd hrequest (by decide)
  | case workload_case =>
    rw [getElem?_toList_append (c := 'c') (by decide) workload_case] at hrequest
    exact absurd hrequest (by decide)

theorem shifted_iff {scope id scope' id' : String} :
    delimited.Shifted [':'] scope.toList id.toList scope'.toList id'.toList ↔
      PieceShifted scope id scope' id' := by
  constructor
  · rintro ⟨piece, hid, hscope⟩
    refine ⟨String.ofList piece, ?_, ?_⟩
    · rw [← String.toList_inj]
      simpa using hid
    · rw [← String.toList_inj]
      simpa using hscope
  · rintro ⟨piece, rfl, rfl⟩
    exact ⟨piece.toList, by simp, by simp⟩

theorem make_request_scoped_salt_toList (primary_anchor_id workload_case request_id : String) :
    (make_request_scoped_salt primary_anchor_id workload_case request_id).toList =
      "kvmat:recompute:".toList ++
        ((request_scope primary_anchor_id workload_case).toList ++ [':'] ++ request_id.toList) := by
  have hcolon : ":".toList = [':'] := by decide
  unfold make_request_scoped_salt
  rw [String.toList_append, String.toList_append, String.toList_append, hcolon, List.append_assoc,
    List.append_assoc, List.append_assoc]

/-- Different requests are issued one salt exactly if a piece between two colons
can be read as the end of a scope or as the start of an id. -/
theorem request_scoped_salt_eq_iff {primary_anchor_id workload_case request_id primary_anchor_id'
    workload_case' request_id' : String} (hne : request_id ≠ request_id') :
    make_request_scoped_salt primary_anchor_id workload_case request_id =
        make_request_scoped_salt primary_anchor_id' workload_case' request_id' ↔
      PieceShifted (request_scope primary_anchor_id workload_case) request_id
          (request_scope primary_anchor_id' workload_case') request_id' ∨
        PieceShifted (request_scope primary_anchor_id' workload_case') request_id'
          (request_scope primary_anchor_id workload_case) request_id := by
  have hid : request_id.toList ≠ request_id'.toList := fun h => hne (String.toList_inj.mp h)
  rw [← shifted_iff, ← shifted_iff, ← String.toList_inj]
  rw [make_request_scoped_salt_toList, make_request_scoped_salt_toList, List.append_right_inj,
    delimited.append_cons_eq_iff]
  constructor
  · rintro (⟨_, heq⟩ | hshifted)
    · exact absurd heq hid
    · exact hshifted
  · exact Or.inr

end Salts

section

variable {F : Type} [PyFloat F] {py : Interpreter F} {env : Environment}

/-- A plan that does not recompute its request reads under a shared salt. -/
theorem runtime_plan_shared_salt {signals : MaterializationSignals F} {extras : SignalExtras}
    {policy : MaterializationPolicy F} {outcome : MaterializationOutcome} {request_id : String}
    {prompt_tokens : ℤ} {plan : RuntimeControlPlan}
    (hplan : runtime_plan py env signals extras policy outcome request_id prompt_tokens = .ok plan)
    (hreuses : plan.effective_decision ≠ .recompute) : SharedSalt plan.cache_salt := by
  unfold runtime_plan at hplan
  dsimp only at hplan
  split at hplan
  · rw [pure_eq_ok_iff] at hplan
    subst hplan
    exact absurd rfl hreuses
  · rw [pure_eq_ok_iff] at hplan
    subst hplan
    exact make_anchor_scoped_salt_shared _ _
  · rw [bind_eq_ok_iff] at hplan
    obtain ⟨action, _, hplan⟩ := hplan
    rw [pure_eq_ok_iff] at hplan
    subst hplan
    unfold partial_plan at hreuses ⊢
    split
    · exact make_partial_fallback_salt_shared _ _ _
    split
    · rename_i hpartialReuse hrecompute
      rw [if_neg hpartialReuse, if_pos hrecompute] at hreuses
      exact absurd rfl hreuses
    · exact make_partial_fallback_salt_shared _ _ _

/-- Every salt of a plan is the request-scoped one of its request or a shared one,
and its own request-scoped salt is the former. -/
theorem compute_runtime_control_salts {session : Session} {headers : Headers} {request_id : String}
    {prompt_tokens output_tokens : ℤ} {observation : LiveObservation F} {plan : RuntimeControlPlan}
    (hcontrol : (compute_runtime_control py env session headers request_id prompt_tokens
      output_tokens).1 = .ok (observation, plan)) :
    (∀ salt ∈ plan.request_salt, salt = make_request_scoped_salt (primary_anchor_id headers)
        (header headers HEADER_WORKLOAD_CASE) request_id) ∧
      ∀ salt ∈ plan.salts, salt = make_request_scoped_salt (primary_anchor_id headers)
        (header headers HEADER_WORKLOAD_CASE) request_id ∨ SharedSalt (some salt) := by
  obtain ⟨signals, extras, mode, outcome, hestimated, hselect, hplan, rfl⟩ :=
    compute_runtime_control_spec hcontrol
  obtain ⟨hnonneg, hprompt, hextras⟩ := estimate_signals_spec hestimated
  obtain ⟨_, hconsistent⟩ := runtime_plan_consistent
    (select_policy_outcome_reusesWithin hnonneg hselect) hnonneg hprompt hplan
  have hanchor : extras.primary_anchor_id = primary_anchor_id headers := by
    simp only [hextras, request_extras]
  have hcase : extras.workload_case = header headers HEADER_WORKLOAD_CASE := by
    simp only [hextras, request_extras]
  rw [hanchor, hcase] at hconsistent
  have htail := hconsistent.tail_salt
  constructor
  · intro salt hsalt
    unfold RuntimeControlPlan.request_salt at hsalt
    cases heffective : plan.effective_decision with
    | recompute =>
      obtain ⟨_, hcache⟩ := hconsistent.recompute heffective
      rw [heffective, hcache] at hsalt
      exact (Option.mem_some_iff.mp hsalt).symm
    | partial_reuse =>
      rw [heffective, htail, if_pos heffective] at hsalt
      exact (Option.mem_some_iff.mp hsalt).symm
    | full_reuse =>
      rw [heffective] at hsalt
      cases hsalt
  · intro salt hsalt
    obtain hcache | htailed := List.mem_append.mp hsalt
    · rw [Option.mem_toList] at hcache
      by_cases heffective : plan.effective_decision = .recompute
      · left
        obtain ⟨_, hrequest⟩ := hconsistent.recompute heffective
        rw [hrequest] at hcache
        exact (Option.mem_some_iff.mp hcache).symm
      · right
        rw [← Option.mem_def.mp hcache]
        exact runtime_plan_shared_salt hplan heffective
    · left
      rw [Option.mem_toList, htail] at htailed
      split at htailed
      · exact (Option.mem_some_iff.mp htailed).symm
      · cases htailed

theorem isolated_of_request_salt_ne {env' : Environment} {session session' : Session}
    {headers headers' : Headers} {request_id request_id' : String}
    {prompt_tokens prompt_tokens' output_tokens output_tokens' : ℤ}
    {observation observation' : LiveObservation F} {plan plan' : RuntimeControlPlan}
    (hcontrol : (compute_runtime_control py env session headers request_id prompt_tokens
      output_tokens).1 = .ok (observation, plan))
    (hcontrol' : (compute_runtime_control py env' session' headers' request_id' prompt_tokens'
      output_tokens').1 = .ok (observation', plan'))
    (hne : make_request_scoped_salt (primary_anchor_id headers)
        (header headers HEADER_WORKLOAD_CASE) request_id ≠
      make_request_scoped_salt (primary_anchor_id headers')
        (header headers' HEADER_WORKLOAD_CASE) request_id') : Isolated plan plan' := by
  obtain ⟨hrequest, _⟩ := compute_runtime_control_salts hcontrol
  obtain ⟨_, hsalts⟩ := compute_runtime_control_salts hcontrol'
  intro salt hsalt hmem
  have heq := hrequest salt hsalt
  subst heq
  obtain heq' | hshared := hsalts _ hmem
  · exact hne heq'
  · exact request_scoped_salt_not_shared hshared

end

/-- The environment of a controller that is told to recompute everything. -/
def recomputing : Environment := .ofList [("VLLM_KV_POLICY_MODE", "always_recompute")]

theorem policy_mode_recomputing {F : Type} (py : Interpreter F) :
    policy_mode py recomputing = "always_recompute" := by
  unfold policy_mode
  have hstripped : strip (getenv recomputing "VLLM_KV_POLICY_MODE" "controller") =
      "always_recompute" := by decide
  rw [hstripped, py.lower_of_ascii (by decide)]
  decide

/-- Under it, every request is issued its request-scoped salt. -/
theorem recomputing_issues_request_salt (session : Session) (headers : Headers) (request_id : String)
    (prompt_tokens output_tokens : ℤ) :
    ∃ observation plan, (compute_runtime_control Interpreter.ascii recomputing session headers request_id
        prompt_tokens output_tokens).1 = .ok (observation, plan) ∧
      plan.request_salt = some (make_request_scoped_salt (primary_anchor_id headers)
        (header headers HEADER_WORKLOAD_CASE) request_id) := by
  have hmode := policy_mode_recomputing Interpreter.ascii
  obtain ⟨⟨signals, extras⟩, hestimated⟩ :=
    estimate_signals_exact Interpreter.ascii recomputing session headers prompt_tokens output_tokens
  obtain ⟨_, _, hextras⟩ := estimate_signals_spec hestimated
  have hselect : select_policy_outcome Interpreter.ascii recomputing signals
      (make_policy Interpreter.ascii recomputing) =
        .ok ("always_recompute", ⟨.recompute, 0, .fixed_policy_always_recompute⟩) := by
    simp [select_policy_outcome, hmode]
  have hplan : ∃ plan, runtime_plan Interpreter.ascii recomputing signals extras
      (make_policy Interpreter.ascii recomputing) ⟨.recompute, 0, .fixed_policy_always_recompute⟩
      request_id prompt_tokens = .ok plan ∧
      plan.request_salt = some (make_request_scoped_salt extras.primary_anchor_id extras.workload_case request_id) :=
    ⟨_, rfl, rfl⟩
  obtain ⟨plan, hplan, hsalt⟩ := hplan
  refine ⟨_, plan, compute_runtime_control_of_plan hestimated hselect hplan, ?_⟩
  rw [hsalt, hextras]
  rfl

theorem recomputing_request_salt (headers : Headers) (request_id : String) :
    ∃ observation plan, (compute_runtime_control Interpreter.ascii recomputing .init headers request_id
        0 0).1 = .ok (observation, plan) ∧
      plan.request_salt = some (make_request_scoped_salt (primary_anchor_id headers)
        (header headers HEADER_WORKLOAD_CASE) request_id) :=
  recomputing_issues_request_salt .init headers request_id 0 0

/-- Two requests with different ids are kept apart, in whatever environments,
sessions and readings they are planned, exactly if neither id continues the other
by a piece that the scopes can trade across the colon. -/
theorem request_salts_isolated_iff (headers headers' : Headers) (request_id request_id' : String)
    (hne : request_id ≠ request_id') :
    (∀ (F : Type) [PyFloat F] (py : Interpreter F) (env env' : Environment)
      (session session' : Session) (prompt_tokens prompt_tokens' output_tokens output_tokens' : ℤ)
      (observation observation' : LiveObservation F) (plan plan' : RuntimeControlPlan),
      (compute_runtime_control py env session headers request_id prompt_tokens output_tokens).1 =
        .ok (observation, plan) →
      (compute_runtime_control py env' session' headers' request_id' prompt_tokens'
        output_tokens').1 = .ok (observation', plan') →
      Isolated plan plan') ↔
    ¬ (PieceShifted
        (request_scope (primary_anchor_id headers) (header headers HEADER_WORKLOAD_CASE)) request_id
        (request_scope (primary_anchor_id headers') (header headers' HEADER_WORKLOAD_CASE)) request_id' ∨
      PieceShifted
        (request_scope (primary_anchor_id headers') (header headers' HEADER_WORKLOAD_CASE)) request_id'
        (request_scope (primary_anchor_id headers) (header headers HEADER_WORKLOAD_CASE)) request_id) := by
  rw [← request_scoped_salt_eq_iff hne]
  constructor
  · intro hisolated heq
    obtain ⟨observation, plan, hcontrol, hsalt⟩ := recomputing_request_salt headers request_id
    obtain ⟨observation', plan', hcontrol', hsalt'⟩ := recomputing_request_salt headers' request_id'
    have happart := hisolated ℚ _ _ _ _ _ _ _ _ _ _ _ _ _ hcontrol hcontrol'
    rw [← heq] at hsalt'
    exact happart _ hsalt (request_salt_mem_salts hsalt')
  · intro hsalts F _ py env env' session session' prompt_tokens prompt_tokens' output_tokens
      output_tokens' observation observation' plan plan' hcontrol hcontrol'
    exact isolated_of_request_salt_ne hcontrol hcontrol' hsalts

/-- Two recomputed requests of one session whose ids have no colon. -/
theorem request_salts_isolated_iff_plain_ids :
    ∃ observation plan observation' plan',
      (compute_runtime_control Interpreter.ascii recomputing .init
        (bind_request_headers asciiLower [("X-KV-Primary-Anchor-Id", "session")]) "request-1" 0 0).1 =
        .ok (observation, plan) ∧
      (compute_runtime_control Interpreter.ascii recomputing .init
        (bind_request_headers asciiLower [("X-KV-Primary-Anchor-Id", "session")]) "request-2" 0 0).1 =
        .ok (observation', plan') ∧
      Isolated plan plan' := by
  obtain ⟨observation, plan, hcontrol, _⟩ := recomputing_request_salt
    (bind_request_headers asciiLower [("X-KV-Primary-Anchor-Id", "session")]) "request-1"
  obtain ⟨observation', plan', hcontrol', _⟩ := recomputing_request_salt
    (bind_request_headers asciiLower [("X-KV-Primary-Anchor-Id", "session")]) "request-2"
  have hapart := (request_salts_isolated_iff
    (bind_request_headers asciiLower [("X-KV-Primary-Anchor-Id", "session")])
    (bind_request_headers asciiLower [("X-KV-Primary-Anchor-Id", "session")])
    "request-1" "request-2" (by decide)).mpr (by
      rintro (hshifted | hshifted)
      · exact not_pieceShifted_of_no_colon (by decide) hshifted
      · exact not_pieceShifted_of_no_colon (by decide) hshifted)
  exact ⟨observation, plan, observation', plan', hcontrol, hcontrol',
    hapart ℚ _ _ _ _ _ _ _ _ _ _ _ _ _ hcontrol hcontrol'⟩

/-- One request on the anchor `a`, one on `a:b`, and one salt between them. -/
theorem colon_in_anchor_shares_salt :
    ∃ observation plan observation' plan',
      (compute_runtime_control Interpreter.ascii recomputing .init
        (bind_request_headers asciiLower [("X-KV-Primary-Anchor-Id", "a")]) "b:c" 0 0).1 =
        .ok (observation, plan) ∧
      (compute_runtime_control Interpreter.ascii recomputing .init
        (bind_request_headers asciiLower [("X-KV-Primary-Anchor-Id", "a:b")]) "c" 0 0).1 =
        .ok (observation', plan') ∧
      "b:c" ≠ "c" ∧ ¬ Isolated plan plan' := by
  obtain ⟨observation, plan, hcontrol, hsalt⟩ := recomputing_request_salt
    (bind_request_headers asciiLower [("X-KV-Primary-Anchor-Id", "a")]) "b:c"
  obtain ⟨observation', plan', hcontrol', hsalt'⟩ := recomputing_request_salt
    (bind_request_headers asciiLower [("X-KV-Primary-Anchor-Id", "a:b")]) "c"
  have hshared : make_request_scoped_salt
        (primary_anchor_id (bind_request_headers asciiLower [("X-KV-Primary-Anchor-Id", "a")]))
        (header (bind_request_headers asciiLower [("X-KV-Primary-Anchor-Id", "a")])
          HEADER_WORKLOAD_CASE) "b:c" =
      make_request_scoped_salt
        (primary_anchor_id (bind_request_headers asciiLower [("X-KV-Primary-Anchor-Id", "a:b")]))
        (header (bind_request_headers asciiLower [("X-KV-Primary-Anchor-Id", "a:b")])
          HEADER_WORKLOAD_CASE) "c" := by decide
  rw [← hshared] at hsalt'
  refine ⟨observation, plan, observation', plan', hcontrol, hcontrol', by decide, ?_⟩
  intro hisolated
  exact hisolated _ hsalt (request_salt_mem_salts hsalt')

end vllm_kv_materialization.live_control
