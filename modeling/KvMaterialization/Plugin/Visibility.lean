import KvMaterialization.Plugin.RequestProcessing

open python
open vllm_kv_materialization.live_control

namespace vllm_kv_materialization.plugin

/-- Two header maps agree on every registered name. -/
def Agree (headers headers' : Headers) : Prop :=
  ∀ name ∈ REQUEST_HEADERS, headers'.get? name = headers.get? name

/-- Binding commutes with the host's filter, name by name. -/
theorem visible_get? {F : Type} (py : Interpreter F) (context : RequestProcessingContext) (name : String) :
    (bind_request_headers py.lower (context.visible py).headers).get? name =
      if name ∈ REQUEST_HEADERS then (bind_request_headers py.lower context.headers).get? name
      else none := by
  have hfilter : (context.visible py).headers.map (fun item => (py.lower item.1, item.2)) =
      (context.headers.map (fun item => (py.lower item.1, item.2))).filter
        (fun item => decide (item.1 ∈ REQUEST_HEADERS)) := by
    rw [List.filter_map]
    rfl
  unfold bind_request_headers
  rw [hfilter, Dict.get?_ofList_filter (fun name => decide (name ∈ REQUEST_HEADERS))]
  simp only [decide_eq_true_eq]

theorem visible_agree {F : Type} (py : Interpreter F) (context : RequestProcessingContext) :
    Agree (bind_request_headers py.lower context.headers)
      (bind_request_headers py.lower (context.visible py).headers) := by
  intro name hname
  rw [visible_get?, if_pos hname]

section

variable {F : Type} {headers headers' : Headers}

theorem header_of_agree (hagree : Agree headers headers') {name : String}
    (hname : name ∈ REQUEST_HEADERS) : header headers' name = header headers name := by
  unfold header
  rw [hagree name hname]

variable {py : Interpreter F}

theorem header_int_of_agree (hagree : Agree headers headers') {name : String}
    (hname : name ∈ REQUEST_HEADERS) (default : ℤ) :
    header_int py headers' name default = header_int py headers name default := by
  unfold header_int
  rw [header_of_agree hagree hname]

theorem header_float_of_agree (hagree : Agree headers headers') {name : String}
    (hname : name ∈ REQUEST_HEADERS) (default : F) :
    header_float py headers' name default = header_float py headers name default := by
  unfold header_float
  rw [header_of_agree hagree hname]

variable [PyFloat F] {env : Environment}

theorem estimate_reusable_prefix_tokens_of_agree (hagree : Agree headers headers')
    (prompt_tokens previous_prompt_tokens previous_output_tokens : ℤ) :
    estimate_reusable_prefix_tokens py headers' prompt_tokens previous_prompt_tokens
        previous_output_tokens =
      estimate_reusable_prefix_tokens py headers prompt_tokens previous_prompt_tokens
        previous_output_tokens := by
  unfold estimate_reusable_prefix_tokens
  rw [header_int_of_agree hagree (by decide), header_int_of_agree hagree (by decide),
    header_of_agree hagree (by decide)]

theorem request_signals_of_agree (hagree : Agree headers headers')
    (hidentity : primary_anchor_id headers' = primary_anchor_id headers) (read : SessionRead)
    (reusable_prefix_tokens : ℤ) :
    request_signals py env headers' read reusable_prefix_tokens =
      request_signals py env headers read reusable_prefix_tokens := by
  have hturn : request_turn_index py headers' read = request_turn_index py headers read :=
    header_int_of_agree hagree (by decide) _
  have hextras : request_extras py headers' read = request_extras py headers read := by
    unfold request_extras
    rw [hidentity, hturn, header_of_agree hagree (by decide), header_of_agree hagree (by decide),
      header_of_agree hagree (by decide), header_int_of_agree hagree (by decide)]
  unfold request_signals
  dsimp only
  rw [hturn, hextras, header_float_of_agree hagree (by decide), header_float_of_agree hagree (by decide)]

/-- The whole estimate reads nothing beyond the registered names but the identity. -/
theorem estimate_signals_of_agree (hagree : Agree headers headers')
    (hidentity : primary_anchor_id headers' = primary_anchor_id headers) (session : Session)
    (prompt_tokens output_tokens : ℤ) :
    estimate_signals py env session headers' prompt_tokens output_tokens =
      estimate_signals py env session headers prompt_tokens output_tokens := by
  have hturn : ∀ read, request_turn_index py headers' read = request_turn_index py headers read :=
    fun read => header_int_of_agree hagree (by decide) _
  have hfinish : ∀ session read, finish_session py session headers' read prompt_tokens output_tokens =
      finish_session py session headers read prompt_tokens output_tokens := by
    intro session read
    unfold finish_session
    rw [hidentity, hturn, estimate_reusable_prefix_tokens_of_agree hagree]
  have hrest : ∀ read, request_signals py env headers' read = request_signals py env headers read :=
    fun read => funext (request_signals_of_agree hagree hidentity read)
  unfold estimate_signals
  simp only [hidentity, hfinish, hrest]

theorem compute_runtime_control_of_agree (hagree : Agree headers headers')
    (hidentity : primary_anchor_id headers' = primary_anchor_id headers) (session : Session)
    (request_id : String) (prompt_tokens output_tokens : ℤ) :
    compute_runtime_control py env session headers' request_id prompt_tokens output_tokens =
      compute_runtime_control py env session headers request_id prompt_tokens output_tokens := by
  have hnamed : observed_request_id headers' request_id = observed_request_id headers request_id := by
    unfold observed_request_id
    rw [hagree _ (by decide)]
  have hcontrol : control_signals py env headers' request_id prompt_tokens output_tokens =
      control_signals py env headers request_id prompt_tokens output_tokens := by
    unfold control_signals live_observation
    rw [hnamed]
  unfold compute_runtime_control
  rw [estimate_signals_of_agree hagree hidentity, hcontrol]

end

section

variable {F : Type} (py : Interpreter F) (context : RequestProcessingContext)

theorem visible_primary_anchor :
    header (bind_request_headers py.lower (context.visible py).headers) HEADER_PRIMARY_ANCHOR =
      header (bind_request_headers py.lower context.headers) HEADER_PRIMARY_ANCHOR :=
  header_of_agree (visible_agree py context) (by decide)

/-- The one name that is read and not registered. -/
theorem visible_correlation_id :
    header (bind_request_headers py.lower (context.visible py).headers) HEADER_CORRELATION_ID = "" := by
  unfold header
  rw [visible_get?, if_neg (by decide)]
  rfl

/-- The filter keeps the identity of a request unless that is its correlation id. -/
theorem visible_identity_iff :
    primary_anchor_id (bind_request_headers py.lower (context.visible py).headers) =
        primary_anchor_id (bind_request_headers py.lower context.headers) ↔
      strip (header (bind_request_headers py.lower context.headers) HEADER_PRIMARY_ANCHOR) ≠ "" ∨
        strip (header (bind_request_headers py.lower context.headers) HEADER_CORRELATION_ID) = "" := by
  have hempty : strip "" = "" := by decide
  unfold primary_anchor_id
  rw [visible_primary_anchor, visible_correlation_id, hempty]
  dsimp only
  by_cases hprimary :
      strip (header (bind_request_headers py.lower context.headers) HEADER_PRIMARY_ANCHOR) = ""
  · rw [if_pos hprimary, if_pos hprimary]
    constructor
    · exact fun heq => .inr heq.symm
    · rintro (hne | heq)
      · exact absurd hprimary hne
      · exact heq.symm
  · rw [if_neg hprimary, if_neg hprimary]
    exact ⟨fun _ => .inl hprimary, fun _ => rfl⟩

variable [PyFloat F] (env : Environment) (session : Session)

theorem process_request_session :
    (process_request py env session context).2 = (estimate_signals py env session
      (bind_request_headers py.lower context.headers) context.prompt_tokens context.max_tokens).2 := by
  unfold process_request
  dsimp only
  rw [compute_runtime_control_session]

/-- A request that loses its identity to the filter no longer counts as seen. -/
theorem process_request_visible_ne
    (hprimary : strip (header (bind_request_headers py.lower context.headers) HEADER_PRIMARY_ANCHOR) = "")
    (hcorrelation :
      strip (header (bind_request_headers py.lower context.headers) HEADER_CORRELATION_ID) ≠ "") :
    process_request py env session (context.visible py) ≠ process_request py env session context := by
  have hempty : strip "" = "" := by decide
  have hanonymous :
      primary_anchor_id (bind_request_headers py.lower (context.visible py).headers) = "" := by
    unfold primary_anchor_id
    rw [visible_primary_anchor, if_pos hprimary, visible_correlation_id, hempty]
  have hidentity : primary_anchor_id (bind_request_headers py.lower context.headers) ≠ "" := by
    unfold primary_anchor_id
    rw [if_pos hprimary]
    exact hcorrelation
  intro heq
  have hsession := congrArg Prod.snd heq
  rw [process_request_session, process_request_session,
    estimate_signals_session_of_anonymous _ _ _ hanonymous] at hsession
  exact estimate_signals_session_ne session _ _ hidentity hsession.symm

/-- The registered names suffice exactly for the requests that have a primary
anchor or no correlation id. -/
theorem process_request_visible_iff :
    process_request py env session (context.visible py) = process_request py env session context ↔
      strip (header (bind_request_headers py.lower context.headers) HEADER_PRIMARY_ANCHOR) ≠ "" ∨
        strip (header (bind_request_headers py.lower context.headers) HEADER_CORRELATION_ID) = "" := by
  constructor
  · intro heq
    by_contra hlost
    obtain ⟨hprimary, hcorrelation⟩ := not_or.mp hlost
    exact process_request_visible_ne py context env session (not_not.mp hprimary) hcorrelation heq
  · intro hkept
    have hidentity := (visible_identity_iff py context).mpr hkept
    unfold process_request
    dsimp only
    rw [compute_runtime_control_of_agree (visible_agree py context) hidentity]
    rfl

end

/-- A session that is known by its correlation id only. -/
theorem correlation_id_not_registered :
    process_request Interpreter.ascii (.ofList []) .init
        ((⟨[("X-Correlation-ID", "session")], "request-1", 1000, 64⟩ :
          RequestProcessingContext).visible Interpreter.ascii) ≠
      process_request Interpreter.ascii (.ofList []) .init
        ⟨[("X-Correlation-ID", "session")], "request-1", 1000, 64⟩ :=
  process_request_visible_ne _ _ _ _ (by decide) (by decide)

end vllm_kv_materialization.plugin
