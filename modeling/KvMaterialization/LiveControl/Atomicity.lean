import KvMaterialization.LiveControl.Overflow

open python

namespace vllm_kv_materialization.live_control

section

variable {F : Type} [PyFloat F] (py : Interpreter F) (env : Environment) (session : Session)
  (headers : Headers) (request_id : String) (prompt_tokens output_tokens : ℤ)

/-- A call that raises leaves the session as it was, and so whatever request comes
next is answered as if the failed one had not arrived. -/
def LeavesNoTrace : Prop :=
  ∀ error,
    (compute_runtime_control py env session headers request_id prompt_tokens output_tokens).1 =
      .error error →
    (compute_runtime_control py env session headers request_id prompt_tokens output_tokens).2 =
        session ∧
      ∀ (env' : Environment) (headers' : Headers) (request_id' : String)
        (prompt_tokens' output_tokens' : ℤ),
        compute_runtime_control py env'
            (compute_runtime_control py env session headers request_id prompt_tokens
              output_tokens).2 headers' request_id' prompt_tokens' output_tokens' =
          compute_runtime_control py env' session headers' request_id' prompt_tokens' output_tokens'

variable {py env session headers request_id prompt_tokens output_tokens}

/-- Nothing is undone when a call raises, so it leaves no trace only if it wrote
nothing or does not raise. -/
theorem leavesNoTrace_iff :
    LeavesNoTrace py env session headers request_id prompt_tokens output_tokens ↔
      primary_anchor_id headers = "" ∨
        Returns (compute_runtime_control py env session headers request_id prompt_tokens
          output_tokens).1 := by
  constructor
  · intro htraceless
    by_cases hidentity : primary_anchor_id headers = ""
    · exact .inl hidentity
    right
    by_contra hraises
    obtain ⟨error, herror⟩ := not_returns_iff.mp hraises
    obtain ⟨hsession, _⟩ := htraceless error herror
    rw [compute_runtime_control_session] at hsession
    exact estimate_signals_session_ne session prompt_tokens output_tokens hidentity hsession
  · rintro hcase error herror
    cases hcase with
    | inl hanonymous =>
      have hsession : (compute_runtime_control py env session headers request_id prompt_tokens
          output_tokens).2 = session := by
        rw [compute_runtime_control_session]
        exact estimate_signals_session_of_anonymous session prompt_tokens output_tokens hanonymous
      refine ⟨hsession, ?_⟩
      intro env' headers' request_id' prompt_tokens' output_tokens'
      rw [hsession]
    | inr hreturns => exact absurd ⟨error, herror⟩ (not_not.mpr hreturns ∘ not_returns_iff.mpr)

end

/-- In binary64 arithmetic a failed call leaves no trace exactly where it has no
session to write to or cannot fail. -/
theorem failed_control_leaves_no_trace_iff (py : Interpreter Binary64) (env : Environment)
    (session : Session) (headers : Headers) (request_id : String) (prompt_tokens output_tokens : ℤ) :
    LeavesNoTrace py env session headers request_id prompt_tokens output_tokens ↔
      primary_anchor_id headers = "" ∨
        (ValidPolicyMode py env ∧
          InRange py env headers (read_session session (primary_anchor_id headers)).1
            prompt_tokens) := by
  rw [leavesNoTrace_iff, compute_runtime_control_returns_iff]

/-- A mode the controller does not know raises after the request became the
history of its anchor. -/
theorem unknown_mode_leaves_trace :
    (compute_runtime_control (Interpreter.ascii.reading Binary64.ofRat)
        (.ofList [("VLLM_KV_POLICY_MODE", "adaptive")]) .init
        (bind_request_headers asciiLower [("X-KV-Primary-Anchor-Id", "session")]) "request-1" 1400
        64).2.session_history.get? "session" = some (1400, 64, 0) ∧
      ¬ LeavesNoTrace (Interpreter.ascii.reading Binary64.ofRat)
        (.ofList [("VLLM_KV_POLICY_MODE", "adaptive")]) .init
        (bind_request_headers asciiLower [("X-KV-Primary-Anchor-Id", "session")]) "request-1" 1400
        64 := by
  refine ⟨by decide +kernel, ?_⟩
  intro htraceless
  have hraises : (compute_runtime_control (Interpreter.ascii.reading Binary64.ofRat)
      (.ofList [("VLLM_KV_POLICY_MODE", "adaptive")]) .init
      (bind_request_headers asciiLower [("X-KV-Primary-Anchor-Id", "session")]) "request-1" 1400
      64).1.toOption.isSome = false := by decide +kernel
  cases leavesNoTrace_iff.mp htraceless with
  | inl hanonymous => exact absurd hanonymous (by decide)
  | inr hreturns =>
    obtain ⟨returned, hreturned⟩ := hreturns
    rw [hreturned] at hraises
    cases hraises

end vllm_kv_materialization.live_control
