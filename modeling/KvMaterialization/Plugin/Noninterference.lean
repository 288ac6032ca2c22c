import KvMaterialization.Locality
import KvMaterialization.Plugin.RequestProcessing

open python machine
open vllm_kv_materialization.live_control

namespace vllm_kv_materialization.plugin

/-- A call of a sequential run: the controller under the headers bound to the
request, or the hook, which binds those of its context. -/
inductive ControlCall where
  | compute_runtime_control (headers : Headers) (request_id : String) (prompt_tokens output_tokens : ℤ)
  | process_request (context : RequestProcessingContext)

/-- What a call gives away: the observation and the plan, which the hook logs and
encodes, and the metadata the hook returns. -/
structure ControlReply (F : Type) where
  controlled : Except Exception (LiveObservation F × RuntimeControlPlan)
  extra_args : Option (Except Exception (Dict String RuntimeControlPayload))

section

variable {F : Type} [PyFloat F] (py : Interpreter F) (env : Environment)

def controlStep (session : Session) : ControlCall → ControlReply F × Session
  | .compute_runtime_control headers request_id prompt_tokens output_tokens =>
    let (controlled, session) :=
      compute_runtime_control py env session headers request_id prompt_tokens output_tokens
    (⟨controlled, none⟩, session)
  | .process_request context =>
    let (controlled, _) := compute_runtime_control py env session
      (bind_request_headers py.lower context.headers) context.request_id context.prompt_tokens
      context.max_tokens
    let (extra_args, session) := process_request py env session context
    (⟨controlled, some extra_args⟩, session)

omit [PyFloat F] in
/-- The session a call belongs to, empty for none. -/
def ControlCall.identity : ControlCall → Option String
  | .compute_runtime_control headers _ _ _ => some (primary_anchor_id headers)
  | .process_request context => some (primary_anchor_id (bind_request_headers py.lower context.headers))

end

/-- What the two global maps hold for an anchor. -/
def entries (session : Session) (anchor : String) : Option ℤ × Option (ℤ × ℤ × ℤ) :=
  (session.anchor_seen_counts.get? anchor, session.session_history.get? anchor)

section

variable {session session' : Session} {anchor : String}

/-- A request reads the entries of its own anchor. -/
theorem read_session_of_entries (hentries : entries session anchor = entries session' anchor) :
    (read_session session anchor).1 = (read_session session' anchor).1 := by
  have hcount : session.anchor_seen_counts.get? anchor = session'.anchor_seen_counts.get? anchor :=
    congrArg Prod.fst hentries
  have hhistory : session.session_history.get? anchor = session'.session_history.get? anchor :=
    congrArg Prod.snd hentries
  unfold read_session
  split
  · rfl
  · dsimp only
    rw [hcount, hhistory]

theorem read_session_entries (hentries : entries session anchor = entries session' anchor) :
    entries (read_session session anchor).2 anchor = entries (read_session session' anchor).2 anchor := by
  have hcount : session.anchor_seen_counts.get? anchor = session'.anchor_seen_counts.get? anchor :=
    congrArg Prod.fst hentries
  have hhistory : session.session_history.get? anchor = session'.session_history.get? anchor :=
    congrArg Prod.snd hentries
  unfold read_session
  split
  · exact hentries
  · unfold entries
    dsimp only
    rw [Dict.get?_set_self, Dict.get?_set_self, hcount, hhistory]

theorem write_session_entries (hentries : entries session anchor = entries session' anchor)
    (prompt_tokens output_tokens turn_index : ℤ) :
    entries (write_session session anchor prompt_tokens output_tokens turn_index) anchor =
      entries (write_session session' anchor prompt_tokens output_tokens turn_index) anchor := by
  have hcount : session.anchor_seen_counts.get? anchor = session'.anchor_seen_counts.get? anchor :=
    congrArg Prod.fst hentries
  unfold write_session
  split
  · exact hentries
  · unfold entries
    dsimp only
    rw [Dict.get?_set_self, Dict.get?_set_self, hcount]

theorem read_session_entries_of_ne {other : String} (hne : anchor ≠ other) (session : Session) :
    entries (read_session session anchor).2 other = entries session other := by
  unfold read_session
  split
  · rfl
  · unfold entries
    dsimp only
    rw [Dict.get?_set_of_ne _ _ hne.symm]

theorem write_session_entries_of_ne {other : String} (hne : anchor ≠ other) (session : Session)
    (prompt_tokens output_tokens turn_index : ℤ) :
    entries (write_session session anchor prompt_tokens output_tokens turn_index) other =
      entries session other := by
  unfold write_session
  split
  · rfl
  · unfold entries
    dsimp only
    rw [Dict.get?_set_of_ne _ _ hne.symm]

variable {F : Type} [PyFloat F] {py : Interpreter F} {env : Environment} {headers : Headers}

theorem finish_session_entries (read : SessionRead) (prompt_tokens output_tokens : ℤ)
    (hentries : entries session (primary_anchor_id headers) =
      entries session' (primary_anchor_id headers)) :
    entries (finish_session py session headers read prompt_tokens output_tokens).2
        (primary_anchor_id headers) =
      entries (finish_session py session' headers read prompt_tokens output_tokens).2
        (primary_anchor_id headers) := by
  cases hestimate : estimate_reusable_prefix_tokens py headers prompt_tokens read.previous_prompt_tokens
      read.previous_output_tokens with
  | error error =>
    rw [finish_session_of_error hestimate, finish_session_of_error hestimate]
    exact hentries
  | ok reusable_prefix_tokens =>
    rw [finish_session_of_ok hestimate, finish_session_of_ok hestimate]
    dsimp only
    exact write_session_entries hentries _ _ _

theorem finish_session_entries_of_ne {other : String} (hne : primary_anchor_id headers ≠ other)
    (session : Session) (read : SessionRead) (prompt_tokens output_tokens : ℤ) :
    entries (finish_session py session headers read prompt_tokens output_tokens).2 other =
      entries session other := by
  cases hestimate : estimate_reusable_prefix_tokens py headers prompt_tokens read.previous_prompt_tokens
      read.previous_output_tokens with
  | error error => rw [finish_session_of_error hestimate]
  | ok reusable_prefix_tokens =>
    rw [finish_session_of_ok hestimate]
    dsimp only
    exact write_session_entries_of_ne hne session _ _ _

variable (py env) in
/-- A call answers and writes according to the entries of its own anchor. -/
theorem compute_runtime_control_of_entries (request_id : String) (prompt_tokens output_tokens : ℤ)
    (hentries : entries session (primary_anchor_id headers) =
      entries session' (primary_anchor_id headers)) :
    (compute_runtime_control py env session headers request_id prompt_tokens output_tokens).1 =
        (compute_runtime_control py env session' headers request_id prompt_tokens output_tokens).1 ∧
      entries (compute_runtime_control py env session headers request_id prompt_tokens
          output_tokens).2 (primary_anchor_id headers) =
        entries (compute_runtime_control py env session' headers request_id prompt_tokens
          output_tokens).2 (primary_anchor_id headers) := by
  have hread := read_session_of_entries hentries
  have hresult : (estimate_signals py env session headers prompt_tokens output_tokens).1 =
      (estimate_signals py env session' headers prompt_tokens output_tokens).1 := by
    rw [estimate_signals_result, estimate_signals_result, hread]
  refine ⟨?_, ?_⟩
  · unfold compute_runtime_control
    dsimp only
    rw [hresult]
  · rw [compute_runtime_control_session, compute_runtime_control_session]
    unfold estimate_signals
    dsimp only
    rw [hread]
    exact finish_session_entries _ _ _ (read_session_entries hentries)

/-- It leaves the entries of every other anchor alone. -/
theorem compute_runtime_control_entries_of_ne {other : String}
    (hne : primary_anchor_id headers ≠ other) (session : Session) (request_id : String)
    (prompt_tokens output_tokens : ℤ) :
    entries (compute_runtime_control py env session headers request_id prompt_tokens output_tokens).2
      other = entries session other := by
  rw [compute_runtime_control_session]
  unfold estimate_signals
  dsimp only
  rw [finish_session_entries_of_ne hne, read_session_entries_of_ne hne]

end

section

variable {F : Type} [PyFloat F] (py : Interpreter F) (env : Environment)

variable {env} in
theorem controlStep_of_entries {session session' : Session} (call : ControlCall) {anchor : String}
    (hidentity : call.identity py = some anchor)
    (hentries : entries session anchor = entries session' anchor) :
    (controlStep py env session call).1 = (controlStep py env session' call).1 ∧
      entries (controlStep py env session call).2 anchor =
        entries (controlStep py env session' call).2 anchor := by
  cases call with
  | compute_runtime_control headers request_id prompt_tokens output_tokens =>
    have hanchor : primary_anchor_id headers = anchor := Option.some.inj hidentity
    subst hanchor
    obtain ⟨hreply, hupdate⟩ := compute_runtime_control_of_entries py env request_id
      prompt_tokens output_tokens hentries
    unfold controlStep
    dsimp only
    exact ⟨by rw [hreply], hupdate⟩
  | process_request context =>
    have hanchor : primary_anchor_id (bind_request_headers py.lower context.headers) = anchor :=
      Option.some.inj hidentity
    subst hanchor
    obtain ⟨hreply, hupdate⟩ := compute_runtime_control_of_entries py env
      context.request_id context.prompt_tokens context.max_tokens hentries
    unfold controlStep process_request
    dsimp only
    exact ⟨by rw [hreply], hupdate⟩

theorem controlStep_entries_of_ne (session : Session) (call : ControlCall) (other : String)
    (hidentity : call.identity py ≠ some other) :
    entries (controlStep py env session call).2 other = entries session other := by
  cases call with
  | compute_runtime_control headers request_id prompt_tokens output_tokens =>
    have hne : primary_anchor_id headers ≠ other := fun heq => hidentity (congrArg some heq)
    unfold controlStep
    dsimp only
    exact compute_runtime_control_entries_of_ne hne session request_id prompt_tokens output_tokens
  | process_request context =>
    have hne : primary_anchor_id (bind_request_headers py.lower context.headers) ≠ other :=
      fun heq => hidentity (congrArg some heq)
    unfold controlStep process_request
    dsimp only
    exact compute_runtime_control_entries_of_ne hne session context.request_id context.prompt_tokens
      context.max_tokens

theorem control_local : Local (controlStep py env) (ControlCall.identity py) entries where
  reply _ _ call _ hidentity hentries := (controlStep_of_entries py call hidentity hentries).1
  update _ _ call _ hidentity hentries := (controlStep_of_entries py call hidentity hentries).2
  frame := controlStep_entries_of_ne py env

/-- Two sequential runs with the same requests of one anchor give those requests
the same plans and observations, whatever requests come between them. -/
theorem anchor_noninterference (session : Session) (anchor : String) {calls calls' : List ControlCall}
    (hcalls : calls.filter (fun call => call.identity py = some anchor) =
      calls'.filter (fun call => call.identity py = some anchor)) :
    repliesAt (ControlCall.identity py) anchor (trace (controlStep py env) session calls) =
      repliesAt (ControlCall.identity py) anchor (trace (controlStep py env) session calls') :=
  (control_local py env).noninterference rfl hcalls

end

/-- A request of another session and one of none, put before and between. -/
theorem anchor_noninterference_interleaved :
    repliesAt (ControlCall.identity Interpreter.ascii) "session-a"
        (trace (controlStep Interpreter.ascii (.ofList [])) .init
          [.process_request ⟨[("X-KV-Primary-Anchor-Id", " session-a")], "request-1", 512, 64⟩,
            .process_request ⟨[("X-KV-Primary-Anchor-Id", "session-a")], "request-2", 640, 64⟩]) =
      repliesAt (ControlCall.identity Interpreter.ascii) "session-a"
        (trace (controlStep Interpreter.ascii (.ofList [])) .init
          [.compute_runtime_control (.ofList [("x-correlation-id", "session-b")]) "request-0" 256 16,
            .process_request ⟨[("X-KV-Primary-Anchor-Id", " session-a")], "request-1", 512, 64⟩,
            .process_request ⟨[], "request-3", 128, 16⟩,
            .process_request ⟨[("X-KV-Primary-Anchor-Id", "session-a")], "request-2", 640, 64⟩]) :=
  anchor_noninterference Interpreter.ascii (.ofList []) .init "session-a" (by rfl)

end vllm_kv_materialization.plugin
