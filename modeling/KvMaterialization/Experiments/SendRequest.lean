import KvMaterialization.Experiments.Attribution

open python

namespace run_openai_workloads

abbrev Bytes := List UInt8

/-- What the client takes from the library: `bytes.decode` of UTF-8 with replacement,
`json.loads`, `str`, `int` of a text, and `json.dumps` with sorted keys. -/
structure Runtime where
  decode : Bytes → String
  loads : String → Except Exception (Json Binary64)
  str : Json Binary64 → String
  int : String → Except Exception ℤ
  dumps : Json Binary64 → String

/-- What `urlopen` comes to: an `HTTPError` with the reading of its body, a `URLError` with
its text, any other exception before there is a response, or a response, with the lines
that come of it and the exception that ends them if they do not just end. -/
inductive Reply where
  | http_error (code : ℤ) (body : Except Exception Bytes)
  | url_error (text : String)
  | connection_error (error : Exception)
  | response (status : ℤ) (lines : List Bytes) (ending : Option Exception)

structure Request where
  url : String
  data : Json Binary64
  headers : Dict String String

/-- The readings of the clocks, each of which is taken at most once. -/
structure Clock where
  ttft_s : Elapsed
  latency_s : Elapsed
  started_at_utc : String
  finished_at_utc : String

/-- `text.lstrip("/")` -/
def lstrip (text : String) : String := String.ofList (text.toList.dropWhile (· = '/'))

/-- `text.rstrip("/")` -/
def rstrip (text : String) : String := String.ofList (text.toList.rdropWhile (· = '/'))

def build_api_url (base_url path : String) : String :=
  let normalized := rstrip base_url
  if "/v1".toList.isSuffixOf normalized.toList then normalized ++ "/" ++ lstrip path
  else normalized ++ "/v1/" ++ lstrip path

/-- A header that is left out where its value is missing or empty. -/
def optional_header (name : String) (value : String → String) : Option String → List (String × String)
  | some text => if text = "" then [] else [(name, value text)]
  | none => []

def build_headers (api_key user_agent : Option String) : List (String × String) :=
  ("Content-Type", "application/json") :: optional_header "Authorization" ("Bearer " ++ ·) api_key ++
    optional_header "User-Agent" id user_agent

/-- The request of `send_request`; `print` is `str` of a float. -/
def completion_request (print : Binary64 → String) (base_url model : String)
    (workload_request : shared_workloads.SharedLiveRequest Binary64) (api_key user_agent : Option String) :
    Request where
  url := build_api_url base_url "chat/completions"
  data := .dict [
    ("model", .str model),
    ("request_id", .str workload_request.request_id),
    ("messages", .list [.dict [("role", .str "user"), ("content", .str workload_request.prompt)]]),
    ("max_tokens", .int workload_request.output_tokens),
    ("temperature", .float (lit 0)),
    ("stream", .bool true),
    ("stream_options", .dict [("include_usage", .bool true)])]
  headers := .ofList (build_headers api_key user_agent ++
    build_workload_headers print workload_request.toSharedLiveRequest)

/-- What has been read of a stream. -/
structure Stream where
  raw_events : List (Json Binary64)
  generated_parts : List String
  ttft_s : Option Elapsed
  response_id : Option String
  finish_reason : Option String
  prompt_tokens_actual : Option ℤ
  completion_tokens_actual : Option ℤ

def Stream.empty : Stream := ⟨[], [], none, none, none, none, none⟩

/-- `value or default` -/
def orElse (value default : Json Binary64) : Json Binary64 := if value.truthy then value else default

/-- `count or default`, of counts that may be missing. -/
def orCount (count default : Option ℤ) : Option ℤ := if count = none ∨ count = some 0 then default else count

section

variable (runtime : Runtime) (clock : Clock)

/-- `int(value)` -/
def Runtime.toInt : Json Binary64 → Except Exception ℤ
  | .str text => runtime.int text
  | value =>
    match value.number? with
    | some number => number.toInt
    | none => .error .type_error

def usage_value (event : Json Binary64) (name : String) : Except Exception (Option ℤ) := do
  match ← event.get "usage" with
  | .dict usage =>
    match (Json.find usage name).getD .null with
    | .null => return none
    | value => return some (← runtime.toInt value)
  | _ => return none

/-- `str(id or response_id or "") or None` -/
def next_response_id (id : Json Binary64) (response_id : Option String) : Option String :=
  let text := if id.truthy then runtime.str id else response_id.getD ""
  if text = "" then none else some text

def Stream.add_content (self : Stream) (content : Json Binary64) : Stream :=
  if content.truthy then
    { self with
      ttft_s := some (self.ttft_s.getD clock.ttft_s)
      generated_parts := self.generated_parts ++ [runtime.str content] }
  else self

def Stream.add_finish_reason (self : Stream) (finish_reason : Json Binary64) : Stream :=
  if finish_reason.isNull then self else { self with finish_reason := some (runtime.str finish_reason) }

/-- The body of the loop over the choices of an event. -/
def read_choice (stream : Stream) (choice : Json Binary64) : Except Exception Stream := do
  let delta := orElse (← choice.get "delta") (.dict [])
  let stream := stream.add_content runtime clock (← delta.get "content")
  return stream.add_finish_reason runtime (← choice.get "finish_reason")

def read_event (stream : Stream) (event : Json Binary64) : Except Exception Stream := do
  let response_id := next_response_id runtime (← event.get "id") stream.response_id
  let choices ← (orElse (← event.get "choices") (.list [])).iterate
  let stream := { stream with raw_events := stream.raw_events ++ [event], response_id := response_id }
  let stream ← choices.foldlM (read_choice runtime clock) stream
  let prompt_tokens ← usage_value runtime event "prompt_tokens"
  let completion_tokens ← usage_value runtime event "completion_tokens"
  return { stream with
    prompt_tokens_actual := orCount prompt_tokens stream.prompt_tokens_actual
    completion_tokens_actual := orCount completion_tokens stream.completion_tokens_actual }

/-- The data of a line, if it has any. -/
def line_data (raw_line : Bytes) : Option String :=
  let line := strip (runtime.decode raw_line)
  if line = "" || !"data:".toList.isPrefixOf line.toList then none
  else some (strip (String.ofList (line.toList.drop 5)))

/-- The loop over the lines of a response. -/
def read_lines (ending : Option Exception) (stream : Stream) : List Bytes → Except Exception Stream
  | [] =>
    match ending with
    | none => .ok stream
    | some error => .error error
  | raw_line :: rest =>
    match line_data runtime raw_line with
    | none => read_lines ending stream rest
    | some data =>
      if data = "[DONE]" then .ok stream
      else do
        let event ← runtime.loads data
        let stream ← read_event runtime clock stream event
        read_lines ending stream rest

section

variable (workload_request : shared_workloads.SharedLiveRequest Binary64)

def stream_result (status : ℤ) (stream : Stream) : RequestResult where
  request_id := workload_request.request_id
  workload_case := workload_request.workload_case
  workload_family := workload_request.workload_family
  latency_s := clock.latency_s
  ttft_s := stream.ttft_s
  ok := true
  http_status := some status
  prompt_tokens_est := workload_request.prompt_tokens
  completion_tokens_target := workload_request.output_tokens
  prompt_tokens_actual := stream.prompt_tokens_actual
  completion_tokens_actual := stream.completion_tokens_actual
  started_at_utc := clock.started_at_utc
  finished_at_utc := clock.finished_at_utc
  response_id := stream.response_id
  finish_reason := stream.finish_reason
  generated_text := String.join stream.generated_parts
  raw_events := stream.raw_events
  error := none
  no_events hok := absurd hok (by decide)

theorem no_failed_events : false = false → ([] : List (Json Binary64)) = [] := fun _ => rfl

def error_result (http_status : Option ℤ) (error : String) : RequestResult where
  request_id := workload_request.request_id
  workload_case := workload_request.workload_case
  workload_family := workload_request.workload_family
  latency_s := clock.latency_s
  ttft_s := none
  ok := false
  http_status := http_status
  prompt_tokens_est := workload_request.prompt_tokens
  completion_tokens_target := workload_request.output_tokens
  prompt_tokens_actual := none
  completion_tokens_actual := none
  started_at_utc := clock.started_at_utc
  finished_at_utc := clock.finished_at_utc
  response_id := none
  finish_reason := none
  generated_text := ""
  raw_events := []
  error := some error
  no_events := no_failed_events

/-- What a request comes to before its result is appended. -/
def result_of_reply : Reply → Except Exception RequestResult
  | .response status lines ending => do
    return stream_result clock workload_request status (← read_lines runtime clock ending .empty lines)
  | .http_error code body => do
    let message := runtime.decode (← body)
    return error_result clock workload_request (some code) (String.ofList (message.toList.take 240))
  | .url_error text => .ok (error_result clock workload_request none text)
  | .connection_error error => .error error

end

/-- The text of the file with one more line, if there is a file. -/
def append_result (output : Option String) (result : RequestResult) : Option String :=
  output.map fun text => text ++ runtime.dumps (asdict result) ++ "\n"

/-- The result, and the text of the file of results, which only a result changes. -/
def send_request (urlopen : Request → Reply) (print : Binary64 → String) (base_url model : String)
    (workload_request : shared_workloads.SharedLiveRequest Binary64) (api_key user_agent : Option String)
    (requests_output : Option String) : Except Exception RequestResult × Option String :=
  let request := completion_request print base_url model workload_request api_key user_agent
  match result_of_reply runtime clock workload_request (urlopen request) with
  | .ok result => (.ok result, append_result runtime requests_output result)
  | .error error => (.error error, requests_output)

/-- A request of the workload, with the times and the reply it meets with. -/
structure Exchange where
  workload_request : shared_workloads.SharedLiveRequest Binary64
  clock : Clock
  urlopen : Request → Reply

def Exchange.reply (self : Exchange) (print : Binary64 → String) (base_url model : String)
    (api_key user_agent : Option String) : Reply :=
  self.urlopen (completion_request print base_url model self.workload_request api_key user_agent)

/-- The requests of `main`, in the order in which their rows are written: all of them are sent,
and `future.result()` then raises what one of them has raised. -/
def send_requests (print : Binary64 → String) (base_url model : String)
    (api_key user_agent requests_output : Option String) :
    List Exchange → Except Exception (List RequestResult) × Option String
  | [] => (.ok [], requests_output)
  | exchange :: rest =>
    let sent := send_request runtime exchange.clock exchange.urlopen print base_url model exchange.workload_request
      api_key user_agent requests_output
    let others := send_requests print base_url model api_key user_agent sent.2 rest
    (do return (← sent.1) :: (← others.1), others.2)

end

/-- The entry of an object, null where it is missing. -/
def field (entries : List (String × Json Binary64)) (key : String) : Json Binary64 :=
  (Json.find entries key).getD .null

def IsObject (value : Json Binary64) : Prop := ∃ entries, value = .dict entries

/-- A choice is an object, and so is its delta if there is anything to it. -/
def ValidChoice (choice : Json Binary64) : Prop :=
  ∃ entries, choice = .dict entries ∧ ((field entries "delta").truthy = true → IsObject (field entries "delta"))

/-- An event is an object whose choices, if there are any, are a list of such, and whose
usage, if it is an object, counts its tokens in what `int` takes. -/
def ValidEvent (runtime : Runtime) (event : Json Binary64) : Prop :=
  ∃ entries, event = .dict entries ∧
    ((field entries "choices").truthy = true →
      ∃ choices, field entries "choices" = .list choices ∧ ∀ choice ∈ choices, ValidChoice choice) ∧
    ∀ usage, field entries "usage" = .dict usage → ∀ name ∈ ["prompt_tokens", "completion_tokens"],
      field usage name = .null ∨ Returns (runtime.toInt (field usage name))

/-- A line is no data, or the data of an event. -/
def ValidLine (runtime : Runtime) (line : Bytes) : Prop :=
  ∀ data, line_data runtime line = some data →
    data ≠ "[DONE]" ∧ ∃ event, runtime.loads data = .ok event ∧ ValidEvent runtime event

/-- The stream failed or ended without its end marker, or was malformed before it. -/
inductive Broken (runtime : Runtime) (lines : List Bytes) : Prop where
  | unfinished (hlines : ∀ line ∈ lines, line_data runtime line ≠ some "[DONE]")
  | malformed (before after : List Bytes) (line : Bytes) (hlines : lines = before ++ line :: after)
    (hbefore : ∀ earlier ∈ before, line_data runtime earlier ≠ some "[DONE]")
    (hline : line_data runtime line ≠ some "[DONE]") (hinvalid : ¬ ValidLine runtime line)

/-- The end marker is there, and every line before it is valid. -/
def Complete (runtime : Runtime) (lines : List Bytes) : Prop :=
  ∃ before line after, lines = before ++ line :: after ∧ line_data runtime line = some "[DONE]" ∧
    ∀ earlier ∈ before, ValidLine runtime earlier

/-- Anything but a response whose stream is complete has to be reported. -/
def Failed (runtime : Runtime) : Reply → Prop
  | .response _ lines _ => Broken runtime lines
  | .http_error _ _ => True
  | .url_error _ => True
  | .connection_error _ => True

/-- What the two `except` clauses and the loop can take. -/
def Handled (runtime : Runtime) : Reply → Prop
  | .response _ lines _ => Complete runtime lines
  | .http_error _ body => Returns body
  | .url_error _ => True
  | .connection_error _ => False

section

variable {runtime : Runtime} {clock : Clock}

theorem get_dict (entries : List (String × Json Binary64)) (key : String) :
    (Json.dict entries).get key = .ok (field entries key) := rfl

theorem get_returns_iff (value : Json Binary64) (key : String) : Returns (value.get key) ↔ IsObject value := by
  constructor
  · rintro ⟨entry, hentry⟩
    cases value with
    | dict entries => exact ⟨entries, rfl⟩
    | null => cases hentry
    | bool b => cases hentry
    | int n => cases hentry
    | float x => cases hentry
    | str s => cases hentry
    | list items => cases hentry
  · rintro ⟨entries, rfl⟩
    exact returns_ok _

theorem orElse_object_iff (value : Json Binary64) :
    IsObject (orElse value (.dict [])) ↔ (value.truthy = true → IsObject value) := by
  unfold orElse
  split
  · rename_i htruthy
    exact ⟨fun h _ => h, fun h => h htruthy⟩
  · rename_i htruthy
    exact iff_of_true ⟨[], rfl⟩ (fun h => absurd h htruthy)

theorem read_choice_returns_iff (stream : Stream) (choice : Json Binary64) :
    Returns (read_choice runtime clock stream choice) ↔ ValidChoice choice := by
  unfold read_choice
  rw [returns_bind_iff]
  constructor
  · rintro ⟨delta, hdelta, hrest⟩
    obtain ⟨entries, rfl⟩ := (get_returns_iff _ _).mp ⟨delta, hdelta⟩
    rw [get_dict, Except.ok.injEq] at hdelta
    subst hdelta
    obtain ⟨content, hcontent, _⟩ := returns_bind_iff.mp hrest
    exact ⟨entries, rfl, (orElse_object_iff _).mp ((get_returns_iff _ _).mp ⟨content, hcontent⟩)⟩
  · rintro ⟨entries, rfl, hdelta⟩
    obtain ⟨delta, hdelta⟩ := (orElse_object_iff _).mpr hdelta
    refine ⟨_, get_dict entries "delta", ?_⟩
    rw [hdelta]
    exact returns_pure _

/-- The loop over what stands for the choices returns where they are a list of choices. -/
theorem choices_returns_iff (stream : Stream) (value : Json Binary64) :
    (∃ choices, (orElse value (.list [])).iterate = .ok choices ∧
      Returns (choices.foldlM (read_choice runtime clock) stream)) ↔
      (value.truthy = true → ∃ choices, value = .list choices ∧ ∀ choice ∈ choices, ValidChoice choice) := by
  simp only [returns_foldlM_iff read_choice_returns_iff]
  have htext : ∀ text : String, ¬ ValidChoice (.str text) := by
    rintro text ⟨entries, h, _⟩
    cases h
  unfold orElse
  split
  · rename_i htruthy
    simp only [htruthy, true_imp_iff]
    cases value with
    | list items =>
      simp only [Json.iterate, Except.ok.injEq, Json.list.injEq]
    | str text =>
      refine iff_of_false ?_ (by rintro ⟨choices, h, _⟩; cases h)
      rintro ⟨choices, hchoices, hvalid⟩
      cases hchoices
      have hnonempty : text.toList ≠ [] := by
        intro hnil
        rw [Json.truthy, String.toList_eq_nil_iff.mp hnil] at htruthy
        cases htruthy
      obtain ⟨c, hc⟩ := List.exists_mem_of_ne_nil _ hnonempty
      exact htext _ (hvalid _ (List.mem_map_of_mem hc))
    | dict entries =>
      refine iff_of_false ?_ (by rintro ⟨choices, h, _⟩; cases h)
      rintro ⟨choices, hchoices, hvalid⟩
      cases hchoices
      have hnonempty : entries ≠ [] := by
        rintro rfl
        cases htruthy
      obtain ⟨entry, hentry⟩ := List.exists_mem_of_ne_nil _ hnonempty
      exact htext _ (hvalid _ (List.mem_map_of_mem hentry))
    | null => simp [Json.iterate]
    | bool b => simp [Json.iterate]
    | int n => simp [Json.iterate]
    | float x => simp [Json.iterate]
  · rename_i htruthy
    refine iff_of_true ⟨[], rfl, fun choice hchoice => absurd hchoice List.not_mem_nil⟩ ?_
    exact fun h => absurd h htruthy

theorem usage_value_returns_iff (entries : List (String × Json Binary64)) (name : String) :
    Returns (usage_value runtime (.dict entries) name) ↔ ∀ usage, field entries "usage" = .dict usage →
      field usage name = .null ∨ Returns (runtime.toInt (field usage name)) := by
  unfold usage_value
  rw [get_dict]
  change Returns (match field entries "usage" with | .dict usage => _ | _ => _) ↔ _
  split
  · rename_i usage husage
    simp only [husage, Json.dict.injEq, forall_eq']
    change Returns (match field usage name with | .null => _ | _ => _) ↔ _
    split
    · rename_i hnull
      exact iff_of_true (returns_pure _) (.inl hnull)
    · rename_i hnull
      rw [returns_bind_iff]
      constructor
      · rintro ⟨count, hcount, _⟩
        exact .inr ⟨count, hcount⟩
      · rintro (hnull' | ⟨count, hcount⟩)
        · exact absurd hnull' hnull
        · exact ⟨count, hcount, returns_pure _⟩
  · rename_i husage
    exact iff_of_true (returns_pure _) (fun usage h => absurd h (husage usage))

theorem read_event_returns_iff (stream : Stream) (event : Json Binary64) :
    Returns (read_event runtime clock stream event) ↔ ValidEvent runtime event := by
  unfold read_event
  constructor
  · intro hreturns
    obtain ⟨id, hid, hreturns⟩ := returns_bind_iff.mp hreturns
    obtain ⟨entries, rfl⟩ := (get_returns_iff _ _).mp ⟨id, hid⟩
    obtain ⟨value, hvalue, hreturns⟩ := returns_bind_iff.mp hreturns
    rw [get_dict, Except.ok.injEq] at hvalue
    subst hvalue
    obtain ⟨choices, hchoices, hreturns⟩ := returns_bind_iff.mp hreturns
    obtain ⟨next, hnext, hreturns⟩ := returns_bind_iff.mp hreturns
    obtain ⟨prompt_tokens, hprompt, hreturns⟩ := returns_bind_iff.mp hreturns
    obtain ⟨completion_tokens, hcompletion, _⟩ := returns_bind_iff.mp hreturns
    refine ⟨entries, rfl, (choices_returns_iff _ _).mp ⟨choices, hchoices, next, hnext⟩, ?_⟩
    intro usage husage
    rw [List.forall_mem_cons, List.forall_mem_singleton]
    exact ⟨(usage_value_returns_iff _ _).mp ⟨_, hprompt⟩ usage husage,
      (usage_value_returns_iff _ _).mp ⟨_, hcompletion⟩ usage husage⟩
  · rintro ⟨entries, rfl, hchoices, husage⟩
    refine returns_bind_iff.mpr ⟨_, get_dict entries "id", ?_⟩
    refine returns_bind_iff.mpr ⟨_, get_dict entries "choices", ?_⟩
    obtain ⟨choices, hiterate, hreturns⟩ := (choices_returns_iff _ _).mpr hchoices
    refine returns_bind_iff.mpr ⟨choices, hiterate, hreturns.bind fun next _ => ?_⟩
    have hname : ∀ name ∈ ["prompt_tokens", "completion_tokens"],
        Returns (usage_value runtime (.dict entries) name) := fun name hname =>
      (usage_value_returns_iff entries name).mpr fun usage h => husage usage h name hname
    refine (hname "prompt_tokens" (by decide)).bind fun prompt_tokens _ => ?_
    refine (hname "completion_tokens" (by decide)).bind fun completion_tokens _ => ?_
    exact returns_pure _

theorem complete_cons_iff (line : Bytes) (rest : List Bytes) : Complete runtime (line :: rest) ↔
    line_data runtime line = some "[DONE]" ∨ (ValidLine runtime line ∧ Complete runtime rest) := by
  constructor
  · rintro ⟨before, done, after, hlines, hdone, hbefore⟩
    cases before with
    | nil =>
      obtain ⟨rfl, _⟩ := List.cons.inj hlines
      exact .inl hdone
    | cons first before =>
      obtain ⟨rfl, rfl⟩ := List.cons.inj hlines
      rw [List.forall_mem_cons] at hbefore
      exact .inr ⟨hbefore.1, before, done, after, rfl, hdone, hbefore.2⟩
  · rintro (hdone | ⟨hvalid, before, done, after, rfl, hdone, hbefore⟩)
    · exact ⟨[], line, rest, rfl, hdone, by simp⟩
    · exact ⟨line :: before, done, after, rfl, hdone, List.forall_mem_cons.mpr ⟨hvalid, hbefore⟩⟩

/-- The loop returns where it has come to the end marker, or to the end of what was valid. -/
theorem read_lines_returns_iff (ending : Option Exception) (stream : Stream) (lines : List Bytes) :
    Returns (read_lines runtime clock ending stream lines) ↔
      Complete runtime lines ∨ (ending = none ∧ ∀ line ∈ lines, ValidLine runtime line) := by
  induction lines generalizing stream with
  | nil =>
    have hcomplete : ¬ Complete runtime [] := by
      rintro ⟨before, line, after, hlines, _⟩
      simp at hlines
    cases ending with
    | none => simp [read_lines, returns_ok]
    | some error => simp [read_lines, Returns, hcomplete]
  | cons line rest ih =>
    rw [complete_cons_iff, List.forall_mem_cons]
    unfold read_lines
    split
    · rename_i hnone
      have hvalid : ValidLine runtime line := by
        intro data hdata
        rw [hnone] at hdata
        cases hdata
      simp only [ih, hnone, hvalid, reduceCtorEq, false_or, true_and]
    · rename_i data hdata
      split
      · rename_i hdone
        subst hdone
        exact iff_of_true (returns_ok stream) (.inl (.inl hdata))
      · rename_i hdone
        have hvalid : ValidLine runtime line ↔ ∃ event, runtime.loads data = .ok event ∧ ValidEvent runtime event := by
          simp only [ValidLine, hdata, Option.some.injEq, forall_eq', ne_eq, hdone, not_false_eq_true, true_and]
        simp only [returns_bind_iff, ih, hvalid, hdata, Option.some.injEq, hdone, false_or]
        constructor
        · rintro ⟨event, hevent, next, hnext, hrest⟩
          have hloaded : ∃ event, runtime.loads data = .ok event ∧ ValidEvent runtime event :=
            ⟨event, hevent, (read_event_returns_iff stream event).mp ⟨next, hnext⟩⟩
          exact hrest.imp (fun h => ⟨hloaded, h⟩) (fun h => ⟨h.1, hloaded, h.2⟩)
        · intro hrest
          have hloaded : ∃ event, runtime.loads data = .ok event ∧ ValidEvent runtime event :=
            hrest.elim (fun h => h.1) (fun h => h.2.1)
          obtain ⟨event, hevent, hshape⟩ := hloaded
          obtain ⟨next, hnext⟩ := (@read_event_returns_iff runtime clock stream event).mpr hshape
          exact ⟨event, hevent, next, hnext, hrest.imp (fun h => h.2) (fun h => ⟨h.1, h.2.2⟩)⟩

theorem broken_cons_iff (line : Bytes) (rest : List Bytes) : Broken runtime (line :: rest) ↔
    line_data runtime line ≠ some "[DONE]" ∧ (ValidLine runtime line → Broken runtime rest) := by
  constructor
  · intro hbroken
    cases hbroken with
    | unfinished hlines =>
      rw [List.forall_mem_cons] at hlines
      exact ⟨hlines.1, fun _ => .unfinished hlines.2⟩
    | malformed before after line' hlines hbefore hline hinvalid =>
      cases before with
      | nil =>
        obtain ⟨rfl, _⟩ := List.cons.inj hlines
        exact ⟨hline, fun hvalid => absurd hvalid hinvalid⟩
      | cons first before =>
        obtain ⟨rfl, rfl⟩ := List.cons.inj hlines
        rw [List.forall_mem_cons] at hbefore
        exact ⟨hbefore.1, fun _ => .malformed before after line' rfl hbefore.2 hline hinvalid⟩
  · rintro ⟨hline, hrest⟩
    by_cases hvalid : ValidLine runtime line
    · cases hrest hvalid with
      | unfinished hlines => exact .unfinished (List.forall_mem_cons.mpr ⟨hline, hlines⟩)
      | malformed before after line' hlines hbefore hline' hinvalid =>
        exact .malformed (line :: before) after line' (by rw [hlines]; rfl)
          (List.forall_mem_cons.mpr ⟨hline, hbefore⟩) hline' hinvalid
    · exact .malformed [] rest line rfl (by simp) hline hvalid

/-- A stream is either complete or broken. -/
theorem broken_iff (lines : List Bytes) : Broken runtime lines ↔ ¬ Complete runtime lines := by
  induction lines with
  | nil =>
    refine iff_of_true (.unfinished (by simp)) ?_
    rintro ⟨before, line, after, hlines, _⟩
    simp at hlines
  | cons line rest ih => rw [broken_cons_iff, complete_cons_iff, ih, not_or, not_and]

/-- There is one result: it is returned and its row, and nothing else, is appended; and it
says so where the reply has failed. -/
def Recorded (runtime : Runtime) (sent : Except Exception RequestResult × Option String)
    (requests_output : Option String) (reply : Reply) : Prop :=
  ∃ result, sent = (.ok result, append_result runtime requests_output result) ∧
    (Failed runtime reply → result.ok = false)

section

variable {workload_request : shared_workloads.SharedLiveRequest Binary64}

theorem stream_result_recorded (status : ℤ) (lines : List Bytes) (ending : Option Exception) :
    (∃ result, result_of_reply runtime clock workload_request (.response status lines ending) = .ok result ∧
      (Broken runtime lines → result.ok = false)) ↔ Complete runtime lines := by
  have hok : ∀ result, result_of_reply runtime clock workload_request (.response status lines ending) = .ok result →
      result.ok = true := by
    intro result hresult
    obtain ⟨stream, _, hresult⟩ := bind_eq_ok_iff.mp hresult
    rw [pure_eq_ok_iff] at hresult
    rw [← hresult]
    rfl
  constructor
  · rintro ⟨result, hresult, hbroken⟩
    by_contra hcomplete
    have hfailed := hbroken ((broken_iff lines).mpr hcomplete)
    rw [hok result hresult] at hfailed
    cases hfailed
  · intro hcomplete
    obtain ⟨stream, hstream⟩ := (@read_lines_returns_iff runtime clock ending .empty lines).mpr (.inl hcomplete)
    refine ⟨stream_result clock workload_request status stream, bind_eq_ok_iff.mpr ⟨stream, hstream, rfl⟩, ?_⟩
    exact fun hbroken => absurd hcomplete ((broken_iff lines).mp hbroken)

theorem result_recorded_iff (reply : Reply) :
    (∃ result, result_of_reply runtime clock workload_request reply = .ok result ∧
      (Failed runtime reply → result.ok = false)) ↔ Handled runtime reply := by
  cases reply with
  | response status lines ending => exact stream_result_recorded status lines ending
  | http_error code body =>
    constructor
    · rintro ⟨result, hresult, _⟩
      obtain ⟨raw, hraw, _⟩ := bind_eq_ok_iff.mp hresult
      exact ⟨raw, hraw⟩
    · rintro ⟨raw, rfl⟩
      exact ⟨_, rfl, fun _ => rfl⟩
  | url_error text => exact iff_of_true ⟨_, rfl, fun _ => rfl⟩ trivial
  | connection_error error =>
    refine iff_of_false ?_ id
    rintro ⟨result, hresult, _⟩
    cases hresult

theorem result_request_id {reply : Reply} {result : RequestResult}
    (hresult : result_of_reply runtime clock workload_request reply = .ok result) :
    result.request_id = workload_request.request_id := by
  cases reply with
  | response status lines ending =>
    obtain ⟨stream, _, hresult⟩ := bind_eq_ok_iff.mp hresult
    rw [pure_eq_ok_iff] at hresult
    rw [← hresult]
    rfl
  | http_error code body =>
    obtain ⟨raw, _, hresult⟩ := bind_eq_ok_iff.mp hresult
    rw [pure_eq_ok_iff] at hresult
    rw [← hresult]
    rfl
  | url_error text =>
    cases hresult
    rfl
  | connection_error error => cases hresult

theorem send_request_ok_iff (urlopen : Request → Reply) (print : Binary64 → String) (base_url model : String)
    (api_key user_agent requests_output : Option String) (result : RequestResult) :
    (send_request runtime clock urlopen print base_url model workload_request api_key user_agent
        requests_output).1 = .ok result ↔
      result_of_reply runtime clock workload_request
        (urlopen (completion_request print base_url model workload_request api_key user_agent)) = .ok result := by
  unfold send_request
  dsimp only
  split
  · rename_i returned hreturned
    rw [hreturned]
  · rename_i error herror
    rw [herror]

theorem send_request_output {urlopen : Request → Reply} {print : Binary64 → String} {base_url model : String}
    {api_key user_agent requests_output : Option String} {result : RequestResult}
    (hsent : (send_request runtime clock urlopen print base_url model workload_request api_key user_agent
      requests_output).1 = .ok result) :
    (send_request runtime clock urlopen print base_url model workload_request api_key user_agent
      requests_output).2 = append_result runtime requests_output result := by
  rw [send_request_ok_iff] at hsent
  unfold send_request
  dsimp only
  rw [hsent]

end

/-- The results of a run that returns are what the replies come to, one for one, and their
rows are appended in that order. -/
theorem send_requests_ok_iff (print : Binary64 → String) (base_url model : String)
    (api_key user_agent requests_output : Option String) (exchanges : List Exchange) (results : List RequestResult) :
    send_requests runtime print base_url model api_key user_agent requests_output exchanges =
        (.ok results, results.foldl (append_result runtime) requests_output) ↔
      List.Forall₂ (fun exchange result => result_of_reply runtime exchange.clock exchange.workload_request
        (exchange.reply print base_url model api_key user_agent) = .ok result) exchanges results := by
  induction exchanges generalizing requests_output results with
  | nil =>
    rw [List.forall₂_nil_left_iff]
    constructor
    · intro hsent
      cases (Prod.mk.inj hsent).1
      rfl
    · rintro rfl
      rfl
  | cons exchange rest ih =>
    rw [List.forall₂_cons_left_iff]
    unfold send_requests
    dsimp only
    constructor
    · intro hsent
      obtain ⟨hreturned, houtput⟩ := Prod.mk.inj hsent
      obtain ⟨result, hresult, hrest⟩ := bind_eq_ok_iff.mp hreturned
      obtain ⟨others, hothers, hresults⟩ := bind_eq_ok_iff.mp hrest
      rw [pure_eq_ok_iff] at hresults
      subst hresults
      refine ⟨result, others, (send_request_ok_iff ..).mp hresult, (ih _ _).mp (Prod.ext hothers ?_), rfl⟩
      rw [send_request_output hresult] at houtput ⊢
      exact houtput
    · rintro ⟨result, others, hresult, hothers, rfl⟩
      have hsent := (send_request_ok_iff exchange.urlopen print base_url model api_key user_agent requests_output
        result).mpr hresult
      rw [hsent, send_request_output hsent, (ih _ others).mpr hothers]
      rfl

end

/-- A request comes to exactly one result, recorded as such, exactly if it fails with an HTTP
error whose body can be read or a `URLError`, or its stream is complete. -/
theorem send_request_recorded_iff (runtime : Runtime) (clock : Clock) (urlopen : Request → Reply)
    (print : Binary64 → String) (base_url model : String)
    (workload_request : shared_workloads.SharedLiveRequest Binary64)
    (api_key user_agent requests_output : Option String) :
    Recorded runtime (send_request runtime clock urlopen print base_url model workload_request api_key user_agent
        requests_output) requests_output
      (urlopen (completion_request print base_url model workload_request api_key user_agent)) ↔
      Handled runtime (urlopen (completion_request print base_url model workload_request api_key user_agent)) := by
  rw [← @result_recorded_iff runtime clock workload_request]
  unfold Recorded send_request
  dsimp only
  cases result_of_reply runtime clock workload_request
    (urlopen (completion_request print base_url model workload_request api_key user_agent)) with
  | error error => simp
  | ok result => simp

/-- Every request of a workload comes to one result with its id, and the rows are those of
the results and in their order, exactly if all the replies are such. -/
theorem send_requests_recorded_iff (runtime : Runtime) (print : Binary64 → String) (base_url model : String)
    (api_key user_agent requests_output : Option String) (exchanges : List Exchange) :
    (∃ results, send_requests runtime print base_url model api_key user_agent requests_output exchanges =
        (.ok results, results.foldl (append_result runtime) requests_output) ∧
      List.Forall₂ (fun exchange result => result.request_id = exchange.workload_request.request_id ∧
        (Failed runtime (exchange.reply print base_url model api_key user_agent) → result.ok = false))
        exchanges results) ↔
      ∀ exchange ∈ exchanges, Handled runtime (exchange.reply print base_url model api_key user_agent) := by
  simp only [send_requests_ok_iff]
  induction exchanges with
  | nil => exact iff_of_true ⟨[], .nil, .nil⟩ (by simp)
  | cons exchange rest ih =>
    rw [List.forall_mem_cons, ← ih, ← @result_recorded_iff runtime exchange.clock exchange.workload_request]
    constructor
    · rintro ⟨results, hresults, hanswered⟩
      obtain ⟨result, others, hresult, hothers, rfl⟩ := List.forall₂_cons_left_iff.mp hresults
      rw [List.forall₂_cons] at hanswered
      exact ⟨⟨result, hresult, hanswered.1.2⟩, others, hothers, hanswered.2⟩
    · rintro ⟨⟨result, hresult, hok⟩, results, hresults, hothers⟩
      exact ⟨result :: results, .cons hresult hresults, .cons ⟨result_request_id hresult, hok⟩ hothers⟩

section Escapes

/-- Texts are ASCII, none of them is JSON, and what is printed is left out. -/
def asciiRuntime : Runtime where
  decode bytes := String.ofList (bytes.map fun byte => Char.ofNat byte.toNat)
  loads _ := .error (.value_error "Expecting value")
  str _ := ""
  int _ := .error (.value_error "invalid literal for int() with base 10")
  dumps _ := ""

def clockAtZero : Clock where
  ttft_s := ⟨0, ⟨by decide +kernel, by decide +kernel⟩, le_rfl⟩
  latency_s := ⟨0, ⟨by decide +kernel, by decide +kernel⟩, le_rfl⟩
  started_at_utc := "1970-01-01T00:00:00.000000Z"
  finished_at_utc := "1970-01-01T00:00:00.000000Z"

def shortRequest : shared_workloads.SharedLiveRequest Binary64 where
  request_id := "req-1"
  prompt_tokens := 12
  output_tokens := 4
  workload_case := "case-a"
  workload_family := "family-a"
  primary_anchor_id := "anchor-1"
  secondary_anchor_ids := []
  shared_prefix_tokens := 8
  reuse_confidence := lit 0.9
  home_rank := 0
  turn_index := 1
  prompt := "prompt"
  family_label := "family-a"
  arrival_gap_s := lit 0

/-- What becomes of a reply, with an empty file of results. -/
def sentTo (reply : Reply) : Except Exception RequestResult × Option String :=
  send_request asciiRuntime clockAtZero (fun _ => reply) (fun _ => "0.9") "http://127.0.0.1:8011" "model" shortRequest
    none none (some "")

theorem not_recorded_of_error {reply : Reply} {error : Exception}
    (hresult : result_of_reply asciiRuntime clockAtZero shortRequest reply = .error error) :
    ¬ Recorded asciiRuntime (sentTo reply) (some "") reply := by
  have hsent : sentTo reply = (.error error, some "") := by
    unfold sentTo send_request
    dsimp only
    rw [hresult]
  rintro ⟨result, hrecorded, _⟩
  rw [hsent] at hrecorded
  cases (Prod.mk.inj hrecorded).1

/-- A stream that ends before its end marker passes for a success; a timeout between two
lines and a line of data that is no JSON end the whole run. -/
theorem stream_failures_escape :
    ¬ Recorded asciiRuntime (sentTo (.response 200 [] none)) (some "") (.response 200 [] none) ∧
      ¬ Recorded asciiRuntime (sentTo (.response 200 [] (some .os_error))) (some "")
        (.response 200 [] (some .os_error)) ∧
      ¬ Recorded asciiRuntime (sentTo (.response 200 ["data: \x7b\n".toUTF8.toList] none)) (some "")
        (.response 200 ["data: \x7b\n".toUTF8.toList] none) := by
  refine ⟨?_, not_recorded_of_error rfl, ?_⟩
  · rintro ⟨result, hsent, hok⟩
    cases (Prod.mk.inj hsent).1
    cases hok (.unfinished (by simp))
  · have hdata : line_data asciiRuntime "data: \x7b\n".toUTF8.toList = some "\x7b" := by decide +kernel
    have hlines : read_lines asciiRuntime clockAtZero none .empty ["data: \x7b\n".toUTF8.toList] =
        .error (.value_error "Expecting value") := by
      unfold read_lines
      rw [hdata]
      rfl
    have hresult : result_of_reply asciiRuntime clockAtZero shortRequest
        (.response 200 ["data: \x7b\n".toUTF8.toList] none) = .error (.value_error "Expecting value") := by
      change read_lines asciiRuntime clockAtZero none .empty _ >>= _ = _
      rw [hlines]
      rfl
    exact not_recorded_of_error hresult

end Escapes

end run_openai_workloads
