import KvMaterialization.Python.Json
import Mathlib.Data.List.Lemmas

open python

namespace g0_pathology

/-- `INTENSITY_RPS` -/
def INTENSITY_RPS : List (String × ℚ) := [("low_control", 1), ("moderate", 8), ("high", 32)]

/-- What the script takes from `hashlib` and `json`: the hex digest of a text, and how a
value is written in compact form and with its keys sorted. -/
structure Codec (F : Type) where
  sha256 : String → String
  compact : Json F → String
  sorted_keys : Json F → String

section

variable {F : Type} (number : F → String)

mutual

/-- `json.dumps(value, separators=(",", ":"))` of a value whose texts need no escapes. -/
def compactJson : Json F → String
  | .null => "null"
  | .bool value => if value then "true" else "false"
  | .int value => toString value
  | .float value => number value
  | .str value => "\"" ++ value ++ "\""
  | .list items => "[" ++ ",".intercalate (compactItems items) ++ "]"
  | .dict entries => "\x7b" ++ ",".intercalate (compactEntries entries) ++ "\x7d"

def compactItems : List (Json F) → List String
  | [] => []
  | item :: rest => compactJson item :: compactItems rest

def compactEntries : List (String × Json F) → List String
  | [] => []
  | (key, value) :: rest => ("\"" ++ key ++ "\":" ++ compactJson value) :: compactEntries rest

end

end

/-- A codec for plain texts in which every text is its own digest. -/
def Codec.plain : Codec ℚ where
  sha256 := id
  compact := compactJson decimal
  sorted_keys := compactJson decimal

/-- A trace file: its text, and the rows decoded from its lines. -/
structure Trace (F : Type) where
  path : String
  text : String
  rows : Except Exception (List (Json F))

/-- A row with its request id and its arrival time read off it. -/
structure TraceRow (F : Type) where
  row : Json F
  request_id : String
  arrival_s : F

/-- `{**row, "request_id": request_id, "arrival_s": arrival_s}` -/
def TraceRow.toJson {F : Type} (self : TraceRow F) : Json F :=
  (self.row.assign "request_id" (.str self.request_id)).assign "arrival_s" (.float self.arrival_s)

/-- What the overlay adds to a row, or puts in place of what the row has. -/
structure OverlayRow (F : Type) where
  row : TraceRow F
  arrival_s : F
  sequence_index : ℕ
  prefix_key : String
  session_key : String
  content_sha256 : String
  target_materialization_bytes : ℤ
  burst_intensity : String

def OverlayRow.toJson {F : Type} (self : OverlayRow F) : Json F :=
  ((((((self.row.toJson.assign "arrival_s" (.float self.arrival_s)).assign "sequence_index"
    (.int self.sequence_index)).assign "prefix_key" (.str self.prefix_key)).assign "session_key"
    (.str self.session_key)).assign "content_sha256" (.str self.content_sha256)).assign
    "target_materialization_bytes" (.int self.target_materialization_bytes)).assign
    "burst_intensity" (.str self.burst_intensity)

structure Custody where
  trace : String
  trace_sha256 : String
  overlay : String
  overlay_sha256 : String
  requests : ℕ
  workload : String
  burst_intensity : String
  arrival_transform : String
  deriving DecidableEq, Repr

/-- `row.get(first, row.get(second, ...))`: the value at the first key that is there. -/
def getFirst {F : Type} (row : Json F) (default : Json F) : List String → Except Exception (Json F)
  | [] => .ok default
  | key :: rest => do row.getD key (← getFirst row default rest)

section

variable {F : Type} [PyNumber F] (runtime : Runtime F)

/-- A nonempty list of integers. -/
def isTokens : Json F → Bool
  | .list items => !items.isEmpty && items.all fun token => token.int?.isSome
  | _ => false

def canonical_row (item : Json F × ℕ) : Except Exception (TraceRow F) := do
  let (row, index) := item
  let request_id ← getFirst row (.int index) ["request_id", "id"]
  let arrival_s ← getFirst row .null ["arrival_s", "timestamp_s", "timestamp"]
  let content ← getFirst row .null ["content", "prompt", "text"]
  let prompt_token_ids ← row.get "prompt_token_ids"
  match arrival_s.number? with
  | none => throw (.value_error s!"trace row {index} needs arrival_s/timestamp")
  | some arrival_s =>
    raiseIf (content.str?.isNone && !isTokens prompt_token_ids)
      s!"trace row {index} needs content/prompt/text or prompt_token_ids"
    return { row, request_id := runtime.str request_id, arrival_s := ← arrival_s.toFloat }

def canonical_trace_rows (trace : Trace F) : Except Exception (List (TraceRow F)) := do
  let rows ← trace.rows
  raiseIf rows.isEmpty ("empty trace: " ++ trace.path)
  let normalized ← rows.zipIdx.mapM (canonical_row runtime)
  raiseIf (!decide (normalized.map TraceRow.request_id).Nodup) "trace request IDs must be unique"
  return normalized

/-- `INTENSITY_RPS[burst_intensity]` -/
def intensity_rps (burst_intensity : String) : Except Exception F :=
  match INTENSITY_RPS.lookup burst_intensity with
  | some rps => .ok (lit rps)
  | none => .error (.key_error burst_intensity)

/-- `f"{value:06d}"` -/
def padded_index (value : ℕ) : String :=
  let digits := toString value
  "".pushn '0' (6 - digits.length) ++ digits

/-- What the content of a row is identified by. -/
def identity (row : TraceRow F) : Except Exception (Json F) := do
  row.toJson.getD "prompt_token_ids" (← row.toJson.get "content")

def overlay_arrival (burst_intensity : String) (source_start scale : F) (row : TraceRow F) (index : ℕ) :
    Except Exception F := do
  if burst_intensity = "low_control" then
    PyFloat.div (← ofInt index) (← intensity_rps burst_intensity)
  else
    return (row.arrival_s - source_start) * scale

def overlay_row (codec : Codec F) (workload burst_intensity : String) (source_start scale : F)
    (item : TraceRow F × ℕ) : Except Exception (OverlayRow F) := do
  let (row, index) := item
  let identity ← identity row
  let prefix_tokens ← (← row.toJson.getD "reuse_prefix_tokens" (.int 0)).toInt runtime.toInterpreter
  let arrival_s ← overlay_arrival burst_intensity source_start scale row index
  let session := padded_index (index / 4)
  let target ← (← row.toJson.getD "target_materialization_bytes"
    (.int (max 4096 (prefix_tokens * 31104)))).toInt runtime.toInterpreter
  return {
    row
    arrival_s
    sequence_index := index
    prefix_key := s!"{workload}:prefix:{prefix_tokens}"
    session_key := s!"{workload}:session:{session}"
    content_sha256 := codec.sha256 (codec.compact identity)
    target_materialization_bytes := target
    burst_intensity }

/-- The lines of the overlay file. -/
def overlay_text (codec : Codec F) (overlay : List (OverlayRow F)) : String :=
  String.join (overlay.map fun row => codec.sorted_keys row.toJson ++ "\n")

/-- The factor between the span of the trace and the one its intensity asks for. -/
def overlay_scale (path burst_intensity : String) (rows : List (TraceRow F)) (source_span : F) :
    Except Exception F := do
  raiseIf (pyLe source_span (lit 0)) ("trace needs positive arrival span: " ++ path)
  let target_span ← PyFloat.div (← ofInt (rows.length - 1)) (← intensity_rps burst_intensity)
  PyFloat.div target_span source_span

/-- The overlay written, and the entry returned for it. -/
def write_overlay (codec : Codec F) (trace : Trace F) (output workload burst_intensity : String) :
    Except Exception (List (OverlayRow F) × Custody) := do
  let rows ← canonical_trace_rows runtime trace
  match rows.head?, rows.getLast? with
  | some first, some last =>
    let source_start := first.arrival_s
    let scale ← overlay_scale trace.path burst_intensity rows (last.arrival_s - source_start)
    let overlay ← rows.zipIdx.mapM (overlay_row runtime codec workload burst_intensity source_start scale)
    return (overlay, {
      trace := trace.path
      trace_sha256 := codec.sha256 trace.text
      overlay := output
      overlay_sha256 := codec.sha256 (overlay_text codec overlay)
      requests := overlay.length
      workload
      burst_intensity
      arrival_transform :=
        if burst_intensity = "low_control" then "uniform_low_concurrency" else "source_shape_scaled" })
  | _, _ => throw (.key_error "0")

end

section

variable {F : Type} [PyNumber F] {runtime : Runtime F} {codec : Codec F} {trace : Trace F}

/-- What an accepted row had to have, and what is read off it. -/
theorem canonical_row_spec {item : Json F × ℕ} {row : TraceRow F} (hrow : canonical_row runtime item = .ok row) :
    row.row = item.1 ∧
    (∃ arrival number, getFirst item.1 .null ["arrival_s", "timestamp_s", "timestamp"] = .ok arrival ∧
      arrival.number? = some number ∧ number.toFloat = .ok row.arrival_s) ∧
    ∃ content prompt_token_ids, getFirst item.1 .null ["content", "prompt", "text"] = .ok content ∧
      item.1.get "prompt_token_ids" = .ok prompt_token_ids ∧
      (content.str?.isSome = true ∨ isTokens prompt_token_ids = true) := by
  unfold canonical_row at hrow
  dsimp only at hrow
  rw [bind_eq_ok_iff] at hrow
  obtain ⟨request_id, _, hrow⟩ := hrow
  rw [bind_eq_ok_iff] at hrow
  obtain ⟨arrival, harrival, hrow⟩ := hrow
  rw [bind_eq_ok_iff] at hrow
  obtain ⟨content, hcontent, hrow⟩ := hrow
  rw [bind_eq_ok_iff] at hrow
  obtain ⟨prompt_token_ids, htokens, hrow⟩ := hrow
  split at hrow
  · cases hrow
  · rename_i number hnumber
    rw [bind_eq_ok_iff] at hrow
    obtain ⟨_, hchecked, hrow⟩ := hrow
    rw [bind_eq_ok_iff] at hrow
    obtain ⟨arrival_s, hfloat, hrow⟩ := hrow
    rw [pure_eq_ok_iff] at hrow
    subst hrow
    refine ⟨rfl, ⟨arrival, number, harrival, hnumber, hfloat⟩, content, prompt_token_ids, hcontent, htokens, ?_⟩
    rw [raiseIf_eq_ok_iff] at hchecked
    cases hstr : content.str? with
    | some text => exact .inl rfl
    | none =>
      right
      rw [hstr] at hchecked
      simpa using hchecked

theorem canonical_trace_rows_spec {rows : List (TraceRow F)} (hrows : canonical_trace_rows runtime trace = .ok rows) :
    ∃ source, trace.rows = .ok source ∧
      List.Forall₂ (fun item row => canonical_row runtime item = .ok row) source.zipIdx rows := by
  unfold canonical_trace_rows at hrows
  rw [bind_eq_ok_iff] at hrows
  obtain ⟨source, hsource, hrows⟩ := hrows
  rw [bind_eq_ok_iff] at hrows
  obtain ⟨_, _, hrows⟩ := hrows
  rw [bind_eq_ok_iff] at hrows
  obtain ⟨normalized, hnormalized, hrows⟩ := hrows
  rw [bind_eq_ok_iff] at hrows
  obtain ⟨_, _, hrows⟩ := hrows
  rw [pure_eq_ok_iff] at hrows
  subst hrows
  exact ⟨source, hsource, forall₂_of_mapM_ok hnormalized⟩

theorem overlay_row_spec {workload burst_intensity : String} {source_start scale : F} {item : TraceRow F × ℕ}
    {row : OverlayRow F} (hrow : overlay_row runtime codec workload burst_intensity source_start scale item = .ok row) :
    row.row = item.1 ∧
      overlay_arrival burst_intensity source_start scale item.1 item.2 = .ok row.arrival_s ∧
      ∃ content, identity item.1 = .ok content ∧ row.content_sha256 = codec.sha256 (codec.compact content) := by
  unfold overlay_row at hrow
  dsimp only at hrow
  rw [bind_eq_ok_iff] at hrow
  obtain ⟨content, hcontent, hrow⟩ := hrow
  rw [bind_eq_ok_iff] at hrow
  obtain ⟨_, _, hrow⟩ := hrow
  rw [bind_eq_ok_iff] at hrow
  obtain ⟨_, _, hrow⟩ := hrow
  rw [bind_eq_ok_iff] at hrow
  obtain ⟨arrival_s, harrival, hrow⟩ := hrow
  rw [bind_eq_ok_iff] at hrow
  obtain ⟨_, _, hrow⟩ := hrow
  rw [bind_eq_ok_iff] at hrow
  obtain ⟨_, _, hrow⟩ := hrow
  rw [pure_eq_ok_iff] at hrow
  subst hrow
  exact ⟨rfl, harrival, content, hcontent, rfl⟩

/-- A written overlay has a row for each row of its trace, scaled from the first
arrival of the trace. -/
theorem write_overlay_spec {output workload burst_intensity : String} {overlay : List (OverlayRow F)}
    {custody : Custody}
    (hwritten : write_overlay runtime codec trace output workload burst_intensity = .ok (overlay, custody)) :
    ∃ rows first last scale, canonical_trace_rows runtime trace = .ok rows ∧
      rows.head? = some first ∧ rows.getLast? = some last ∧
      overlay_scale trace.path burst_intensity rows (last.arrival_s - first.arrival_s) = .ok scale ∧
      List.Forall₂ (fun item row => overlay_row runtime codec workload burst_intensity first.arrival_s scale item =
        .ok row) rows.zipIdx overlay := by
  unfold write_overlay at hwritten
  rw [bind_eq_ok_iff] at hwritten
  obtain ⟨rows, hrows, hwritten⟩ := hwritten
  split at hwritten
  · rename_i first last hfirst hlast
    dsimp only at hwritten
    rw [bind_eq_ok_iff] at hwritten
    obtain ⟨scale, hscale, hwritten⟩ := hwritten
    rw [bind_eq_ok_iff] at hwritten
    obtain ⟨written, hoverlay, hwritten⟩ := hwritten
    rw [pure_eq_ok_iff, Prod.mk.injEq] at hwritten
    obtain ⟨rfl, _⟩ := hwritten
    exact ⟨rows, first, last, scale, hrows, hfirst, hlast, hscale, forall₂_of_mapM_ok hoverlay⟩
  · cases hwritten

end

end g0_pathology
