import KvMaterialization.Delimited
import KvMaterialization.LiveControl.Exact
import KvMaterialization.Python.Text

open python
open vllm_kv_materialization.policy
open vllm_kv_materialization.live_control

namespace run_openai_workloads

/-- What the driver and the controller read of a `SharedLiveRequest`. -/
structure SharedLiveRequest (F : Type) where
  request_id : String
  prompt_tokens : ℤ
  output_tokens : ℤ
  workload_case : String
  workload_family : String
  primary_anchor_id : String
  secondary_anchor_ids : List String
  shared_prefix_tokens : ℤ
  reuse_confidence : F
  home_rank : ℤ
  turn_index : ℤ

/-- The items of the dictionary, in its order; `print` is `str` of a float. -/
def build_workload_headers {F : Type} (print : F → String) (workload_request : SharedLiveRequest F) :
    List (String × String) := [
  ("X-Request-Id", workload_request.request_id),
  ("X-KV-Workload-Case", workload_request.workload_case),
  ("X-KV-Workload-Family", workload_request.workload_family),
  ("X-KV-Primary-Anchor-Id", workload_request.primary_anchor_id),
  ("X-KV-Secondary-Anchor-Ids", ",".intercalate workload_request.secondary_anchor_ids),
  ("X-KV-Shared-Prefix-Tokens", toString workload_request.shared_prefix_tokens),
  ("X-KV-Reuse-Confidence", print workload_request.reuse_confidence),
  ("X-KV-Home-Rank", toString workload_request.home_rank),
  ("X-KV-Turn-Index", toString workload_request.turn_index)]

/-- The numbers of a request are read as they were printed. -/
structure Printed {F : Type} (py : Interpreter F) (print : F → String) (request : SharedLiveRequest F) : Prop where
  shared_prefix_tokens : py.int (toString request.shared_prefix_tokens) = some request.shared_prefix_tokens
  home_rank : py.int (toString request.home_rank) = some request.home_rank
  turn_index : py.int (toString request.turn_index) = some request.turn_index
  reuse_confidence : py.float (print request.reuse_confidence) = some request.reuse_confidence
  stripped : strip (print request.reuse_confidence) = print request.reuse_confidence
  nonempty : print request.reuse_confidence ≠ ""

/-- The anchors of a request survive the headers: the primary one has no blanks around it,
and of the others none is empty, has blanks around it or contains a comma. -/
def PlainAnchors {F : Type} (request : SharedLiveRequest F) : Prop :=
  strip request.primary_anchor_id = request.primary_anchor_id ∧
    ∀ anchor_id ∈ request.secondary_anchor_ids, anchor_id ≠ "" ∧ strip anchor_id = anchor_id ∧
      ',' ∉ anchor_id.toList

/-- The controller has got what the request says of itself besides its anchors. -/
structure ValuesRoundTrip {F : Type} (request : SharedLiveRequest F) (signals : MaterializationSignals F)
    (extras : SignalExtras) : Prop where
  workload_case : extras.workload_case = request.workload_case
  workload_family : extras.workload_family = request.workload_family
  home_rank : extras.home_rank = request.home_rank
  turn_index : extras.turn_index = request.turn_index
  reusable_prefix_tokens :
    signals.reusable_prefix_tokens = min request.shared_prefix_tokens (max request.prompt_tokens 0)
  reuse_confidence : signals.reuse_confidence = request.reuse_confidence

/-- The controller has got the request's own values, its anchors among them. -/
structure RoundTrips {F : Type} (request : SharedLiveRequest F) (signals : MaterializationSignals F)
    (extras : SignalExtras) : Prop extends ValuesRoundTrip request signals extras where
  primary_anchor_id : extras.primary_anchor_id = request.primary_anchor_id
  secondary_anchor_ids : extras.secondary_anchor_ids = request.secondary_anchor_ids

section Anchors

theorem split_secondary_anchor_ids_intercalate (anchor_ids : List String) :
    split_secondary_anchor_ids (",".intercalate anchor_ids) =
      (delimited.rejoined stripped ',' (anchor_ids.map String.toList)).map String.ofList := by
  have hjoined : (",".intercalate anchor_ids).toList = [','].intercalate (anchor_ids.map String.toList) := by
    rw [String.toList_intercalate]
    rfl
  unfold split_secondary_anchor_ids delimited.rejoined
  rw [← hjoined]
  have hempty : ∀ part : List Char, String.ofList part = "" ↔ part = [] := by
    intro part
    rw [← String.toList_inj, String.toList_ofList]
    rfl
  have hstrip : ∀ part : List Char, strip (String.ofList part) = String.ofList (stripped part) := by
    intro part
    rw [strip_eq, String.toList_ofList]
  split
  · rename_i hraw
    rw [hraw]
    decide
  · simp only [hstrip, List.filter_map, List.map_map, ne_eq, Function.comp_def, hempty]

/-- The secondary anchors come back exactly if each of them is plain. -/
theorem secondary_anchor_ids_round_trip_iff (anchor_ids : List String) :
    split_secondary_anchor_ids (",".intercalate anchor_ids) = anchor_ids ↔
      ∀ anchor_id ∈ anchor_ids, anchor_id ≠ "" ∧ strip anchor_id = anchor_id ∧ ',' ∉ anchor_id.toList := by
  have hplain := delimited.rejoined_eq_iff stripped_stripped stripped_subset ',' (anchor_ids.map String.toList)
  rw [split_secondary_anchor_ids_intercalate]
  have hmap : (delimited.rejoined stripped ',' (anchor_ids.map String.toList)).map String.ofList = anchor_ids ↔
      delimited.rejoined stripped ',' (anchor_ids.map String.toList) = anchor_ids.map String.toList := by
    constructor
    · intro heq
      have hlists := congrArg (List.map String.toList) heq
      simpa using hlists
    · intro heq
      rw [heq, List.map_map]
      simp
  rw [hmap, hplain, List.forall_mem_map]
  refine forall₂_congr (fun anchor_id _ => ?_)
  rw [strip_eq_self_iff, ne_eq, ne_eq, ← String.toList_inj]
  rfl

end Anchors

section Binding

variable {F : Type} (py : Interpreter F) (print : F → String) (request : SharedLiveRequest F)

/-- The headers of a request as the controller binds them. -/
def bound_headers : Headers := bind_request_headers py.lower (build_workload_headers print request)

/-- Names within ASCII are bound as their ASCII lower case. -/
theorem bind_request_headers_ascii {headers : List (String × String)}
    (hascii : (headers.map Prod.fst).all (fun name => name.toList.all fun c => c.toNat < 128) = true) :
    bind_request_headers py.lower headers = bind_request_headers asciiLower headers := by
  unfold bind_request_headers
  congr 1
  apply List.map_congr_left
  intro item hitem
  rw [py.lower_of_ascii (List.all_eq_true.mp hascii item.1 (List.mem_map_of_mem hitem))]

/-- The items of a request under the names the controller looks up. -/
def boundItems {F : Type} (print : F → String) (request : SharedLiveRequest F) : List (String × String) := [
  (HEADER_REQUEST_ID, request.request_id),
  (HEADER_WORKLOAD_CASE, request.workload_case),
  (HEADER_WORKLOAD_FAMILY, request.workload_family),
  (HEADER_PRIMARY_ANCHOR, request.primary_anchor_id),
  (HEADER_SECONDARY_ANCHORS, ",".intercalate request.secondary_anchor_ids),
  (HEADER_SHARED_PREFIX_TOKENS, toString request.shared_prefix_tokens),
  (HEADER_REUSE_CONFIDENCE, print request.reuse_confidence),
  (HEADER_HOME_RANK, toString request.home_rank),
  (HEADER_TURN_INDEX, toString request.turn_index)]

theorem bound_headers_eq : bound_headers py print request = .ofList (boundItems print request) := by
  have hascii : ((build_workload_headers print request).map Prod.fst).all
      (fun name => name.toList.all fun c => c.toNat < 128) = true := by
    simp only [build_workload_headers, List.map_cons, List.map_nil]
    decide
  rw [bound_headers, bind_request_headers_ascii py hascii, bind_request_headers, build_workload_headers]
  simp only [List.map_cons, List.map_nil]
  rfl

omit py in
theorem boundItems_nodup : ((boundItems print request).map Prod.fst).Nodup := by
  change [HEADER_REQUEST_ID, HEADER_WORKLOAD_CASE, HEADER_WORKLOAD_FAMILY, HEADER_PRIMARY_ANCHOR,
    HEADER_SECONDARY_ANCHORS, HEADER_SHARED_PREFIX_TOKENS, HEADER_REUSE_CONFIDENCE, HEADER_HOME_RANK,
    HEADER_TURN_INDEX].Nodup
  decide

theorem header_bound (name value : String) (hitem : (name, value) ∈ boundItems print request) :
    header (bound_headers py print request) name = value := by
  unfold header
  rw [bound_headers_eq, Dict.get?_ofList_of_mem (boundItems_nodup print request) hitem]
  rfl

/-- The driver sends no correlation id. -/
theorem header_bound_correlation_id : header (bound_headers py print request) HEADER_CORRELATION_ID = "" := by
  unfold header
  rw [bound_headers_eq]
  cases hget : (Dict.ofList (boundItems print request)).get? HEADER_CORRELATION_ID with
  | none => rfl
  | some value =>
    have hkey := List.mem_map_of_mem (f := Prod.fst) (Dict.mem_of_get?_ofList hget)
    change HEADER_CORRELATION_ID ∈ [HEADER_REQUEST_ID, HEADER_WORKLOAD_CASE, HEADER_WORKLOAD_FAMILY,
      HEADER_PRIMARY_ANCHOR, HEADER_SECONDARY_ANCHORS, HEADER_SHARED_PREFIX_TOKENS, HEADER_REUSE_CONFIDENCE,
      HEADER_HOME_RANK, HEADER_TURN_INDEX] at hkey
    exact absurd hkey (by decide)

theorem primary_anchor_id_bound :
    primary_anchor_id (bound_headers py print request) = strip request.primary_anchor_id := by
  have hempty : strip "" = "" := by decide
  unfold primary_anchor_id
  rw [header_bound_correlation_id, header_bound py print request HEADER_PRIMARY_ANCHOR request.primary_anchor_id
    (by simp [boundItems]), hempty]
  dsimp only
  split
  · rename_i hblank
    exact hblank.symm
  · rfl

variable {py print request}

/-- A header that prints an integer is read as that integer. -/
theorem header_int_bound (name : String) {value : ℤ} (hitem : (name, toString value) ∈ boundItems print request)
    (hprinted : py.int (toString value) = some value) (default : ℤ) :
    header_int py (bound_headers py print request) name default = value := by
  obtain ⟨hstrip, hnonempty⟩ := strip_toString value
  have hheader := header_bound py print request name _ hitem
  unfold header_int
  rw [hheader, hstrip, if_neg hnonempty, hprinted]
  rfl

theorem header_float_bound (hprinted : Printed py print request) (default : F) :
    header_float py (bound_headers py print request) HEADER_REUSE_CONFIDENCE default =
      request.reuse_confidence := by
  have hheader := header_bound py print request HEADER_REUSE_CONFIDENCE (print request.reuse_confidence)
    (by simp [boundItems])
  unfold header_float
  rw [hheader, hprinted.stripped, if_neg hprinted.nonempty, hprinted.reuse_confidence]
  rfl

end Binding

section

variable {F : Type} [PyFloat F] {py : Interpreter F} {env : Environment} {print : F → String}
  {request : SharedLiveRequest F}

omit [PyFloat F] in
/-- What the controller makes of the headers: the anchors as it parses them, and every
other value as it was sent. -/
theorem request_extras_bound (hprinted : Printed py print request) (read : SessionRead) :
    request_extras py (bound_headers py print request) read =
      { primary_anchor_id := strip request.primary_anchor_id
        secondary_anchor_ids := split_secondary_anchor_ids (",".intercalate request.secondary_anchor_ids)
        workload_case := request.workload_case
        workload_family := request.workload_family
        home_rank := request.home_rank
        turn_index := request.turn_index } := by
  unfold request_extras request_turn_index
  rw [primary_anchor_id_bound,
    header_bound py print request HEADER_SECONDARY_ANCHORS (",".intercalate request.secondary_anchor_ids)
      (by simp [boundItems]),
    header_bound py print request HEADER_WORKLOAD_CASE request.workload_case (by simp [boundItems]),
    header_bound py print request HEADER_WORKLOAD_FAMILY request.workload_family (by simp [boundItems]),
    header_int_bound HEADER_HOME_RANK (by simp [boundItems]) hprinted.home_rank,
    header_int_bound HEADER_TURN_INDEX (by simp [boundItems]) hprinted.turn_index]

/-- A stated prefix is capped by the prompt. -/
theorem estimate_reusable_prefix_tokens_bound (hprinted : Printed py print request)
    (hstated : 0 ≤ request.shared_prefix_tokens) (prompt_tokens previous_prompt_tokens previous_output_tokens : ℤ) :
    estimate_reusable_prefix_tokens py (bound_headers py print request) prompt_tokens previous_prompt_tokens
      previous_output_tokens = .ok (min request.shared_prefix_tokens (max prompt_tokens 0)) := by
  unfold estimate_reusable_prefix_tokens
  dsimp only
  rw [header_int_bound HEADER_SHARED_PREFIX_TOKENS (by simp [boundItems]) hprinted.shared_prefix_tokens,
    if_pos hstated]
  rfl

/-- Whatever the floats are, an estimate of a driver's request returns its numbers, and
its anchors exactly if they are plain. -/
theorem estimate_signals_bound (hprinted : Printed py print request) (hstated : 0 ≤ request.shared_prefix_tokens)
    {session : Session} {output_tokens : ℤ} {signals : MaterializationSignals F} {extras : SignalExtras}
    (hestimated : (estimate_signals py env session (bound_headers py print request) request.prompt_tokens
      output_tokens).1 = .ok (signals, extras)) :
    signals.reusable_prefix_tokens = min request.shared_prefix_tokens (max request.prompt_tokens 0) ∧
      signals.reuse_confidence = pyMax (lit 0) (pyMin request.reuse_confidence (lit 1)) ∧
      extras =
        { primary_anchor_id := strip request.primary_anchor_id
          secondary_anchor_ids := split_secondary_anchor_ids (",".intercalate request.secondary_anchor_ids)
          workload_case := request.workload_case
          workload_family := request.workload_family
          home_rank := request.home_rank
          turn_index := request.turn_index } := by
  rw [estimate_signals_result, estimate_reusable_prefix_tokens_bound hprinted hstated, bind_eq_ok_iff] at hestimated
  obtain ⟨reusable_prefix_tokens, hreusable, hsignals⟩ := hestimated
  rw [Except.ok.injEq] at hreusable
  obtain ⟨hreused, hextras⟩ := request_signals_spec hsignals
  obtain ⟨_, _, _, _, _, _, hfields⟩ := request_signals_fields hsignals
  refine ⟨?_, ?_, ?_⟩
  · rw [hreused, ← hreusable]
    omega
  · rw [hfields]
    dsimp only
    rw [header_float_bound hprinted]
  · rw [hextras, request_extras_bound hprinted]

end

/-- Exact arithmetic estimates every request of the driver, and the controller's values
are the request's own: all but the anchors whatever these are, and the anchors exactly if
they are plain. -/
theorem workload_headers_round_trip_iff (py : Interpreter ℚ) (env : Environment) (print : ℚ → String)
    (session : Session) (request : SharedLiveRequest ℚ) (output_tokens : ℤ) (hprinted : Printed py print request)
    (hstated : 0 ≤ request.shared_prefix_tokens) (hnonneg : 0 ≤ request.reuse_confidence)
    (hle : request.reuse_confidence ≤ 1) :
    ∃ signals extras, (estimate_signals py env session
        (bind_request_headers py.lower (build_workload_headers print request)) request.prompt_tokens
        output_tokens).1 = .ok (signals, extras) ∧
      ValuesRoundTrip request signals extras ∧
      (extras.primary_anchor_id = request.primary_anchor_id ∧
        extras.secondary_anchor_ids = request.secondary_anchor_ids ↔ PlainAnchors request) ∧
      (RoundTrips request signals extras ↔ PlainAnchors request) := by
  obtain ⟨⟨signals, extras⟩, hestimated⟩ := estimate_signals_exact py env session (bound_headers py print request)
    request.prompt_tokens output_tokens
  obtain ⟨hreused, hconfidence, hextras⟩ := estimate_signals_bound hprinted hstated hestimated
  subst hextras
  have hvalues : ValuesRoundTrip request signals
      { primary_anchor_id := strip request.primary_anchor_id
        secondary_anchor_ids := split_secondary_anchor_ids (",".intercalate request.secondary_anchor_ids)
        workload_case := request.workload_case
        workload_family := request.workload_family
        home_rank := request.home_rank
        turn_index := request.turn_index } := by
    refine ⟨rfl, rfl, rfl, rfl, hreused, ?_⟩
    rw [hconfidence]
    simp only [lit_exact, pyMax_exact, pyMin_exact]
    rw [min_eq_left hle, max_eq_right hnonneg]
  have hanchors : strip request.primary_anchor_id = request.primary_anchor_id ∧
      split_secondary_anchor_ids (",".intercalate request.secondary_anchor_ids) = request.secondary_anchor_ids ↔
        PlainAnchors request := by
    unfold PlainAnchors
    rw [secondary_anchor_ids_round_trip_iff]
  refine ⟨signals, _, hestimated, hvalues, hanchors, ?_⟩
  constructor
  · intro hround
    exact hanchors.mp ⟨hround.primary_anchor_id, hround.secondary_anchor_ids⟩
  · intro hplain
    obtain ⟨hprimary, hsecondary⟩ := hanchors.mpr hplain
    exact ⟨hvalues, hprimary, hsecondary⟩

/-- A request with two secondary anchors. -/
theorem workload_headers_round_trip_iff_two_anchors :
    let request : SharedLiveRequest ℚ := ⟨"request-1", 1000, 64, "case-a", "family-a", "case-a:group:1",
      ["scaffold::rag", "case-a:doc:2"], 512, 0.9, 3, 2⟩
    ∃ signals extras, (estimate_signals Interpreter.ascii (.ofList []) .init
        (bind_request_headers asciiLower (build_workload_headers (fun _ => "0.9") request)) 1000 64).1 =
        .ok (signals, extras) ∧ RoundTrips request signals extras := by
  intro request
  have hprinted : Printed Interpreter.ascii (fun _ => "0.9") request :=
    ⟨by decide +kernel, by decide +kernel, by decide +kernel, by decide +kernel, by decide +kernel, by decide +kernel⟩
  obtain ⟨signals, extras, hestimated, _, _, hround⟩ := workload_headers_round_trip_iff Interpreter.ascii (.ofList [])
    (fun _ => "0.9") .init request 64 hprinted (by decide) (by norm_num [request]) (by norm_num [request])
  exact ⟨signals, extras, hestimated, hround.mpr ⟨by decide +kernel, by decide +kernel⟩⟩

/-- A secondary anchor with a comma comes back as two. -/
theorem comma_parts_secondary_anchor :
    let request : SharedLiveRequest ℚ := ⟨"request-1", 1000, 64, "case-a", "family-a", "case-a:group:1",
      ["doc 1,2"], 512, 0.9, 3, 2⟩
    ∃ signals extras, (estimate_signals Interpreter.ascii (.ofList []) .init
        (bind_request_headers asciiLower (build_workload_headers (fun _ => "0.9") request)) 1000 64).1 =
        .ok (signals, extras) ∧ extras.secondary_anchor_ids = ["doc 1", "2"] ∧
      ¬ RoundTrips request signals extras := by
  intro request
  have hprinted : Printed Interpreter.ascii (fun _ => "0.9") request :=
    ⟨by decide +kernel, by decide +kernel, by decide +kernel, by decide +kernel, by decide +kernel, by decide +kernel⟩
  obtain ⟨⟨signals, extras⟩, hestimated⟩ := estimate_signals_exact Interpreter.ascii (.ofList []) .init
    (bound_headers Interpreter.ascii (fun _ => "0.9") request) 1000 64
  obtain ⟨_, _, rfl⟩ := estimate_signals_bound hprinted (by decide) hestimated
  have hparted : split_secondary_anchor_ids (",".intercalate request.secondary_anchor_ids) = ["doc 1", "2"] := by
    decide +kernel
  refine ⟨signals, _, hestimated, hparted, ?_⟩
  intro hround
  have hsame := hround.secondary_anchor_ids
  dsimp only at hsame
  rw [hparted] at hsame
  exact absurd hsame (by decide)

end run_openai_workloads
