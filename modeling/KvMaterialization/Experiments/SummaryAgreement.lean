import KvMaterialization.Experiments.OnlineBundle

open python
open run_openai_workloads

namespace validate_online_bundle

/-- The results of the requests that failed, in the order they are listed. -/
def failed (results : List RequestResult) : List RequestResult := results.filter fun result => !result.ok

section Rows

variable (result : RequestResult)

theorem asdict_succeeded : succeeded (asdict result) = .ok result.ok := (rfl)

theorem asdict_latency (runtime : Runtime Binary64) :
    milliseconds runtime "latency_s" (asdict result) = .ok (result.latency_s.value * lit 1000) := (rfl)

theorem asdict_timed :
    (do return !(← (asdict result).get "ttft_s").isNull) = Except.ok (ε := Exception) result.ttft_s.isSome := by
  cases hresult : result.ttft_s with
  | none =>
    have hget : (asdict result).get "ttft_s" = .ok .null := by
      change Except.ok (Json.nullable _ result.ttft_s) = _
      rw [hresult]
      rfl
    rw [hget]
    rfl
  | some ttft_s =>
    have hget : (asdict result).get "ttft_s" = .ok (.float ttft_s.value) := by
      change Except.ok (Json.nullable _ result.ttft_s) = _
      rw [hresult]
      rfl
    rw [hget]
    rfl

theorem asdict_ttft (runtime : Runtime Binary64) {ttft_s : Elapsed} (httft : result.ttft_s = some ttft_s) :
    milliseconds runtime "ttft_s" (asdict result) = .ok (ttft_s.value * lit 1000) := by
  have hitem : (asdict result).item "ttft_s" = .ok (.float ttft_s.value) := by
    change Except.ok (Json.nullable _ result.ttft_s) = _
    rw [httft]
    rfl
  unfold milliseconds
  rw [hitem]
  rfl

end Rows

section Recompute

variable (runtime : Runtime Binary64) (results : List RequestResult)

theorem selectRows_asdict {keep : Json Binary64 → Except Exception Bool} (kept : RequestResult → Bool)
    (hkeep : ∀ result, keep (asdict result) = .ok (kept result)) :
    selectRows keep (results.map asdict) = .ok ((results.filter kept).map asdict) := by
  induction results with
  | nil => rfl
  | cons result rest ih =>
    rw [List.map_cons, selectRows, hkeep]
    cases hkept : kept result with
    | true =>
      rw [List.filter_cons_of_pos hkept, List.map_cons]
      simp only [bind, Except.bind, if_true]
      rw [ih]
      rfl
    | false =>
      rw [List.filter_cons_of_neg (by rw [hkept]; exact Bool.false_ne_true)]
      exact ih

theorem mapM_latency :
    (results.map asdict).mapM (milliseconds runtime "latency_s") = .ok (latencies_ms results) := by
  induction results with
  | nil => rfl
  | cons result rest ih =>
    rw [List.map_cons, List.mapM_cons, asdict_latency, ih]
    rfl

theorem mapM_ttft :
    ((results.filter fun result => result.ttft_s.isSome).map asdict).mapM
      (milliseconds runtime "ttft_s") = .ok (ttfts_ms results) := by
  induction results with
  | nil => rfl
  | cons result rest ih =>
    cases httft : result.ttft_s with
    | none =>
      rw [List.filter_cons_of_neg (by rw [httft]; exact Bool.false_ne_true), ih]
      unfold ttfts_ms
      rw [List.filterMap_cons_none httft]
    | some ttft_s =>
      rw [List.filter_cons_of_pos (by rw [httft]; rfl), List.map_cons, List.mapM_cons,
        asdict_ttft result runtime httft, ih]
      unfold ttfts_ms
      rw [List.filterMap_cons_some httft]
      rfl

/-- The validator reads the same lists of times out of the rows. -/
theorem recompute_asdict :
    recompute_request_summary runtime (results.map asdict) = do
      let ok := results.filter RequestResult.ok
      return .dict [
        ("requests", .int results.length),
        ("completed", .int ok.length),
        ("failures", .list ((failed results).map asdict)),
        ("mean_latency_ms", .float (← rounded_or_zero mean (latencies_ms ok))),
        ("p95_latency_ms", .float (← rounded_or_zero (request_percentile · 95) (latencies_ms ok))),
        ("mean_ttft_ms", .float (← rounded_or_zero mean (ttfts_ms ok))),
        ("p95_ttft_ms", .float (← rounded_or_zero (request_percentile · 95) (ttfts_ms ok)))] := by
  unfold recompute_request_summary
  rw [selectRows_asdict results RequestResult.ok asdict_succeeded,
    selectRows_asdict results (fun result => !result.ok) (fun result => by
      rw [asdict_succeeded]
      rfl)]
  simp only [bind, Except.bind]
  rw [mapM_latency, selectRows_asdict _ _ (fun result => asdict_timed result)]
  simp only
  rw [mapM_ttft, List.length_map, List.length_map]
  rfl

end Recompute

section Order

variable {values values' : List Binary64}

theorem rounded_or_zero_of_eq {statistic : List Binary64 → Except Exception Binary64}
    (hperm : values.Perm values') (heq : statistic values = statistic values') :
    rounded_or_zero statistic values = rounded_or_zero statistic values' := by
  unfold rounded_or_zero
  by_cases hnil : values = []
  · subst hnil
    obtain rfl := hperm.nil_eq
    rfl
  · have hnil' : values' ≠ [] := fun hvalues' => hnil (by rw [hvalues'] at hperm; exact hperm.eq_nil)
    rw [if_neg hnil, if_neg hnil', heq]

/-- Both programs take the same element of the sorted values. -/
theorem request_percentile_eq (q : ℤ) (hvalues : ∀ x ∈ values, x.NonNegative)
    (hperm : values.Perm values') : percentile values q = request_percentile values' q := by
  have hsorted : sorted values = sorted values' := by
    apply sorted_eq_of_perm Binary64.rank _ _ hperm
    · intro x hx y hy
      exact Binary64.lt_eq_rank x (hvalues y hy).ne_nan
    · intro x hx y hy
      exact (hvalues x hx).eq_of_rank (hvalues y hy)
  unfold percentile request_percentile
  by_cases hnil : values = []
  · subst hnil
    obtain rfl := hperm.nil_eq
    rfl
  · have hnil' : values' ≠ [] := fun hvalues' => hnil (by rw [hvalues'] at hperm; exact hperm.eq_nil)
    rw [if_neg hnil, if_neg hnil', hsorted]

theorem rounded_or_zero_percentile {q : ℤ} (hvalues : ∀ x ∈ values, x.NonNegative)
    (hperm : values.Perm values') :
    rounded_or_zero (percentile · q) values = rounded_or_zero (request_percentile · q) values' := by
  have hsame : percentile values q = percentile values' q :=
    (request_percentile_eq q hvalues hperm).trans rfl
  exact rounded_or_zero_of_eq hperm hsame

theorem mean_eq (hvalues : ∀ x ∈ values, x.NonNegative) (hperm : values.Perm values') :
    mean values = mean values' :=
  mean_eq_of_perm (.infinity false) (fun x hx => (hvalues x hx).special) hperm

end Order

section Times

variable {results : List RequestResult}

theorem elapsed_ms_nonNegative (elapsed : Elapsed) :
    Binary64.NonNegative (elapsed.value * lit 1000) := by
  have hscale : |(1000 : ℚ)| < overflow := by
    rw [abs_of_nonneg (by norm_num)]
    exact lt_overflow (by norm_num)
  rw [Binary64.lit_eq, Binary64.ofRat_of_lt hscale, Elapsed.value, Binary64.mul_finite]
  exact Binary64.nonNegative_ofRat (mul_nonneg elapsed.nonneg (nearest_nonneg (by norm_num)))

theorem latencies_ms_nonNegative : ∀ x ∈ latencies_ms results, x.NonNegative := by
  intro x hx
  obtain ⟨result, _, rfl⟩ := List.mem_map.mp hx
  exact elapsed_ms_nonNegative result.latency_s

theorem ttfts_ms_nonNegative : ∀ x ∈ ttfts_ms results, x.NonNegative := by
  intro x hx
  obtain ⟨ttft_s, _, rfl⟩ := List.mem_map.mp hx
  exact elapsed_ms_nonNegative ttft_s

theorem percentile_mem {values : List Binary64} {q : ℤ} {x : Binary64}
    (hpercentile : percentile values q = .ok x) : x ∈ values ∨ x = lit 0 := by
  unfold percentile at hpercentile
  split at hpercentile
  · rw [pure_eq_ok_iff] at hpercentile
    exact .inr hpercentile.symm
  · simp only [bind_eq_ok_iff, pure_eq_ok_iff] at hpercentile
    obtain ⟨_, _, _, _, _, _, index, _, hx⟩ := hpercentile
    rw [List.getD_eq_getElem?_getD] at hx
    cases hget : (sorted values)[(min ((sorted values).length - 1 : ℤ) (max 0 index)).toNat]? with
    | none =>
      rw [hget, Option.getD_none] at hx
      exact .inr hx.symm
    | some element =>
      rw [hget, Option.getD_some] at hx
      subst hx
      exact .inl (mem_sorted.mp (List.mem_of_getElem? hget))

theorem lit_zero_ne_nan : (lit 0 : Binary64) ≠ .nan := Binary64.ofRat_ne_nan 0

theorem rounded_or_zero_ne_nan {statistic : List Binary64 → Except Exception Binary64}
    {values : List Binary64} {x : Binary64} (hstatistic : ∀ y, statistic values = .ok y → y ≠ .nan)
    (hx : rounded_or_zero statistic values = .ok x) : x ≠ .nan := by
  unfold rounded_or_zero at hx
  split at hx
  · rw [pure_eq_ok_iff] at hx
    rw [← hx]
    exact lit_zero_ne_nan
  · simp only [bind_eq_ok_iff, pure_eq_ok_iff] at hx
    obtain ⟨y, hy, rfl⟩ := hx
    exact Binary64.roundTo_ne_nan (hstatistic y hy) 3

/-- Of times, both statistics are numbers, which equal themselves. -/
theorem mean_eq_self {values : List Binary64} {x : Binary64} (hvalues : ∀ y ∈ values, y.NonNegative)
    (hx : rounded_or_zero mean values = .ok x) : (Json.float x).eq (.float x) = true :=
  Binary64.eq_self (rounded_or_zero_ne_nan (fun _ => Binary64.mean_ne_nan hvalues) hx)

theorem percentile_eq_self {values : List Binary64} {q : ℤ} {x : Binary64}
    (hvalues : ∀ y ∈ values, y.NonNegative)
    (hx : rounded_or_zero (percentile · q) values = .ok x) : (Json.float x).eq (.float x) = true := by
  apply Binary64.eq_self
  apply rounded_or_zero_ne_nan _ hx
  intro y hy
  obtain hmem | rfl := percentile_mem hy
  · exact (hvalues y hmem).ne_nan
  · exact lit_zero_ne_nan

end Times

section Failures

theorem same_elapsed {a b : Elapsed} :
    (Json.float a.value).same (.float b.value) = true ↔ a = b := by
  have heq : PyNumber.eq a.value b.value = decide (a.seconds = b.seconds) := rfl
  have hself : PyNumber.eq a.value a.value = true := decide_eq_true rfl
  simp only [Json.same, Json.number?, Json.sameNumber, Number.eq, hself, heq, Bool.not_true,
    Bool.false_and, Bool.or_false, decide_eq_true_eq]
  constructor
  · intro hseconds
    cases a
    cases b
    cases hseconds
    rfl
  · intro hab
    rw [hab]

/-- Rows of failed requests are the same only if the results are. -/
theorem same_asdict {a b : RequestResult} (ha : a.ok = false) (hb : b.ok = false) :
    (asdict a).same (asdict b) = true ↔ a = b := by
  have hstr : ∀ x y : Option String,
      (Json.nullable Json.str x : Json Binary64).same (Json.nullable .str y) = true ↔ x = y :=
    fun x y => Json.same_nullable (fun _ _ => Json.same_str) (fun _ => nofun)
  have hint : ∀ x y : Option ℤ,
      (Json.nullable Json.int x : Json Binary64).same (Json.nullable .int y) = true ↔ x = y :=
    fun x y => Json.same_nullable (fun _ _ => Json.same_int) (fun _ => nofun)
  have helapsed : ∀ x y : Option Elapsed,
      (Json.nullable (fun ttft_s => Json.float ttft_s.value) x).same
        (Json.nullable (fun ttft_s => .float ttft_s.value) y) = true ↔ x = y :=
    fun x y => Json.same_nullable (fun _ _ => same_elapsed) (fun _ => nofun)
  have hentries : (asdict a).same (asdict b) = true ↔
      a.request_id = b.request_id ∧ a.workload_case = b.workload_case ∧
      a.workload_family = b.workload_family ∧ a.latency_s = b.latency_s ∧ a.ttft_s = b.ttft_s ∧
      a.ok = b.ok ∧ a.http_status = b.http_status ∧ a.prompt_tokens_est = b.prompt_tokens_est ∧
      a.completion_tokens_target = b.completion_tokens_target ∧
      a.prompt_tokens_actual = b.prompt_tokens_actual ∧
      a.completion_tokens_actual = b.completion_tokens_actual ∧
      a.started_at_utc = b.started_at_utc ∧ a.finished_at_utc = b.finished_at_utc ∧
      a.response_id = b.response_id ∧ a.finish_reason = b.finish_reason ∧
      a.generated_text = b.generated_text ∧
      (Json.list a.raw_events).same (.list b.raw_events) = true ∧ a.error = b.error := by
    rw [asdict, asdict, Json.same_dict_iff]
    simp [Json.sameEntries, Json.find, hstr, hint, helapsed, same_elapsed]
  rw [hentries, a.no_events ha, b.no_events hb]
  constructor
  · rintro ⟨h1, h2, h3, h4, h5, h6, h7, h8, h9, h10, h11, h12, h13, h14, h15, h16, _, h18⟩
    have hevents : a.raw_events = b.raw_events := (a.no_events ha).trans (b.no_events hb).symm
    cases a
    cases b
    simp_all
  · rintro rfl
    simp [Json.sameItems]

theorem sameItems_asdict {as bs : List RequestResult} (has : ∀ a ∈ as, a.ok = false)
    (hbs : ∀ b ∈ bs, b.ok = false) :
    Json.sameItems (as.map asdict) (bs.map asdict) = true ↔ as = bs := by
  induction as generalizing bs with
  | nil =>
    cases bs with
    | nil => simp [Json.sameItems]
    | cons b bs => simp [Json.sameItems]
  | cons a as ih =>
    cases bs with
    | nil => simp [Json.sameItems]
    | cons b bs =>
      rw [List.forall_mem_cons] at has hbs
      rw [List.map_cons, List.map_cons, Json.sameItems, Bool.and_eq_true, same_asdict has.1 hbs.1,
        ih has.2 hbs.2, List.cons.injEq]

theorem failures_eq_iff {completed appended : List RequestResult} :
    (Json.list ((failed completed).map asdict)).eq (.list ((failed appended).map asdict)) = true ↔
      failed completed = failed appended := by
  have hfailed : ∀ results : List RequestResult, ∀ result ∈ failed results, result.ok = false := by
    intro results result hresult
    simpa using (List.mem_filter.mp hresult).2
  rw [Json.eq, Json.same_list]
  · exact sameItems_asdict (hfailed completed) (hfailed appended)
  · exact nofun

end Failures

section Verify

variable (runtime : Runtime Binary64)

/-- A field both programs have written is compared, and only a difference is an error. -/
theorem field_errors_spec {summary recomputed reported computed : Json Binary64} {field : String}
    (hreported : summary.get field = .ok reported) (hcomputed : recomputed.item field = .ok computed) :
    ∃ errors, field_errors runtime summary recomputed field = .ok errors ∧
      (errors = [] ↔ reported.eq computed = true) := by
  unfold field_errors
  rw [hreported, hcomputed]
  simp only [bind, Except.bind]
  split
  · rename_i heq
    exact ⟨_, rfl, by simp [heq]⟩
  · rename_i hdiffer
    exact ⟨_, rfl, by simp [hdiffer]⟩

/-- The fields compared are those of both records, whatever else they hold. -/
theorem mapM_field_errors {summary recomputed : Json Binary64} {fields : List (String × Json Binary64 × Json Binary64)}
    (hfields : ∀ field ∈ fields, summary.get field.1 = .ok field.2.1 ∧ recomputed.item field.1 = .ok field.2.2) :
    ∃ errors, (fields.map Prod.fst).mapM (field_errors runtime summary recomputed) = .ok errors ∧
      (errors.flatten = [] ↔ ∀ field ∈ fields, field.2.1.eq field.2.2 = true) := by
  induction fields with
  | nil => exact ⟨[], rfl, by simp⟩
  | cons field fields ih =>
    rw [List.forall_mem_cons] at hfields
    obtain ⟨errors, herrors, hfield⟩ := field_errors_spec runtime hfields.1.1 hfields.1.2
    obtain ⟨others, hothers, hrest⟩ := ih hfields.2
    refine ⟨errors :: others, ?_, ?_⟩
    · rw [List.map_cons, List.mapM_cons, herrors, hothers]
      rfl
    · rw [List.flatten_cons, List.append_eq_nil_iff, hfield, hrest, List.forall_mem_cons]

end Verify

/-- The rows the workers appended bear out a summary of the results in the order they
completed exactly if the failed ones come in one order in both. -/
theorem verify_summarize (runtime : Runtime Binary64) {completed appended : List RequestResult}
    (hperm : completed.Perm appended) {started_at finished_at : Binary64} {workload : Workload}
    {summary : Json Binary64} (hsummary : summarize completed started_at finished_at workload = .ok summary) :
    ∃ recomputed errors,
      verify_request_summary runtime summary (appended.map asdict) = .ok (recomputed, errors) ∧
        (errors = [] ↔ failed completed = failed appended) := by
  have hok : (completed.filter RequestResult.ok).Perm (appended.filter RequestResult.ok) :=
    hperm.filter RequestResult.ok
  have hlatencies : (latencies_ms (completed.filter RequestResult.ok)).Perm
      (latencies_ms (appended.filter RequestResult.ok)) := hok.map _
  have httfts : (ttfts_ms (completed.filter RequestResult.ok)).Perm
      (ttfts_ms (appended.filter RequestResult.ok)) := (hok.filterMap _).map _
  simp only [summarize, bind_eq_ok_iff, pure_eq_ok_iff] at hsummary
  obtain ⟨mean_latency, hmean_latency, p95_latency, hp95_latency, mean_ttft, hmean_ttft, p95_ttft,
    hp95_ttft, _, _, _, _, hsummary⟩ := hsummary
  have hmean_latency' := hmean_latency
  rw [rounded_or_zero_of_eq hlatencies (mean_eq latencies_ms_nonNegative hlatencies)] at hmean_latency'
  have hp95_latency' := hp95_latency
  rw [rounded_or_zero_percentile latencies_ms_nonNegative hlatencies] at hp95_latency'
  have hmean_ttft' := hmean_ttft
  rw [rounded_or_zero_of_eq httfts (mean_eq ttfts_ms_nonNegative httfts)] at hmean_ttft'
  have hp95_ttft' := hp95_ttft
  rw [rounded_or_zero_percentile ttfts_ms_nonNegative httfts] at hp95_ttft'
  let fields : List (String × Json Binary64 × Json Binary64) := [
    ("requests", .int completed.length, .int appended.length),
    ("completed", .int (completed.filter RequestResult.ok).length,
      .int (appended.filter RequestResult.ok).length),
    ("failures", .list ((failed completed).map asdict), .list ((failed appended).map asdict)),
    ("mean_latency_ms", .float mean_latency, .float mean_latency),
    ("p95_latency_ms", .float p95_latency, .float p95_latency),
    ("mean_ttft_ms", .float mean_ttft, .float mean_ttft),
    ("p95_ttft_ms", .float p95_ttft, .float p95_ttft)]
  obtain ⟨recomputed, hrecomputed, hcomputed⟩ : ∃ recomputed,
      recompute_request_summary runtime (appended.map asdict) = .ok recomputed ∧
        ∀ field ∈ fields, recomputed.item field.1 = .ok field.2.2 := by
    rw [recompute_asdict]
    simp only [hmean_latency', hp95_latency', hmean_ttft', hp95_ttft', bind, Except.bind]
    refine ⟨_, rfl, ?_⟩
    simp only [fields, List.forall_mem_cons]
    exact ⟨rfl, rfl, rfl, rfl, rfl, rfl, rfl, List.forall_mem_nil _⟩
  have hreported : ∀ field ∈ fields, summary.get field.1 = .ok field.2.1 := by
    subst hsummary
    simp only [fields, List.forall_mem_cons]
    exact ⟨rfl, rfl, rfl, rfl, rfl, rfl, rfl, List.forall_mem_nil _⟩
  obtain ⟨errors, herrors, hall⟩ := mapM_field_errors runtime
    (fun field hfield => ⟨hreported field hfield, hcomputed field hfield⟩)
  refine ⟨recomputed, errors.flatten, ?_, ?_⟩
  · unfold verify_request_summary
    have hnames : RAW_RECOMPUTABLE_SUMMARY_FIELDS = fields.map Prod.fst := rfl
    rw [hrecomputed, hnames]
    simp only [bind, Except.bind]
    rw [herrors]
    rfl
  · rw [hall]
    simp only [fields, List.forall_mem_cons]
    constructor
    · rintro ⟨_, _, hfailures, _⟩
      exact failures_eq_iff.mp hfailures
    · intro hfailed
      refine ⟨?_, ?_, failures_eq_iff.mpr hfailed, ?_, ?_, ?_, ?_, List.forall_mem_nil _⟩
      · exact Json.same_int.mpr (by rw [hperm.length_eq])
      · exact Json.same_int.mpr (by rw [hok.length_eq])
      · exact mean_eq_self latencies_ms_nonNegative hmean_latency
      · exact percentile_eq_self latencies_ms_nonNegative hp95_latency
      · exact mean_eq_self ttfts_ms_nonNegative hmean_ttft
      · exact percentile_eq_self ttfts_ms_nonNegative hp95_ttft

/-- For every order the futures completed in and every order the workers wrote in, the
validator confirms the summary exactly if the failures come in one order in both. -/
theorem summary_agreement (runtime : Runtime Binary64) (completed appended : List RequestResult)
    (hperm : completed.Perm appended) (started_at finished_at : Binary64) (workload : Workload)
    (summary : Json Binary64)
    (hsummary : summarize completed started_at finished_at workload = .ok summary) :
    (∃ recomputed, verify_request_summary runtime summary (appended.map asdict) = .ok (recomputed, [])) ↔
      failed completed = failed appended := by
  obtain ⟨recomputed, errors, hverify, herrors⟩ := verify_summarize runtime hperm hsummary
  rw [← herrors, hverify]
  constructor
  · rintro ⟨_, heq⟩
    cases heq
    rfl
  · rintro rfl
    exact ⟨recomputed, rfl⟩

/-- A request the server turned away after half a second. -/
def turnedAway (request_id : String) : RequestResult where
  request_id := request_id
  workload_case := "shared_scenario"
  workload_family := "rag"
  latency_s := ⟨1 / 2, ⟨by decide +kernel, by decide +kernel⟩, by decide +kernel⟩
  ttft_s := none
  ok := false
  http_status := some 503
  prompt_tokens_est := 128
  completion_tokens_target := 16
  prompt_tokens_actual := none
  completion_tokens_actual := none
  started_at_utc := "2026-01-01T00:00:00.000000Z"
  finished_at_utc := "2026-01-01T00:00:00.500000Z"
  response_id := none
  finish_reason := none
  generated_text := ""
  raw_events := []
  error := some "overloaded"
  no_events _ := rfl

/-- The same request, answered. -/
def answered (request_id : String) : RequestResult :=
  { turnedAway request_id with
    ttft_s := some (turnedAway request_id).latency_s
    ok := true
    http_status := some 200
    error := none
    no_events := nofun }

def sampleWorkload : Workload := ⟨"shared_scenario", "shared", "sharegpt", "rag", .int 4, 2⟩

theorem summary_agreement_answered_swapped :
    ∃ summary, summarize [answered "r1", turnedAway "r2", answered "r3"] (lit 0) (lit 1) sampleWorkload =
        .ok summary ∧
      ((∃ recomputed, verify_request_summary Runtime.binary64 summary
          ([answered "r3", turnedAway "r2", answered "r1"].map asdict) = .ok (recomputed, [])) ↔
        failed [answered "r1", turnedAway "r2", answered "r3"] =
          failed [answered "r3", turnedAway "r2", answered "r1"]) := by
  have hreturns : Returns
      (summarize [answered "r1", turnedAway "r2", answered "r3"] (lit 0) (lit 1) sampleWorkload) := by
    decide +kernel
  obtain ⟨summary, hsummary⟩ := hreturns
  refine ⟨summary, hsummary, summary_agreement _ _ _ ?_ _ _ _ _ hsummary⟩
  exact (List.reverse_perm [answered "r1", turnedAway "r2", answered "r3"]).symm

/-- Two failures that completed in the other order than they were written in. -/
theorem swapped_failures_disagree :
    ¬ ∀ summary, summarize [turnedAway "r1", turnedAway "r2"] (lit 0) (lit 1) sampleWorkload = .ok summary →
      ∃ recomputed, verify_request_summary Runtime.binary64 summary
        ([turnedAway "r2", turnedAway "r1"].map asdict) = .ok (recomputed, []) := by
  intro hagree
  have hreturns : Returns
      (summarize [turnedAway "r1", turnedAway "r2"] (lit 0) (lit 1) sampleWorkload) := by
    decide +kernel
  obtain ⟨summary, hsummary⟩ := hreturns
  have hswap : [turnedAway "r1", turnedAway "r2"].Perm [turnedAway "r2", turnedAway "r1"] :=
    List.Perm.swap _ _ _
  obtain ⟨recomputed, errors, hverify, herrors⟩ := verify_summarize Runtime.binary64 hswap hsummary
  obtain ⟨recomputed', hclean⟩ := hagree summary hsummary
  rw [hverify] at hclean
  cases hclean
  have hfailed := herrors.mp rfl
  have hids := congrArg (List.map RequestResult.request_id) hfailed
  exact absurd hids (by decide)

end validate_online_bundle
