import KvMaterialization.Experiments.OfflineTraces

open python
open vllm_kv_materialization.policy

namespace vllm_kv_materialization.offline_traces

section

variable (request : Request) (past : Past)

/-- The share of the secondary anchors that was seen before. -/
def overlap : ℚ := past.secondary_seen / (max (request.metadata.secondary_anchor_ids.length : ℤ) 1 : ℤ)

def reusable_ratio : ℚ :=
  min 0.88 ((if past.primary_seen then 0.5 else 0) + 0.28 * overlap request past +
    (if request.metadata.turn_index > 0 then 0.06 else 0))

def reusable_tokens : ℤ := roundHalfEven (request.prompt_len * reusable_ratio request past)

def queue_pressure : ℚ :=
  min 0.95 (0.18 + 0.09 * past.rank_count + (if past.primary_seen then 0.08 else 0) + 0.05 * past.secondary_seen)

def reuse_confidence : ℚ :=
  min 0.98 (0.2 + (if past.primary_seen then 0.45 else 0) + 0.3 * overlap request past)

def transfer_time_ms : ℚ :=
  1.1 + reusable_tokens request past *
      factor TRANSFER_FACTOR_MS_BY_FAMILY 0.0055 request.metadata.workload_family *
    (1 + max (queue_pressure past - 0.3) 0 * 0.75) * (1 + max 0 (0.6 - reuse_confidence request past) * 2.8)

def recompute_time_ms : ℚ :=
  (request.prompt_len * factor RECOMPUTE_FACTOR_MS_BY_FAMILY 0.0116 request.metadata.workload_family +
    request.output_len * 0.01) * (1 + queue_pressure past * 0.18)

/-- The trace in exact arithmetic. -/
def exact_trace (case_id : String) (index : ℕ) : Trace ℚ where
  trace_id := case_id ++ "-" ++ toString index
  workload_case := case_id
  workload_family := request.metadata.workload_family
  reusable_prefix_tokens := reusable_tokens request past
  remote_kv_bytes := reusable_tokens request past * 32768
  transfer_time_ms := roundDecimals (transfer_time_ms request past) 3
  recompute_time_ms := roundDecimals (recompute_time_ms request past) 3
  queue_pressure := roundDecimals (queue_pressure past) 3
  ttft_sensitive := request.metadata.workload_family ∈ TTFT_SENSITIVE_FAMILIES
  reuse_confidence := roundDecimals (reuse_confidence request past) 3
  prompt_len := request.prompt_len
  output_len := request.output_len

theorem make_trace_exact (case_id : String) (index : ℕ) :
    make_trace case_id index request past = .ok (exact_trace request past case_id index) := by
  have htotal : max (request.metadata.secondary_anchor_ids.length : ℤ) 1 ≠ 0 := by omega
  unfold make_trace
  simp only [intDiv_exact _ htotal, ofInt_exact, round_exact, pyMin_exact, pyMax_exact, lit_exact, roundTo_exact]
  rfl

end

/-- What a past can be: a request has no more seen anchors than it has anchors, and no rank
has had less than no requests. -/
structure Past.Possible (past : Past) (request : Request) : Prop where
  secondary_seen : past.secondary_seen ≤ request.metadata.secondary_anchor_ids.length
  rank_count : 0 ≤ past.rank_count

theorem past_of_possible (earlier : List Request) (request : Request) : (past_of earlier request).Possible request where
  secondary_seen := by
    have hfilter := List.length_filter_le (fun anchor_id => earlier.any fun other =>
      anchor_id ∈ other.metadata.secondary_anchor_ids) request.metadata.secondary_anchor_ids.dedup
    have hdedup := (List.dedup_sublist request.metadata.secondary_anchor_ids).length_le
    exact hfilter.trans hdedup
  rank_count := by
    rw [past_of]
    exact Int.natCast_nonneg _

/-- The first past is part of the second. -/
structure Past.Le (past past' : Past) : Prop where
  primary_seen : past.primary_seen = true → past'.primary_seen = true
  secondary_seen : past.secondary_seen ≤ past'.secondary_seen
  rank_count : past.rank_count ≤ past'.rank_count

theorem past_of_mono {earlier later : List Request} (hsublist : earlier.Sublist later) (request : Request) :
    (past_of earlier request).Le (past_of later request) where
  primary_seen := by
    unfold past_of
    simp only [List.any_eq_true]
    rintro ⟨other, hother, hanchor⟩
    exact ⟨other, hsublist.subset hother, hanchor⟩
  secondary_seen := by
    unfold past_of
    refine (List.monotone_filter_right _ ?_).length_le
    intro anchor_id hseen
    rw [List.any_eq_true] at hseen ⊢
    obtain ⟨other, hother, hanchor⟩ := hseen
    exact ⟨other, hsublist.subset hother, hanchor⟩
  rank_count := by
    unfold past_of
    exact Int.ofNat_le.mpr hsublist.countP_le

section

variable {request : Request} {past past' : Past}

theorem overlap_bounds (hpast : past.Possible request) : 0 ≤ overlap request past ∧ overlap request past ≤ 1 := by
  have hseen : (past.secondary_seen : ℚ) ≤ (max (request.metadata.secondary_anchor_ids.length : ℤ) 1 : ℤ) := by
    have hle := hpast.secondary_seen
    exact_mod_cast (by omega : (past.secondary_seen : ℤ) ≤ max (request.metadata.secondary_anchor_ids.length : ℤ) 1)
  have hpos : (0 : ℚ) < (max (request.metadata.secondary_anchor_ids.length : ℤ) 1 : ℤ) := by
    exact_mod_cast (by omega : (0 : ℤ) < max (request.metadata.secondary_anchor_ids.length : ℤ) 1)
  unfold overlap
  constructor
  · positivity
  · rw [div_le_one hpos]
    exact hseen

theorem overlap_mono (hpast : past.Le past') : overlap request past ≤ overlap request past' := by
  have hseen : (past.secondary_seen : ℚ) ≤ past'.secondary_seen := by exact_mod_cast hpast.secondary_seen
  have hpos : (0 : ℚ) < (max (request.metadata.secondary_anchor_ids.length : ℤ) 1 : ℤ) := by
    exact_mod_cast (by omega : (0 : ℤ) < max (request.metadata.secondary_anchor_ids.length : ℤ) 1)
  unfold overlap
  gcongr

/-- A bonus for a seen primary anchor does not go away. -/
theorem bonus_mono (hpast : past.Le past') (bonus : ℚ) (hbonus : 0 ≤ bonus) :
    (if past.primary_seen then bonus else 0) ≤ (if past'.primary_seen then bonus else 0 : ℚ) := by
  cases hseen : past.primary_seen with
  | true => simp [hpast.primary_seen hseen]
  | false =>
    cases past'.primary_seen with
    | true => simpa using hbonus
    | false => simp

theorem bonus_nonneg (bonus : ℚ) (hbonus : 0 ≤ bonus) (seen : Bool) : 0 ≤ (if seen then bonus else 0 : ℚ) := by
  cases seen with
  | true => simpa using hbonus
  | false => simp

theorem reusable_ratio_bounds (hpast : past.Possible request) :
    0 ≤ reusable_ratio request past ∧ reusable_ratio request past ≤ 0.88 := by
  obtain ⟨hoverlap, _⟩ := overlap_bounds hpast
  have hprimary := bonus_nonneg 0.5 (by norm_num) past.primary_seen
  have hturn : (0 : ℚ) ≤ if request.metadata.turn_index > 0 then 0.06 else 0 := by
    split
    · norm_num
    · exact le_rfl
  refine ⟨le_min (by norm_num) ?_, min_le_left _ _⟩
  linarith

theorem reusable_ratio_mono (hpast : past.Le past') : reusable_ratio request past ≤ reusable_ratio request past' := by
  have hoverlap : overlap request past ≤ overlap request past' := overlap_mono hpast
  have hprimary := bonus_mono hpast 0.5 (by norm_num)
  unfold reusable_ratio
  gcongr

theorem reusable_tokens_bounds (hpast : past.Possible request) (hprompt : 0 ≤ request.prompt_len) :
    0 ≤ reusable_tokens request past ∧ reusable_tokens request past ≤ request.prompt_len := by
  obtain ⟨hnonneg, hle⟩ := reusable_ratio_bounds hpast
  have hlen : (0 : ℚ) ≤ request.prompt_len := by exact_mod_cast hprompt
  constructor
  · exact roundHalfEven_nonneg (mul_nonneg hlen hnonneg)
  · rw [← roundHalfEven_intCast request.prompt_len]
    exact roundHalfEven_mono (by nlinarith)

theorem reusable_tokens_mono (hpast : past.Le past') (hprompt : 0 ≤ request.prompt_len) :
    reusable_tokens request past ≤ reusable_tokens request past' := by
  have hratio : reusable_ratio request past ≤ reusable_ratio request past' := reusable_ratio_mono hpast
  have hlen : (0 : ℚ) ≤ request.prompt_len := by exact_mod_cast hprompt
  exact roundHalfEven_mono (by gcongr)

theorem queue_pressure_bounds (hpast : past.Possible request) :
    0.18 ≤ queue_pressure past ∧ queue_pressure past ≤ 0.95 := by
  have hrank : (0 : ℚ) ≤ past.rank_count := by exact_mod_cast hpast.rank_count
  have hprimary := bonus_nonneg 0.08 (by norm_num) past.primary_seen
  have hseen : (0 : ℚ) ≤ past.secondary_seen := by positivity
  refine ⟨le_min (by norm_num) ?_, min_le_left _ _⟩
  linarith

theorem queue_pressure_mono (hpast : past.Le past') : queue_pressure past ≤ queue_pressure past' := by
  have hrank : (past.rank_count : ℚ) ≤ past'.rank_count := by exact_mod_cast hpast.rank_count
  have hseen : (past.secondary_seen : ℚ) ≤ past'.secondary_seen := by exact_mod_cast hpast.secondary_seen
  have hprimary := bonus_mono hpast 0.08 (by norm_num)
  unfold queue_pressure
  gcongr

theorem reuse_confidence_bounds (hpast : past.Possible request) :
    0.2 ≤ reuse_confidence request past ∧ reuse_confidence request past ≤ 0.98 := by
  obtain ⟨hoverlap, _⟩ := overlap_bounds hpast
  have hprimary := bonus_nonneg 0.45 (by norm_num) past.primary_seen
  refine ⟨le_min (by norm_num) ?_, min_le_left _ _⟩
  linarith

theorem reuse_confidence_mono (hpast : past.Le past') :
    reuse_confidence request past ≤ reuse_confidence request past' := by
  have hoverlap : overlap request past ≤ overlap request past' := overlap_mono hpast
  have hprimary := bonus_mono hpast 0.45 (by norm_num)
  unfold reuse_confidence
  gcongr

end

section

theorem factor_nonneg {factors : List (String × ℚ)} {default : ℚ} (hfactors : ∀ item ∈ factors, 0 ≤ item.2)
    (hdefault : 0 ≤ default) (family : String) : 0 ≤ factor factors default family := by
  unfold factor
  cases hfound : factors.find? fun item => item.1 = family with
  | none => exact hdefault
  | some item => exact hfactors item (List.mem_of_find?_eq_some hfound)

theorem transfer_factor_nonneg (family : String) : 0 ≤ factor TRANSFER_FACTOR_MS_BY_FAMILY 0.0055 family := by
  apply factor_nonneg
  · simp only [TRANSFER_FACTOR_MS_BY_FAMILY, List.forall_mem_cons]
    norm_num
  · norm_num

theorem recompute_factor_nonneg (family : String) : 0 ≤ factor RECOMPUTE_FACTOR_MS_BY_FAMILY 0.0116 family := by
  apply factor_nonneg
  · simp only [RECOMPUTE_FACTOR_MS_BY_FAMILY, List.forall_mem_cons]
    norm_num
  · norm_num

variable {request : Request} {past past' : Past}

theorem transfer_time_ms_ge (hpast : past.Possible request) (hprompt : 0 ≤ request.prompt_len) :
    1.1 ≤ transfer_time_ms request past := by
  have htokens : (0 : ℚ) ≤ reusable_tokens request past := by exact_mod_cast (reusable_tokens_bounds hpast hprompt).1
  have hfactor := transfer_factor_nonneg request.metadata.workload_family
  unfold transfer_time_ms
  have hproduct : 0 ≤ reusable_tokens request past *
      factor TRANSFER_FACTOR_MS_BY_FAMILY 0.0055 request.metadata.workload_family *
        (1 + max (queue_pressure past - 0.3) 0 * 0.75) * (1 + max 0 (0.6 - reuse_confidence request past) * 2.8) := by
    have hpressure : 0 ≤ max (queue_pressure past - 0.3) 0 := le_max_right _ _
    have hpenalty : 0 ≤ max 0 (0.6 - reuse_confidence request past) := le_max_left _ _
    positivity
  linarith

theorem recompute_time_ms_nonneg (hpast : past.Possible request) (hprompt : 0 ≤ request.prompt_len)
    (houtput : 0 ≤ request.output_len) : 0 ≤ recompute_time_ms request past := by
  have hprompt' : (0 : ℚ) ≤ request.prompt_len := by exact_mod_cast hprompt
  have houtput' : (0 : ℚ) ≤ request.output_len := by exact_mod_cast houtput
  have hfactor := recompute_factor_nonneg request.metadata.workload_family
  have hpressure : 0 ≤ queue_pressure past := le_trans (by norm_num) (queue_pressure_bounds hpast).1
  unfold recompute_time_ms
  positivity

/-- A number of thousandths is its own rounding. -/
theorem roundDecimals_thousandths (n : ℤ) : roundDecimals (n / 1000) 3 = n / 1000 := by
  have hscaled : (n / 1000 : ℚ) * 10 ^ 3 = n := by ring
  rw [roundDecimals, hscaled, roundHalfEven_intCast]
  norm_num

theorem le_roundDecimals {x : ℚ} (n : ℤ) (hle : n / 1000 ≤ x) : n / 1000 ≤ roundDecimals x 3 := by
  rw [← roundDecimals_thousandths n]
  exact roundDecimals_mono 3 hle

theorem roundDecimals_le {x : ℚ} (n : ℤ) (hle : x ≤ n / 1000) : roundDecimals x 3 ≤ n / 1000 := by
  rw [← roundDecimals_thousandths n]
  exact roundDecimals_mono 3 hle

/-- What the signals of a trace keep to: no more is reused than the prompt has, its bytes
are counted, and times, pressure and confidence are in their ranges. -/
structure Sound (request : Request) (signals : MaterializationSignals ℚ) : Prop where
  tokens_nonneg : 0 ≤ signals.reusable_prefix_tokens
  tokens_le : signals.reusable_prefix_tokens ≤ request.prompt_len
  remote_kv_bytes : signals.remote_kv_bytes = signals.reusable_prefix_tokens * 32768
  transfer_time_ms : 1100 / 1000 ≤ signals.transfer_time_ms
  recompute_time_ms : 0 ≤ signals.recompute_time_ms
  queue_pressure : 180 / 1000 ≤ signals.queue_pressure ∧ signals.queue_pressure ≤ 950 / 1000
  reuse_confidence : 200 / 1000 ≤ signals.reuse_confidence ∧ signals.reuse_confidence ≤ 980 / 1000

theorem exact_trace_sound (hpast : past.Possible request) (hprompt : 0 ≤ request.prompt_len)
    (houtput : 0 ≤ request.output_len) (case_id : String) (index : ℕ) :
    Sound request (build_signals (exact_trace request past case_id index)) := by
  obtain ⟨htokens, htokens_le⟩ := reusable_tokens_bounds hpast hprompt
  obtain ⟨hpressure, hpressure_le⟩ := queue_pressure_bounds hpast
  obtain ⟨hconfidence, hconfidence_le⟩ := reuse_confidence_bounds hpast
  have htransfer := transfer_time_ms_ge hpast hprompt
  have hrecompute := recompute_time_ms_nonneg hpast hprompt houtput
  constructor
  · exact htokens
  · exact htokens_le
  · rfl
  · exact le_roundDecimals 1100 (by linarith)
  · have hzero := le_roundDecimals 0 (x := recompute_time_ms request past) (by simpa using hrecompute)
    rw [Int.cast_zero, zero_div] at hzero
    exact hzero
  · exact ⟨le_roundDecimals 180 (by linarith), roundDecimals_le 950 (by linarith)⟩
  · exact ⟨le_roundDecimals 200 (by linarith), roundDecimals_le 980 (by linarith)⟩

theorem nonNegative_of_le {low value : ℚ} (hlow : 0 ≤ low) (hle : low ≤ value) : pyLe (lit 0) value = true := by
  rw [pyLe_exact, decide_eq_true_eq]
  exact hlow.trans hle

/-- The signals that the study weighs its policies on have no negative value. -/
theorem Sound.nonNegative {signals : MaterializationSignals ℚ} (hsound : Sound request signals) :
    run_offline_study.NonNegative signals where
  reusable_prefix_tokens := hsound.tokens_nonneg
  remote_kv_bytes := by
    have htokens := hsound.tokens_nonneg
    rw [hsound.remote_kv_bytes]
    omega
  transfer_time_ms := nonNegative_of_le (by norm_num) hsound.transfer_time_ms
  recompute_time_ms := nonNegative_of_le le_rfl hsound.recompute_time_ms
  queue_pressure := nonNegative_of_le (by norm_num) hsound.queue_pressure.1
  reuse_confidence := nonNegative_of_le (by norm_num) hsound.reuse_confidence.1

/-- The trace of a request reuses no less than an earlier one, under no less pressure and
with no less confidence. -/
structure Gains (earlier later : Trace ℚ) : Prop where
  reusable_prefix_tokens : earlier.reusable_prefix_tokens ≤ later.reusable_prefix_tokens
  queue_pressure : earlier.queue_pressure ≤ later.queue_pressure
  reuse_confidence : earlier.reuse_confidence ≤ later.reuse_confidence

theorem exact_trace_gains (hpast : past.Le past') (hprompt : 0 ≤ request.prompt_len) (case_id : String)
    (index index' : ℕ) : Gains (exact_trace request past case_id index) (exact_trace request past' case_id index') where
  reusable_prefix_tokens := reusable_tokens_mono hpast hprompt
  queue_pressure := roundDecimals_mono 3 (queue_pressure_mono hpast)
  reuse_confidence := roundDecimals_mono 3 (reuse_confidence_mono hpast)

/-- The traces of a workload are made, one for each request, with sound signals; and a
request that comes again gains by what has come since. -/
theorem workload_traces_sound (case_id : String) (requests : List Request)
    (hlengths : ∀ request ∈ requests, 0 ≤ request.prompt_len ∧ 0 ≤ request.output_len) :
    ∃ traces, workload_case_to_traces case_id true (.ok requests) = .ok traces ∧ traces.length = requests.length ∧
      (∀ (i : ℕ) request trace, requests[i]? = some request → traces[i]? = some trace →
        Sound request (build_signals trace) ∧ run_offline_study.NonNegative (build_signals trace)) ∧
      ∀ (i j : ℕ) request earlier later, i ≤ j → requests[i]? = some request → requests[j]? = some request →
        traces[i]? = some earlier → traces[j]? = some later → Gains earlier later := by
  let made (item : Request × ℕ) : Trace ℚ :=
    exact_trace item.1 (past_of (requests.take item.2) item.1) case_id item.2
  have htraces : workload_case_to_traces case_id true (.ok requests) = .ok (requests.zipIdx.map made) := by
    rw [workload_case_to_traces_eq, ← mapM_ok]
    exact mapM_congr fun item _ => make_trace_exact _ _ _ _
  have hfound : ∀ {i : ℕ} {request : Request} {trace : Trace ℚ}, requests[i]? = some request →
      (requests.zipIdx.map made)[i]? = some trace → trace = made (request, i) := by
    intro i request trace hrequest htrace
    rw [List.getElem?_map, List.getElem?_zipIdx, hrequest] at htrace
    simpa using htrace.symm
  refine ⟨_, htraces, by simp, ?_, ?_⟩
  · intro i request trace hrequest htrace
    obtain rfl := hfound hrequest htrace
    obtain ⟨hprompt, houtput⟩ := hlengths request (List.mem_of_getElem? hrequest)
    have hsound := exact_trace_sound (past_of_possible (requests.take i) request) hprompt houtput case_id i
    exact ⟨hsound, hsound.nonNegative⟩
  · intro i j request earlier later hle hrequest hrequest' hearlier hlater
    obtain rfl := hfound hrequest hearlier
    obtain rfl := hfound hrequest' hlater
    obtain ⟨hprompt, _⟩ := hlengths request (List.mem_of_getElem? hrequest)
    exact exact_trace_gains (past_of_mono (List.take_sublist_take_left hle) request) hprompt case_id i j

end

/-- Two turns of one session, and the first of them again. -/
def sample_requests : List Request := [
  ⟨1000, 64, ⟨"session-affine-multi-turn", "session-1", ["doc-1", "doc-2"], 0, 0⟩⟩,
  ⟨1200, 64, ⟨"session-affine-multi-turn", "session-1", ["doc-1", "doc-2"], 0, 1⟩⟩,
  ⟨1000, 64, ⟨"session-affine-multi-turn", "session-1", ["doc-1", "doc-2"], 0, 0⟩⟩]

theorem workload_traces_sound_sample :
    ∃ traces, workload_case_to_traces "session" true (.ok sample_requests) = .ok traces ∧ traces.length = 3 ∧
      (∀ (i : ℕ) request trace, sample_requests[i]? = some request → traces[i]? = some trace →
        Sound request (build_signals trace) ∧ run_offline_study.NonNegative (build_signals trace)) ∧
      ∀ earlier later, traces[0]? = some earlier → traces[2]? = some later → Gains earlier later := by
  obtain ⟨traces, htraces, hlength, hsound, hgains⟩ := workload_traces_sound "session" sample_requests (by
    intro request hrequest
    simp only [sample_requests, List.mem_cons, List.not_mem_nil, or_false] at hrequest
    obtain rfl | rfl | rfl := hrequest
    · exact ⟨by decide, by decide⟩
    · exact ⟨by decide, by decide⟩
    · exact ⟨by decide, by decide⟩)
  refine ⟨traces, htraces, hlength, hsound, fun earlier later hearlier hlater => ?_⟩
  exact hgains 0 2 _ earlier later (by decide) rfl rfl hearlier hlater

end vllm_kv_materialization.offline_traces
