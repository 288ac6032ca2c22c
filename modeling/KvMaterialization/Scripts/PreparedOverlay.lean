import KvMaterialization.Python.Numerals
import KvMaterialization.Scripts.OverlayIdentity
import KvMaterialization.Scripts.PrepareTraces

open python
open g0_pathology

namespace prepare_g0_traces

/-- The tokens of a pattern from an offset on, over and over. -/
def repeated (pattern : List ℤ) (length offset : ℕ) : List ℤ :=
  (List.range length).map fun index => pattern.getD ((offset + index) % pattern.length) 0

/-- The tokens that a row shares with the others of its length. -/
def prefix_token_ids (pattern : List ℤ) (index : ℕ) : List ℤ := repeated pattern (prefix_length index) (index % 3 * 3)

def suffix (pattern : List ℤ) (index : ℕ) : List ℤ := repeated pattern SUFFIX_TOKENS (index + 11)

def prompt (pattern : List ℤ) (index : ℕ) : List ℤ := prefix_token_ids pattern index ++ suffix pattern index

section

variable {F : Type} [PyNumber F] (workload : String) (pattern : List ℤ)

/-- The row that is written of an arrival at its place. -/
def written (item : F × ℕ) : Json F :=
  trace_row workload item.1 (prefix_length item.2) (prefix_token_ids pattern item.2) (suffix pattern item.2) item.2

/-- The row that is read back. -/
def accepted (item : F × ℕ) : TraceRow F where
  row := written workload pattern item
  request_id := "g0-" ++ workload ++ "-" ++ index_text item.2
  arrival_s := item.1

variable {pattern}

theorem repeat_to_eq (hpattern : pattern ≠ []) (length offset : ℕ) :
    repeat_to pattern length offset = .ok (repeated pattern length offset) := by
  unfold repeat_to repeated
  rw [← mapM_ok]
  refine mapM_congr fun index _ => ?_
  have hplace : (offset + index) % pattern.length < pattern.length :=
    Nat.mod_lt _ (List.length_pos_iff.mpr hpattern)
  rw [List.getD_eq_getElem?_getD, List.getElem?_eq_getElem hplace]
  rfl

theorem write_trace_eq (hpattern : pattern ≠ []) {arrivals normalized : List F}
    (hnormalized : normalize_one_rps arrivals = .ok normalized) :
    write_trace workload arrivals pattern = .ok (normalized.zipIdx.map (written workload pattern)) := by
  have hprefixes : (PREFIX_TOKENS.zipIdx.mapM fun item => repeat_to pattern item.1 (item.2 * 3)) =
      .ok [repeated pattern 128 0, repeated pattern 256 3, repeated pattern 384 6] := by
    simp only [repeat_to_eq hpattern]
    rfl
  unfold write_trace
  change PREFIX_TOKENS.zipIdx.mapM (fun item => repeat_to pattern item.1 (item.2 * 3)) >>= _ = _
  rw [hprefixes, hnormalized, ← mapM_ok]
  refine mapM_congr fun item _ => ?_
  obtain ⟨arrival, index⟩ := item
  have hgroup : [repeated pattern 128 0, repeated pattern 256 3, repeated pattern 384 6].getD
      (index % PREFIX_TOKENS.length) [] = prefix_token_ids pattern index := by
    change _ = repeated pattern (PREFIX_TOKENS.getD (index % 3) 0) (index % 3 * 3)
    change [repeated pattern 128 0, repeated pattern 256 3, repeated pattern 384 6].getD (index % 3) [] = _
    obtain hzero | hone | htwo : index % 3 = 0 ∨ index % 3 = 1 ∨ index % 3 = 2 := by omega
    · rw [hzero]
      rfl
    · rw [hone]
      rfl
    · rw [htwo]
      rfl
  dsimp only
  rw [repeat_to_eq hpattern, hgroup]
  rfl

end

/-! What the experiment makes of the rows. -/

theorem toList_pushn (c : Char) (n : ℕ) : ("".pushn c n).toList = List.replicate n c := by
  rw [String.pushn_eq_repeat_push]
  induction n with
  | zero => rfl
  | succ n ih => rw [Nat.repeat, String.toList_push, ih, List.replicate_succ']

theorem index_text_value (index : ℕ) : Nat.ofDigitChars 10 (index_text index).toList 0 = index := by
  unfold index_text
  rw [String.toList_append, toList_pushn, Nat.ofDigitChars_append, Nat.ofDigitChars_replicate_zero, Nat.mul_zero,
    Nat.toString_eq_ofList_toDigits, String.toList_ofList, Nat.ofDigitChars_ten_toDigits]

theorem index_text_injective {index index' : ℕ} (heq : index_text index = index_text index') : index = index' := by
  rw [← index_text_value index, heq, index_text_value]

section

variable {F : Type} [PyNumber F] (runtime : Runtime F) (workload : String) (pattern : List ℤ)

/-- Numbered items that are numbered again have the number they had. -/
theorem zipIdx_map_zipIdx {α β : Type} (items : List α) (f : α × ℕ → β) :
    (items.zipIdx.map f).zipIdx = items.zipIdx.map fun item => (f item, item.2) := by
  apply List.ext_getElem?
  intro place
  rw [List.getElem?_zipIdx, List.getElem?_map, List.getElem?_map, List.getElem?_zipIdx]
  cases items[place]? with
  | none => rfl
  | some item => rfl

theorem prompt_ne_nil (pattern : List ℤ) (index : ℕ) : prompt pattern index ≠ [] := by
  have hlength : (suffix pattern index).length = 32 := by
    rw [suffix, repeated, List.length_map, List.length_range]
    rfl
  intro hnil
  rw [prompt, List.append_eq_nil_iff] at hnil
  rw [hnil.2] at hlength
  cases hlength

theorem canonical_row_written (item : F × ℕ) :
    canonical_row runtime (written workload pattern item, item.2) = .ok (accepted workload pattern item) := by
  have htokens : isTokens (.list ((prompt pattern item.2).map .int) : Json F) = true := by
    unfold isTokens
    rw [Bool.and_eq_true]
    constructor
    · simpa using prompt_ne_nil pattern item.2
    · rw [List.all_map, List.all_eq_true]
      exact fun token _ => rfl
  have hrow : canonical_row runtime (written workload pattern item, item.2) =
      (raiseIf (true && !isTokens (.list ((prompt pattern item.2).map .int) : Json F))
        s!"trace row {item.2} needs content/prompt/text or prompt_token_ids" >>= fun _ => .ok
        ⟨written workload pattern item, runtime.str (.str ("g0-" ++ workload ++ "-" ++ index_text item.2)),
          item.1⟩) := rfl
  rw [hrow, htokens, runtime.str_text]
  rfl

theorem canonical_trace_rows_written {normalized : List F} (hne : normalized ≠ []) (path text : String) :
    canonical_trace_rows runtime ⟨path, text, .ok (normalized.zipIdx.map (written workload pattern))⟩ =
      .ok (normalized.zipIdx.map (accepted workload pattern)) := by
  have hempty : (normalized.zipIdx.map (written workload pattern)).isEmpty = false := by simpa using hne
  have hrows : (normalized.zipIdx.map (written workload pattern)).zipIdx.mapM (canonical_row runtime) =
      .ok (normalized.zipIdx.map (accepted workload pattern)) := by
    rw [zipIdx_map_zipIdx, List.mapM_map, ← mapM_ok]
    exact mapM_congr fun item _ => canonical_row_written runtime workload pattern item
  have hids : ((normalized.zipIdx.map (accepted workload pattern)).map TraceRow.request_id).Nodup := by
    have hplaces : (normalized.zipIdx.map Prod.snd).Nodup := by
      rw [List.zipIdx_map_snd]
      exact List.nodup_range'
    rw [List.map_map]
    refine List.Nodup.map_on (fun item hitem item' hitem' heq => ?_) (List.Nodup.of_map _ hplaces)
    have hplace : item.2 = item'.2 := by
      change "g0-" ++ workload ++ "-" ++ index_text item.2 = "g0-" ++ workload ++ "-" ++ index_text item'.2 at heq
      rw [String.append_right_inj] at heq
      exact index_text_injective heq
    exact List.inj_on_of_nodup_map hplaces hitem hitem' hplace
  unfold canonical_trace_rows
  change (raiseIf (normalized.zipIdx.map (written workload pattern)).isEmpty _ >>= fun _ => _) = _
  rw [hempty]
  change ((normalized.zipIdx.map (written workload pattern)).zipIdx.mapM (canonical_row runtime) >>= fun _ => _) = _
  rw [hrows]
  change (raiseIf (!decide ((normalized.zipIdx.map (accepted workload pattern)).map TraceRow.request_id).Nodup) _ >>=
    fun _ => _) = _
  rw [decide_eq_true hids]
  rfl

/-- The row of an overlay that a written row becomes. -/
def overlaid (codec : Codec F) (burst_intensity : String) (arrival_s : F) (item : F × ℕ) : OverlayRow F where
  row := accepted workload pattern item
  arrival_s
  sequence_index := item.2
  prefix_key := s!"{workload}:prefix:{prefix_length item.2}"
  session_key := s!"{workload}:session:{padded_index (item.2 / 4)}"
  content_sha256 := codec.sha256 (codec.compact (.list ((prompt pattern item.2).map .int)))
  target_materialization_bytes := prefix_length item.2 * BYTES_PER_REUSED_TOKEN
  burst_intensity

theorem overlay_row_written (codec : Codec F) {burst_intensity : String} {source_start scale arrival_s : F}
    {item : F × ℕ}
    (harrival : overlay_arrival burst_intensity source_start scale (accepted workload pattern item) item.2 =
      .ok arrival_s) :
    overlay_row runtime codec workload burst_intensity source_start scale (accepted workload pattern item, item.2) =
      .ok (overlaid workload pattern codec burst_intensity arrival_s item) := by
  have hrow : overlay_row runtime codec workload burst_intensity source_start scale
      (accepted workload pattern item, item.2) =
        (overlay_arrival burst_intensity source_start scale (accepted workload pattern item) item.2 >>= fun arrival_s =>
          .ok (overlaid workload pattern codec burst_intensity arrival_s item)) := rfl
  rw [hrow, harrival]
  rfl

end

section

variable {arrivals : List ℚ} {first last : ℚ}

/-- An arrival on the scale of one request a second. -/
def normalized_arrival (arrivals : List ℚ) (first last arrival : ℚ) : ℚ :=
  (arrival - first) * ((arrivals.length : ℚ) - 1) / (last - first)

theorem two_le_length (hfirst : arrivals.head? = some first) (hlast : arrivals.getLast? = some last)
    (hspan : first < last) :
    2 ≤ arrivals.length := by
  by_contra hshort
  obtain hnil | ⟨only, hone⟩ : arrivals = [] ∨ ∃ only, arrivals = [only] := by
    rw [← List.length_eq_zero_iff, ← List.length_eq_one_iff]
    omega
  · rw [hnil] at hfirst
    cases hfirst
  · rw [hone, List.head?_cons, Option.some.injEq] at hfirst
    rw [hone, List.getLast?_singleton, Option.some.injEq] at hlast
    rw [← hfirst, ← hlast] at hspan
    exact lt_irrefl _ hspan

/-- The factor of an overlay of rows that come at one a second. -/
theorem overlay_scale_normalized {burst_intensity : String} {rps : ℚ} (hrps : intensity_rps burst_intensity = .ok rps)
    {rows : List (TraceRow ℚ)} (hlength : 2 ≤ rows.length) (path : String) :
    overlay_scale path burst_intensity rows ((rows.length : ℚ) - 1) = .ok (1 / rps) := by
  have hcount : (0 : ℚ) < (rows.length : ℚ) - 1 := by
    have htwo : (2 : ℚ) ≤ rows.length := by exact_mod_cast hlength
    linarith
  have hpositive : pyLe ((rows.length : ℚ) - 1) (lit 0) = false := by
    rw [← Bool.not_eq_true, pyLe_zero_iff, not_le]
    exact hcount
  have hrpsPos := intensity_rps_pos hrps
  unfold overlay_scale
  rw [hpositive, hrps, ofInt_exact]
  change (PyFloat.div (((rows.length : ℤ) - 1 : ℤ) : ℚ) rps >>= fun target_span =>
    PyFloat.div target_span ((rows.length : ℚ) - 1)) = _
  rw [div_exact _ hrpsPos.ne']
  change PyFloat.div ((((rows.length : ℤ) - 1 : ℤ) : ℚ) / rps) ((rows.length : ℚ) - 1) = _
  rw [div_exact _ hcount.ne']
  push_cast
  congr 1
  field_simp

theorem overlay_arrival_normalized {burst_intensity : String} {rps : ℚ} (hrps : intensity_rps burst_intensity = .ok rps)
    (row : TraceRow ℚ) (index : ℕ) :
    overlay_arrival burst_intensity 0 (1 / rps) row index =
      .ok (if burst_intensity = "low_control" then (index : ℚ) else row.arrival_s / rps) := by
  unfold overlay_arrival
  split
  · rename_i hlow
    subst hlow
    obtain rfl := Except.ok.inj (low_control_rps.symm.trans hrps)
    rw [low_control_rps]
    change PyFloat.div (((index : ℤ) : ℚ)) 1 = _
    rw [div_exact _ one_ne_zero, div_one, Int.cast_natCast]
  · rw [sub_zero, mul_one_div]
    rfl

theorem write_overlay_eq {runtime : Runtime ℚ} {codec : Codec ℚ} {trace : Trace ℚ}
    {output workload burst_intensity : String}
    {rows : List (TraceRow ℚ)} {head final : TraceRow ℚ} {scale : ℚ} {overlay : List (OverlayRow ℚ)}
    (hrows : canonical_trace_rows runtime trace = .ok rows) (hhead : rows.head? = some head)
    (hfinal : rows.getLast? = some final)
    (hscale : overlay_scale trace.path burst_intensity rows (final.arrival_s - head.arrival_s) = .ok scale)
    (hoverlay : rows.zipIdx.mapM (overlay_row runtime codec workload burst_intensity head.arrival_s scale) =
      .ok overlay) :
    ∃ custody, write_overlay runtime codec trace output workload burst_intensity = .ok (overlay, custody) ∧
      custody.requests = overlay.length := by
  refine ⟨{
    trace := trace.path
    trace_sha256 := codec.sha256 trace.text
    overlay := output
    overlay_sha256 := codec.sha256 (overlay_text codec overlay)
    requests := overlay.length
    workload
    burst_intensity
    arrival_transform :=
      if burst_intensity = "low_control" then "uniform_low_concurrency" else "source_shape_scaled" }, ?_, rfl⟩
  unfold write_overlay
  rw [bind_eq_ok_iff]
  refine ⟨rows, hrows, ?_⟩
  rw [hhead, hfinal]
  dsimp only
  rw [bind_eq_ok_iff]
  refine ⟨scale, hscale, ?_⟩
  rw [bind_eq_ok_iff]
  exact ⟨overlay, hoverlay, rfl⟩

/-- What is replayed of an arrival of the source at a rate: the arrivals of the source, moved
to zero and scaled once, or one request a second. -/
def replayed_arrival (arrivals : List ℚ) (burst_intensity : String) (first last rps arrival : ℚ) (index : ℕ) : ℚ :=
  if burst_intensity = "low_control" then index
  else (arrival - first) * (((arrivals.length : ℚ) - 1) / rps) / (last - first)

/-- The trace that is prepared of arrivals that take any time is accepted for every
intensity, and its overlay replays them, scaled as if from the source itself, with the
prompts, the prefixes and the bytes that were written; both scripts count the same bytes. -/
theorem prepared_overlay (runtime : Runtime ℚ) (codec : Codec ℚ) (workload path text output burst_intensity : String)
    (arrivals : List ℚ) (pattern : List ℤ) (first last rps : ℚ) (hfirst : arrivals.head? = some first)
    (hlast : arrivals.getLast? = some last) (hspan : first < last) (hpattern : pattern ≠ [])
    (hrps : intensity_rps burst_intensity = .ok rps) :
    ∃ rows custody, write_trace workload arrivals pattern = .ok rows ∧
      write_overlay runtime codec ⟨path, text, .ok rows⟩ output workload burst_intensity =
        .ok (arrivals.zipIdx.map fun item => overlaid workload pattern codec burst_intensity
          (replayed_arrival arrivals burst_intensity first last rps item.1 item.2)
          (normalized_arrival arrivals first last item.1, item.2), custody) ∧
      custody.requests = arrivals.length ∧ BYTES_PER_REUSED_TOKEN = 31104 := by
  have hlength := two_le_length hfirst hlast hspan
  let normalized := arrivals.map (normalized_arrival arrivals first last)
  have hnormalized : normalize_one_rps arrivals = .ok normalized := normalize_one_rps_exact hfirst hlast hspan
  have hne : normalized ≠ [] := by
    rw [← List.length_pos_iff, List.length_map]
    omega
  let rows := normalized.zipIdx.map (accepted workload pattern)
  have hrows : rows.length = arrivals.length := by simp [rows, normalized]
  have harrivals : rows.map TraceRow.arrival_s = normalized := by
    rw [List.map_map]
    exact List.zipIdx_map_fst 0 normalized
  have hhead : rows.head?.map TraceRow.arrival_s = some 0 := by
    rw [← List.head?_map, harrivals, List.head?_map, hfirst, Option.map_some, normalized_arrival, sub_self, zero_mul,
      zero_div]
  have hend : rows.getLast?.map TraceRow.arrival_s = some ((rows.length : ℚ) - 1) := by
    have hne : last - first ≠ 0 := by linarith
    rw [← List.getLast?_map, harrivals, List.getLast?_map, hlast, Option.map_some, normalized_arrival, hrows,
      mul_div_cancel_left₀ _ hne]
  obtain ⟨head, hhead, hstart⟩ := Option.map_eq_some_iff.mp hhead
  obtain ⟨final, hfinal, hstop⟩ := Option.map_eq_some_iff.mp hend
  have hoverlay : rows.zipIdx.mapM (overlay_row runtime codec workload burst_intensity 0 (1 / rps)) =
      .ok (arrivals.zipIdx.map fun item => overlaid workload pattern codec burst_intensity
        (replayed_arrival arrivals burst_intensity first last rps item.1 item.2)
        (normalized_arrival arrivals first last item.1, item.2)) := by
    rw [zipIdx_map_zipIdx, List.zipIdx_map, List.map_map, List.mapM_map, ← mapM_ok]
    refine mapM_congr fun item _ => ?_
    refine overlay_row_written runtime workload pattern codec ?_
    refine (overlay_arrival_normalized hrps _ _).trans ?_
    unfold replayed_arrival
    split
    · rfl
    · refine congrArg Except.ok ?_
      change normalized_arrival arrivals first last item.1 / rps = _
      unfold normalized_arrival
      ring
  rw [← hstart] at hoverlay
  have hscale : overlay_scale path burst_intensity rows (final.arrival_s - head.arrival_s) = .ok (1 / rps) := by
    rw [hstart, hstop, sub_zero]
    exact overlay_scale_normalized hrps (by omega) path
  have haccepted := canonical_trace_rows_written runtime workload pattern hne path text
  obtain ⟨custody, hwritten, hrequests⟩ : ∃ custody, write_overlay runtime codec
      ⟨path, text, .ok (normalized.zipIdx.map (written workload pattern))⟩ output workload burst_intensity =
        .ok (_, custody) ∧ _ := write_overlay_eq haccepted hhead hfinal hscale hoverlay
  refine ⟨_, custody, write_trace_eq workload hpattern hnormalized, hwritten, ?_, rfl⟩
  rw [hrequests, List.length_map, List.length_zipIdx]

/-- Three requests that are replayed in a sixteenth of a second. -/
theorem prepared_overlay_burst :
    ∃ rows overlay custody, write_trace "burstgpt" [2, 3, 6] [7, 8, 9, 10] = .ok rows ∧
      write_overlay Runtime.ascii Codec.plain ⟨"burstgpt_base.jsonl", "", .ok rows⟩ "overlay.jsonl" "burstgpt" "high" =
        .ok (overlay, custody) ∧
      overlay.map OverlayRow.arrival_s = [0, 1 / 64, 1 / 16] ∧ custody.requests = 3 := by
  obtain ⟨rows, custody, hrows, hwritten, hrequests, _⟩ := prepared_overlay Runtime.ascii Codec.plain "burstgpt"
    "burstgpt_base.jsonl" "" "overlay.jsonl" "high" [2, 3, 6] [7, 8, 9, 10] 2 6 32 rfl rfl (by norm_num) (by decide) rfl
  refine ⟨rows, _, custody, hrows, hwritten, ?_, hrequests⟩
  decide +kernel

end

end prepare_g0_traces
