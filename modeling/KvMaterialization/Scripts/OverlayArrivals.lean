import KvMaterialization.Scripts.Overlay
import Mathlib.Tactic.FieldSimp

open python

namespace g0_pathology

/-- The overlay replays the rows of a trace in their order, from time zero to the end of
the span its rate asks for. -/
structure ValidSchedule (rows : List (TraceRow ℚ)) (rps : ℚ) (overlay : List (OverlayRow ℚ)) : Prop where
  ids : (overlay.map fun row => row.row.request_id) = rows.map TraceRow.request_id
  first : overlay.head?.map OverlayRow.arrival_s = some 0
  sorted : overlay.Pairwise fun earlier later => earlier.arrival_s ≤ later.arrival_s
  last : overlay.getLast?.map OverlayRow.arrival_s = some (((rows.length : ℚ) - 1) / rps)

section

variable {runtime : Runtime ℚ} {codec : Codec ℚ} {trace : Trace ℚ} {workload burst_intensity : String}
  {rows : List (TraceRow ℚ)} {overlay : List (OverlayRow ℚ)}

theorem intensity_rps_pos {rps : ℚ} (hrps : intensity_rps burst_intensity = .ok rps) : 0 < rps := by
  unfold intensity_rps at hrps
  split at hrps
  · rename_i found hfound
    rw [Except.ok.injEq, lit_exact] at hrps
    subst hrps
    obtain ⟨_, _, hmem⟩ := List.lookup_eq_some_iff.mp hfound
    have hall : ∀ item ∈ INTENSITY_RPS, (0 : ℚ) < item.2 := by decide +kernel
    exact hall (burst_intensity, found) (by rw [hmem.1]; simp)
  · cases hrps

/-- A trace whose last arrival is after its first has a second row, and its arrivals are
scaled by a positive factor onto the span that is asked for. -/
theorem overlay_scale_exact {path : String} {span scale : ℚ}
    (hscale : overlay_scale path burst_intensity rows span = .ok scale) :
    ∃ rps, intensity_rps burst_intensity = .ok rps ∧ 0 < span ∧ scale = ((rows.length : ℚ) - 1) / rps / span := by
  unfold overlay_scale at hscale
  rw [bind_eq_ok_iff] at hscale
  obtain ⟨_, hchecked, hscale⟩ := hscale
  have hspan : 0 < span := by
    rw [raiseIf_eq_ok_iff, pyLe, Bool.or_eq_false_iff, lt_exact, lit_exact, decide_eq_false_iff_not] at hchecked
    obtain ⟨hge, hne⟩ := hchecked
    have hne : ¬ span = 0 := of_decide_eq_false hne
    exact lt_of_le_of_ne (not_lt.mp hge) (Ne.symm hne)
  rw [ofInt_exact, bind_eq_ok_iff] at hscale
  obtain ⟨count, hcount, hscale⟩ := hscale
  rw [Except.ok.injEq] at hcount
  rw [bind_eq_ok_iff] at hscale
  obtain ⟨rps, hrps, hscale⟩ := hscale
  rw [div_exact _ (intensity_rps_pos hrps).ne'] at hscale
  have hdiv : PyFloat.div (count / rps) span = .ok scale := hscale
  rw [div_exact _ hspan.ne', Except.ok.injEq] at hdiv
  refine ⟨rps, hrps, hspan, ?_⟩
  rw [← hdiv, ← hcount]
  push_cast
  rfl

/-- Each row has its own arrival, in place. -/
theorem overlay_arrivals {source_start scale : ℚ}
    (hoverlay : List.Forall₂ (fun item row => overlay_row runtime codec workload burst_intensity source_start scale
      item = .ok row) rows.zipIdx overlay) :
    overlay.map (fun row => row.row) = rows ∧
      (overlay.map fun row => (.ok row.arrival_s : Except Exception ℚ)) =
        rows.zipIdx.map fun item => overlay_arrival burst_intensity source_start scale item.1 item.2 := by
  have hrows : rows = rows.zipIdx.map Prod.fst := (List.zipIdx_map_fst 0 rows).symm
  constructor
  · conv_rhs => rw [hrows]
    generalize rows.zipIdx = items at hoverlay
    induction hoverlay with
    | nil => rfl
    | cons hfirst _ ih => rw [List.map_cons, List.map_cons, ih, (overlay_row_spec hfirst).1]
  · generalize rows.zipIdx = items at hoverlay
    induction hoverlay with
    | nil => rfl
    | cons hfirst _ ih => rw [List.map_cons, List.map_cons, ih, (overlay_row_spec hfirst).2.1]

theorem low_control_rps : intensity_rps "low_control" = .ok (1 : ℚ) := rfl

/-- The arrivals as numbers: the indices at low concurrency, else the scaled arrivals of
the trace. -/
theorem overlay_arrivals_exact {source_start scale : ℚ}
    (hoverlay : List.Forall₂ (fun item row => overlay_row runtime codec workload burst_intensity source_start scale
      item = .ok row) rows.zipIdx overlay) :
    overlay.map OverlayRow.arrival_s =
      if burst_intensity = "low_control" then (List.range rows.length).map fun index : ℕ => (index : ℚ)
      else rows.map fun row => (row.arrival_s - source_start) * scale := by
  have hok : ∀ xs ys : List ℚ, (xs.map fun x => (.ok x : Except Exception ℚ)) = ys.map (fun y => .ok y) → xs = ys :=
    fun xs ys => (List.map_injective_iff.mpr fun _ _ => Except.ok.inj).eq_iff.mp
  obtain ⟨_, harrivals⟩ := overlay_arrivals hoverlay
  apply hok
  rw [List.map_map]
  refine harrivals.trans ?_
  split
  · rename_i hlow
    subst hlow
    have hitem : ∀ item : TraceRow ℚ × ℕ, overlay_arrival "low_control" source_start scale item.1 item.2 =
        .ok (item.2 : ℚ) := by
      intro item
      unfold overlay_arrival
      rw [if_pos rfl, low_control_rps]
      change PyFloat.div (((item.2 : ℤ) : ℚ)) 1 = _
      rw [div_exact _ one_ne_zero, div_one, Int.cast_natCast]
    have hindices : List.range rows.length = rows.zipIdx.map Prod.snd := by
      rw [List.zipIdx_map_snd, List.range_eq_range']
    rw [List.map_map, hindices, List.map_map]
    exact List.map_congr_left fun item _ => hitem item
  · rename_i hscaled
    have hitem : ∀ item : TraceRow ℚ × ℕ, overlay_arrival burst_intensity source_start scale item.1 item.2 =
        .ok ((item.1.arrival_s - source_start) * scale) := by
      intro item
      unfold overlay_arrival
      rw [if_neg hscaled]
      rfl
    have hrows : rows = rows.zipIdx.map Prod.fst := (List.zipIdx_map_fst 0 rows).symm
    rw [List.map_map]
    conv_rhs => rw [hrows]
    rw [List.map_map]
    exact List.map_congr_left fun item _ => hitem item

theorem pairwise_scaled_iff {start scale : ℚ} (hscale : 0 < scale) :
    (rows.map fun row => (row.arrival_s - start) * scale).Pairwise (· ≤ ·) ↔
      rows.Pairwise fun earlier later => earlier.arrival_s ≤ later.arrival_s := by
  rw [List.pairwise_map]
  apply List.Pairwise.iff
  intro earlier later
  rw [mul_le_mul_iff_left₀ hscale, sub_le_sub_iff_right]

theorem pairwise_indices (count : ℕ) :
    ((List.range count).map fun index : ℕ => (index : ℚ)).Pairwise (· ≤ ·) := by
  rw [List.pairwise_map]
  refine List.pairwise_lt_range.imp ?_
  intro earlier later hlt
  exact_mod_cast hlt.le

end

/-- Of a trace that is accepted, the overlay is a valid schedule exactly if it is the one
of low concurrency or the arrivals of the trace never go back: between its ends, the
order of a trace is not checked. -/
theorem overlay_schedule_iff {runtime : Runtime ℚ} {codec : Codec ℚ} {trace : Trace ℚ}
    {output workload burst_intensity : String} {overlay : List (OverlayRow ℚ)} {custody : Custody}
    (hwritten : write_overlay runtime codec trace output workload burst_intensity = .ok (overlay, custody)) :
    ∃ rows rps, canonical_trace_rows runtime trace = .ok rows ∧ 2 ≤ rows.length ∧
      intensity_rps burst_intensity = .ok rps ∧
      (ValidSchedule rows rps overlay ↔
        burst_intensity = "low_control" ∨
          rows.Pairwise fun earlier later => earlier.arrival_s ≤ later.arrival_s) := by
  obtain ⟨rows, first, last, scale, hrows, hfirst, hlast, hscale, hoverlay⟩ := write_overlay_spec hwritten
  obtain ⟨rps, hrps, hspan, hscale⟩ := overlay_scale_exact hscale
  obtain ⟨hids, _⟩ := overlay_arrivals hoverlay
  have harrivals := overlay_arrivals_exact hoverlay
  have hlength : 2 ≤ rows.length := by
    by_contra hshort
    have hne : rows ≠ [] := by
      rintro rfl
      cases hfirst
    obtain ⟨only, hone⟩ := List.length_eq_one_iff.mp
      (show rows.length = 1 by have := List.length_pos_iff.mpr hne; omega)
    rw [hone, List.head?_cons, Option.some.injEq] at hfirst
    rw [hone, List.getLast?_singleton, Option.some.injEq] at hlast
    rw [← hfirst, ← hlast, sub_self] at hspan
    exact lt_irrefl 0 hspan
  have hrpsPos := intensity_rps_pos hrps
  have hcount : (0 : ℚ) < (rows.length : ℚ) - 1 := by
    have htwo : (2 : ℚ) ≤ rows.length := by exact_mod_cast hlength
    linarith
  have hscalePos : 0 < scale := by
    rw [hscale]
    positivity
  refine ⟨rows, rps, hrows, hlength, hrps, ?_⟩
  have hidsEq : (overlay.map fun row => row.row.request_id) = rows.map TraceRow.request_id := by
    conv_rhs => rw [← hids, List.map_map]
    rfl
  have hsorted : overlay.Pairwise (fun earlier later => earlier.arrival_s ≤ later.arrival_s) ↔
      (overlay.map OverlayRow.arrival_s).Pairwise (· ≤ ·) := List.pairwise_map.symm
  have hhead : overlay.head?.map OverlayRow.arrival_s = (overlay.map OverlayRow.arrival_s).head? := List.head?_map.symm
  have hend : overlay.getLast?.map OverlayRow.arrival_s = (overlay.map OverlayRow.arrival_s).getLast? :=
    List.getLast?_map.symm
  by_cases hlow : burst_intensity = "low_control"
  · rw [if_pos hlow] at harrivals
    subst hlow
    rw [low_control_rps, Except.ok.injEq] at hrps
    subst hrps
    refine iff_of_true ⟨hidsEq, ?_, ?_, ?_⟩ (.inl rfl)
    · rw [hhead, harrivals, List.head?_map, List.head?_range, if_neg (by omega)]
      simp
    · rw [hsorted, harrivals]
      exact pairwise_indices _
    · rw [hend, harrivals, List.getLast?_map, List.getLast?_range, if_neg (by omega), Option.map_some, div_one,
        Nat.cast_sub (by omega), Nat.cast_one]
  · rw [if_neg hlow] at harrivals
    constructor
    · intro hvalid
      right
      rw [← pairwise_scaled_iff hscalePos, ← harrivals, ← hsorted]
      exact hvalid.sorted
    · rintro (hcontrol | hordered)
      · exact absurd hcontrol hlow
      · refine ⟨hidsEq, ?_, ?_, ?_⟩
        · rw [hhead, harrivals, List.head?_map, hfirst, Option.map_some, sub_self, zero_mul]
        · rw [hsorted, harrivals, pairwise_scaled_iff hscalePos]
          exact hordered
        · rw [hend, harrivals, List.getLast?_map, hlast, Option.map_some, hscale]
          congr 1
          field_simp

/-- A trace of prompts that arrive at the given times. -/
def prompt_trace (arrivals : List ℤ) : Trace ℚ where
  path := "trace.jsonl"
  text := ""
  rows := .ok (arrivals.zipIdx.map fun item => .dict [("id", .int item.2), ("timestamp", .int item.1),
    ("prompt", .str "a")])

/-- A burst of two and a straggler. -/
theorem overlay_schedule_iff_burst :
    ∃ overlay custody rows rps,
      write_overlay Runtime.ascii Codec.plain (prompt_trace [3, 3, 4]) "overlay.jsonl" "burstgpt" "high" =
        .ok (overlay, custody) ∧
      canonical_trace_rows Runtime.ascii (prompt_trace [3, 3, 4]) = .ok rows ∧
      (ValidSchedule rows rps overlay ↔
        "high" = "low_control" ∨ rows.Pairwise fun earlier later => earlier.arrival_s ≤ later.arrival_s) := by
  have hreturns : Returns (write_overlay Runtime.ascii Codec.plain (prompt_trace [3, 3, 4]) "overlay.jsonl"
      "burstgpt" "high") := by decide +kernel
  obtain ⟨⟨overlay, custody⟩, hwritten⟩ := hreturns
  obtain ⟨rows, rps, hrows, _, _, hvalid⟩ := overlay_schedule_iff hwritten
  exact ⟨overlay, custody, rows, rps, hwritten, hrows, hvalid⟩

/-- A trace whose last request arrived before its second one: the overlay sends the
third request ahead of the second. -/
theorem unordered_trace_accepted :
    ((write_overlay Runtime.ascii Codec.plain (prompt_trace [0, 10, 4]) "overlay.jsonl" "burstgpt" "high").map
      fun written => written.1.map OverlayRow.arrival_s) = .ok [0, 5 / 32, 1 / 16] ∧
    ¬ ([0, 5 / 32, 1 / 16] : List ℚ).Pairwise (· ≤ ·) := by
  constructor
  · decide +kernel
  · decide +kernel

end g0_pathology
