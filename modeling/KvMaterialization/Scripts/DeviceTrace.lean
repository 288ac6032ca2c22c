import KvMaterialization.Python.Json
import KvMaterialization.Python.Statistics
import KvMaterialization.Sweep
import Mathlib.Data.Prod.Lex

open python
open MeasureTheory

namespace summarize_wavemat_m0_device_trace

section

variable {F : Type} [PyNumber F]

/-- `x < y` of pairs: the first components decide unless they are equal. -/
def pairLt (x y : F × F) : Bool := if PyNumber.eq x.1 y.1 then lt x.2 y.2 else lt x.1 y.1

/-- `sorted(pairs)` -/
def sortedPairs (pairs : List (F × F)) : List (F × F) :=
  pairs.insertionSort fun x y => pairLt y x = false

/-- `end > right_edge`, the edge being `float("-inf")` at first: above it are the
finite numbers and those above zero. -/
def pastEdge (end_us : F) : Option F → Bool
  | none => (PyNumber.ratio end_us).isSome || lt (lit 0) end_us
  | some right_edge => lt right_edge end_us

/-- `max(start, right_edge)` -/
def maxEdge (start_us : F) : Option F → F
  | none => start_us
  | some right_edge => pyMax start_us right_edge

/-- What the loop keeps: `total_us` and `right_edge`. -/
def advance (swept : F × Option F) (overlap : F × F) : F × Option F :=
  if pastEdge overlap.2 swept.2 then
    (swept.1 + (overlap.2 - maxEdge overlap.1 swept.2), some overlap.2)
  else swept

/-- The parts of the intervals inside the window, for those that reach into it. -/
def overlaps (start_us end_us : F) (compute_intervals : List (F × F)) : List (F × F) :=
  (compute_intervals.filter fun interval => lt interval.1 end_us && lt start_us interval.2).map
    fun interval => (pyMax start_us interval.1, pyMin end_us interval.2)

def interval_union_overlap (start_us end_us : F) (compute_intervals : List (F × F)) : F :=
  ((sortedPairs (overlaps start_us end_us compute_intervals)).foldl advance (lit 0, none)).1

/-- The intervals read off the events of a trace. -/
structure Timeline (F : Type) where
  copies : List (F × F)
  compute : List (F × F)

/-- `except (KeyError, TypeError, ValueError)` -/
def caught : Exception → Bool
  | .key_error _ => true
  | .type_error => true
  | .value_error _ => true
  | _ => false

/-- The start and the end of an event. -/
def event_window (runtime : Runtime F) (event : Json F) : Except Exception (F × F) := do
  let start_us ← (← event.item "ts").toFloat runtime.toInterpreter
  let dur ← (← event.getD "dur" (.float (lit 0))).toFloat runtime.toInterpreter
  return (start_us, start_us + dur)

/-- `event.get("args", {}).get("Task Type", "").startswith(("AI_", "MIX_"))` -/
def is_compute (event : Json F) : Except Exception Bool := do
  let task_type ← (← event.getD "args" (.dict [])).getD "Task Type" (.str "")
  match task_type.str? with
  | some text =>
    return "AI_".toList.isPrefixOf text.toList || "MIX_".toList.isPrefixOf text.toList
  | none => throw .attribute_error

def record_event (runtime : Runtime F) (timeline : Timeline F) (event : Json F) :
    Except Exception (Timeline F) := do
  match ← attempt caught (event_window runtime event) with
  | .inl _ => return timeline
  | .inr window =>
    let name ← event.get "name"
    let copies :=
      if name.eq (.str "AscendCL@aclrtMemcpyBatch") then timeline.copies ++ [window] else timeline.copies
    let computes ← is_compute event
    let compute := if computes then timeline.compute ++ [window] else timeline.compute
    return { copies, compute }

def overlap_ratios (timeline : Timeline F) : Except Exception (List F) :=
  (timeline.copies.filter fun copy => lt copy.1 copy.2).mapM fun copy =>
    PyFloat.div (interval_union_overlap copy.1 copy.2 timeline.compute) (copy.2 - copy.1)

structure Summary (F : Type) where
  trace : String
  copy_batches : ℕ
  npu_compute_tasks : ℕ
  batches_with_any_compute_overlap : ℕ
  batches_fully_covered_by_compute : ℕ
  mean_overlap_ratio : F
  median_overlap_ratio : F
  min_overlap_ratio : F
  max_overlap_ratio : F

/-- `min(values)` or `max(values)`, by what is kept of two values. -/
def extreme (keep : F → F → F) : List F → Except Exception F
  | [] => .error (.value_error "iterable argument is empty")
  | first :: rest => .ok (rest.foldl keep first)

def summarize (runtime : Runtime F) (trace : String) (events : Except Exception (Json F)) :
    Except Exception (Summary F) := do
  let events ← (← events).iterate
  let timeline ← events.foldlM (record_event runtime) ⟨[], []⟩
  raiseIf timeline.copies.isEmpty "No AscendCL@aclrtMemcpyBatch events in trace"
  let ratios ← overlap_ratios timeline
  return {
    trace
    copy_batches := timeline.copies.length
    npu_compute_tasks := timeline.compute.length
    batches_with_any_compute_overlap := ratios.countP fun ratio => lt (lit 0) ratio
    batches_fully_covered_by_compute := ratios.countP fun ratio => pyLe (lit 0.999) ratio
    mean_overlap_ratio := roundTo (← mean ratios) 6
    median_overlap_ratio := roundTo (← median ratios) 6
    min_overlap_ratio := roundTo (← extreme pyMin ratios) 6
    max_overlap_ratio := roundTo (← extreme pyMax ratios) 6 }

end

/-! The exact reading. -/

theorem pairLt_exact (x y : ℚ × ℚ) : pairLt x y = decide (toLex x < toLex y) := by
  unfold pairLt
  rw [Bool.eq_iff_iff, decide_eq_true_eq, Prod.Lex.toLex_lt_toLex]
  change (if decide (x.1 = y.1) then lt x.2 y.2 else lt x.1 y.1) = true ↔ _
  split
  · rename_i heq
    rw [decide_eq_true_eq] at heq
    simp [heq]
  · rename_i hne
    rw [decide_eq_true_eq] at hne
    simp [hne]

theorem sortedPairs_perm (pairs : List (ℚ × ℚ)) : (sortedPairs pairs).Perm pairs :=
  List.perm_insertionSort _ pairs

theorem mem_sortedPairs {pairs : List (ℚ × ℚ)} {pair : ℚ × ℚ} : pair ∈ sortedPairs pairs ↔ pair ∈ pairs :=
  (sortedPairs_perm pairs).mem_iff

theorem sortedPairs_pairwise (pairs : List (ℚ × ℚ)) :
    (sortedPairs pairs).Pairwise fun earlier later => earlier.1 ≤ later.1 := by
  have hkeys : (sortedPairs pairs).map toLex = (pairs.map toLex).insertionSort (· ≤ ·) := by
    apply List.map_insertionSort
    intro x _ y _
    rw [pairLt_exact, decide_eq_false_iff_not, not_lt]
  have hsorted := List.pairwise_insertionSort (· ≤ ·) (pairs.map toLex)
  rw [← hkeys, List.pairwise_map] at hsorted
  refine hsorted.imp ?_
  intro earlier later hle
  obtain hlt | ⟨heq, _⟩ := Prod.Lex.toLex_le_toLex.mp hle
  · exact hlt.le
  · exact heq.le

theorem pastEdge_exact (end_us : ℚ) (edge : Option ℚ) :
    pastEdge end_us edge = true ↔ sweep.passed edge end_us := by
  cases edge with
  | none =>
    simp [pastEdge, sweep.passed, PyNumber.ratio]
  | some right_edge => simp [pastEdge, sweep.passed]

theorem maxEdge_exact (start_us : ℚ) (edge : Option ℚ) : maxEdge start_us edge = sweep.fromEdge edge start_us := by
  cases edge with
  | none => rfl
  | some right_edge => exact pyMax_exact start_us right_edge

/-- The loop adds up the swept length behind its right edge. -/
theorem foldl_advance (pairs : List (ℚ × ℚ)) (total : ℚ) (edge : Option ℚ) :
    (pairs.foldl advance (total, edge)).1 = total + sweep.length edge pairs := by
  induction pairs generalizing total edge with
  | nil => exact (add_zero total).symm
  | cons pair rest ih =>
    rw [List.foldl_cons, advance, sweep.length]
    by_cases hpast : sweep.passed edge pair.2
    · rw [if_pos ((pastEdge_exact _ _).mpr hpast), if_pos hpast, ih, maxEdge_exact, add_assoc]
    · rw [if_neg (mt (pastEdge_exact _ _).mp hpast), if_neg hpast, ih]

variable {start_us end_us : ℚ} {compute_intervals : List (ℚ × ℚ)}

theorem interval_union_overlap_exact (start_us end_us : ℚ) (compute_intervals : List (ℚ × ℚ)) :
    interval_union_overlap start_us end_us compute_intervals =
      sweep.length none (sortedPairs (overlaps start_us end_us compute_intervals)) := by
  unfold interval_union_overlap
  rw [foldl_advance]
  exact zero_add _

theorem mem_overlaps {pair : ℚ × ℚ} :
    pair ∈ overlaps start_us end_us compute_intervals ↔ ∃ interval ∈ compute_intervals,
      interval.1 < end_us ∧ start_us < interval.2 ∧
        pair = (max start_us interval.1, min end_us interval.2) := by
  simp only [overlaps, List.mem_map, List.mem_filter, lt_exact, Bool.and_eq_true, decide_eq_true_eq,
    pyMax_exact, pyMin_exact, and_assoc, @eq_comm _ pair]

theorem overlaps_ordered (hwindow : start_us ≤ end_us)
    (hordered : ∀ interval ∈ compute_intervals, interval.1 ≤ interval.2) :
    ∀ pair ∈ overlaps start_us end_us compute_intervals, pair.1 ≤ pair.2 := by
  intro pair hpair
  obtain ⟨interval, hmem, hstart, hend, rfl⟩ := mem_overlaps.mp hpair
  exact max_le (le_min hwindow hend.le) (le_min hstart.le (hordered interval hmem))

/-- Clipping to the window is intersecting with it. -/
theorem union_overlaps (start_us end_us : ℚ) (compute_intervals : List (ℚ × ℚ)) :
    sweep.union (overlaps start_us end_us compute_intervals) =
      sweep.union compute_intervals ∩ sweep.segment (start_us, end_us) := by
  ext x
  rw [Set.mem_inter_iff, sweep.mem_union, sweep.mem_union]
  constructor
  · rintro ⟨pair, hpair, hx⟩
    obtain ⟨interval, hmem, _, _, rfl⟩ := mem_overlaps.mp hpair
    simp only [sweep.segment, Set.mem_Ioc, Rat.cast_max, Rat.cast_min, max_lt_iff, le_min_iff] at hx ⊢
    exact ⟨⟨interval, hmem, hx.1.2, hx.2.2⟩, hx.1.1, hx.2.1⟩
  · rintro ⟨⟨interval, hmem, hx⟩, hwindow⟩
    refine ⟨_, mem_overlaps.mpr ⟨interval, hmem, ?_, ?_, rfl⟩, ?_⟩
    · exact_mod_cast hx.1.trans_le hwindow.2
    · exact_mod_cast hwindow.1.trans_le hx.2
    · simp only [sweep.segment, Set.mem_Ioc, Rat.cast_max, Rat.cast_min, max_lt_iff, le_min_iff] at hx hwindow ⊢
      exact ⟨⟨hwindow.1, hx.1⟩, hwindow.2, hx.2⟩

/-- The overlap measures the union of the intervals inside the window. -/
theorem volume_overlap (hwindow : start_us ≤ end_us)
    (hordered : ∀ interval ∈ compute_intervals, interval.1 ≤ interval.2) :
    volume (sweep.union compute_intervals ∩ sweep.segment (start_us, end_us)) =
      ENNReal.ofReal (interval_union_overlap start_us end_us compute_intervals : ℚ) := by
  have hsorted : ∀ pair ∈ sortedPairs (overlaps start_us end_us compute_intervals), pair.1 ≤ pair.2 :=
    fun pair hpair => overlaps_ordered hwindow hordered pair (mem_sortedPairs.mp hpair)
  have hunion : sweep.union (sortedPairs (overlaps start_us end_us compute_intervals)) =
      sweep.union compute_intervals ∩ sweep.segment (start_us, end_us) := by
    rw [← union_overlaps]
    exact (sweep.union_subset fun _ => mem_sortedPairs.mp).antisymm
      (sweep.union_subset fun _ => mem_sortedPairs.mpr)
  rw [← hunion, sweep.volume_union (sortedPairs_pairwise _) hsorted, interval_union_overlap_exact]

theorem overlap_nonneg (hwindow : start_us ≤ end_us)
    (hordered : ∀ interval ∈ compute_intervals, interval.1 ≤ interval.2) :
    0 ≤ interval_union_overlap start_us end_us compute_intervals := by
  rw [interval_union_overlap_exact]
  apply sweep.length_nonneg
  intro pair hpair
  exact overlaps_ordered hwindow hordered pair (mem_sortedPairs.mp hpair)

/-- What covers more has the greater overlap. -/
theorem overlap_le_of_subset {compute_intervals' : List (ℚ × ℚ)} (hwindow : start_us ≤ end_us)
    (hordered : ∀ interval ∈ compute_intervals', interval.1 ≤ interval.2)
    (hsubset : compute_intervals ⊆ compute_intervals') :
    interval_union_overlap start_us end_us compute_intervals ≤
      interval_union_overlap start_us end_us compute_intervals' := by
  have hordered' : ∀ interval ∈ compute_intervals, interval.1 ≤ interval.2 :=
    fun interval hmem => hordered interval (hsubset hmem)
  have hvolume := measure_mono (μ := volume)
    (Set.inter_subset_inter_left (sweep.segment (start_us, end_us)) (sweep.union_subset hsubset))
  rw [volume_overlap hwindow hordered', volume_overlap hwindow hordered] at hvolume
  have hcast : ((interval_union_overlap start_us end_us compute_intervals : ℚ) : ℝ) ≤
      (interval_union_overlap start_us end_us compute_intervals' : ℚ) := by
    apply (ENNReal.ofReal_le_ofReal_iff _).mp hvolume
    exact_mod_cast overlap_nonneg hwindow hordered
  exact_mod_cast hcast

theorem overlap_le_window (hwindow : start_us ≤ end_us)
    (hordered : ∀ interval ∈ compute_intervals, interval.1 ≤ interval.2) :
    interval_union_overlap start_us end_us compute_intervals ≤ end_us - start_us := by
  have hvolume := measure_mono (μ := volume)
    (Set.inter_subset_right (s := sweep.union compute_intervals) (t := sweep.segment (start_us, end_us)))
  rw [volume_overlap hwindow hordered, sweep.segment, Real.volume_Ioc] at hvolume
  have hspan : (0 : ℝ) ≤ end_us - start_us := sub_nonneg.mpr (by exact_mod_cast hwindow)
  have hcast := (ENNReal.ofReal_le_ofReal_iff hspan).mp hvolume
  exact_mod_cast hcast

/-- The overlap is the length of what the compute intervals cover of the copy window.
So it is between nothing and all of the window, it depends on which intervals there
are alone, and an interval more never makes it less. -/
theorem overlap_is_covered_length (start_us end_us : ℚ) (compute_intervals : List (ℚ × ℚ))
    (hwindow : start_us ≤ end_us)
    (hordered : ∀ interval ∈ compute_intervals, interval.1 ≤ interval.2) :
    volume ((⋃ interval ∈ compute_intervals, Set.Icc (interval.1 : ℝ) interval.2) ∩
        Set.Icc (start_us : ℝ) end_us) =
      ENNReal.ofReal (interval_union_overlap start_us end_us compute_intervals : ℚ) ∧
    0 ≤ interval_union_overlap start_us end_us compute_intervals ∧
    interval_union_overlap start_us end_us compute_intervals ≤ end_us - start_us ∧
    (∀ compute_intervals', (∀ interval, interval ∈ compute_intervals' ↔ interval ∈ compute_intervals) →
      interval_union_overlap start_us end_us compute_intervals' =
        interval_union_overlap start_us end_us compute_intervals) ∧
    ∀ compute_intervals', (∀ interval ∈ compute_intervals', interval.1 ≤ interval.2) →
      compute_intervals ⊆ compute_intervals' →
      interval_union_overlap start_us end_us compute_intervals ≤
        interval_union_overlap start_us end_us compute_intervals' := by
  refine ⟨?_, overlap_nonneg hwindow hordered, overlap_le_window hwindow hordered, ?_, ?_⟩
  · have hclosed : Set.Icc (start_us : ℝ) end_us =ᵐ[volume] sweep.segment (start_us, end_us) :=
      Ioc_ae_eq_Icc.symm
    rw [sweep.volume_closed, measure_congr ((Filter.EventuallyEq.refl _ _).inter hclosed),
      volume_overlap hwindow hordered]
  · intro compute_intervals' hsame
    have hordered' : ∀ interval ∈ compute_intervals', interval.1 ≤ interval.2 :=
      fun interval hmem => hordered interval ((hsame interval).mp hmem)
    exact (overlap_le_of_subset hwindow hordered fun _ => (hsame _).mp).antisymm
      (overlap_le_of_subset hwindow hordered' fun _ => (hsame _).mpr)
  · intro compute_intervals' hordered' hsubset
    exact overlap_le_of_subset hwindow hordered' hsubset

/-- Two touching tasks, a nested one, a repeated one and an empty one, against the
window from 2 to 9. -/
theorem overlap_is_covered_length_nested :
    volume ((⋃ interval ∈ [((3 : ℚ), (5 : ℚ)), (1, 3), (4, 4), (3, 5), (3, 4), (8, 12)],
        Set.Icc (interval.1 : ℝ) interval.2) ∩ Set.Icc ((2 : ℚ) : ℝ) (9 : ℚ)) = ENNReal.ofReal (4 : ℚ) := by
  have hcovered := (overlap_is_covered_length 2 9 [(3, 5), (1, 3), (4, 4), (3, 5), (3, 4), (8, 12)]
    (by norm_num) (by decide +kernel)).1
  have hvalue : interval_union_overlap (2 : ℚ) 9 [(3, 5), (1, 3), (4, 4), (3, 5), (3, 4), (8, 12)] = 4 := by
    decide +kernel
  rw [hvalue] at hcovered
  exact hcovered

end summarize_wavemat_m0_device_trace
