import Mathlib.MeasureTheory.Measure.Lebesgue.Basic

open MeasureTheory

namespace sweep

/-- An interval with rational ends, as a part of the line. It is half-open, so that
intervals that only touch share no point. -/
def segment (interval : ℚ × ℚ) : Set ℝ := Set.Ioc (interval.1 : ℝ) interval.2

def union (intervals : List (ℚ × ℚ)) : Set ℝ := ⋃ interval ∈ intervals, segment interval

/-- What lies past an edge, which is the whole line before there is one. -/
def beyond : Option ℚ → Set ℝ
  | none => Set.univ
  | some edge => Set.Ioi (edge : ℝ)

def passed (edge : Option ℚ) (right : ℚ) : Prop := ∀ position ∈ edge, position < right

instance (edge : Option ℚ) (right : ℚ) : Decidable (passed edge right) :=
  inferInstanceAs (Decidable (∀ position ∈ edge, position < right))

/-- The part of an interval past the edge begins here. -/
def fromEdge (edge : Option ℚ) (left : ℚ) : ℚ := edge.elim left (max left)

/-- The length a pass from left to right adds up behind a running right edge. -/
def length (edge : Option ℚ) : List (ℚ × ℚ) → ℚ
  | [] => 0
  | interval :: rest =>
    if passed edge interval.2 then
      (interval.2 - fromEdge edge interval.1) + length (some interval.2) rest
    else length edge rest

theorem mem_union {intervals : List (ℚ × ℚ)} {x : ℝ} :
    x ∈ union intervals ↔ ∃ interval ∈ intervals, x ∈ segment interval := by
  simp [union]

@[simp] theorem union_nil : union [] = ∅ := by simp [union]

theorem union_cons (interval : ℚ × ℚ) (rest : List (ℚ × ℚ)) :
    union (interval :: rest) = segment interval ∪ union rest := by
  ext x
  simp [union]

theorem union_subset {intervals intervals' : List (ℚ × ℚ)} (hsubset : intervals ⊆ intervals') :
    union intervals ⊆ union intervals' := by
  intro x hx
  obtain ⟨interval, hmem, hx⟩ := mem_union.mp hx
  exact mem_union.mpr ⟨interval, hsubset hmem, hx⟩

theorem measurableSet_segment (interval : ℚ × ℚ) : MeasurableSet (segment interval) := measurableSet_Ioc

theorem measurableSet_union (intervals : List (ℚ × ℚ)) : MeasurableSet (union intervals) := by
  induction intervals with
  | nil => simp
  | cons interval rest ih =>
    rw [union_cons]
    exact (measurableSet_segment interval).union ih

theorem measurableSet_beyond (edge : Option ℚ) : MeasurableSet (beyond edge) := by
  cases edge with
  | none => exact MeasurableSet.univ
  | some position => exact measurableSet_Ioi

/-- Past the edge an interval that reaches beyond it is what begins there. -/
theorem segment_inter_beyond (interval : ℚ × ℚ) (edge : Option ℚ) :
    segment interval ∩ beyond edge = segment (fromEdge edge interval.1, interval.2) := by
  cases edge with
  | none => simp [beyond, fromEdge]
  | some position =>
    ext x
    simp only [segment, beyond, fromEdge, Option.elim_some, Set.mem_inter_iff, Set.mem_Ioc, Set.mem_Ioi,
      Rat.cast_max, max_lt_iff]
    tauto

theorem segment_inter_beyond_of_not_passed {interval : ℚ × ℚ} {edge : Option ℚ}
    (hbehind : ¬ passed edge interval.2) : segment interval ∩ beyond edge = ∅ := by
  unfold passed at hbehind
  push Not at hbehind
  obtain ⟨position, hposition, hle⟩ := hbehind
  rw [Option.mem_def.mp hposition, Set.eq_empty_iff_forall_notMem]
  rintro x ⟨⟨_, hx⟩, hbeyond⟩
  have hcast : (interval.2 : ℝ) ≤ position := by exact_mod_cast hle
  exact absurd (hx.trans hcast) (not_le.mpr hbeyond)

/-- Past the edge, an interval and those that begin after it make up what the interval
reaches and what they add past its end. -/
theorem union_cons_inter_beyond {interval : ℚ × ℚ} {rest : List (ℚ × ℚ)} {edge : Option ℚ}
    (hsorted : ∀ later ∈ rest, interval.1 ≤ later.1) (hpassed : passed edge interval.2) :
    union (interval :: rest) ∩ beyond edge =
      segment (fromEdge edge interval.1, interval.2) ∪ (union rest ∩ beyond (some interval.2)) := by
  rw [← segment_inter_beyond, union_cons]
  ext x
  constructor
  · rintro ⟨hfirst | hrest, hbeyond⟩
    · exact .inl ⟨hfirst, hbeyond⟩
    · by_cases hend : x ≤ interval.2
      · obtain ⟨later, hlater, hx⟩ := mem_union.mp hrest
        have hstart : (interval.1 : ℝ) ≤ later.1 := by exact_mod_cast hsorted later hlater
        exact .inl ⟨⟨hstart.trans_lt hx.1, hend⟩, hbeyond⟩
      · exact .inr ⟨hrest, not_le.mp hend⟩
  · rintro (⟨hfirst, hbeyond⟩ | ⟨hrest, hend⟩)
    · exact ⟨.inl hfirst, hbeyond⟩
    · refine ⟨.inr hrest, ?_⟩
      cases edge with
      | none => exact Set.mem_univ x
      | some position =>
        have hposition : (position : ℝ) < interval.2 := by exact_mod_cast hpassed position rfl
        exact hposition.trans hend

theorem fromEdge_le {edge : Option ℚ} {interval : ℚ × ℚ} (hordered : interval.1 ≤ interval.2)
    (hpassed : passed edge interval.2) : fromEdge edge interval.1 ≤ interval.2 := by
  cases edge with
  | none => exact hordered
  | some position => exact max_le hordered (hpassed position rfl).le

theorem length_nonneg (edge : Option ℚ) {intervals : List (ℚ × ℚ)}
    (hordered : ∀ interval ∈ intervals, interval.1 ≤ interval.2) : 0 ≤ length edge intervals := by
  induction intervals generalizing edge with
  | nil => exact le_rfl
  | cons interval rest ih =>
    rw [List.forall_mem_cons] at hordered
    obtain ⟨hfirst, hrest⟩ := hordered
    unfold length
    split
    · rename_i hpassed
      have hle := fromEdge_le hfirst hpassed
      have hlater := ih (some interval.2) hrest
      linarith
    · exact ih edge hrest

/-- Over intervals in the order of their left ends, the pass adds up the length of
their union past the edge. -/
theorem volume_union_inter_beyond (edge : Option ℚ) {intervals : List (ℚ × ℚ)}
    (hsorted : intervals.Pairwise fun earlier later => earlier.1 ≤ later.1)
    (hordered : ∀ interval ∈ intervals, interval.1 ≤ interval.2) :
    volume (union intervals ∩ beyond edge) = ENNReal.ofReal (length edge intervals) := by
  induction intervals generalizing edge with
  | nil => simp [length]
  | cons interval rest ih =>
    rw [List.pairwise_cons] at hsorted
    rw [List.forall_mem_cons] at hordered
    obtain ⟨hfirst, hsorted⟩ := hsorted
    obtain ⟨hle, hordered⟩ := hordered
    unfold length
    split
    · rename_i hpassed
      have hdisjoint : Disjoint (segment (fromEdge edge interval.1, interval.2))
          (union rest ∩ beyond (some interval.2)) := by
        rw [Set.disjoint_left]
        rintro x ⟨_, hend⟩ ⟨_, hbeyond⟩
        exact absurd hend (not_le.mpr hbeyond)
      have hreach : (fromEdge edge interval.1 : ℝ) ≤ interval.2 := by
        exact_mod_cast fromEdge_le hle hpassed
      have hlater : (0 : ℝ) ≤ length (some interval.2) rest := by
        exact_mod_cast length_nonneg (some interval.2) hordered
      rw [union_cons_inter_beyond hfirst hpassed,
        measure_union hdisjoint ((measurableSet_union rest).inter (measurableSet_beyond _)),
        ih (some interval.2) hsorted hordered, segment, Real.volume_Ioc,
        ← ENNReal.ofReal_add (sub_nonneg.mpr hreach) hlater]
      push_cast
      rfl
    · rename_i hbehind
      rw [union_cons, Set.union_inter_distrib_right, segment_inter_beyond_of_not_passed hbehind,
        Set.empty_union]
      exact ih edge hsorted hordered

theorem volume_union {intervals : List (ℚ × ℚ)}
    (hsorted : intervals.Pairwise fun earlier later => earlier.1 ≤ later.1)
    (hordered : ∀ interval ∈ intervals, interval.1 ≤ interval.2) :
    volume (union intervals) = ENNReal.ofReal (length none intervals) := by
  have hvolume := volume_union_inter_beyond none hsorted hordered
  rwa [beyond, Set.inter_univ] at hvolume

/-- With their left ends intervals have the same length. -/
theorem volume_closed (intervals : List (ℚ × ℚ)) (window : Set ℝ) :
    volume ((⋃ interval ∈ intervals, Set.Icc (interval.1 : ℝ) interval.2) ∩ window) =
      volume (union intervals ∩ window) := by
  have hcountable : {interval | interval ∈ intervals}.Countable := intervals.finite_toSet.countable
  have hunion : (⋃ interval ∈ intervals, Set.Icc (interval.1 : ℝ) interval.2) =ᵐ[volume] union intervals :=
    ae_eq_set_biUnion hcountable fun interval _ => Ioc_ae_eq_Icc.symm
  exact measure_congr (hunion.inter (Filter.EventuallyEq.refl _ _))

end sweep
