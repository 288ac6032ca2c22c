import KvMaterialization.Experiments.FactorialEffects
import KvMaterialization.Experiments.SuiteEvidence

open python
open aggregate_m2_boundary (reversed_padded_ne_nil round_name_reversed)
open online_suites (SuiteArgs round_name)
open run_online_lifecycle (Condition Seam)
open run_formal_online_matrix (RunSpec build_schedule)

namespace aggregate_online_results

section

variable {F : Type}

/-- The directory of a run, by its path from that of the suite. -/
def scheduled_bundle (spec : RunSpec) (sequence : ℕ) : String :=
  spec.workload ++ "/" ++ spec.seam.name ++ "_" ++ spec.condition.name ++ "/" ++ round_name spec.round_index sequence

/-- The row of a scheduled run. What is measured of it is by its place in the schedule. -/
def scheduled_run (measured : ℕ → List (String × Json F)) (scheduled : RunSpec × ℕ) : Run F where
  bundle := scheduled_bundle scheduled.1 scheduled.2
  workload := scheduled.1.workload
  seam := scheduled.1.seam.name
  condition := scheduled.1.condition.name
  measured := measured scheduled.2

/-- The runs of the suite, in the order they are started in. -/
def schedule : List (RunSpec × ℕ) := build_schedule.zipIdx 1

variable {py : Interpreter F}

/-- The round is read off the path of a bundle, whatever it is below. -/
theorem matched_round_bundle (hpy : Numerals py) (parent : String) (round sequence : ℕ) :
    matched_round py (parent ++ "/" ++ round_name round sequence) = some (padded round) := by
  obtain ⟨hhead, hsequence, hround⟩ := round_name_reversed hpy (parent ++ "/") round sequence
  have hparent : (parent ++ "/").toList.reverse = '/' :: parent.toList.reverse := by
    simp [String.toList_append]
  rw [hparent] at hsequence hround
  unfold matched_round
  dsimp only
  rw [if_neg hhead, hsequence]
  dsimp only
  rw [if_neg (by simp [reversed_padded_ne_nil sequence])]
  rw [show List.drop "_sequence_".toList.reverse.length ('_' :: ("ecneuqes_".toList ++
    ((padded round).toList.reverse ++ '_' :: ("dnuor".toList ++ '/' :: parent.toList.reverse)))) =
    (padded round).toList.reverse ++ '_' :: ("dnuor".toList ++ '/' :: parent.toList.reverse) from rfl, hround]
  dsimp only
  rw [if_neg (by simp [reversed_padded_ne_nil round])]
  simp [List.reverse_reverse, String.ofList_toList]

/-- The key of a scheduled run is that of its cell and its round. -/
def scheduled_key (spec : RunSpec) : Key := (spec.workload, spec.round_index, spec.seam.name, spec.condition.name)

theorem run_entry_scheduled (hpy : Numerals py) (measured : ℕ → List (String × Json F)) (scheduled : RunSpec × ℕ) :
    run_entry py (scheduled_run measured scheduled) =
      .ok (scheduled_key scheduled.1, scheduled_run measured scheduled) := by
  have hround : round_number py (scheduled_run measured scheduled).bundle = .ok (scheduled.1.round_index : ℤ) := by
    unfold round_number scheduled_run scheduled_bundle
    rw [matched_round_bundle hpy]
    dsimp only
    rw [hpy.padded]
  unfold run_entry run_key
  rw [hround]
  rfl

theorem mem_expected {workload : String} (hworkload : workload ∈ FACTORIAL_WORKLOADS) {round : ℤ}
    (hround : round ∈ ROUNDS)
    (seam : Seam) (condition : Condition) : (workload, round, seam.name, condition.name) ∈ expected := by
  have hseam : seam.name ∈ SEAMS := by cases seam <;> decide
  have hcondition : condition.name ∈ CONDITIONS := by cases condition <;> decide
  simp only [expected, List.mem_flatMap, List.mem_map]
  exact ⟨workload, hworkload, round, hround, seam.name, hseam, condition.name, hcondition, rfl⟩

/-- A key tells the seam and the condition of a run. -/
theorem eq_of_scheduled_key {spec : RunSpec} {workload : String} {round : ℤ} {seam : Seam} {condition : Condition}
    (hkey : scheduled_key spec = (workload, round, seam.name, condition.name)) :
    spec.workload = workload ∧ (spec.round_index : ℤ) = round ∧ spec.seam = seam ∧ spec.condition = condition := by
  unfold scheduled_key at hkey
  simp only [Prod.mk.injEq] at hkey
  obtain ⟨hworkload, hround, hseam, hcondition⟩ := hkey
  refine ⟨hworkload, hround, ?_, ?_⟩
  · generalize spec.seam = found at hseam
    cases found <;> cases seam <;> first | rfl | exact absurd hseam (by decide)
  · generalize spec.condition = found at hcondition
    cases found <;> cases condition <;> first | rfl | exact absurd hcondition (by decide)

/-- The schedule has each cell of the design in each round once. -/
theorem scheduled_keys_perm :
    ((schedule.filter fun scheduled => scheduled.1.workload ∈ FACTORIAL_WORKLOADS).map fun scheduled =>
      scheduled_key scheduled.1).Perm expected := by
  decide +kernel

/-- Every cell is scheduled in every round. -/
theorem exists_scheduled {workload : String} (hworkload : workload ∈ FACTORIAL_WORKLOADS) {round : ℤ}
    (hround : round ∈ ROUNDS)
    (seam : Seam) (condition : Condition) : ∃ scheduled ∈ schedule, scheduled.1.workload = workload ∧
      (scheduled.1.round_index : ℤ) = round ∧ scheduled.1.seam = seam ∧ scheduled.1.condition = condition := by
  have hkey := scheduled_keys_perm.mem_iff.mpr (mem_expected hworkload hround seam condition)
  obtain ⟨scheduled, hscheduled, hkey⟩ := List.mem_map.mp hkey
  exact ⟨scheduled, (List.mem_filter.mp hscheduled).1, eq_of_scheduled_key hkey⟩

/-- In whatever order the runs of the schedule are collected, they are the design: each run
of the factorial is the one in its cell and its round. -/
theorem factorial_index_scheduled (hpy : Numerals py) (measured : ℕ → List (String × Json F)) {runs : List (Run F)}
    (hruns : runs.Perm (schedule.map (scheduled_run measured))) :
    ∃ indexed, factorial_index py runs = .ok indexed ∧ ∀ scheduled ∈ schedule,
      scheduled.1.workload ∈ FACTORIAL_WORKLOADS →
      indexed.get? (scheduled_key scheduled.1) = some (scheduled_run measured scheduled) := by
  let entries := (schedule.filter fun scheduled => scheduled.1.workload ∈ FACTORIAL_WORKLOADS).map fun scheduled =>
    (scheduled_key scheduled.1, scheduled_run measured scheduled)
  have hkeys : (entries.map Prod.fst).Perm expected := by
    rw [List.map_map]
    exact scheduled_keys_perm
  have hentries : (factorial (schedule.map (scheduled_run measured))).mapM (run_entry py) = .ok entries := by
    unfold factorial
    rw [List.filter_map, List.mapM_map]
    refine Eq.trans (mapM_congr fun scheduled _ => ?_) (mapM_ok _ _)
    exact run_entry_scheduled hpy measured scheduled
  have hnodup : (entries.map Prod.fst).Nodup := hkeys.nodup_iff.mpr expected_nodup
  have hstarted : factorial_index py (schedule.map (scheduled_run measured)) = .ok ⟨entries, hnodup⟩ :=
    factorial_index_eq_ok_iff.mpr ⟨hentries, hkeys⟩
  have hfactorial := hruns.symm.filter fun row => row.workload ∈ FACTORIAL_WORKLOADS
  obtain ⟨indexed, hindexed, hget⟩ := factorial_index_perm hfactorial hstarted
  refine ⟨indexed, hindexed, fun scheduled hscheduled hfactorial => ?_⟩
  have hentry : (scheduled_key scheduled.1, scheduled_run measured scheduled) ∈ entries :=
    List.mem_map.mpr ⟨scheduled, List.mem_filter.mpr ⟨hscheduled, by simpa using hfactorial⟩, rfl⟩
  rw [hget]
  exact Dict.get?_of_mem ⟨entries, hnodup⟩ hentry

end

def Cell.value {F : Type} (cell : Cell F) : Seam → Condition → F
  | .old, .baseline => cell.old_baseline
  | .old, .tuned => cell.old_tuned
  | .segmented, .baseline => cell.segmented_baseline
  | .segmented, .tuned => cell.segmented_tuned

section Cells

variable {F : Type} {py : Interpreter F}

theorem lookup_run_eq_ok_iff {indexed : Dict Key (Run F)} {key : Key} {row : Run F} :
    lookup_run py indexed key = .ok row ↔ indexed.get? key = some row := by
  unfold lookup_run
  cases indexed.get? key with
  | none => simp
  | some found => simp

variable [PyNumber F]

/-- A cell is read off the four runs of its round. -/
theorem read_cell_eq_ok_iff {indexed : Dict Key (Run F)} {workload metric : String} {round : ℤ} {cell : Cell F} :
    read_cell py indexed workload metric round = .ok cell ↔ ∀ (seam : Seam) (condition : Condition),
      ∃ row, indexed.get? (workload, round, seam.name, condition.name) = some row ∧
        row.number py metric = .ok (cell.value seam condition) := by
  unfold read_cell
  simp only [bind_eq_ok_iff, lookup_run_eq_ok_iff, pure_eq_ok_iff]
  constructor
  · rintro ⟨_, hold_baseline, _, hold_tuned, _, hsegmented_baseline, _, hsegmented_tuned, rfl⟩ seam condition
    cases seam with
    | old =>
      cases condition with
      | baseline => exact hold_baseline
      | tuned => exact hold_tuned
    | segmented =>
      cases condition with
      | baseline => exact hsegmented_baseline
      | tuned => exact hsegmented_tuned
  · intro hcells
    exact ⟨_, hcells .old .baseline, _, hcells .old .tuned, _, hcells .segmented .baseline,
      _, hcells .segmented .tuned, rfl⟩

end Cells

section Exact

/-- None of the values that the contrasts are relative to is zero. -/
structure Cell.Comparable (cell : Cell ℚ) : Prop where
  old_baseline : cell.old_baseline ≠ 0
  segmented_baseline : cell.segmented_baseline ≠ 0
  old : cell.old_baseline + cell.old_tuned ≠ 0
  baseline : cell.old_baseline + cell.segmented_baseline ≠ 0

/-- The library's functions return where they are defined. -/
structure Roots.Defined (roots : Roots ℚ) : Prop where
  stdev : ∀ values, 2 ≤ values.length → Returns (roots.stdev values)
  sqrt : ∀ x, 0 < x → ∃ root, roots.sqrt x = .ok root ∧ root ≠ 0

theorem mean_exact {values : List ℚ} (hne : values ≠ []) : mean values = .ok (values.sum / values.length) := by
  have hratio : values.mapM (PyNumber.ratio : ℚ → Option ℚ) = some values :=
    (List.mapM_pure (m := Option) (l := values) (f := id)).trans (by rw [List.map_id]; rfl)
  unfold mean
  rw [if_neg hne, hratio]
  rfl

theorem relative_delta_returns_iff (numerator denominator : ℚ) (label : String) :
    Returns (relative_delta numerator denominator label) ↔ denominator ≠ 0 := by
  unfold relative_delta raiseIf
  by_cases hzero : denominator = 0
  · have heq : PyNumber.eq denominator (lit 0) = true := decide_eq_true hzero
    rw [heq, if_pos rfl]
    exact iff_of_false (by rintro ⟨_, hreturned⟩; cases hreturned) (not_not.mpr hzero)
  · have heq : PyNumber.eq denominator (lit 0) = false := decide_eq_false hzero
    rw [heq, div_exact numerator hzero]
    exact iff_of_true (returns_ok _) hzero

/-- A round has its contrasts exactly if it can be compared, and it has one for each effect. -/
theorem contrasts_returns_iff (cell : Cell ℚ) :
    (Returns (contrasts cell) ↔ cell.Comparable) ∧
      ∀ found, contrasts cell = .ok found → found.map Contrast.effect = EFFECTS := by
  have hmean : ∀ x y : ℚ, mean [x, y] = .ok ((x + y) / 2) := by
    intro x y
    rw [mean_exact (by simp)]
    simp
  constructor
  · unfold contrasts
    simp only [hmean, returns_bind_iff, Except.ok.injEq, exists_eq_left']
    constructor
    · rintro ⟨_, hsegmented, _, hold, _, hseam, _, htuning, _⟩
      have hsegmented := (relative_delta_returns_iff _ _ _).mp ⟨_, hsegmented⟩
      have hold := (relative_delta_returns_iff _ _ _).mp ⟨_, hold⟩
      have hseam := (relative_delta_returns_iff _ _ _).mp ⟨_, hseam⟩
      have htuning := (relative_delta_returns_iff _ _ _).mp ⟨_, htuning⟩
      exact ⟨hold, hsegmented, (div_ne_zero_iff.mp hseam).1, (div_ne_zero_iff.mp htuning).1⟩
    · intro hcomparable
      obtain ⟨_, hsegmented⟩ := (relative_delta_returns_iff cell.segmented_tuned _ "segmented tuning effect").mpr
        hcomparable.segmented_baseline
      obtain ⟨_, hold⟩ := (relative_delta_returns_iff cell.old_tuned _ "old-seam tuning effect").mpr
        hcomparable.old_baseline
      obtain ⟨_, hseam⟩ := (relative_delta_returns_iff ((cell.segmented_baseline + cell.segmented_tuned) / 2) _
        "seam main effect").mpr (div_ne_zero hcomparable.old (by norm_num : (2 : ℚ) ≠ 0))
      obtain ⟨_, htuning⟩ := (relative_delta_returns_iff ((cell.old_tuned + cell.segmented_tuned) / 2) _
        "tuning main effect").mpr (div_ne_zero hcomparable.baseline (by norm_num : (2 : ℚ) ≠ 0))
      obtain ⟨_, hendpoint⟩ := (relative_delta_returns_iff cell.segmented_tuned _ "endpoint contrast").mpr
        hcomparable.old_baseline
      exact ⟨_, hsegmented, _, hold, _, hseam, _, htuning, _, hendpoint, returns_pure _⟩
  · intro found hfound
    unfold contrasts at hfound
    simp only [bind_eq_ok_iff, pure_eq_ok_iff] at hfound
    obtain ⟨_, _, _, _, _, _, _, _, _, _, _, _, _, _, _, _, _, _, rfl⟩ := hfound
    rfl

/-- Three values have a mean with its interval. -/
theorem mean_ci_returns {roots : Roots ℚ} (hroots : roots.Defined) {values : List ℚ} (hlength : values.length = 3) :
    Returns (mean_ci roots values) := by
  obtain ⟨deviation, hdeviation⟩ := hroots.stdev values (by omega)
  obtain ⟨root, hroot, hne⟩ := hroots.sqrt (values.length : ℤ) (by rw [hlength]; norm_num)
  have hnonempty : values ≠ [] := by
    rintro rfl
    cases hlength
  unfold mean_ci raiseIf
  rw [mean_exact hnonempty, hdeviation, if_neg (by simpa using hlength), ofInt_exact]
  simp only [returns_bind_iff, Except.ok.injEq, exists_eq_left', hroot, div_exact _ hne]
  exact ⟨(), trivial, returns_pure _⟩

/-- Rounds with one contrast for each effect have as many values of an effect as there are rounds. -/
theorem values_by_effect_length {rounds : List (List (Contrast ℚ))}
    (hrounds : ∀ found ∈ rounds, found.map Contrast.effect = EFFECTS) {effect : String} (heffect : effect ∈ EFFECTS) :
    (rounds.flatten.filter fun contrast => contrast.effect = effect).length = rounds.length := by
  have hone : EFFECTS.count effect = 1 := List.count_eq_one_of_mem (by decide) heffect
  induction rounds with
  | nil => rfl
  | cons found rest ih =>
    rw [List.forall_mem_cons] at hrounds
    have hfound : (found.filter fun contrast => contrast.effect = effect).length = 1 := by
      rw [← List.countP_eq_length_filter, ← hone, ← hrounds.1, List.count_eq_countP, List.countP_map]
      rfl
    rw [List.flatten_cons, List.filter_append, List.length_append, hfound, ih hrounds.2, List.length_cons]
    omega

theorem summary_returns {roots : Roots ℚ} (hroots : roots.Defined) {workload metric effect : String}
    {rounds : List (Contrast ℚ)} (hthree : (rounds.filter fun contrast => contrast.effect = effect).length = 3) :
    Returns (summary roots workload metric rounds effect) := by
  unfold summary
  refine Returns.bind (mean_ci_returns hroots (by rw [List.length_map, hthree])) fun _ _ => ?_
  exact Returns.bind (mean_ci_returns hroots (by rw [List.length_map, hthree])) fun _ _ => returns_pure _

theorem metric_effects_returns_iff {py : Interpreter ℚ} {roots : Roots ℚ} (hroots : roots.Defined)
    (indexed : Dict Key (Run ℚ)) (workload metric : String) :
    Returns (metric_effects py roots indexed workload metric) ↔
      ∀ round ∈ ROUNDS, ∃ cell, read_cell py indexed workload metric round = .ok cell ∧ cell.Comparable := by
  unfold metric_effects
  rw [returns_bind_iff]
  constructor
  · rintro ⟨rounds, hrounds, _⟩ round hround
    obtain ⟨found, _, hfound⟩ := exists_right_of_mem (forall₂_of_mapM_ok hrounds) hround
    simp only [bind_eq_ok_iff, pure_eq_ok_iff] at hfound
    obtain ⟨cell, hcell, contrasts, hcontrasts, _⟩ := hfound
    exact ⟨cell, hcell, (contrasts_returns_iff cell).1.mp ⟨contrasts, hcontrasts⟩⟩
  · intro hcells
    have hrounds : Returns (ROUNDS.mapM fun round => do
        return (round, ← contrasts (← read_cell py indexed workload metric round))) := by
      refine Returns.mapM fun round hround => ?_
      obtain ⟨cell, hcell, hcomparable⟩ := hcells round hround
      obtain ⟨found, hfound⟩ := (contrasts_returns_iff cell).1.mpr hcomparable
      rw [hcell]
      exact returns_bind_iff.mpr ⟨cell, rfl, returns_bind_iff.mpr ⟨found, hfound, returns_pure _⟩⟩
    obtain ⟨rounds, hrounds⟩ := hrounds
    have hfound : ∀ found ∈ rounds.map Prod.snd, found.map Contrast.effect = EFFECTS := by
      intro found hmem
      obtain ⟨round, hround, rfl⟩ := List.mem_map.mp hmem
      obtain ⟨_, _, hround⟩ := mem_of_mapM_ok hrounds hround
      simp only [bind_eq_ok_iff, pure_eq_ok_iff] at hround
      obtain ⟨cell, _, contrasts, hcontrasts, rfl⟩ := hround
      exact (contrasts_returns_iff cell).2 contrasts hcontrasts
    refine ⟨rounds, hrounds, Returns.bind (Returns.mapM fun effect heffect => ?_) fun _ _ => returns_pure _⟩
    have hvalues := values_by_effect_length hfound heffect
    rw [List.length_map, (forall₂_of_mapM_ok hrounds).length_eq.symm] at hvalues
    exact summary_returns hroots hvalues

/-- The analysis of an index returns exactly if every round can be compared in every metric. -/
theorem factorial_effects_returns_iff {py : Interpreter ℚ} {roots : Roots ℚ} (hroots : roots.Defined)
    {runs : List (Run ℚ)} {indexed : Dict Key (Run ℚ)} (hindexed : factorial_index py runs = .ok indexed) :
    Returns (factorial_effects py roots runs) ↔ ∀ workload ∈ FACTORIAL_WORKLOADS, ∀ metric ∈ PRIMARY_METRICS,
      ∀ round ∈ ROUNDS, ∃ cell, read_cell py indexed workload metric round = .ok cell ∧ cell.Comparable := by
  simp only [← metric_effects_returns_iff hroots]
  unfold factorial_effects
  rw [hindexed, returns_bind_iff]
  simp only [Except.ok.injEq, exists_eq_left', returns_bind_iff]
  constructor
  · rintro ⟨effects, heffects, _⟩ workload hworkload metric hmetric
    obtain ⟨effect, _, heffect⟩ := exists_right_of_mem (forall₂_of_mapM_ok heffects)
      (List.mem_product.mpr ⟨hworkload, hmetric⟩)
    exact ⟨effect, heffect⟩
  · intro hmetrics
    obtain ⟨effects, heffects⟩ := Returns.mapM (f := fun item : String × String =>
      metric_effects py roots indexed item.1 item.2) fun item hitem =>
        hmetrics item.1 (List.mem_product.mp hitem).1 item.2 (List.mem_product.mp hitem).2
    exact ⟨effects, heffects, returns_pure _⟩

/-- Whatever the lifecycles of the schedule have measured, and in whatever order they are
collected, the analysis returns exactly if the rounds can be compared: every cell has the
value that its own run of its own round has measured. -/
theorem scheduled_design_analysed (py : Interpreter ℚ) (roots : Roots ℚ) (hpy : Numerals py) (hroots : roots.Defined)
    (measured : ℕ → List (String × Json ℚ)) (runs : List (Run ℚ))
    (hruns : runs.Perm (schedule.map (scheduled_run measured))) :
    Returns (factorial_effects py roots runs) ↔ ∀ workload ∈ FACTORIAL_WORKLOADS, ∀ metric ∈ PRIMARY_METRICS,
      ∀ round ∈ ROUNDS, ∃ cell : Cell ℚ, cell.Comparable ∧ ∀ scheduled ∈ schedule, scheduled.1.workload = workload →
        (scheduled.1.round_index : ℤ) = round →
        (scheduled_run measured scheduled).number py metric =
          .ok (cell.value scheduled.1.seam scheduled.1.condition) := by
  obtain ⟨indexed, hindexed, hget⟩ := factorial_index_scheduled hpy measured hruns
  rw [factorial_effects_returns_iff hroots hindexed]
  refine forall₂_congr fun workload hworkload => forall₂_congr fun metric _ => forall₂_congr fun round hround =>
    exists_congr fun cell => ?_
  rw [and_comm, read_cell_eq_ok_iff]
  refine and_congr_right fun _ => ?_
  constructor
  · rintro hcells scheduled hscheduled rfl rfl
    obtain ⟨row, hrow, hnumber⟩ := hcells scheduled.1.seam scheduled.1.condition
    have hfound := hget scheduled hscheduled hworkload
    rw [scheduled_key, hrow, Option.some.injEq] at hfound
    rw [← hfound, hnumber]
  · intro hcells seam condition
    obtain ⟨scheduled, hscheduled, rfl, rfl, rfl, rfl⟩ := exists_scheduled hworkload hround seam condition
    exact ⟨_, hget scheduled hscheduled hworkload, hcells scheduled hscheduled rfl rfl⟩

end Exact

/-- The square root, to sixteen digits of its numerator. -/
def root (x : ℚ) : ℚ := Nat.sqrt (x.num.natAbs * x.den * 10 ^ 32) / (x.den * 10 ^ 16)

/-- `stdev` and `sqrt`, taken to sixteen digits. -/
def decimal_roots : Roots ℚ where
  stdev values :=
    if values.length < 2 then .error (.value_error "stdev requires at least two data points")
    else
      let mean := values.sum / values.length
      .ok (root ((values.map fun x => (x - mean) ^ 2).sum / (values.length - 1)))
  sqrt x := if x < 0 then .error (.value_error "math domain error") else .ok (root x)

example : decimal_roots.sqrt 3 = .ok 1.7320508075688772 := by decide +kernel
example : decimal_roots.stdev [4, 5, 6] = .ok 1 := by decide +kernel

theorem root_ne_zero {x : ℚ} (hx : 0 < x) : root x ≠ 0 := by
  have hnum : 0 < x.num.natAbs * x.den * 10 ^ 32 := by
    have hpos : 0 < x.num.natAbs := Int.natAbs_pos.mpr (Rat.num_pos.mpr hx).ne'
    have hden := x.den_pos
    positivity
  have hroot : 0 < Nat.sqrt (x.num.natAbs * x.den * 10 ^ 32) := Nat.sqrt_pos.mpr hnum
  have hden := x.den_pos
  unfold root
  positivity

theorem decimal_roots_defined : decimal_roots.Defined where
  stdev values hlength := by
    unfold decimal_roots
    dsimp only
    rw [if_neg (by omega)]
    exact returns_ok _
  sqrt x hx := by
    refine ⟨root x, ?_, root_ne_zero hx⟩
    unfold decimal_roots
    dsimp only
    rw [if_neg hx.not_gt]

/-- Each lifecycle measures something else of each metric. -/
def measured_at (sequence : ℕ) : List (String × Json ℚ) :=
  PRIMARY_METRICS.zipIdx.map fun item => (item.1, .int (100 * (item.2 + 1) + sequence ^ 2))

/-- What the run in a cell of a round has measured. -/
def measured_in (workload metric : String) (round : ℤ) (seam : Seam) (condition : Condition) : ℚ :=
  match schedule.find? fun scheduled => scheduled.1.workload = workload ∧ (scheduled.1.round_index : ℤ) = round ∧
    scheduled.1.seam = seam ∧ scheduled.1.condition = condition with
  | some scheduled => 100 * (PRIMARY_METRICS.idxOf metric + 1) + scheduled.2 ^ 2
  | none => 0

def measured_cell (workload metric : String) (round : ℤ) : Cell ℚ where
  old_baseline := measured_in workload metric round .old .baseline
  old_tuned := measured_in workload metric round .old .tuned
  segmented_baseline := measured_in workload metric round .segmented .baseline
  segmented_tuned := measured_in workload metric round .segmented .tuned

theorem measured_cell_comparable : ∀ workload ∈ FACTORIAL_WORKLOADS, ∀ metric ∈ PRIMARY_METRICS, ∀ round ∈ ROUNDS,
    (measured_cell workload metric round).Comparable := by
  have hcells : ∀ workload ∈ FACTORIAL_WORKLOADS, ∀ metric ∈ PRIMARY_METRICS, ∀ round ∈ ROUNDS,
      ∀ seam ∈ [Seam.old, .segmented],
      ∀ condition ∈ [Condition.baseline, .tuned], 0 < measured_in workload metric round seam condition := by
    decide +kernel
  intro workload hworkload metric hmetric round hround
  have hcell : ∀ seam condition, 0 < measured_in workload metric round seam condition := by
    intro seam condition
    exact hcells workload hworkload metric hmetric round hround seam (by cases seam <;> decide) condition
      (by cases condition <;> decide)
  exact ⟨(hcell _ _).ne', (hcell _ _).ne', (add_pos (hcell _ _) (hcell _ _)).ne', (add_pos (hcell _ _) (hcell _ _)).ne'⟩

theorem measured_number : ∀ workload ∈ FACTORIAL_WORKLOADS, ∀ metric ∈ PRIMARY_METRICS, ∀ round ∈ ROUNDS,
    ∀ scheduled ∈ schedule, scheduled.1.workload = workload → (scheduled.1.round_index : ℤ) = round →
      (scheduled_run measured_at scheduled).number Interpreter.ascii metric =
        .ok ((measured_cell workload metric round).value scheduled.1.seam scheduled.1.condition) := by
  decide +kernel

theorem scheduled_design_analysed_measured :
    Returns (factorial_effects Interpreter.ascii decimal_roots (schedule.map (scheduled_run measured_at)).reverse) := by
  rw [scheduled_design_analysed Interpreter.ascii decimal_roots ascii_numerals decimal_roots_defined measured_at _
    (List.reverse_perm _)]
  intro workload hworkload metric hmetric round hround
  exact ⟨measured_cell workload metric round, measured_cell_comparable workload hworkload metric hmetric round hround,
    measured_number workload hworkload metric hmetric round hround⟩

/-- What is analysed has one run in each cell of the design and none beside them, and the
analysis depends on nothing but these: not on their order, and not on the other runs. -/
theorem factorial_effects_matched {F : Type} [PyNumber F] (py : Interpreter F) (roots : Roots F) (runs : List (Run F))
    (effects : List (RoundRow F) × List (Summary F)) (heffects : factorial_effects py roots runs = .ok effects) :
    (∃ keys, (factorial runs).mapM (run_key py) = .ok keys ∧ keys.Perm expected) ∧
      ∀ runs', (factorial runs).Perm (factorial runs') → factorial_effects py roots runs' = .ok effects := by
  unfold factorial_effects at heffects ⊢
  rw [bind_eq_ok_iff] at heffects
  obtain ⟨indexed, hindexed, heffects⟩ := heffects
  constructor
  · obtain ⟨hentries, hkeys⟩ := factorial_index_eq_ok_iff.mp hindexed
    exact ⟨_, run_keys_of_entries hentries, hkeys⟩
  · intro runs' hperm
    obtain ⟨indexed', hindexed', hget⟩ := factorial_index_perm hperm hindexed
    rw [bind_eq_ok_iff]
    refine ⟨indexed', hindexed', ?_⟩
    simp only [metric_effects_congr hget]
    exact heffects

theorem factorial_effects_matched_measured :
    ∃ effects,
      factorial_effects Interpreter.ascii decimal_roots (schedule.map (scheduled_run measured_at)) = .ok effects ∧
      factorial_effects Interpreter.ascii decimal_roots (schedule.map (scheduled_run measured_at)).reverse =
        .ok effects := by
  have hreturns : Returns
      (factorial_effects Interpreter.ascii decimal_roots (schedule.map (scheduled_run measured_at))) := by
    obtain ⟨indexed, hindexed, hget⟩ := factorial_index_scheduled ascii_numerals measured_at (.refl _)
    rw [factorial_effects_returns_iff decimal_roots_defined hindexed]
    intro workload hworkload metric hmetric round hround
    refine ⟨measured_cell workload metric round, read_cell_eq_ok_iff.mpr fun seam condition => ?_,
      measured_cell_comparable workload hworkload metric hmetric round hround⟩
    obtain ⟨scheduled, hscheduled, rfl, rfl, rfl, rfl⟩ := exists_scheduled hworkload hround seam condition
    exact ⟨_, hget scheduled hscheduled hworkload,
      measured_number _ hworkload metric hmetric _ hround scheduled hscheduled rfl rfl⟩
  obtain ⟨effects, heffects⟩ := hreturns
  obtain ⟨_, hsame⟩ := factorial_effects_matched Interpreter.ascii decimal_roots _ effects heffects
  refine ⟨effects, heffects, hsame _ ?_⟩
  exact (List.reverse_perm _).symm.filter _

end aggregate_online_results
