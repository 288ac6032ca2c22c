import KvMaterialization.Experiments.M2Boundary

open python

namespace aggregate_m2_boundary

section

variable {F : Type}

/-- The cell of a run whose workload and policy are texts. -/
def Row.key (row : Row F) : Option (String × String × ℤ) :=
  match row.workload, row.policy_mode with
  | .str workload, .str policy => some (workload, policy, row.round)
  | _, _ => none

theorem Row.key_eq_some_iff {row : Row F} {workload policy : String} {round : ℤ} :
    row.key = some (workload, policy, round) ↔
      row.workload = .str workload ∧ row.policy_mode = .str policy ∧ row.round = round := by
  unfold Row.key
  split
  · rename_i hworkload hpolicy
    rw [hworkload, hpolicy]
    simp
  · rename_i hother
    simp only [reduceCtorEq, false_iff]
    rintro ⟨hworkload, hpolicy, _⟩
    exact hother workload policy hworkload hpolicy

variable [PyNumber F]

/-- A run is in the cell of a workload, a policy and a round. -/
def Row.in_cell (row : Row F) (cell : String × String × ℤ) : Bool :=
  row.workload.eq (.str cell.1) && row.policy_mode.eq (.str cell.2.1) && decide (row.round = cell.2.2)

/-- Exactly one run for each cell of the matrix, and no run beside them. -/
structure ExactMatrix (runs : List (Row F)) : Prop where
  once : ∀ cell ∈ matrix, (runs.filter fun row => row.in_cell cell).length = 1
  covered : ∀ row ∈ runs, ∃ cell ∈ matrix, row.in_cell cell = true

/-- The runs of a policy on a workload that `boundary_summary` reads, round by round. -/
def indexed_group (runs : List (Row F)) (workload policy : String) : List (Row F) :=
  ROUNDS.filterMap fun round => index_run runs workload round policy

/-- Both summaries are computed from the same runs of each workload and policy. -/
def SameLifecycles (runs : List (Row F)) : Prop :=
  ∀ workload ∈ WORKLOADS, ∀ policy ∈ POLICIES,
    (cell_group runs workload policy).Perm (indexed_group runs workload policy)

theorem matrix_nodup : matrix.Nodup := by decide

theorem mem_matrix {workload policy : String} {round : ℤ} :
    (workload, policy, round) ∈ matrix ↔ workload ∈ WORKLOADS ∧ policy ∈ POLICIES ∧ round ∈ ROUNDS := by
  simp only [matrix, List.mem_flatMap, List.mem_map, Prod.mk.injEq]
  constructor
  · rintro ⟨w, hw, p, hp, r, hr, rfl, rfl, rfl⟩
    exact ⟨hw, hp, hr⟩
  · rintro ⟨hw, hp, hr⟩
    exact ⟨workload, hw, policy, hp, round, hr, rfl, rfl, rfl⟩

theorem eq_str_iff {value : Json F} {text : String} : value.eq (.str text) = true ↔ value = .str text := by
  have hsame : value.eq (.str text) = value.same (.str text) := by
    cases value <;> rfl
  rw [hsame, Json.same_str_iff]

theorem in_cell_iff {row : Row F} {cell : String × String × ℤ} :
    row.in_cell cell = true ↔ row.key = some cell := by
  obtain ⟨workload, policy, round⟩ := cell
  rw [Row.key_eq_some_iff]
  simp only [Row.in_cell, Bool.and_eq_true, eq_str_iff, decide_eq_true_eq, and_assoc]

theorem same_cell_iff {row : Row F} {workload policy : String} {round : ℤ} :
    same_cell (.str workload, .str policy, round) row.cell = true ↔ row.key = some (workload, policy, round) := by
  rw [Row.key_eq_some_iff, same_cell, Bool.and_eq_true, Bool.and_eq_true, Json.str_same_iff, Json.str_same_iff,
    decide_eq_true_iff, and_assoc, eq_comm (a := round)]
  rfl

theorem cell_same_iff {row : Row F} {workload policy : String} {round : ℤ} :
    same_cell row.cell (.str workload, .str policy, round) = true ↔ row.key = some (workload, policy, round) := by
  rw [Row.key_eq_some_iff, same_cell, Bool.and_eq_true, Bool.and_eq_true, Json.same_str_iff, Json.same_str_iff,
    decide_eq_true_iff, and_assoc]
  rfl

/-- An exact matrix is one whose cells are those of the runs, in some order. -/
theorem exactMatrix_iff_perm {runs : List (Row F)} :
    ExactMatrix runs ↔ (runs.map Row.key).Perm (matrix.map some) := by
  have hnodup : (matrix.map some).Nodup := matrix_nodup.map (Option.some_injective _)
  have hcount : ∀ cell,
      (runs.filter fun row => row.in_cell cell).length = (runs.map Row.key).count (some cell) := by
    intro cell
    rw [← List.countP_eq_length_filter, List.count, List.countP_map]
    apply List.countP_congr
    intro row _
    rw [in_cell_iff, Function.comp_apply, beq_iff_eq]
  constructor
  · intro hexact
    rw [List.perm_iff_count]
    intro key
    rw [hnodup.count]
    split
    · rename_i hmem
      obtain ⟨cell, hcell, rfl⟩ := List.mem_map.mp hmem
      rw [← hcount, hexact.once cell hcell]
    · rename_i hmem
      rw [List.count_eq_zero]
      intro hkey
      obtain ⟨row, hrow, rfl⟩ := List.mem_map.mp hkey
      obtain ⟨cell, hcell, hin⟩ := hexact.covered row hrow
      rw [in_cell_iff.mp hin] at hmem
      exact hmem (List.mem_map_of_mem hcell)
  · intro hperm
    constructor
    · intro cell hcell
      rw [hcount, hperm.count_eq, List.count_eq_one_of_mem hnodup (List.mem_map_of_mem hcell)]
    · intro row hrow
      obtain ⟨cell, hcell, hkey⟩ := List.mem_map.mp (hperm.mem_iff.mp (List.mem_map_of_mem hrow))
      exact ⟨cell, hcell, in_cell_iff.mpr hkey.symm⟩

/-- The comparison passes where runs and matrix have the same cells. -/
theorem cells_of_check_matrix {runtime : Runtime F} {runs : List (Row F)}
    (hcheck : check_matrix runtime runs = .ok ()) :
    runs.map Row.key ⊆ matrix.map some ∧ matrix.map some ⊆ runs.map Row.key := by
  unfold check_matrix at hcheck
  dsimp only at hcheck
  split at hcheck
  · cases hcheck
  split at hcheck
  · rename_i hsame
    simp only [Bool.and_eq_true, List.all_eq_true, List.any_eq_true,
      expected, List.mem_map, forall_exists_index, and_imp, forall_apply_eq_imp_iff₂] at hsame
    obtain ⟨hruns, hmatrix⟩ := hsame
    constructor
    · intro key hkey
      obtain ⟨row, hrow, rfl⟩ := List.mem_map.mp hkey
      obtain ⟨_, ⟨cell, hcell, rfl⟩, hsame⟩ := hruns row hrow
      rw [cell_same_iff.mp hsame]
      exact List.mem_map_of_mem hcell
    · intro key hkey
      obtain ⟨cell, hcell, rfl⟩ := List.mem_map.mp hkey
      obtain ⟨_, ⟨row, hrow, rfl⟩, hsame⟩ := hmatrix cell hcell
      rw [← same_cell_iff.mp hsame]
      exact List.mem_map_of_mem hrow
  · simp only [bind_eq_ok_iff] at hcheck
    obtain ⟨missing, _, extra, _, hraise⟩ := hcheck
    cases hraise

/-- Where a collection returns, it has one run for each bundle, and the comparison passed. -/
theorem collect_runs_spec {runtime : Runtime F} {printer : Printer F} {input_dir : InputDir F}
    {runs : List (Row F)} (hruns : collect_runs runtime printer input_dir = .ok runs) :
    runs.length = input_dir.bundles.length ∧ check_matrix runtime runs = .ok () := by
  simp only [collect_runs, bind_eq_ok_iff, pure_eq_ok_iff] at hruns
  obtain ⟨suite, _, status, _, _, _, label, _, _, _, collected, hcollected, _, hmatrix, hruns⟩ := hruns
  obtain ⟨_, _, _, _, _, _, rfl⟩ := hruns
  have hlength := (forall₂_of_mapM_ok hcollected).length_eq
  rw [InputDir.validations, List.length_insertionSort] at hlength
  exact ⟨hlength.symm, hmatrix⟩

theorem matrix_length : matrix.length = 18 := rfl

theorem ExactMatrix.length_eq {runs : List (Row F)} (hexact : ExactMatrix runs) : runs.length = 18 := by
  have hlength := (exactMatrix_iff_perm.mp hexact).length_eq
  rwa [List.length_map, List.length_map, matrix_length] at hlength

/-- As many runs as cells: no cell that is there is there twice. -/
theorem exactMatrix_of_length {runtime : Runtime F} {runs : List (Row F)}
    (hcheck : check_matrix runtime runs = .ok ()) (hlength : runs.length = 18) : ExactMatrix runs := by
  obtain ⟨_, hcovers⟩ := cells_of_check_matrix hcheck
  have hnodup : (matrix.map some).Nodup := matrix_nodup.map (Option.some_injective _)
  have hsubperm := List.subperm_of_subset hnodup hcovers
  rw [exactMatrix_iff_perm]
  refine (hsubperm.perm_of_length_le ?_).symm
  rw [List.length_map, List.length_map, matrix_length, hlength]

section Groups

variable {runs : List (Row F)}

theorem mem_cell_group {workload policy : String} {row : Row F} :
    row ∈ cell_group runs workload policy ↔
      row ∈ runs ∧ row.workload = .str workload ∧ row.policy_mode = .str policy := by
  rw [cell_group, List.mem_filter, Bool.and_eq_true, eq_str_iff, eq_str_iff]

theorem index_run_eq_some {workload policy : String} {round : ℤ} {row : Row F}
    (hrow : index_run runs workload round policy = some row) :
    row ∈ runs ∧ row.key = some (workload, policy, round) := by
  unfold index_run at hrow
  have hsame : same_cell (.str workload, .str policy, round) row.cell = true := by
    simpa using List.find?_some hrow
  exact ⟨List.mem_reverse.mp (List.mem_of_find?_eq_some hrow), same_cell_iff.mp hsame⟩

/-- Of runs with keys of their own, the index keeps each. -/
theorem index_run_of_mem (hkeys : (runs.map Row.key).Nodup) {workload policy : String} {round : ℤ} {row : Row F}
    (hrow : row ∈ runs) (hkey : row.key = some (workload, policy, round)) :
    index_run runs workload round policy = some row := by
  cases hindex : index_run runs workload round policy with
  | none =>
    rw [index_run, List.find?_eq_none] at hindex
    exact absurd (same_cell_iff.mpr hkey) (hindex row (List.mem_reverse.mpr hrow))
  | some other =>
    obtain ⟨hother, hkey'⟩ := index_run_eq_some hindex
    rw [List.inj_on_of_nodup_map hkeys hother hrow (hkey'.trans hkey.symm)]

theorem ExactMatrix.sameLifecycles (hexact : ExactMatrix runs) : SameLifecycles runs := by
  have hperm := exactMatrix_iff_perm.mp hexact
  have hkeys : (runs.map Row.key).Nodup :=
    hperm.nodup_iff.mpr (matrix_nodup.map (Option.some_injective _))
  intro workload hworkload policy hpolicy
  have hgroup : (cell_group runs workload policy).Nodup := hkeys.of_map.filter _
  have hindexed : (indexed_group runs workload policy).Nodup := by
    have hrounds : ROUNDS.Nodup := by decide
    refine hrounds.filterMap ?_
    intro round round' row hrow hrow'
    have hkey := (index_run_eq_some hrow).2.symm.trans (index_run_eq_some hrow').2
    injection hkey with hkey
    injection hkey with _ hkey
    injection hkey
  rw [List.perm_ext_iff_of_nodup hgroup hindexed]
  intro row
  rw [mem_cell_group, indexed_group, List.mem_filterMap]
  constructor
  · rintro ⟨hrow, hw, hp⟩
    have hkey : row.key = some (workload, policy, row.round) := Row.key_eq_some_iff.mpr ⟨hw, hp, rfl⟩
    have hcell := hperm.mem_iff.mp (List.mem_map_of_mem hrow)
    rw [hkey, List.mem_map_of_injective (Option.some_injective _), mem_matrix] at hcell
    exact ⟨row.round, hcell.2.2, index_run_of_mem hkeys hrow hkey⟩
  · rintro ⟨round, _, hindex⟩
    obtain ⟨hrow, hkey⟩ := index_run_eq_some hindex
    obtain ⟨hw, hp, _⟩ := Row.key_eq_some_iff.mp hkey
    exact ⟨hrow, hw, hp⟩

end Groups

/-- A directory that passes holds an exact matrix, out of which both summaries take the
same runs, exactly if it holds as many bundles as the matrix has cells. -/
theorem collect_runs_exact_iff {runtime : Runtime F} {printer : Printer F} {input_dir : InputDir F}
    {runs : List (Row F)} (hruns : collect_runs runtime printer input_dir = .ok runs) :
    (ExactMatrix runs ∧ SameLifecycles runs) ↔ input_dir.bundles.length = 18 := by
  obtain ⟨hlength, hcheck⟩ := collect_runs_spec hruns
  rw [← hlength]
  constructor
  · rintro ⟨hexact, _⟩
    exact hexact.length_eq
  · intro hcount
    have hexact := exactMatrix_of_length hcheck hcount
    exact ⟨hexact, hexact.sameLifecycles⟩

end

/-! Directories whose bundles differ in nothing but their cells and their lifecycles. -/

def sample_bundle (sequence : ℕ) (cell : String × String × ℤ) : Bundle ℚ where
  parts := [toString (100 + sequence), "round_" ++ toString cell.2.2 ++ "_sequence_" ++ toString sequence]
  validation := .ok (.dict [("valid", .bool true), ("engine_accounting", .list [.dict [
    ("realized_decision", .str "recompute"), ("prompt_tokens", .int 384), ("reused_tokens", .int 0),
    ("recomputed_tokens", .int 384), ("lookup_latency_ms", .float 1), ("commit_latency_ms", .float 1),
    ("tail_isolation_latency_ms", .float 0), ("cached_blocks", .int 0)]])])
  run_manifest := some (.ok (.dict [("evidence_label", .str EVIDENCE_LABEL), ("workload_case", .str cell.1),
    ("policy_mode", .str cell.2.1), ("service_lifecycle_id", .str ("lifecycle-" ++ toString sequence))]))
  environment_manifest := some (.ok (.dict [("protocol_fingerprint", .str "protocol")]))
  request_summary := some (.ok (.dict ([("requests", .int 1), ("completed", .int 1)] ++
    METRICS.map fun metric => (metric, .float 10))))
  runtime_observations := some (.ok [.dict [("decision", .str "recompute"),
    ("runtime_effective_decision", .str "recompute"), ("decision_latency_ms", .float 1),
    ("boundary_alignment_latency_ms", .float 0), ("controller_latency_ms", .float 1)]])

def sample_bundles (cells : List (String × String × ℤ)) : List (Bundle ℚ) :=
  cells.zipIdx.map fun cell => sample_bundle cell.2 cell.1

/-- The bundles of these cells, each with a record in the manifest that closes it. -/
def sample_dir (cells : List (String × String × ℤ))
    (distinct : ((sample_bundles cells).map Bundle.parts).Nodup) : InputDir ℚ where
  path := "results"
  name := "results"
  suite_manifest := some (.ok (.dict [("status", .str "completed"), ("evidence_label", .str EVIDENCE_LABEL),
    ("runs", .list (cells.map fun _ => .dict [("returncode", .int 0), ("validation_returncode", .int 0)]))]))
  bundles := sample_bundles cells
  distinct := distinct

def sample_printer : Printer ℚ where
  dumps := Runtime.ascii.reprValue
  set values := ", ".intercalate (values.map Runtime.ascii.reprValue)

def exact_dir : InputDir ℚ := sample_dir matrix (by decide +kernel)

theorem collect_runs_exact_iff_matrix :
    ∃ runs, collect_runs Runtime.ascii sample_printer exact_dir = .ok runs ∧
      ((ExactMatrix runs ∧ SameLifecycles runs) ↔ exact_dir.bundles.length = 18) := by
  have hreturns : Returns (collect_runs Runtime.ascii sample_printer exact_dir) := by
    decide +kernel
  obtain ⟨runs, hruns⟩ := hreturns
  exact ⟨runs, hruns, collect_runs_exact_iff hruns⟩

/-- The matrix with a second run of its first cell, which the suite lists as well. -/
def repeated_dir : InputDir ℚ :=
  sample_dir (matrix ++ [("shared_tool_scaffold_agent", "always_recompute", 1)]) (by decide +kernel)

/-- It passes, and the cell's median is over four runs where its index has three. -/
theorem repeated_cell_collected :
    ∃ runs, collect_runs Runtime.ascii sample_printer repeated_dir = .ok runs ∧
      ¬ ExactMatrix runs ∧ ¬ SameLifecycles runs := by
  have hreturns : Returns (do
      let runs ← collect_runs Runtime.ascii sample_printer repeated_dir
      raiseIf ((cell_group runs "shared_tool_scaffold_agent" "always_recompute").length != 4) "another count") := by
    decide +kernel
  obtain ⟨runs, hruns, hraise⟩ := returns_bind_iff.mp hreturns
  refine ⟨runs, hruns, ?_, ?_⟩
  · intro hexact
    have hlength := (collect_runs_spec hruns).1
    rw [hexact.length_eq] at hlength
    cases hlength
  · intro hsame
    have hpooled : (cell_group runs "shared_tool_scaffold_agent" "always_recompute").length = 4 := by
      obtain ⟨_, hraise⟩ := hraise
      rw [raiseIf_eq_ok_iff] at hraise
      simpa using hraise
    have hperm := hsame "shared_tool_scaffold_agent" (by decide) "always_recompute" (by decide)
    have hindexed : (indexed_group runs "shared_tool_scaffold_agent" "always_recompute").length ≤ 3 :=
      List.length_filterMap_le _ ROUNDS
    rw [← hperm.length_eq, hpooled] at hindexed
    omega

end aggregate_m2_boundary
