import KvMaterialization.Scripts.FormalGate

open python

namespace rebuild_g0_formal

open g0_pathology (Spec WORKLOADS INTENSITIES ARMS)

section Rounds

variable {F : Type}

theorem round_file_run (rounds : Rounds F) (run : Run F) (key : Key) :
    (file_run rounds run).round key =
      if key = run.key then (rounds.round run.key).set run.arm run else rounds.round key := by
  rw [Rounds.round, file_run, Dict.get?_set]
  split <;> rfl

theorem by_round_append (runs : List (Run F)) (run : Run F) :
    by_round (runs ++ [run]) = file_run (by_round runs) run := by
  simp [by_round, List.foldl_append]

/-- A run is filed under its own key and arm. -/
theorem mem_of_by_round {runs : List (Run F)} {key : Key} {arm : String} {run : Run F}
    (hrun : ((by_round runs).round key).get? arm = some run) : run ∈ runs ∧ run.key = key ∧ run.arm = arm := by
  induction runs using List.reverseRecOn with
  | nil => cases hrun
  | append_singleton runs last ih =>
    rw [by_round_append, round_file_run] at hrun
    have hearlier : ((by_round runs).round key).get? arm = some run →
        run ∈ runs ++ [last] ∧ run.key = key ∧ run.arm = arm := by
      intro hrun
      obtain ⟨hmem, hfiled⟩ := ih hrun
      exact ⟨List.mem_append_left _ hmem, hfiled⟩
    split at hrun
    · rename_i hkey
      rw [Dict.get?_set] at hrun
      split at hrun
      · rename_i harm
        cases hrun
        exact ⟨List.mem_append_right _ (List.mem_singleton.mpr rfl), hkey.symm, harm.symm⟩
      · rw [← hkey] at hrun
        exact hearlier hrun
    · exact hearlier hrun

/-- Something is filed where a run belongs. -/
theorem exists_by_round {runs : List (Run F)} {run : Run F} (hrun : run ∈ runs) :
    ∃ filed, ((by_round runs).round run.key).get? run.arm = some filed := by
  induction runs using List.reverseRecOn with
  | nil => cases hrun
  | append_singleton runs last ih =>
    rw [by_round_append, round_file_run]
    obtain hearlier | hlast := List.mem_append.mp hrun
    · split
      · rename_i hkey
        rw [Dict.get?_set]
        split
        · exact ⟨last, rfl⟩
        · rw [← hkey]
          exact ih hearlier
      · exact ih hearlier
    · rw [List.mem_singleton.mp hlast, if_pos rfl, Dict.get?_set_self]
      exact ⟨last, rfl⟩

end Rounds

section Loading

/-- The cell and repeat an entry of the schedule belongs to. -/
def specKey (spec : Spec) : Key := (spec.workload, spec.burst_intensity, spec.repeat_)

variable {F : Type} [PyNumber F]

/-- A loaded run carries the fields of its entry. -/
theorem load_run_spec {runtime : Runtime F} {root : String} {directory : RunDir F} {spec : RunSpec} {run : Run F}
    (hrun : load_run runtime root directory spec = .ok run) :
    run.sequence = spec.sequence ∧ run.key = (spec.workload, spec.burst_intensity, spec.repeat_) ∧
      run.arm = spec.arm := by
  unfold load_run at hrun
  dsimp only at hrun
  -- no step before the last one touches these fields
  repeat
    rw [bind_eq_ok_iff] at hrun
    obtain ⟨_, _, hrun⟩ := hrun
  rw [pure_eq_ok_iff] at hrun
  subst hrun
  exact ⟨rfl, rfl, rfl⟩

theorem load_spec_loaded {runtime : Runtime F} {tree : RunTree F} {spec : Spec} {run : Run F}
    (hrun : load_spec runtime tree spec = .ok (.loaded run)) :
    ∃ directory, tree.runs (run_name (runSpec spec)) = some directory ∧
      load_run runtime (tree.path ++ "/" ++ run_name (runSpec spec)) directory (runSpec spec) = .ok run := by
  unfold load_spec at hrun
  dsimp only at hrun
  split at hrun
  · cases hrun
  · rename_i directory hdirectory
    rw [bind_eq_ok_iff] at hrun
    obtain ⟨outcome, houtcome, hrun⟩ := hrun
    unfold attempt at houtcome
    split at houtcome
    · rename_i run' hload
      cases houtcome
      cases hrun
      exact ⟨directory, hdirectory, hload⟩
    · split at houtcome
      · cases houtcome
        cases hrun
      · cases houtcome

theorem load_spec_key {runtime : Runtime F} {tree : RunTree F} {spec : Spec} {run : Run F}
    (hrun : load_spec runtime tree spec = .ok (.loaded run)) : run.key = specKey spec ∧ run.arm = spec.arm := by
  obtain ⟨_, _, hload⟩ := load_spec_loaded hrun
  exact (load_run_spec hload).2

/-- A run loads as before where its directory is kept. -/
theorem load_spec_of_load_run {runtime : Runtime F} {tree : RunTree F} {spec : Spec} {run : Run F}
    {directory : RunDir F} (hdirectory : tree.runs (run_name (runSpec spec)) = some directory)
    (hload : load_run runtime (tree.path ++ "/" ++ run_name (runSpec spec)) directory (runSpec spec) = .ok run) :
    load_spec runtime tree spec = .ok (.loaded run) := by
  unfold load_spec
  dsimp only
  rw [hdirectory]
  dsimp only
  rw [hload]
  rfl

/-- The other tree keeps the directories of the first, and may have more. -/
def RunTree.Extended (tree tree' : RunTree F) : Prop :=
  tree'.path = tree.path ∧ ∀ name directory, tree.runs name = some directory → tree'.runs name = some directory

theorem RunTree.Extended.load_spec {runtime : Runtime F} {tree tree' : RunTree F} (hextended : tree.Extended tree')
    {spec : Spec} {run : Run F} (hrun : load_spec runtime tree spec = .ok (.loaded run)) :
    rebuild_g0_formal.load_spec runtime tree' spec = .ok (.loaded run) := by
  obtain ⟨directory, hdirectory, hload⟩ := load_spec_loaded hrun
  apply load_spec_of_load_run (hextended.2 _ _ hdirectory)
  rw [hextended.1]
  exact hload

/-- The runs the loop over the schedule loads. -/
def load_runs (runtime : Runtime F) (manifest : Manifest) (tree : RunTree F) : Except Exception (List (Run F)) := do
  return (← manifest.schedule.mapM (rebuild_g0_formal.load_spec runtime tree)).filterMap Outcome.value?

theorem mem_load_runs_iff {runtime : Runtime F} {manifest : Manifest} {tree : RunTree F} {runs : List (Run F)}
    (hruns : load_runs runtime manifest tree = .ok runs) {run : Run F} :
    run ∈ runs ↔ ∃ spec ∈ manifest.schedule, rebuild_g0_formal.load_spec runtime tree spec = .ok (.loaded run) := by
  simp only [load_runs, bind_eq_ok_iff, pure_eq_ok_iff] at hruns
  obtain ⟨outcomes, houtcomes, rfl⟩ := hruns
  rw [List.mem_filterMap]
  constructor
  · rintro ⟨outcome, houtcome, hvalue⟩
    obtain ⟨spec, hspec, hload⟩ := mem_of_mapM_ok houtcomes houtcome
    cases outcome with
    | missing sequence => cases hvalue
    | failed error => cases hvalue
    | loaded value =>
      cases hvalue
      exact ⟨spec, hspec, hload⟩
  · rintro ⟨spec, hspec, hload⟩
    obtain ⟨outcome, houtcome, hload'⟩ := exists_right_of_mem (forall₂_of_mapM_ok houtcomes) hspec
    rw [hload, Except.ok.injEq] at hload'
    exact ⟨outcome, houtcome, by rw [← hload']; rfl⟩

end Loading

section Written

/-- A manifest as `init_suite` writes it. -/
structure Written (manifest : Manifest) : Prop where
  sequences : manifest.schedule.map Spec.sequence = List.range' 1 manifest.schedule.length
  workloads : ∀ spec ∈ manifest.schedule, spec.workload ∈ WORKLOADS
  intensities : ∀ spec ∈ manifest.schedule,
    if spec.low_concurrency_control then spec.burst_intensity = "low_control" else spec.burst_intensity ∈ INTENSITIES
  arms : ∀ spec ∈ manifest.schedule, spec.low_concurrency_control = false → ∀ repeat_ ∈ List.range' 1 manifest.repeats,
    ((manifest.schedule.filter fun other =>
      specKey other = (spec.workload, spec.burst_intensity, repeat_)).map Spec.arm).Perm ARMS

/-- The manifest of the suites `init_suite` prepares. -/
def initialized : Manifest := { schedule := g0_pathology.schedule, repeats := g0_pathology.REPEATS }

/-- Every cell that is run under load has its seven arms in each of the repeats. -/
theorem initialized_arms : ∀ workload ∈ WORKLOADS, ∀ intensity ∈ INTENSITIES,
    ∀ repeat_ ∈ List.range' 1 initialized.repeats,
      ((initialized.schedule.filter fun other => specKey other = (workload, intensity, repeat_)).map Spec.arm).Perm
        ARMS := by
  decide +kernel

theorem initialized_written : Written initialized := by
  have hworkloads : ∀ spec ∈ initialized.schedule, spec.workload ∈ WORKLOADS := by decide +kernel
  have hintensities : ∀ spec ∈ initialized.schedule,
      if spec.low_concurrency_control then spec.burst_intensity = "low_control"
      else spec.burst_intensity ∈ INTENSITIES := by decide +kernel
  refine ⟨by decide +kernel, hworkloads, hintensities, ?_⟩
  intro spec hspec hmain repeat_ hrepeat
  have hintensity := hintensities spec hspec
  rw [if_neg (by rw [hmain]; exact Bool.false_ne_true)] at hintensity
  exact initialized_arms _ (hworkloads spec hspec) _ hintensity repeat_ hrepeat

theorem mem_sortedNames {names : List String} {name : String} : name ∈ sortedNames names ↔ name ∈ names := by
  rw [sortedNames, List.mem_insertionSort, List.mem_dedup]

theorem Written.mem_workloads {manifest : Manifest} (hwritten : Written manifest) {workload : String}
    (hworkload : workload ∈ manifest.workloads) : workload ∈ WORKLOADS := by
  obtain ⟨spec, hspec, rfl⟩ := List.mem_map.mp (mem_sortedNames.mp hworkload)
  exact hwritten.workloads spec hspec

theorem Written.mem_intensities {manifest : Manifest} (hwritten : Written manifest) {intensity : String}
    (hintensity : intensity ∈ manifest.intensities) : intensity ∈ INTENSITIES := by
  obtain ⟨spec, hspec, rfl⟩ := List.mem_map.mp (mem_sortedNames.mp hintensity)
  obtain ⟨hspec, hmain⟩ := List.mem_filter.mp hspec
  have hintensities := hwritten.intensities spec hspec
  rwa [if_neg (by simpa using hmain)] at hintensities

/-- The names of the cells tell them apart. -/
theorem cell_name_injective : ∀ workload ∈ WORKLOADS, ∀ intensity ∈ INTENSITIES, ∀ workload' ∈ WORKLOADS,
    ∀ intensity' ∈ INTENSITIES, cell_name workload intensity = cell_name workload' intensity' →
      workload = workload' ∧ intensity = intensity' := by
  decide +kernel

/-- No arm is scheduled twice in a repeat of a cell, and none that is not of the matrix. -/
theorem Written.entry {manifest : Manifest} (hwritten : Written manifest) {spec spec' : Spec}
    (hspec : spec ∈ manifest.schedule) (hspec' : spec' ∈ manifest.schedule) (hkey : specKey spec = specKey spec')
    (hintensity : spec.burst_intensity ∈ INTENSITIES) (hrepeat : spec.repeat_ ∈ List.range' 1 manifest.repeats) :
    spec.arm ∈ ARMS ∧ (spec.arm = spec'.arm → spec = spec') := by
  have hmain : spec.low_concurrency_control = false := by
    rw [Bool.eq_false_iff]
    intro hlow
    have hintensities := hwritten.intensities spec hspec
    rw [if_pos hlow] at hintensities
    rw [hintensities] at hintensity
    revert hintensity
    decide
  have hperm := hwritten.arms spec hspec hmain spec.repeat_ hrepeat
  have hmem : ∀ other ∈ manifest.schedule, specKey other = specKey spec →
      other ∈ manifest.schedule.filter fun other =>
        specKey other = (spec.workload, spec.burst_intensity, spec.repeat_) := by
    intro other hother hother_key
    exact List.mem_filter.mpr ⟨hother, decide_eq_true hother_key⟩
  have hnodup := hperm.nodup_iff.mpr (by decide : ARMS.Nodup)
  constructor
  · exact hperm.mem_iff.mp (List.mem_map.mpr ⟨spec, hmem spec hspec rfl, rfl⟩)
  · exact List.inj_on_of_nodup_map hnodup (hmem spec hspec rfl) (hmem spec' hspec' hkey.symm)

end Written

section Verdict

variable {F : Type}

theorem triggers_eq_nil_iff {row : Cell F} :
    row.triggers = [] ↔ row.reproducible_tail_gate = true ∧ row.materialization_counter_gate = true ∧
      row.generic_equivalent_stop = false := by
  unfold Cell.triggers
  cases row.reproducible_tail_gate <;> cases row.materialization_counter_gate <;>
    cases row.generic_equivalent_stop <;> simp

variable {errors : List String} {missing_sequences : List ℕ} {cells : Dict String (Cell F)}
  {low_controls : Dict String (LowControl F)} {stop_triggers : List StopTrigger}
  {execution_prefix_complete frontier_complete : Bool}

/-- A Go takes a clean run of the whole schedule, none of whose cells raises a trigger. -/
theorem conclude_go (hgo : (conclude errors missing_sequences cells low_controls stop_triggers
      execution_prefix_complete frontier_complete).verdict = .go) :
    errors = [] ∧ missing_sequences = [] ∧ ∀ row ∈ cells.values, row.triggers = [] := by
  unfold conclude at hgo
  split at hgo
  · cases hgo
  · split at hgo
    · rename_i hclean
      dsimp only at hgo
      split at hgo
      · cases hgo
      · rename_i hgeneric
        split at hgo
        · cases hgo
        · rename_i hpathology
          rw [Bool.and_eq_true, List.isEmpty_iff, List.isEmpty_iff] at hclean
          refine ⟨hclean.1, hclean.2, ?_⟩
          intro row hrow
          simp only [Bool.not_eq_true, Bool.not_eq_false', Bool.and_eq_true, List.all_eq_true] at hpathology
          rw [List.any_eq_true, not_exists] at hgeneric
          obtain ⟨htail, hcounter⟩ := hpathology.2 row hrow
          refine triggers_eq_nil_iff.mpr ⟨htail, hcounter, ?_⟩
          exact Bool.eq_false_iff.mpr fun hstop => hgeneric row ⟨hrow, hstop⟩
    · cases hgo

/-- An early stop takes a trigger and no error. -/
theorem conclude_early_stop (hstop : (conclude errors missing_sequences cells low_controls stop_triggers
      execution_prefix_complete frontier_complete).status = .complete_early_stop) :
    errors = [] ∧ stop_triggers ≠ [] := by
  unfold conclude at hstop
  split at hstop
  · rename_i hearly
    simp only [Bool.and_eq_true, Bool.not_eq_true', List.isEmpty_iff, List.isEmpty_eq_false_iff] at hearly
    exact ⟨hearly.2, hearly.1.1⟩
  · dsimp only at hstop
    split at hstop
    · split at hstop
      · cases hstop
      · split at hstop
        · cases hstop
        · split at hstop
          · cases hstop
          · split at hstop
            · cases hstop
            · split at hstop <;> cases hstop
    · cases hstop

/-- A trigger is one of the cell it names. -/
theorem exists_of_stop_triggers (htriggers : report_stop_triggers cells ≠ []) :
    ∃ entry ∈ cells.entries, entry.2.triggers ≠ [] := by
  obtain ⟨trigger, htrigger⟩ := List.exists_mem_of_ne_nil _ htriggers
  obtain ⟨entry, hentry, htrigger⟩ := List.mem_flatMap.mp htrigger
  obtain ⟨found, hfound, _⟩ := List.mem_map.mp htrigger
  exact ⟨entry, (List.mem_insertionSort _).mp hentry, List.ne_nil_of_mem hfound⟩

end Verdict

section Cells

variable {F : Type} [PyNumber F]

/-- The cell is complete in each of its repeats, and this is its evidence. -/
structure CompleteCell (runtime : Runtime F) (manifest : Manifest) (rounds : Rounds F) (workload intensity : String)
    (row : Cell F) : Prop where
  scheduled : workload ∈ manifest.workloads
  loaded : intensity ∈ manifest.intensities
  complete : ∀ arms ∈ cell_rounds manifest rounds workload intensity, sameArms arms MAIN_ARMS = true
  evidence : cell_evidence runtime (cell_rounds manifest rounds workload intensity) = .ok row

theorem cell_entry_some_iff {runtime : Runtime F} {manifest : Manifest} {rounds : Rounds F}
    {workload intensity : String} {entry : String × Cell F} :
    cell_entry runtime manifest rounds workload intensity = .ok (some entry) ↔
      (∀ arms ∈ cell_rounds manifest rounds workload intensity, sameArms arms MAIN_ARMS = true) ∧
        cell_evidence runtime (cell_rounds manifest rounds workload intensity) = .ok entry.2 ∧
        cell_name workload intensity = entry.1 := by
  unfold cell_entry
  dsimp only
  split
  · rename_i hcomplete
    rw [List.all_eq_true] at hcomplete
    simp only [bind_eq_ok_iff, pure_eq_ok_iff, Option.some.injEq]
    constructor
    · rintro ⟨row, hrow, rfl⟩
      exact ⟨hcomplete, hrow, rfl⟩
    · rintro ⟨_, hrow, hname⟩
      exact ⟨entry.2, hrow, by rw [hname]⟩
  · rename_i hincomplete
    rw [List.all_eq_true] at hincomplete
    constructor
    · intro hnone
      cases hnone
    · rintro ⟨hcomplete, _⟩
      exact absurd hcomplete hincomplete

/-- The entries the dictionary of cells is built from. -/
theorem evidence_cells {runtime : Runtime F} {manifest : Manifest} {rounds : Rounds F}
    {cells : Dict String (Cell F)} {low_controls : Dict String (LowControl F)}
    (hevidence : evidence runtime manifest rounds [] = .ok (cells, low_controls)) :
    ∃ items, cells = Dict.ofList items ∧ ∀ entry, entry ∈ items ↔
      ∃ workload ∈ manifest.workloads, ∃ intensity ∈ manifest.intensities,
        cell_entry runtime manifest rounds workload intensity = .ok (some entry) := by
  simp only [evidence, if_true, bind_eq_ok_iff, pure_eq_ok_iff, Prod.mk.injEq] at hevidence
  obtain ⟨entries, hentries, rfl, _⟩ := hevidence
  refine ⟨_, rfl, fun entry => ?_⟩
  have hentries := forall₂_of_mapM_ok hentries
  rw [List.mem_filterMap]
  constructor
  · rintro ⟨found, hfound, hentry⟩
    obtain ⟨pair, hpair, hfound⟩ := List.mem_flatMap.mp hfound
    obtain ⟨workload, hworkload, hworkload_entries⟩ := exists_left_of_mem hentries hpair
    simp only [workload_entries, bind_eq_ok_iff, pure_eq_ok_iff] at hworkload_entries
    obtain ⟨rows, hrows, _, _, rfl⟩ := hworkload_entries
    obtain ⟨intensity, hintensity, hcell⟩ := mem_of_mapM_ok hrows hfound
    rw [id_eq] at hentry
    rw [hentry] at hcell
    exact ⟨workload, hworkload, intensity, hintensity, hcell⟩
  · rintro ⟨workload, hworkload, intensity, hintensity, hcell⟩
    obtain ⟨pair, hpair, hworkload_entries⟩ := exists_right_of_mem hentries hworkload
    simp only [workload_entries, bind_eq_ok_iff, pure_eq_ok_iff] at hworkload_entries
    obtain ⟨rows, hrows, _, _, rfl⟩ := hworkload_entries
    obtain ⟨found, hfound, hcell'⟩ := exists_right_of_mem (forall₂_of_mapM_ok hrows) hintensity
    rw [hcell, Except.ok.injEq] at hcell'
    exact ⟨found, List.mem_flatMap.mpr ⟨_, hpair, hfound⟩, hcell'.symm⟩

/-- What a cell of the report stands for. -/
theorem exists_complete_cell {runtime : Runtime F} {manifest : Manifest} {rounds : Rounds F}
    {cells : Dict String (Cell F)} {low_controls : Dict String (LowControl F)}
    (hevidence : evidence runtime manifest rounds [] = .ok (cells, low_controls)) {entry : String × Cell F}
    (hentry : entry ∈ cells.entries) :
    ∃ workload intensity, CompleteCell runtime manifest rounds workload intensity entry.2 := by
  obtain ⟨items, rfl, hitems⟩ := evidence_cells hevidence
  have hitem : entry ∈ items := Dict.mem_of_get?_ofList (Dict.get?_of_mem _ hentry)
  obtain ⟨workload, hworkload, intensity, hintensity, hcell⟩ := (hitems entry).mp hitem
  obtain ⟨hcomplete, hrow, _⟩ := cell_entry_some_iff.mp hcell
  exact ⟨workload, intensity, hworkload, hintensity, hcomplete, hrow⟩

/-- No complete cell is left out of the report. -/
theorem CompleteCell.mem_values {runtime : Runtime F} {manifest : Manifest} {rounds : Rounds F}
    {cells : Dict String (Cell F)} {low_controls : Dict String (LowControl F)} (hwritten : Written manifest)
    (hevidence : rebuild_g0_formal.evidence runtime manifest rounds [] = .ok (cells, low_controls))
    {workload intensity : String} {row : Cell F} (hcell : CompleteCell runtime manifest rounds workload intensity row) :
    row ∈ cells.values := by
  obtain ⟨items, rfl, hitems⟩ := evidence_cells hevidence
  have hentry : cell_entry runtime manifest rounds workload intensity =
      .ok (some (cell_name workload intensity, row)) :=
    cell_entry_some_iff.mpr ⟨hcell.complete, hcell.evidence, rfl⟩
  have hitem := (hitems _).mpr ⟨workload, hcell.scheduled, intensity, hcell.loaded, hentry⟩
  obtain ⟨found, hfound⟩ := Dict.exists_get?_ofList hitem
  obtain ⟨workload', hworkload', intensity', hintensity', hcell'⟩ :=
    (hitems _).mp (Dict.mem_of_get?_ofList hfound)
  obtain ⟨_, hfound_row, hname⟩ := cell_entry_some_iff.mp hcell'
  obtain ⟨rfl, rfl⟩ := cell_name_injective _ (hwritten.mem_workloads hworkload') _
    (hwritten.mem_intensities hintensity') _ (hwritten.mem_workloads hcell.scheduled) _
    (hwritten.mem_intensities hcell.loaded) hname
  rw [hcell.evidence, Except.ok.injEq] at hfound_row
  rw [hfound_row]
  exact List.mem_map.mpr ⟨_, Dict.mem_entries_of_get? _ hfound, rfl⟩

end Cells

section Kept

variable {F : Type} [PyNumber F]

theorem sameArms_iff {ν : Type} {arms : Dict String ν} {names : List String} :
    sameArms arms names = true ↔ ∀ arm, arm ∈ arms.keys ↔ arm ∈ names := by
  simp only [sameArms, Bool.and_eq_true, List.all_eq_true, List.contains_iff_mem]
  exact ⟨fun h arm => ⟨h.1 arm, h.2 arm⟩, fun h => ⟨fun arm => (h arm).mp, fun arm => (h arm).mpr⟩⟩

/-- The evidence of a repeat reads the arms of the matrix alone. -/
theorem repeat_evidence_congr {runtime : Runtime F} {arms arms' : Round F}
    (harms : ∀ arm ∈ MAIN_ARMS, arms.get? arm = arms'.get? arm) :
    repeat_evidence runtime arms = repeat_evidence runtime arms' := by
  have hrun : ∀ arm ∈ MAIN_ARMS, arm_run arms arm = arm_run arms' arm := by
    intro arm harm
    unfold arm_run
    rw [harms arm harm]
  unfold repeat_evidence
  simp only [GENERIC_ARMS, List.mapM_cons, List.mapM_nil]
  rw [hrun "no_control" (by decide), hrun ORACLE (by decide), hrun "concurrency_cap" (by decide),
    hrun "request_token_bucket" (by decide)]

theorem cell_evidence_congr {runtime : Runtime F} {rounds rounds' : List (Round F)}
    (hrounds : rounds.mapM (repeat_evidence runtime) = rounds'.mapM (repeat_evidence runtime)) :
    cell_evidence runtime rounds = cell_evidence runtime rounds' := by
  unfold cell_evidence
  rw [hrounds]

variable {runtime : Runtime F} {manifest : Manifest} {tree tree' : RunTree F} {runs runs' : List (Run F)}

/-- A run of a cell is the only one of its repeat and arm. -/
theorem Written.run_unique (hwritten : Written manifest) (hruns : load_runs runtime manifest tree = .ok runs)
    {run run' : Run F} (hrun : run ∈ runs) (hrun' : run' ∈ runs) (hkey : run.key = run'.key)
    (hintensity : run.key.2.1 ∈ INTENSITIES) (hrepeat : run.key.2.2 ∈ List.range' 1 manifest.repeats) :
    run.arm ∈ MAIN_ARMS ∧ (run.arm = run'.arm → run = run') := by
  obtain ⟨spec, hspec, hload⟩ := (mem_load_runs_iff hruns).mp hrun
  obtain ⟨spec', hspec', hload'⟩ := (mem_load_runs_iff hruns).mp hrun'
  obtain ⟨hspec_key, hspec_arm⟩ := load_spec_key hload
  obtain ⟨hspec_key', hspec_arm'⟩ := load_spec_key hload'
  have hkeys : specKey spec = specKey spec' := hspec_key.symm.trans (hkey.trans hspec_key')
  rw [hspec_key] at hintensity hrepeat
  obtain ⟨harm, hunique⟩ := hwritten.entry hspec hspec' hkeys hintensity hrepeat
  refine ⟨by rw [hspec_arm]; exact harm, ?_⟩
  intro harms
  have heq : spec = spec' := hunique (hspec_arm.symm.trans (harms.trans hspec_arm'))
  subst heq
  rw [hload, Except.ok.injEq, Outcome.loaded.injEq] at hload'
  exact hload'

/-- More runs add nothing to a repeat that is complete. -/
theorem Written.round_kept (hwritten : Written manifest) (hruns' : load_runs runtime manifest tree' = .ok runs')
    (hkept : runs ⊆ runs') (key : Key) (hintensity : key.2.1 ∈ INTENSITIES)
    (hrepeat : key.2.2 ∈ List.range' 1 manifest.repeats)
    (hcomplete : sameArms ((by_round runs).round key) MAIN_ARMS = true) :
    (∀ arm ∈ MAIN_ARMS, ((by_round runs).round key).get? arm = ((by_round runs').round key).get? arm) ∧
      sameArms ((by_round runs').round key) MAIN_ARMS = true := by
  rw [sameArms_iff] at hcomplete
  have hget : ∀ arm ∈ MAIN_ARMS, ((by_round runs).round key).get? arm = ((by_round runs').round key).get? arm := by
    intro arm harm
    obtain ⟨run, hrun⟩ := (Dict.mem_keys_iff _ _).mp ((hcomplete arm).mpr harm)
    obtain ⟨hmem, rfl, rfl⟩ := mem_of_by_round hrun
    obtain ⟨filed, hfiled⟩ := exists_by_round (hkept hmem)
    obtain ⟨hmem', hkey', harm'⟩ := mem_of_by_round hfiled
    have hunique := (hwritten.run_unique hruns' (hkept hmem) hmem' hkey'.symm hintensity hrepeat).2 harm'.symm
    rw [hrun, hfiled, hunique]
  refine ⟨hget, sameArms_iff.mpr fun arm => ⟨?_, ?_⟩⟩
  · intro harm
    obtain ⟨run, hrun⟩ := (Dict.mem_keys_iff _ _).mp harm
    obtain ⟨hmem, rfl, rfl⟩ := mem_of_by_round hrun
    exact (hwritten.run_unique hruns' hmem hmem rfl hintensity hrepeat).1
  · intro harm
    obtain ⟨run, hrun⟩ := (Dict.mem_keys_iff _ _).mp ((hcomplete arm).mpr harm)
    rw [hget arm harm] at hrun
    exact (Dict.mem_keys_iff _ _).mpr ⟨run, hrun⟩

/-- A complete cell stays complete, with the same evidence, however many runs are added. -/
theorem CompleteCell.kept (hwritten : Written manifest) (hruns' : load_runs runtime manifest tree' = .ok runs')
    (hkept : runs ⊆ runs') {workload intensity : String} {row : Cell F}
    (hcell : CompleteCell runtime manifest (by_round runs) workload intensity row) :
    CompleteCell runtime manifest (by_round runs') workload intensity row := by
  have hround : ∀ repeat_ ∈ List.range' 1 manifest.repeats, _ := fun repeat_ hrepeat =>
    hwritten.round_kept hruns' hkept (workload, intensity, repeat_)
      (hwritten.mem_intensities hcell.loaded) hrepeat
      (hcell.complete _ (List.mem_map.mpr ⟨repeat_, hrepeat, rfl⟩))
  refine ⟨hcell.scheduled, hcell.loaded, ?_, ?_⟩
  · intro arms harms
    obtain ⟨repeat_, hrepeat, rfl⟩ := List.mem_map.mp harms
    exact (hround repeat_ hrepeat).2
  · rw [← hcell.evidence]
    apply cell_evidence_congr
    rw [cell_rounds, cell_rounds, List.mapM_map, List.mapM_map]
    apply mapM_congr
    intro repeat_ hrepeat
    exact (repeat_evidence_congr (hround repeat_ hrepeat).1).symm

end Kept

section Stable

variable {F : Type} [PyNumber F] {runtime : Runtime F} {suite : Suite F} {tree : RunTree F} {report : Report F}

/-- The runs a report is about, and what it concludes from them. -/
theorem rebuild_runs (hreport : rebuild runtime suite tree = .ok report) :
    ∃ runs frontier_errors missing_sequences frontier_complete errors,
      load_runs runtime suite.manifest tree = .ok runs ∧
      evidence runtime suite.manifest (by_round runs) errors = .ok (report.cells, report.low_controls) ∧
      report.errors = errors ++ frontier_errors ∧
      report.toConclusion = conclude report.errors missing_sequences report.cells report.low_controls
        (report_stop_triggers report.cells) report.execution_prefix_complete frontier_complete := by
  simp only [rebuild, bind_eq_ok_iff, pure_eq_ok_iff] at hreport
  obtain ⟨_, _, outcomes, houtcomes, ⟨cells, low_controls⟩, hevidence, frontier, _, rfl⟩ := hreport
  refine ⟨outcomes.filterMap Outcome.value?, frontier.errors, outcomes.filterMap Outcome.sequence?,
    frontier.complete, _, ?_, hevidence, rfl, rfl⟩
  rw [load_runs, houtcomes]
  rfl

/-- No Go on a tree where a complete cell raises a trigger. -/
theorem triggers_of_go (hwritten : Written suite.manifest) (hreport : rebuild runtime suite tree = .ok report)
    {runs : List (Run F)} (hruns : load_runs runtime suite.manifest tree = .ok runs) {workload intensity : String}
    {row : Cell F} (hcell : CompleteCell runtime suite.manifest (by_round runs) workload intensity row)
    (hgo : report.verdict = .go) : row.triggers = [] := by
  obtain ⟨runs', frontier_errors, _, _, errors, hruns', hevidence, herrors, hconclusion⟩ := rebuild_runs hreport
  rw [hruns, Except.ok.injEq] at hruns'
  subst hruns'
  rw [hconclusion] at hgo
  obtain ⟨hclean, _, htriggers⟩ := conclude_go hgo
  rw [herrors, List.append_eq_nil_iff] at hclean
  rw [hclean.1] at hevidence
  exact htriggers row (hcell.mem_values hwritten hevidence)

/-- An early stop names a complete cell of its tree. -/
theorem exists_triggered_cell (hreport : rebuild runtime suite tree = .ok report)
    (hstop : report.status = .complete_early_stop) :
    ∃ runs workload intensity row, load_runs runtime suite.manifest tree = .ok runs ∧
      CompleteCell runtime suite.manifest (by_round runs) workload intensity row ∧ row.triggers ≠ [] := by
  obtain ⟨runs, frontier_errors, _, _, errors, hruns, hevidence, herrors, hconclusion⟩ := rebuild_runs hreport
  rw [hconclusion] at hstop
  obtain ⟨hclean, htriggers⟩ := conclude_early_stop hstop
  rw [herrors, List.append_eq_nil_iff] at hclean
  rw [hclean.1] at hevidence
  obtain ⟨entry, hentry, htriggered⟩ := exists_of_stop_triggers htriggers
  obtain ⟨workload, intensity, hcell⟩ := exists_complete_cell hevidence hentry
  exact ⟨runs, workload, intensity, entry.2, hruns, hcell, htriggered⟩

/-- An extended tree loads every run of the first. -/
theorem RunTree.Extended.load_runs {tree tree' : RunTree F} (hextended : tree.Extended tree') {manifest : Manifest}
    {runs runs' : List (Run F)} (hruns : rebuild_g0_formal.load_runs runtime manifest tree = .ok runs)
    (hruns' : rebuild_g0_formal.load_runs runtime manifest tree' = .ok runs') : runs ⊆ runs' := by
  intro run hrun
  obtain ⟨spec, hspec, hload⟩ := (mem_load_runs_iff hruns).mp hrun
  exact (mem_load_runs_iff hruns').mpr ⟨spec, hspec, hextended.load_spec hload⟩

/-- The stop is final: a complete cell that raises a trigger rules a Go out, and no run
or frontier directory that is added to an early stop, valid or not, can bring one about. -/
theorem early_stop_final (runtime : Runtime F) (suite : Suite F) (tree : RunTree F) (report : Report F)
    (hwritten : Written suite.manifest) (hreport : rebuild runtime suite tree = .ok report) :
    (∀ runs workload intensity row, load_runs runtime suite.manifest tree = .ok runs →
        CompleteCell runtime suite.manifest (by_round runs) workload intensity row → row.triggers ≠ [] →
        report.verdict ≠ .go) ∧
      (report.status = .complete_early_stop →
        ∀ tree' report', tree.Extended tree' → rebuild runtime suite tree' = .ok report' →
          report'.verdict ≠ .go) := by
  constructor
  · intro runs workload intensity row hruns hcell htriggers hgo
    exact htriggers (triggers_of_go hwritten hreport hruns hcell hgo)
  · intro hstop tree' report' hextended hreport' hgo
    obtain ⟨runs, workload, intensity, row, hruns, hcell, htriggers⟩ := exists_triggered_cell hreport hstop
    obtain ⟨runs', _, _, _, _, hruns', _⟩ := rebuild_runs hreport'
    have hcell' := hcell.kept hwritten hruns' (hextended.load_runs hruns hruns')
    exact htriggers (triggers_of_go hwritten hreport' hruns' hcell' hgo)

end Stable

section Measured

/-- The requests of a run, all of them answered alike. -/
def measuredRequests : List (Json Binary64) :=
  (List.range 64).map fun index => .dict [("request_id", .int index), ("ok", .bool true), ("http_status", .int 200),
    ("output_sha256", .str "9f"), ("output_tokens", .int 8)]

/-- The counters of an arm that activated as it has to. -/
def measuredConnector (arm : String) : Json Binary64 :=
  let recompute : ℤ := if arm = "always_recompute" then 64 else if arm = "minimum_retrieve_threshold" then 32 else 0
  let transfers : ℤ := if arm = "always_recompute" then 0 else 1
  .dict [
    ("activation", .dict [("connector_config_events", .int 1), ("decision_request_ids", .int 64),
      ("decision_counts", .dict [("materialize", .int (64 - recompute)), ("recompute_threshold", .int recompute)]),
      ("all_transfer_results_ok", .bool true), ("transfer_starts", .int transfers)]),
    ("materialization", .dict [("requested_bytes", .int 4096), ("realized_bytes", .int 4096),
      ("peak_bytes_in_flight", .int 4096)])]

/-- A run whose arm makes no difference. -/
def measuredRun (arm : String) : RunDir Binary64 where
  benchmark := some (.ok (.dict [("arm", .str arm), ("requests", .int 64), ("correctness_rate", .float (lit 1)),
    ("ttft_ms", .dict [("p95", .int 100)]), ("e2e_ms", .dict []), ("tpot_ms", .dict []),
    ("throughput_rps", .int 8), ("goodput_rps", .int 8),
    ("controls", .dict [("minimum_retrieve_tokens", .int (expected_controls arm).1),
      ("fixed_prefetch_depth", .int (expected_controls arm).2)])]))
  requests := some (.ok measuredRequests)
  telemetry := some (.ok [])
  resources := true
  connector := some (.ok (measuredConnector arm))

/-- The runs of the first cell, by the sequence their names start with. -/
def measuredTree : RunTree Binary64 where
  path := "/runs"
  runs name :=
    let sequence := digits ((name.toByteArray.data.toList.take 3).map fun byte => Char.ofNat byte.toNat)
    (sequence.bind fun sequence => (g0_pathology.schedule.take 21)[sequence - 1]?).map fun spec => measuredRun spec.arm

def measuredSuite : Suite Binary64 := { manifest := initialized, execution_identity := none }

/-- The report is an early stop. -/
def stopsEarly (outcome : Except Exception (Report Binary64)) : Bool :=
  match outcome with
  | .ok report => report.status = .complete_early_stop
  | .error _ => false

theorem stopsEarly_iff {outcome : Except Exception (Report Binary64)} :
    stopsEarly outcome = true ↔ ∃ report, outcome = .ok report ∧ report.status = .complete_early_stop := by
  cases outcome with
  | error error => simp [stopsEarly]
  | ok report => simp [stopsEarly]

theorem measuredTree_stopsEarly : stopsEarly (rebuild Runtime.binary64 measuredSuite measuredTree) = true := by
  decide +kernel

theorem early_stop_final_measured :
    ∃ report, rebuild Runtime.binary64 measuredSuite measuredTree = .ok report ∧
      report.status = .complete_early_stop ∧
      ∀ tree' report', measuredTree.Extended tree' →
        rebuild Runtime.binary64 measuredSuite tree' = .ok report' → report'.verdict ≠ .go := by
  obtain ⟨report, hreport, hstop⟩ := stopsEarly_iff.mp measuredTree_stopsEarly
  have hfinal := early_stop_final Runtime.binary64 measuredSuite measuredTree report initialized_written hreport
  exact ⟨report, hreport, hstop, hfinal.2 hstop⟩

end Measured

end rebuild_g0_formal
