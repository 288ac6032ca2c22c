import KvMaterialization.Scripts.EarlyStop

open python

namespace rebuild_g0_formal

open g0_pathology (Spec)

section Sequences

theorem last_sequence_range' (n : ℕ) : last_sequence (List.range' 1 n) = n := by
  induction n with
  | zero => rfl
  | succ n ih =>
    unfold last_sequence at ih ⊢
    rw [List.range'_concat, List.foldl_append, ih]
    simp only [List.foldl_cons, List.foldl_nil]
    omega

theorem sorted_range' (n : ℕ) : (List.range' 1 n).insertionSort (· ≤ ·) = List.range' 1 n :=
  (List.pairwise_le_range' (s := 1) (n := n)).insertionSort_eq

theorem range'_prefix {m n : ℕ} (hle : m ≤ n) : List.range' 1 m <+: List.range' 1 n := by
  refine ⟨List.range' (1 + m) (n - m), ?_⟩
  rw [List.range'_append_1, Nat.add_sub_cancel' hle]

end Sequences

section Labels

variable {F : Type}

/-- The sequences of the schedule. -/
def Manifest.planned (manifest : Manifest) : List ℕ := manifest.schedule.map Spec.sequence

/-- The status says no more of the execution than what has been executed: an early stop
leaves something out, and what leaves nothing out is no early stop. -/
structure LabelsMatch (manifest : Manifest) (report : Report F) : Prop where
  early_stop : report.status = .complete_early_stop → report.stop_triggers ≠ [] ∧
    report.executed_sequences ≠ [] ∧ report.executed_sequences <+: manifest.planned ∧ report.errors = [] ∧
    ∃ sequence ∈ manifest.planned, sequence ∉ report.executed_sequences
  complete : (∀ sequence ∈ manifest.planned, sequence ∈ report.executed_sequences) → report.errors = [] →
    report.status = .complete ∨ report.status = .needs_capacity_frontier

variable [PyNumber F]

/-- The whole schedule has been executed without an error, and yet a cell raises a trigger. -/
structure Overtaken (runtime : Runtime F) (manifest : Manifest) (tree : RunTree F) (runs : List (Run F)) : Prop where
  loaded : ∀ spec ∈ manifest.schedule, ∃ run, load_spec runtime tree spec = .ok (.loaded run)
  rounds_agree : round_errors runtime (by_round runs) = []
  cells_agree : cell_errors runtime runs = []
  frontier : ∀ spec ∈ frontier_specs manifest, ∀ error,
    frontier_outcome runtime tree (by_round runs) spec ≠ .ok (.failed error)
  triggered : ∃ workload intensity row,
    CompleteCell runtime manifest (by_round runs) workload intensity row ∧ row.triggers ≠ []

end Labels

section Conclude

variable {F : Type} {errors : List String} {missing_sequences : List ℕ} {cells : Dict String (Cell F)}
  {low_controls : Dict String (LowControl F)} {stop_triggers : List StopTrigger}
  {execution_prefix_complete frontier_complete : Bool}

/-- The status by the branch it is assigned in. -/
theorem conclude_status (conclusion : Conclusion)
    (hconclusion : conclusion = conclude errors missing_sequences cells low_controls stop_triggers
      execution_prefix_complete frontier_complete) :
    (stop_triggers ≠ [] ∧ execution_prefix_complete = true ∧ errors = [] ∧
      conclusion.status = .complete_early_stop) ∨
    (¬ (stop_triggers ≠ [] ∧ execution_prefix_complete = true ∧ errors = []) ∧ errors = [] ∧ missing_sequences = [] ∧
      (conclusion.status = .complete ∨ conclusion.status = .needs_capacity_frontier)) ∨
    (¬ (stop_triggers ≠ [] ∧ execution_prefix_complete = true ∧ errors = []) ∧
      ¬ (errors = [] ∧ missing_sequences = []) ∧ conclusion.status = .incomplete_no_verdict) := by
  subst hconclusion
  unfold conclude
  split
  · rename_i hearly
    simp only [Bool.and_eq_true, Bool.not_eq_true', List.isEmpty_iff, List.isEmpty_eq_false_iff] at hearly
    exact .inl ⟨hearly.1.1, hearly.1.2, hearly.2, rfl⟩
  · rename_i hearly
    simp only [Bool.and_eq_true, Bool.not_eq_true', List.isEmpty_iff, List.isEmpty_eq_false_iff, and_assoc] at hearly
    right
    split
    · rename_i hclean
      rw [Bool.and_eq_true, List.isEmpty_iff, List.isEmpty_iff] at hclean
      refine .inl ⟨hearly, hclean.1, hclean.2, ?_⟩
      dsimp only
      -- only the last of the branches leaves the verdict to the frontier
      split_ifs
      · exact .inl rfl
      · exact .inl rfl
      · exact .inl rfl
      · exact .inl rfl
      · exact .inl rfl
      · exact .inr rfl
    · rename_i hclean
      rw [Bool.and_eq_true, List.isEmpty_iff, List.isEmpty_iff] at hclean
      exact .inr ⟨hearly, hclean, rfl⟩

end Conclude

section Report

variable {F : Type} [PyNumber F] {runtime : Runtime F} {suite : Suite F} {tree : RunTree F} {report : Report F}

/-- What a report is put together from. -/
structure Rebuilt (runtime : Runtime F) (suite : Suite F) (tree : RunTree F) (report : Report F)
    (outcomes : List (Outcome (Run F))) (runs : List (Run F)) (frontier : Frontier F) : Prop where
  scheduled : suite.manifest.schedule.mapM (load_spec runtime tree) = .ok outcomes
  loaded : runs = outcomes.filterMap Outcome.value?
  summarized : summarize_frontier runtime suite.manifest tree (by_round runs) = .ok frontier
  evident : evidence runtime suite.manifest (by_round runs)
    (outcomes.filterMap Outcome.error? ++ round_errors runtime (by_round runs) ++ cell_errors runtime runs) =
      .ok (report.cells, report.low_controls)
  errors : report.errors = outcomes.filterMap Outcome.error? ++ round_errors runtime (by_round runs) ++
    cell_errors runtime runs ++ frontier.errors
  executed : report.executed_sequences = (runs.map fun run => run.sequence).insertionSort (· ≤ ·)
  prefix_complete : report.execution_prefix_complete =
    decide (report.executed_sequences = List.range' 1 (last_sequence report.executed_sequences))
  triggers : report.stop_triggers = report_stop_triggers report.cells
  conclusion : report.toConclusion = conclude report.errors (outcomes.filterMap Outcome.sequence?) report.cells
    report.low_controls report.stop_triggers report.execution_prefix_complete frontier.complete

theorem exists_rebuilt (hreport : rebuild runtime suite tree = .ok report) :
    ∃ outcomes runs frontier, Rebuilt runtime suite tree report outcomes runs frontier := by
  simp only [rebuild, bind_eq_ok_iff, pure_eq_ok_iff] at hreport
  obtain ⟨_, _, outcomes, houtcomes, ⟨cells, low_controls⟩, hevidence, frontier, hfrontier, rfl⟩ := hreport
  exact ⟨outcomes, _, frontier, houtcomes, rfl, hfrontier, hevidence, rfl, rfl, rfl, rfl, rfl⟩

variable {outcomes : List (Outcome (Run F))} {runs : List (Run F)} {frontier : Frontier F}

theorem Rebuilt.load_runs (hrebuilt : Rebuilt runtime suite tree report outcomes runs frontier) :
    rebuild_g0_formal.load_runs runtime suite.manifest tree = .ok runs := by
  rw [rebuild_g0_formal.load_runs, hrebuilt.scheduled, hrebuilt.loaded]
  rfl

theorem Rebuilt.errors_eq_nil_iff (hrebuilt : Rebuilt runtime suite tree report outcomes runs frontier) :
    report.errors = [] ↔ outcomes.filterMap Outcome.error? = [] ∧ round_errors runtime (by_round runs) = [] ∧
      cell_errors runtime runs = [] ∧ frontier.errors = [] := by
  rw [hrebuilt.errors]
  simp only [List.append_eq_nil_iff, and_assoc]

/-- The frontier is clean where none of its directories fails. -/
theorem Rebuilt.frontier_errors_eq_nil_iff (hrebuilt : Rebuilt runtime suite tree report outcomes runs frontier) :
    frontier.errors = [] ↔ ∀ spec ∈ frontier_specs suite.manifest, ∀ error,
      frontier_outcome runtime tree (by_round runs) spec ≠ .ok (.failed error) := by
  have hsummarized := hrebuilt.summarized
  simp only [summarize_frontier, bind_eq_ok_iff, pure_eq_ok_iff] at hsummarized
  obtain ⟨points, hpoints, rfl⟩ := hsummarized
  have hpoints := forall₂_of_mapM_ok hpoints
  rw [List.filterMap_eq_nil_iff]
  constructor
  · intro hclean spec hspec error hfailed
    obtain ⟨point, hpoint, houtcome⟩ := exists_right_of_mem hpoints hspec
    rw [hfailed, Except.ok.injEq] at houtcome
    have hnone := hclean point hpoint
    rw [← houtcome] at hnone
    cases hnone
  · intro hclean point hpoint
    obtain ⟨spec, hspec, houtcome⟩ := exists_left_of_mem hpoints hpoint
    cases point with
    | missing sequence => rfl
    | failed error => exact absurd houtcome (hclean spec hspec error)
    | loaded row => rfl

/-- Where every entry loads nothing has failed or is missing. -/
theorem outcomes_of_all_loaded {specs : List Spec} {outcomes : List (Outcome (Run F))}
    (houtcomes : List.Forall₂ (fun spec outcome => load_spec runtime tree spec = .ok outcome) specs outcomes)
    (hloaded : ∀ spec ∈ specs, ∃ run, load_spec runtime tree spec = .ok (.loaded run)) :
    outcomes.filterMap Outcome.error? = [] ∧ outcomes.filterMap Outcome.sequence? = [] ∧
      (outcomes.filterMap Outcome.value?).map (fun run => run.sequence) = specs.map Spec.sequence := by
  induction houtcomes with
  | nil => exact ⟨rfl, rfl, rfl⟩
  | cons hfirst _ ih =>
    rw [List.forall_mem_cons] at hloaded
    obtain ⟨⟨run, hrun⟩, hrest⟩ := hloaded
    obtain ⟨herrors, hsequences, hruns⟩ := ih hrest
    obtain ⟨_, _, hload⟩ := load_spec_loaded hrun
    rw [hrun, Except.ok.injEq] at hfirst
    subst hfirst
    refine ⟨herrors, hsequences, ?_⟩
    rw [List.filterMap_cons_some (f := Outcome.value?) rfl, List.map_cons, List.map_cons, hruns,
      (load_run_spec hload).1]
    rfl

theorem Rebuilt.mem_executed_iff (hrebuilt : Rebuilt runtime suite tree report outcomes runs frontier) {sequence : ℕ} :
    sequence ∈ report.executed_sequences ↔ ∃ spec ∈ suite.manifest.schedule, spec.sequence = sequence ∧
      ∃ run, load_spec runtime tree spec = .ok (.loaded run) := by
  rw [hrebuilt.executed, List.mem_insertionSort, List.mem_map]
  constructor
  · rintro ⟨run, hrun, rfl⟩
    obtain ⟨spec, hspec, hload⟩ := (mem_load_runs_iff hrebuilt.load_runs).mp hrun
    obtain ⟨_, _, hrun⟩ := load_spec_loaded hload
    exact ⟨spec, hspec, (load_run_spec hrun).1.symm, run, hload⟩
  · rintro ⟨spec, hspec, rfl, run, hload⟩
    obtain ⟨_, _, hrun⟩ := load_spec_loaded hload
    exact ⟨run, (mem_load_runs_iff hrebuilt.load_runs).mpr ⟨spec, hspec, hload⟩, (load_run_spec hrun).1⟩

/-- All that is planned has been executed exactly if every entry of the schedule loads. -/
theorem Rebuilt.all_executed_iff (hrebuilt : Rebuilt runtime suite tree report outcomes runs frontier)
    (hwritten : Written suite.manifest) :
    (∀ sequence ∈ suite.manifest.planned, sequence ∈ report.executed_sequences) ↔
      ∀ spec ∈ suite.manifest.schedule, ∃ run, load_spec runtime tree spec = .ok (.loaded run) := by
  have hnodup : (suite.manifest.schedule.map Spec.sequence).Nodup := by
    rw [hwritten.sequences]
    exact List.nodup_range'
  constructor
  · intro hexecuted spec hspec
    obtain ⟨spec', hspec', hsequence, hload⟩ :=
      hrebuilt.mem_executed_iff.mp (hexecuted _ (List.mem_map_of_mem hspec))
    rwa [List.inj_on_of_nodup_map hnodup hspec' hspec hsequence] at hload
  · intro hloaded sequence hsequence
    obtain ⟨spec, hspec, rfl⟩ := List.mem_map.mp hsequence
    exact hrebuilt.mem_executed_iff.mpr ⟨spec, hspec, rfl, hloaded spec hspec⟩

/-- The triggers of the report are those of the complete cells. -/
theorem Rebuilt.stop_triggers_ne_nil_iff (hrebuilt : Rebuilt runtime suite tree report outcomes runs frontier)
    (hwritten : Written suite.manifest) (herrors : report.errors = []) :
    report.stop_triggers ≠ [] ↔ ∃ workload intensity row,
      CompleteCell runtime suite.manifest (by_round runs) workload intensity row ∧ row.triggers ≠ [] := by
  have hevident := hrebuilt.evident
  rw [hrebuilt.errors, List.append_eq_nil_iff] at herrors
  rw [herrors.1] at hevident
  rw [hrebuilt.triggers]
  constructor
  · intro htriggers
    obtain ⟨entry, hentry, htriggered⟩ := exists_of_stop_triggers htriggers
    obtain ⟨workload, intensity, hcell⟩ := exists_complete_cell hevident hentry
    exact ⟨workload, intensity, entry.2, hcell, htriggered⟩
  · rintro ⟨workload, intensity, row, hcell, htriggered⟩
    obtain ⟨entry, hentry, rfl⟩ := List.mem_map.mp (hcell.mem_values hwritten hevident)
    obtain ⟨trigger, htrigger⟩ := List.exists_mem_of_ne_nil _ htriggered
    refine List.ne_nil_of_mem (a := ⟨entry.1, trigger⟩) ?_
    exact List.mem_flatMap.mpr ⟨entry, (List.mem_insertionSort _).mpr hentry, List.mem_map.mpr ⟨trigger, htrigger, rfl⟩⟩

/-- A cell has no evidence without a repeat. -/
theorem CompleteCell.exists_run {manifest : Manifest} {workload intensity : String} {row : Cell F}
    (hcell : CompleteCell runtime manifest (by_round runs) workload intensity row) : ∃ run, run ∈ runs := by
  cases hrounds : cell_rounds manifest (by_round runs) workload intensity with
  | nil =>
    have hevidence := hcell.evidence
    rw [hrounds] at hevidence
    cases hevidence
  | cons arms rest =>
    have harms : arms ∈ cell_rounds manifest (by_round runs) workload intensity := by
      rw [hrounds]
      exact List.mem_cons_self
    have hkey := (sameArms_iff.mp (hcell.complete arms harms) "no_control").mpr (by decide)
    obtain ⟨run, hrun⟩ := (Dict.mem_keys_iff _ _).mp hkey
    obtain ⟨repeat_, _, rfl⟩ := List.mem_map.mp harms
    exact ⟨run, (mem_of_by_round hrun).1⟩

/-- A full, clean execution that raises a trigger, told by its report. -/
theorem Rebuilt.overtaken_iff (hrebuilt : Rebuilt runtime suite tree report outcomes runs frontier)
    (hwritten : Written suite.manifest) :
    Overtaken runtime suite.manifest tree runs ↔
      (∀ sequence ∈ suite.manifest.planned, sequence ∈ report.executed_sequences) ∧ report.errors = [] ∧
        report.stop_triggers ≠ [] := by
  constructor
  · intro hovertaken
    obtain ⟨houtcome_errors, _, _⟩ :=
      outcomes_of_all_loaded (forall₂_of_mapM_ok hrebuilt.scheduled) hovertaken.loaded
    have herrors : report.errors = [] := hrebuilt.errors_eq_nil_iff.mpr ⟨houtcome_errors, hovertaken.rounds_agree,
      hovertaken.cells_agree, hrebuilt.frontier_errors_eq_nil_iff.mpr hovertaken.frontier⟩
    exact ⟨(hrebuilt.all_executed_iff hwritten).mpr hovertaken.loaded, herrors,
      (hrebuilt.stop_triggers_ne_nil_iff hwritten herrors).mpr hovertaken.triggered⟩
  · rintro ⟨hexecuted, herrors, htriggers⟩
    obtain ⟨_, hrounds, hcells, hfrontier⟩ := hrebuilt.errors_eq_nil_iff.mp herrors
    exact ⟨(hrebuilt.all_executed_iff hwritten).mp hexecuted, hrounds, hcells,
      hrebuilt.frontier_errors_eq_nil_iff.mp hfrontier,
      (hrebuilt.stop_triggers_ne_nil_iff hwritten herrors).mp htriggers⟩

/-- All of the schedule is a complete prefix of it. -/
theorem Rebuilt.prefix_complete_of_all_executed
    (hrebuilt : Rebuilt runtime suite tree report outcomes runs frontier) (hwritten : Written suite.manifest)
    (hexecuted : ∀ sequence ∈ suite.manifest.planned, sequence ∈ report.executed_sequences) :
    report.execution_prefix_complete = true ∧ outcomes.filterMap Outcome.sequence? = [] := by
  obtain ⟨_, hmissing, hsequences⟩ := outcomes_of_all_loaded (forall₂_of_mapM_ok hrebuilt.scheduled)
    ((hrebuilt.all_executed_iff hwritten).mp hexecuted)
  rw [← hrebuilt.loaded, hwritten.sequences] at hsequences
  refine ⟨?_, hmissing⟩
  rw [hrebuilt.prefix_complete, hrebuilt.executed, hsequences, sorted_range', last_sequence_range']
  exact decide_eq_true rfl

/-- What is executed of a schedule without gaps is a prefix of it. -/
theorem Rebuilt.executed_prefix (hrebuilt : Rebuilt runtime suite tree report outcomes runs frontier)
    (hwritten : Written suite.manifest) (hcomplete : report.execution_prefix_complete = true) :
    report.executed_sequences <+: suite.manifest.planned := by
  rw [hrebuilt.prefix_complete, decide_eq_true_eq] at hcomplete
  rw [hcomplete, Manifest.planned, hwritten.sequences]
  apply range'_prefix
  by_contra hlonger
  have hlast : last_sequence report.executed_sequences ∈
      List.range' 1 (last_sequence report.executed_sequences) := by
    rw [List.mem_range'_1]
    omega
  rw [← hcomplete] at hlast
  obtain ⟨spec, hspec, hsequence, _⟩ := hrebuilt.mem_executed_iff.mp hlast
  have hplanned := List.mem_map_of_mem (f := Spec.sequence) hspec
  rw [hwritten.sequences, hsequence, List.mem_range'_1] at hplanned
  omega

/-- The status label matches the execution except where a cell raises a trigger although
the whole schedule has been executed without an error. -/
theorem status_labels_iff (runtime : Runtime F) (suite : Suite F) (tree : RunTree F) (report : Report F)
    (runs : List (Run F)) (hwritten : Written suite.manifest) (hreport : rebuild runtime suite tree = .ok report)
    (hruns : load_runs runtime suite.manifest tree = .ok runs) :
    LabelsMatch suite.manifest report ↔ ¬ Overtaken runtime suite.manifest tree runs := by
  obtain ⟨outcomes, runs', frontier, hrebuilt⟩ := exists_rebuilt hreport
  have hsame := hrebuilt.load_runs
  rw [hruns, Except.ok.injEq] at hsame
  subst hsame
  rw [hrebuilt.overtaken_iff hwritten]
  have hstatus := conclude_status report.toConclusion hrebuilt.conclusion
  constructor
  · rintro hmatch ⟨hexecuted, herrors, htriggers⟩
    obtain ⟨hordered, _⟩ := hrebuilt.prefix_complete_of_all_executed hwritten hexecuted
    obtain ⟨_, _, _, hstop⟩ | ⟨hearly, _⟩ | ⟨hearly, _⟩ := hstatus
    · obtain hcomplete | hfrontier := hmatch.complete hexecuted herrors
      · rw [hstop] at hcomplete
        cases hcomplete
      · rw [hstop] at hfrontier
        cases hfrontier
    · exact hearly ⟨htriggers, hordered, herrors⟩
    · exact hearly ⟨htriggers, hordered, herrors⟩
  · intro hovertaken
    constructor
    · intro hstop
      obtain ⟨htriggers, hordered, herrors, _⟩ | ⟨_, _, _, hother | hother⟩ | ⟨_, _, hother⟩ := hstatus
      · obtain ⟨_, _, _, hcell, _⟩ := (hrebuilt.stop_triggers_ne_nil_iff hwritten herrors).mp htriggers
        obtain ⟨run, hrun⟩ := hcell.exists_run
        refine ⟨htriggers, ?_, hrebuilt.executed_prefix hwritten hordered, herrors, ?_⟩
        · rw [hrebuilt.executed]
          exact List.ne_nil_of_mem ((List.mem_insertionSort _).mpr (List.mem_map_of_mem hrun))
        · by_contra hall
          push Not at hall
          exact hovertaken ⟨hall, herrors, htriggers⟩
      · rw [hstop] at hother
        cases hother
      · rw [hstop] at hother
        cases hother
      · rw [hstop] at hother
        cases hother
    · intro hexecuted herrors
      obtain ⟨_, hmissing⟩ := hrebuilt.prefix_complete_of_all_executed hwritten hexecuted
      obtain ⟨htriggers, _⟩ | ⟨_, _, _, hcomplete⟩ | ⟨_, hunclean, _⟩ := hstatus
      · exact absurd ⟨hexecuted, herrors, htriggers⟩ hovertaken
      · exact hcomplete
      · exact absurd ⟨herrors, hmissing⟩ hunclean

end Report

section Executed

/-- After the first cell the schedule goes on. -/
theorem status_labels_iff_measured :
    ∃ report, rebuild Runtime.binary64 measuredSuite measuredTree = .ok report ∧
      report.status = .complete_early_stop ∧ LabelsMatch initialized report := by
  obtain ⟨report, hreport, hstop⟩ := stopsEarly_iff.mp measuredTree_stopsEarly
  obtain ⟨_, runs, _, hrebuilt⟩ := exists_rebuilt hreport
  have hlabels := status_labels_iff Runtime.binary64 measuredSuite measuredTree report runs initialized_written
    hreport hrebuilt.load_runs
  refine ⟨report, hreport, hstop, hlabels.mpr ?_⟩
  intro hovertaken
  have hnext : ∃ spec ∈ initialized.schedule, measuredTree.runs (run_name (runSpec spec)) = none := by
    have htree : (initialized.schedule.any fun spec =>
        (measuredTree.runs (run_name (runSpec spec))).isNone) = true := by decide +kernel
    obtain ⟨spec, hspec, hnone⟩ := List.any_eq_true.mp htree
    exact ⟨spec, hspec, Option.isNone_iff_eq_none.mp hnone⟩
  obtain ⟨spec, hspec, hnone⟩ := hnext
  obtain ⟨run, hload⟩ := hovertaken.loaded spec hspec
  obtain ⟨directory, hdirectory, _⟩ := load_spec_loaded hload
  rw [hnone] at hdirectory
  cases hdirectory

/-- The runs of the whole schedule, no arm of which makes a difference. -/
def executedTree : RunTree Binary64 where
  path := "/runs"
  runs name :=
    let sequence := digits ((name.toByteArray.data.toList.take 3).map fun byte => Char.ofNat byte.toNat)
    (sequence.bind fun sequence => g0_pathology.schedule[sequence - 1]?).map fun spec => measuredRun spec.arm

/-- The report says that entries were left out, and yet names them all as executed. -/
def contradictory (outcome : Except Exception (Report Binary64)) : Bool :=
  match outcome with
  | .ok report => report.status = .complete_early_stop && report.errors.isEmpty &&
      initialized.planned.all report.executed_sequences.contains
  | .error _ => false

theorem executedTree_contradictory :
    contradictory (rebuild Runtime.binary64 measuredSuite executedTree) = true := by decide +kernel

/-- A suite that was executed to its end is reported as stopped early. -/
theorem complete_execution_labelled_early_stop :
    ¬ ∀ (tree : RunTree Binary64) (report : Report Binary64),
      rebuild Runtime.binary64 measuredSuite tree = .ok report → LabelsMatch initialized report := by
  intro hmatch
  have hcontradictory := executedTree_contradictory
  unfold contradictory at hcontradictory
  split at hcontradictory
  · rename_i report hreport
    simp only [Bool.and_eq_true, decide_eq_true_eq, List.isEmpty_iff, List.all_eq_true, List.contains_iff_mem]
      at hcontradictory
    obtain ⟨⟨hstop, herrors⟩, hexecuted⟩ := hcontradictory
    obtain hcomplete | hfrontier := (hmatch executedTree report hreport).complete hexecuted herrors
    · rw [hstop] at hcomplete
      cases hcomplete
    · rw [hstop] at hfrontier
      cases hfrontier
  · cases hcontradictory

end Executed

end rebuild_g0_formal
