import KvMaterialization.Experiments.SuiteOutcome

open python effects
open run_online_lifecycle (Args Evidenced Outputs Raised Recorded decoded lifecycle)

namespace aggregate_m2_boundary

open online_suites

section

variable {F : Type}

theorem reversed_padded_ne_nil (number : ℕ) : (padded number).toList.reverse ≠ [] :=
  List.reverse_eq_nil_iff.not.mpr (padded_ne_nil number)

/-- Read from its end, the name a runner gives a directory is the digits of the sequence
and of the round between the two words, whatever stands before it. -/
theorem round_name_reversed {py : Interpreter F} (hpy : Numerals py) (parent : String) (round sequence : ℕ) :
    let rounds := (padded round).toList.reverse ++ '_' :: ("dnuor".toList ++ parent.toList.reverse)
    (parent ++ round_name round sequence).toList.reverse.head? ≠ some '\n' ∧
      (parent ++ round_name round sequence).toList.reverse.span (isDecimal py) =
        ((padded sequence).toList.reverse, '_' :: ("ecneuqes_".toList ++ rounds)) ∧
      rounds.span (isDecimal py) =
        ((padded round).toList.reverse, '_' :: ("dnuor".toList ++ parent.toList.reverse)) := by
  have hdecimal : ∀ number, ∀ c ∈ (padded number).toList.reverse, isDecimal py c = true :=
    fun number c hc => hpy.digit c (padded_digits number (List.mem_reverse.mp hc))
  have hunderscore : isDecimal py '_' = false := by
    unfold isDecimal
    rw [show String.singleton '_' = "_" from rfl, hpy.underscore]
    rfl
  have hname : (parent ++ round_name round sequence).toList.reverse =
      (padded sequence).toList.reverse ++ '_' :: ("ecneuqes_".toList ++ ((padded round).toList.reverse ++
        '_' :: ("dnuor".toList ++ parent.toList.reverse))) := by
    simp [round_name, String.toList_append, List.reverse_append]
  dsimp only
  rw [hname]
  refine ⟨?_, span_append (hdecimal sequence) hunderscore _, span_append (hdecimal round) hunderscore _⟩
  rw [List.head?_append_of_ne_nil _ (reversed_padded_ne_nil sequence)]
  intro hnewline
  exact absurd (padded_digits sequence (List.mem_reverse.mp (List.mem_of_mem_head? hnewline))) (by decide)

/-- The round is read back off the name a runner gives a directory. -/
theorem matched_round_name {py : Interpreter F} (hpy : Numerals py) (round sequence : ℕ) :
    matched_round py (round_name round sequence) = some (padded round) := by
  obtain ⟨hhead, hsequence, hround⟩ := round_name_reversed hpy "" round sequence
  rw [String.empty_append] at hhead hsequence
  unfold matched_round
  dsimp only
  rw [if_neg hhead, hsequence]
  dsimp only
  rw [if_neg (by simp [reversed_padded_ne_nil sequence])]
  rw [show List.drop "_sequence_".toList.reverse.length ('_' :: ("ecneuqes_".toList ++
    ((padded round).toList.reverse ++ '_' :: ("dnuor".toList ++ "".toList.reverse)))) =
    (padded round).toList.reverse ++ '_' :: ("dnuor".toList ++ "".toList.reverse) from rfl, hround]
  dsimp only
  rw [if_neg (by simp [reversed_padded_ne_nil round]), List.reverse_reverse, String.ofList_toList]

theorem round_index_name {py : Interpreter F} (hpy : Numerals py) {input_dir : InputDir F} {bundle : Bundle F}
    {round sequence : ℕ} (hname : bundle.name input_dir = round_name round sequence) :
    round_index py input_dir bundle = .ok round := by
  unfold round_index
  rw [hname, matched_round_name hpy]
  dsimp only
  rw [hpy.padded]

end

section

variable {F : Type} [PyNumber F] {runtime : Runtime F} {printer : Printer F} {input_dir : InputDir F}

/-- A row is identified by its manifest and by the name of its directory. -/
theorem collect_row_spec {bundle : Bundle F} {row : Row F}
    (hrow : collect_row runtime printer input_dir bundle = .ok row) :
    ∃ manifest, validate_online_bundle.File.read bundle.run_manifest = .ok manifest ∧
      manifest.item "workload_case" = .ok row.workload ∧ manifest.get "policy_mode" = .ok row.policy_mode ∧
      round_index runtime.toInterpreter input_dir bundle = .ok row.round := by
  simp only [collect_row, bind_eq_ok_iff, pure_eq_ok_iff] at hrow
  obtain ⟨validation, _, manifest, hmanifest, environment, _, summary, _, observations, _, valid, _, _, _, label, _, _,
    _, policy, hpolicy, _, _, accounting, _, hrow⟩ := hrow
  obtain ⟨_, _, counted, _, workload, hworkload, round, hround, _, _, _, _, _, _, rfl⟩ := hrow
  exact ⟨manifest, hmanifest, hworkload, hpolicy, hround⟩

/-- The row of a lifecycle that has completed is in the cell its runner scheduled it for. -/
theorem collected_row_in_cell (hpy : Numerals runtime.toInterpreter) (args : Args F)
    (host : run_online_lifecycle.Host F) (pid round sequence : ℕ) (bundle : Bundle F) (row : Row F)
    (hname : bundle.name input_dir = round_name round sequence)
    (hmanifest : bundle.run_manifest = some (.ok (run_online_lifecycle.completed_manifest runtime args host pid)))
    (hrow : collect_row runtime printer input_dir bundle = .ok row) :
    row.key = some (args.workload_case, args.policy_mode.name, (round : ℤ)) := by
  obtain ⟨manifest, hread, hworkload, hpolicy, hround⟩ := collect_row_spec hrow
  rw [hmanifest] at hread
  obtain rfl := Except.ok.inj hread
  rw [round_index_name hpy hname] at hround
  rw [Row.key_eq_some_iff]
  refine ⟨?_, ?_, (Except.ok.inj hround).symm⟩
  · exact (Except.ok.inj hworkload).symm
  · exact (Except.ok.inj hpolicy).symm

end

/-- A bundle of the second round, as its lifecycle has left it. -/
def scheduled_bundle : Bundle ℚ where
  parts := ["shared_tool_scaffold_agent", "controller", round_name 2 4]
  validation := (sample_bundle 4 ("shared_tool_scaffold_agent", "controller", 2)).validation
  run_manifest := some (.ok (run_online_lifecycle.completed_manifest Runtime.ascii
    { run_online_lifecycle.orderlyArgs with evidence_label := EVIDENCE_LABEL } run_online_lifecycle.orderlyHost 4242))
  environment_manifest := (sample_bundle 4 ("shared_tool_scaffold_agent", "controller", 2)).environment_manifest
  request_summary := (sample_bundle 4 ("shared_tool_scaffold_agent", "controller", 2)).request_summary
  runtime_observations := (sample_bundle 4 ("shared_tool_scaffold_agent", "controller", 2)).runtime_observations

theorem collected_row_in_cell_scheduled :
    ∃ row, collect_row Runtime.ascii sample_printer exact_dir scheduled_bundle = .ok row ∧
      row.key = some ("reuse-heavy", "controller", 2) := by
  have hreturns : Returns (collect_row Runtime.ascii sample_printer exact_dir scheduled_bundle) := by
    decide +kernel
  obtain ⟨row, hrow⟩ := hreturns
  exact ⟨row, hrow, collected_row_in_cell ascii_numerals _ _ 4242 2 4 scheduled_bundle row rfl rfl hrow⟩

section

variable {F : Type} [PyNumber F] {runtime : Runtime F} {printer : Printer F} {input_dir : InputDir F}

/-- Where a collection passes, the suite has completed and lists as many runs as were collected. -/
theorem collect_runs_suite {runs : List (Row F)} (hruns : collect_runs runtime printer input_dir = .ok runs) :
    ∃ manifest scheduled, input_dir.suite_manifest = some (.ok manifest) ∧
      manifest.get "status" = .ok (.str "completed") ∧ manifest.getD "runs" (.list []) = .ok scheduled ∧
        ∃ records, scheduled.iterate = .ok records ∧ records.length = runs.length := by
  simp only [collect_runs, bind_eq_ok_iff, pure_eq_ok_iff] at hruns
  obtain ⟨suite, hsuite, status, hstatus, _, hcompleted, label, _, _, _, collected, _, _, _, hruns⟩ := hruns
  obtain ⟨_, _, _, _, _, hscheduled, rfl⟩ := hruns
  simp only [check_scheduled, bind_eq_ok_iff] at hscheduled
  obtain ⟨scheduled, hscheduled, records, hrecords, _, hlength, _⟩ := hscheduled
  rw [raiseIf_eq_ok_iff, Bool.not_eq_false', eq_str_iff] at hcompleted
  rw [raiseIf_eq_ok_iff, bne_eq_false_iff_eq] at hlength
  obtain ⟨stored, hstored⟩ : ∃ stored, input_dir.suite_manifest = some stored := by
    rw [← Option.isSome_iff_exists]
    by_contra hnone
    rw [Option.not_isSome_iff_eq_none] at hnone
    rw [hnone] at hsuite
    cases hsuite
  rw [hstored] at hsuite
  refine ⟨suite, scheduled, ?_, ?_, hscheduled, records, hrecords, hlength⟩
  · rw [hstored]
    exact congrArg some hsuite
  · rw [hstatus, hcompleted]

/-- What its runner has left behind passes for the matrix only where the suite has
completed, and is then exact: a run is collected once for each cell. -/
theorem collected_suite_exact (args : SuiteArgs) (block_size : ℤ) (host : online_suites.Host F) (runs : List (Row F))
    (hleft : input_dir.suite_manifest =
      (run (run_m2_online_boundary.suite args block_size) host).2.suite_manifest.map decoded)
    (hruns : collect_runs runtime printer input_dir = .ok runs) :
    (run (run_m2_online_boundary.suite args block_size) host).1 = .ok 0 ∧
      (∀ entry ∈ (run_m2_online_boundary.suite (F := F) args block_size).sequenced,
        Closes (run_m2_online_boundary.suite args block_size) host entry) ∧
      ExactMatrix runs ∧ SameLifecycles runs := by
  obtain ⟨manifest, scheduled, hmanifest, hstatus, hscheduled, records, hrecords, hlength⟩ := collect_runs_suite hruns
  have hstored : (run (run_m2_online_boundary.suite args block_size) host).2.suite_manifest = some (.ok manifest) :=
    run_online_lifecycle.read_stored (by rw [← hleft, hmanifest]; rfl)
  obtain ⟨hcode, hcloses, hfinal⟩ := completed_of_recorded _ _ ⟨manifest, hstored, hstatus⟩
  rw [hstored] at hfinal
  obtain rfl := Except.ok.inj (Option.some.inj hfinal)
  rw [completed_runs] at hscheduled
  obtain rfl := Except.ok.inj hscheduled
  obtain rfl := Except.ok.inj hrecords
  have hexact : ExactMatrix runs := exactMatrix_of_length (collect_runs_spec hruns).2 hlength.symm
  exact ⟨hcode, hcloses, hexact, hexact.sameLifecycles⟩

end

/-- An orderly host, with a server process of its own for each run. -/
def numbered_host (sequence : ℕ) : run_online_lifecycle.Host ℚ :=
  { run_online_lifecycle.orderlyHost with server_started := .ok (4241 + sequence) }

/-- A bundle as the lifecycle of a scheduled run has left it, with the measurements of the samples. -/
def scheduled_suite_bundle (entry : run_m2_online_boundary.RunSpec × ℕ) : Bundle ℚ :=
  let left := (lifecycle Runtime.ascii (fun _ => "f3a1")
    ((run_m2_online_boundary.suite sample_args 128).arguments entry.1 entry.2) (numbered_host entry.2)).2
  { sample_bundle entry.2 (entry.1.workload, entry.1.policy_mode.name, entry.1.round_index) with
    parts := [entry.1.workload, entry.1.policy_mode.name, round_name entry.1.round_index entry.2]
    run_manifest := left.run_manifest.map decoded
    environment_manifest := left.environment_manifest.map decoded }

/-- The bundles of a schedule under the manifest that its runner has left. -/
def suite_dir : InputDir ℚ where
  path := "/data/suite"
  name := "suite"
  suite_manifest := (run (run_m2_online_boundary.suite sample_args 128) closing_host).2.suite_manifest.map decoded
  bundles := (run_m2_online_boundary.suite (F := ℚ) sample_args 128).sequenced.map scheduled_suite_bundle
  distinct := by decide +kernel

theorem collected_suite_exact_matrix :
    ∃ runs, collect_runs Runtime.ascii sample_printer suite_dir = .ok runs ∧ ExactMatrix runs ∧
      SameLifecycles runs := by
  have hreturns : Returns (collect_runs Runtime.ascii sample_printer suite_dir) := by
    decide +kernel
  obtain ⟨runs, hruns⟩ := hreturns
  exact ⟨runs, hruns, (collected_suite_exact sample_args 128 closing_host runs rfl hruns).2.2⟩

end aggregate_m2_boundary

namespace online_suites

open aggregate_m2_boundary (numbered_host)

/-- A program exits with the code it returns, and with another than 0 if it raises. -/
inductive Exits {ε : Type} : Except ε ℤ → ℤ → Prop where
  | returned (code : ℤ) : Exits (.ok code) code
  | raised (error : ε) {code : ℤ} (hcode : code ≠ 0) : Exits (.error error) code

theorem exits_of_eq {ε : Type} {outcome : Except ε ℤ} {code : ℤ} (hreturned : outcome = .ok code) :
    Exits outcome code := by
  subst hreturned
  exact .returned code

theorem Exits.eq_zero {ε : Type} {outcome : Except ε ℤ} (hexits : Exits outcome 0) : outcome = .ok 0 := by
  cases hexits with
  | returned => rfl
  | raised _ hcode => contradiction

section

variable {F S : Type} [PyNumber F] (runtime : Runtime F) (fingerprint : Json F → String) (suite : Suite F S)
  (host : Host F) (hosts : ℕ → run_online_lifecycle.Host F) (outputs : ℕ → Outputs F)
  (written : ℕ → Except Exception Unit)

/-- The commands of a suite start lifecycles, and validations of the bundles these leave. -/
structure Launches : Prop where
  lifecycles : ∀ entry ∈ suite.sequenced, ∀ code,
    host.lifecycle entry.2 (suite.arguments entry.1 entry.2) = .ok code →
      Exits (lifecycle runtime fingerprint (suite.arguments entry.1 entry.2) (hosts entry.2)).1 code
  validations : ∀ entry ∈ suite.sequenced, ∀ code,
    host.validation entry.2 (suite.bundle_dir entry) suite.evidence_label = .ok code →
      Exits (validate_online_bundle.main runtime
        ((lifecycle runtime fingerprint (suite.arguments entry.1 entry.2) (hosts entry.2)).2.bundle (outputs entry.2))
        (some suite.evidence_label) false (written entry.2)) code

/-- Every lifecycle of a suite that has completed has seen its server process end, and makes
evidence. -/
theorem completed_suite_evidenced (hlaunches : Launches runtime fingerprint suite host hosts outputs written)
    (hcompleted : Recorded (some "completed") (run suite host).2.suite_manifest) :
    ∀ entry ∈ suite.sequenced,
      (lifecycle runtime fingerprint (suite.arguments entry.1 entry.2) (hosts entry.2)).1 = .ok 0 ∧
      run_online_lifecycle.Phase.after
        (lifecycle runtime fingerprint (suite.arguments entry.1 entry.2) (hosts entry.2)).2.history = some .down ∧
      ∃ checked, Evidenced runtime (suite.arguments entry.1 entry.2) (hosts entry.2) checked := by
  obtain ⟨_, hcloses, _⟩ := completed_of_recorded suite host hcompleted
  intro entry hentry
  obtain ⟨hlifecycle, hvalidation⟩ := hcloses entry hentry
  have hended := (hlaunches.lifecycles entry hentry 0 hlifecycle).eq_zero
  have hvalidated := (hlaunches.validations entry hentry 0 hvalidation).eq_zero
  simp only [validate_online_bundle.main, bind_eq_ok_iff, pure_eq_ok_iff] at hvalidated
  obtain ⟨result, hresult, _, _, hvalid⟩ := hvalidated
  have hvalid : result.valid = true := by
    by_contra hinvalid
    rw [if_neg hinvalid] at hvalid
    cases hvalid
  obtain ⟨records, hread, hsound⟩ := validate_online_bundle.validate_bundle_sound hresult hvalid
  obtain ⟨_, hdown, _, hevidenced⟩ := run_online_lifecycle.sound_lifecycle runtime fingerprint _ _ hread hsound
  exact ⟨hended, hdown, hevidenced⟩

end

/-- A suite of two runs, on a label whose bundles carry no measured rows. -/
def pair_suite : Suite ℚ RunSpec :=
  confirmation sample_args "two runs" "real-online/formal-matrix" "reuse-heavy" .null
    [[.controller, .always_recompute]] 24 64

theorem pair_suite_sequenced :
    pair_suite.sequenced = [(⟨1, .controller⟩, 1), (⟨1, .always_recompute⟩, 2)] := rfl

theorem completed_suite_evidenced_pair :
    pair_suite.sequenced.length = 2 ∧ ∀ entry ∈ pair_suite.sequenced,
      (lifecycle Runtime.ascii (fun _ => "f3a1") (pair_suite.arguments entry.1 entry.2) (numbered_host entry.2)).1 =
          .ok 0 ∧
        run_online_lifecycle.Phase.after (lifecycle Runtime.ascii (fun _ => "f3a1")
          (pair_suite.arguments entry.1 entry.2) (numbered_host entry.2)).2.history = some .down ∧
        ∃ checked, Evidenced Runtime.ascii (pair_suite.arguments entry.1 entry.2) (numbered_host entry.2) checked := by
  have hlaunches : Launches Runtime.ascii (fun _ => "f3a1") pair_suite closing_host numbered_host
      (fun _ => run_online_lifecycle.orderlyOutputs) (fun _ => .ok ()) := by
    constructor
    · intro entry hentry code hcode
      obtain rfl := Except.ok.inj hcode
      rw [pair_suite_sequenced, List.mem_cons, List.mem_singleton] at hentry
      apply exits_of_eq
      obtain rfl | rfl := hentry <;> decide +kernel
    · intro entry hentry code hcode
      obtain rfl := Except.ok.inj hcode
      rw [pair_suite_sequenced, List.mem_cons, List.mem_singleton] at hentry
      apply exits_of_eq
      obtain rfl | rfl := hentry <;> decide +kernel
  refine ⟨by rw [pair_suite_sequenced]; rfl, ?_⟩
  exact completed_suite_evidenced Runtime.ascii (fun _ => "f3a1") pair_suite closing_host numbered_host
    (fun _ => run_online_lifecycle.orderlyOutputs) (fun _ => .ok ()) hlaunches ⟨_, rfl, rfl⟩

end online_suites
