import KvMaterialization.Experiments.LifecycleEvidence
import KvMaterialization.Experiments.M2Matrix
import KvMaterialization.Experiments.OnlineSuites

open python effects
open run_online_lifecycle (Raised Recorded Stored not_completed_none write_meets)

namespace online_suites

section

variable {F S : Type} (suite : Suite F S) (host : Host F)

/-- What a run of the schedule starts. -/
def Suite.acts (entry : S × ℕ) : List (Act F) :=
  [.lifecycle (suite.arguments entry.1 entry.2), .validation (suite.bundle_dir entry)]

/-- The lifecycle and the validation of a run both come to 0. -/
structure Closes (entry : S × ℕ) : Prop where
  lifecycle : host.lifecycle entry.2 (suite.arguments entry.1 entry.2) = .ok 0
  validation : host.validation entry.2 (suite.bundle_dir entry) suite.evidence_label = .ok 0

def Suite.closed_record (entry : S × ℕ) : Json F := suite.run_record entry 0 (some 0)

/-- A manifest that is not the one of a completed suite. -/
def Open (stored : Stored F) : Prop := ¬ Recorded (some "completed") stored

/-- Some runs have been closed, and no more than one that may not has been started since. -/
structure Within (done rest : List (S × ℕ)) (world : World F) : Prop where
  schedule : suite.sequenced = done ++ rest
  closes : ∀ entry ∈ done, Closes suite host entry
  started : done.flatMap suite.acts <+: world.history
  only : world.history <+: (done ++ rest.take 1).flatMap suite.acts

/-- The suite goes on: what has been started is what has been closed, and a part of the run
that is next. -/
structure Running (done rest : List (S × ℕ)) (part : List (Act F)) (world : World F) : Prop where
  schedule : suite.sequenced = done ++ rest
  closes : ∀ entry ∈ done, Closes suite host entry
  begun : part <+: (rest.take 1).flatMap suite.acts
  history : world.history = done.flatMap suite.acts ++ part
  manifest : Open world.suite_manifest

/-- The suite has been broken off. -/
def Broken (world : World F) : Prop := Open world.suite_manifest ∧ ∃ done rest, Within suite host done rest world

/-- A run that does not close has ended the suite. -/
def Failed (world : World F) : Prop :=
  Open world.suite_manifest ∧ ∃ done entry rest, Within suite host done (entry :: rest) world ∧
    ¬ Closes suite host entry

variable {suite host} {done rest : List (S × ℕ)} {part : List (Act F)} {world : World F}

theorem Running.within (hrunning : Running suite host done rest part world) : Within suite host done rest world := by
  refine ⟨hrunning.schedule, hrunning.closes, ?_, ?_⟩
  · rw [hrunning.history]
    exact List.prefix_append _ _
  · rw [hrunning.history, List.flatMap_append]
    exact (List.prefix_append_right_inj _).mpr hrunning.begun

theorem Running.broken (hrunning : Running suite host done rest part world) : Broken suite host world :=
  ⟨hrunning.manifest, done, rest, hrunning.within⟩

/-- A run that has closed is one of those that have. -/
theorem Running.next {entry : S × ℕ} (hrunning : Running suite host done (entry :: rest) (suite.acts entry) world)
    (hentry : Closes suite host entry) : Running suite host (done ++ [entry]) rest [] world := by
  obtain ⟨hschedule, hcloses, _, hhistory, hmanifest⟩ := hrunning
  refine ⟨?_, ?_, List.nil_prefix, ?_, hmanifest⟩
  · rw [hschedule, List.append_assoc]
    rfl
  · rw [List.forall_mem_append]
    exact ⟨hcloses, List.forall_mem_singleton.mpr hentry⟩
  · rw [hhistory, List.flatMap_append, List.flatMap_singleton, List.append_nil]

/-- What the manifest has at a key, which is not one of its heading. -/
theorem execution_get {key : String} (hkey : key = "runs" ∨ key = "status") (runs : List (Json F))
    (closing : List (String × Json F)) (default : Json F) :
    (suite.execution host runs closing).getD key default =
      (Json.dict ([("schedule", .list (suite.schedule.map suite.spec)), ("runs", .list runs)] ++ closing)).getD key
        default := by
  have hnone : (suite.heading host.started_at_s).find? (fun entry => entry.1 = key) = none := by
    rw [List.find?_eq_none]
    intro entry hentry heq
    rw [decide_eq_true_eq] at heq
    obtain ⟨hruns, hstatus⟩ := suite.plain host.started_at_s entry hentry
    obtain rfl | rfl := hkey
    · exact hruns heq
    · exact hstatus heq
  simp only [Suite.execution, Json.getD, Json.find, List.append_assoc, List.find?_append, hnone, Option.none_or]

theorem execution_open {runs : List (Json F)} {closing : List (String × Json F)}
    (hclosing : Json.find closing "status" ≠ some (.str "completed")) :
    Open (some (.ok (suite.execution host runs closing))) := by
  rintro ⟨manifest, hmanifest, hstatus⟩
  obtain rfl := Except.ok.inj (Option.some.inj hmanifest)
  rw [Json.get, execution_get (.inr rfl)] at hstatus
  have hfind := Except.ok.inj hstatus
  change (Json.find closing "status").getD .null = .str "completed" at hfind
  cases hfound : Json.find closing "status" with
  | none =>
    rw [hfound] at hfind
    cases hfind
  | some found =>
    rw [hfound] at hfind hclosing
    exact hclosing (congrArg some hfind)

theorem open_unreadable (error : Raised) : Open (some (.error error) : Stored F) := by
  rintro ⟨manifest, hmanifest, _⟩
  cases hmanifest

theorem Broken.rewrite {stored : Stored F} (hbroken : Broken suite host world) (hopen : Open stored) :
    Broken suite host { world with suite_manifest := stored } := by
  obtain ⟨_, done, rest, hschedule, hcloses, hstarted, honly⟩ := hbroken
  exact ⟨hopen, done, rest, hschedule, hcloses, hstarted, honly⟩

variable (suite host)

/-- How a run of the schedule has ended: it has closed, or it has come to another code. -/
inductive Ran (done : List (S × ℕ)) (entry : S × ℕ) (rest : List (S × ℕ)) : Json F × ℤ → World F → Prop where
  | closed {world : World F} (hrunning : Running suite host (done ++ [entry]) rest [] world) :
      Ran done entry rest (suite.closed_record entry, 0) world
  | failed {record : Json F} {code : ℤ} {part : List (Act F)} {world : World F} (hcode : code ≠ 0)
      (hentry : ¬ Closes suite host entry) (hrunning : Running suite host done (entry :: rest) part world) :
      Ran done entry rest (record, code) world

theorem run_one_meets (done : List (S × ℕ)) (entry : S × ℕ) (rest : List (S × ℕ)) :
    Meets (Running suite host done (entry :: rest) []) (run_one suite host entry)
      (Ran suite host done entry rest) (fun _ => Broken suite host) := by
  unfold run_one
  dsimp only
  refine Meets.bind (Q := fun _ => Running suite host done (entry :: rest)
    [.lifecycle (suite.arguments entry.1 entry.2)]) (.update ?_) (fun _ => ?_)
  · rintro world ⟨hschedule, hcloses, _, hhistory, hmanifest⟩
    refine ⟨hschedule, hcloses, ?_, ?_, hmanifest⟩
    · exact ⟨[.validation (suite.bundle_dir entry)], rfl⟩
    · change world.history ++ _ = _
      rw [hhistory, List.append_nil]
  refine Meets.bind (Q := fun returncode world => Running suite host done (entry :: rest)
    [.lifecycle (suite.arguments entry.1 entry.2)] world ∧
      host.lifecycle entry.2 (suite.arguments entry.1 entry.2) = .ok returncode) (.call ?_ ?_) (fun returncode => ?_)
  · exact fun returncode world hreturned hworld => ⟨hworld, hreturned⟩
  · exact fun error world _ hworld => hworld.broken
  refine Meets.ite (fun hzero => ?_) (fun hnonzero => ?_)
  · subst hzero
    refine Meets.bind (Q := fun _ world => Running suite host done (entry :: rest) (suite.acts entry) world ∧
      host.lifecycle entry.2 (suite.arguments entry.1 entry.2) = .ok 0) (.update ?_) (fun _ => ?_)
    · rintro world ⟨⟨hschedule, hcloses, _, hhistory, hmanifest⟩, hlifecycle⟩
      refine ⟨⟨hschedule, hcloses, ?_, ?_, hmanifest⟩, hlifecycle⟩
      · rw [List.take_succ_cons, List.take_zero, List.flatMap_singleton]
      · change world.history ++ [.validation (suite.bundle_dir entry)] = _
        rw [hhistory, List.append_assoc]
        rfl
    refine Meets.bind (Q := fun validation world => Running suite host done (entry :: rest) (suite.acts entry) world ∧
      host.lifecycle entry.2 (suite.arguments entry.1 entry.2) = .ok 0 ∧
        host.validation entry.2 (suite.bundle_dir entry) suite.evidence_label = .ok validation) (.call ?_ ?_)
      (fun validation => ?_)
    · exact fun validation world hvalidated hworld => ⟨hworld.1, hworld.2, hvalidated⟩
    · exact fun error world _ hworld => hworld.1.broken
    have hended : ∀ world : World F, (Running suite host done (entry :: rest) (suite.acts entry) world ∧
        host.lifecycle entry.2 (suite.arguments entry.1 entry.2) = .ok 0 ∧
          host.validation entry.2 (suite.bundle_dir entry) suite.evidence_label = .ok validation) →
        Ran suite host done entry rest (suite.run_record entry 0 (some validation), validation) world := by
      rintro world ⟨hworld, hlifecycle, hvalidation⟩
      by_cases hzero : validation = 0
      · subst hzero
        exact .closed (hworld.next ⟨hlifecycle, hvalidation⟩)
      · refine .failed hzero (fun hcloses => ?_) hworld
        rw [hcloses.validation] at hvalidation
        exact hzero (Except.ok.inj hvalidation).symm
    refine Meets.ite (fun _ => ?_) (fun _ => .pure hended)
    refine Meets.bind (.call (fun _ world _ hworld => hworld) fun error world _ hworld => hworld.1.broken) (fun _ => ?_)
    refine Meets.bind (Q := fun _ => Ran suite host done entry rest
      (suite.run_record entry 0 (some validation), validation)) (.update ?_) (fun _ => .pure fun _ hworld => hworld)
    rintro world ⟨⟨hschedule, hcloses, hbegun, hhistory, hmanifest⟩, hcodes⟩
    exact hended _ ⟨⟨hschedule, hcloses, hbegun, hhistory, hmanifest⟩, hcodes⟩
  · refine .pure ?_
    rintro world ⟨hworld, hreturned⟩
    refine .failed hnonzero (fun hcloses => ?_) hworld
    rw [hcloses.lifecycle] at hreturned
    exact hnonzero (Except.ok.inj hreturned).symm

variable {suite host} in
theorem Running.rewrite {stored : Stored F} (hrunning : Running suite host done rest part world)
    (hopen : Open stored) : Running suite host done rest part { world with suite_manifest := stored } :=
  ⟨hrunning.schedule, hrunning.closes, hrunning.begun, hrunning.history, hopen⟩

variable {suite host} in
theorem Ran.rewrite {entry : S × ℕ} {ended : Json F × ℤ} {stored : Stored F}
    (hran : Ran suite host done entry rest ended world) (hopen : Open stored) :
    Ran suite host done entry rest ended { world with suite_manifest := stored } := by
  cases hran with
  | closed hrunning => exact .closed (hrunning.rewrite hopen)
  | failed hcode hentry hrunning => exact .failed hcode hentry (hrunning.rewrite hopen)

variable {suite host} in
theorem Ran.broken {entry : S × ℕ} {ended : Json F × ℤ} (hran : Ran suite host done entry rest ended world) :
    Broken suite host world := by
  cases hran with
  | closed hrunning => exact hrunning.broken
  | failed _ _ hrunning => exact hrunning.broken

/-- How the loop ends: at the end of the schedule, or at a run that does not close. -/
inductive Over : List (Json F) × String → World F → Prop where
  | completed {world : World F} (hrunning : Running suite host suite.sequenced [] [] world) :
      Over (suite.sequenced.map suite.closed_record, "completed") world
  | failed {runs : List (Json F)} {status : String} (hstatus : status ≠ "completed") {done rest : List (S × ℕ)}
      {entry : S × ℕ} {part : List (Act F)} {world : World F} (hentry : ¬ Closes suite host entry)
      (hrunning : Running suite host done (entry :: rest) part world) : Over (runs, status) world

theorem run_all_meets (done rest : List (S × ℕ)) :
    Meets (Running suite host done rest []) (run_all suite host rest (done.map suite.closed_record))
      (Over suite host) (fun _ => Broken suite host) := by
  induction rest generalizing done with
  | nil =>
    refine .pure (fun world hrunning => ?_)
    have hdone : suite.sequenced = done := hrunning.schedule.trans (List.append_nil done)
    subst hdone
    exact .completed hrunning
  | cons entry rest ih =>
    rw [run_all]
    refine Meets.bind (run_one_meets suite host done entry rest) (fun ended => ?_)
    obtain ⟨record, code⟩ := ended
    refine Meets.bind (Q := fun _ => Ran suite host done entry rest (record, code))
      (write_meets (fun _ hran => hran.rewrite (execution_open nofun)) (fun _ _ hran => hran.broken)
        (fun _ unreadable _ hran => hran.broken.rewrite (open_unreadable unreadable))) (fun _ => ?_)
    have hfailed : ∀ status, status ≠ "completed" → code ≠ 0 →
        Meets (Ran suite host done entry rest (record, code))
          (pure (done.map suite.closed_record ++ [record], status) : Step F _) (Over suite host)
          (fun _ => Broken suite host) := by
      intro status hstatus hcode
      refine .pure (fun world hran => ?_)
      cases hran with
      | closed => contradiction
      | failed _ hentry hrunning => exact .failed hstatus hentry hrunning
    refine Meets.ite (fun hthree => hfailed _ (by decide) (by omega))
      (fun _ => .ite (fun hcode => ?_) (fun hzero => ?_))
    · exact hfailed _ (by decide) hcode
    · rw [not_not] at hzero
      subst hzero
      refine Meets.weaken (P := fun world => Running suite host (done ++ [entry]) rest [] world ∧
        record = suite.closed_record entry) (.given fun hrecord => ?_) (fun world hran => ?_) (fun _ _ h => h)
        (fun _ _ h => h)
      · subst hrecord
        have hnext := ih (done ++ [entry])
        rwa [List.map_append] at hnext
      · cases hran with
        | closed hrunning => exact ⟨hrunning, rfl⟩
        | failed hcode => contradiction

/-- The manifest of a suite all of whose runs have closed. -/
def Suite.completed : Json F :=
  suite.execution host (suite.sequenced.map suite.closed_record) (closing host "completed")

/-- What a suite that returns leaves behind. -/
inductive Returned : ℤ → World F → Prop where
  | completed {world : World F} (hcloses : ∀ entry ∈ suite.sequenced, Closes suite host entry)
      (hhistory : world.history = suite.sequenced.flatMap suite.acts)
      (hmanifest : world.suite_manifest = some (.ok (suite.completed host))) : Returned 0 world
  | failed {world : World F} (hopen : Open world.suite_manifest) {done rest : List (S × ℕ)} {entry : S × ℕ}
      (hwithin : Within suite host done (entry :: rest) world) (hentry : ¬ Closes suite host entry) : Returned 1 world

theorem Over.broken {ended : List (Json F) × String} (hover : Over suite host ended world) :
    Broken suite host world := by
  cases hover with
  | completed hrunning => exact hrunning.broken
  | failed _ _ hrunning => exact hrunning.broken

/-- The last write settles what the suite comes to. -/
theorem finished_meets (runs : List (Json F)) (status : String) :
    Meets (Over suite host (runs, status))
      (write_json host.finished_written (suite.execution host runs (closing host status)))
      (fun _ => Returned suite host (if status = "completed" then 0 else 1)) (fun _ => Broken suite host) := by
  refine write_meets (fun world hover => ?_) (fun _ world hover => hover.broken)
    (fun _ unreadable world hover => hover.broken.rewrite (open_unreadable unreadable))
  cases hover with
  | completed hrunning => exact .completed hrunning.closes (hrunning.history.trans (List.append_nil _)) rfl
  | failed hstatus hentry hrunning =>
    have hopen : Open (some (.ok (suite.execution host runs (closing host status)))) :=
      execution_open fun hfound => hstatus (Json.str.inj (Option.some.inj hfound))
    rw [if_neg hstatus]
    exact .failed hopen (hrunning.rewrite hopen).within hentry

theorem execute_meets : Meets (fun world => world = World.empty F) (execute suite host) (Returned suite host)
    (fun _ => Broken suite host) := by
  have hempty : Running suite host [] suite.sequenced [] (World.empty F) :=
    ⟨rfl, by simp, List.nil_prefix, rfl, not_completed_none⟩
  have hrest : Meets (Running suite host [] suite.sequenced [])
      (do
        let ended ← run_all suite host suite.sequenced []
        write_json host.finished_written (suite.execution host ended.1 (closing host ended.2))
        return if ended.2 = "completed" then 0 else 1 : Step F ℤ)
      (Returned suite host) (fun _ => Broken suite host) := by
    refine Meets.bind (run_all_meets suite host [] suite.sequenced) (fun ended => ?_)
    obtain ⟨runs, status⟩ := ended
    exact Meets.bind (finished_meets suite host runs status) (fun _ => .pure fun _ hworld => hworld)
  unfold execute
  refine Meets.ite (fun _ => ?_) (fun _ => ?_)
  · refine Meets.bind (write_meets ?_ ?_ ?_) (fun _ => hrest)
    · rintro world rfl
      exact hempty.rewrite (execution_open nofun)
    · rintro error world rfl
      exact hempty.broken
    · rintro error unreadable world rfl
      exact hempty.broken.rewrite (open_unreadable unreadable)
  · refine hrest.weaken ?_ (fun _ _ h => h) (fun _ _ h => h)
    rintro world rfl
    exact hempty

theorem enter_meets (inside_worktree overwrites : String) :
    Meets (fun world => world = World.empty F) (enter host inside_worktree overwrites)
      (fun _ world => world = World.empty F) (fun _ world => world = World.empty F) :=
  .ite (fun _ => .raise fun _ hworld => hworld) fun _ =>
    .ite (fun _ => .raise fun _ hworld => hworld) fun _ =>
      .call (fun _ _ _ hworld => hworld) fun _ _ _ hworld => hworld

theorem main_meets : Meets (fun world => world = World.empty F) (main suite host) (Returned suite host)
    (fun _ => Broken suite host) := by
  unfold main
  refine Meets.bind ((enter_meets host _ _).weaken (fun _ h => h) (fun _ _ h => h) ?_)
    (fun _ => execute_meets suite host)
  rintro error world rfl
  exact (show Running suite host [] suite.sequenced [] (World.empty F) from
    ⟨rfl, by simp, List.nil_prefix, rfl, not_completed_none⟩).broken

/-- A suite that finds nothing of its directory: what it comes to, and what it leaves. -/
def run : Except Raised ℤ × World F := main suite host (World.empty F)

/-- Wherever a suite stops, it has started its runs once each and in their order, and none
after one that does not close. -/
theorem suite_in_order :
    ∃ done rest, suite.sequenced = done ++ rest ∧ (∀ entry ∈ done, Closes suite host entry) ∧
      done.flatMap suite.acts <+: (run suite host).2.history ∧
      (run suite host).2.history <+: (done ++ rest.take 1).flatMap suite.acts := by
  cases hended : (run suite host).1 with
  | error error =>
    obtain ⟨_, done, rest, hwithin⟩ := (main_meets suite host).raised rfl hended
    exact ⟨done, rest, hwithin.schedule, hwithin.closes, hwithin.started, hwithin.only⟩
  | ok code =>
    have hreturned : Returned suite host code (run suite host).2 := (main_meets suite host).returned rfl hended
    generalize (run suite host).2 = world at *
    cases hreturned with
    | completed hcloses hhistory =>
      refine ⟨suite.sequenced, [], (List.append_nil _).symm, hcloses, ?_, ?_⟩
      · rw [hhistory]
      · rw [hhistory, List.take_nil, List.append_nil]
    | failed _ hwithin => exact ⟨_, _, hwithin.schedule, hwithin.closes, hwithin.started, hwithin.only⟩

theorem completed_recorded : Recorded (some "completed") (some (.ok (suite.completed host))) := by
  refine ⟨_, rfl, ?_⟩
  rw [Json.get, Suite.completed, execution_get (.inr rfl)]
  rfl

/-- The runs a completed suite lists. -/
theorem completed_runs :
    (suite.completed host).getD "runs" (.list []) = .ok (.list (suite.sequenced.map suite.closed_record)) := by
  rw [Suite.completed, execution_get (.inl rfl)]
  rfl

/-- A suite that has come to 0 has its manifest, and one that has not does not say so. -/
theorem run_cases :
    ((run suite host).1 = .ok 0 ∧ (∀ entry ∈ suite.sequenced, Closes suite host entry) ∧
        (run suite host).2.history = suite.sequenced.flatMap suite.acts ∧
        (run suite host).2.suite_manifest = some (.ok (suite.completed host))) ∨
      ((run suite host).1 ≠ .ok 0 ∧ Open (run suite host).2.suite_manifest ∧
        (Returns (run suite host).1 → ∃ entry ∈ suite.sequenced, ¬ Closes suite host entry)) := by
  cases hended : (run suite host).1 with
  | error error =>
    have hbroken : Broken suite host (run suite host).2 := (main_meets suite host).raised rfl hended
    refine .inr ⟨nofun, hbroken.1, ?_⟩
    rintro ⟨code, hcode⟩
    cases hcode
  | ok code =>
    have hreturned : Returned suite host code (run suite host).2 := (main_meets suite host).returned rfl hended
    generalize (run suite host).2 = world at *
    cases hreturned with
    | completed hcloses hhistory hmanifest => exact .inl ⟨rfl, hcloses, hhistory, hmanifest⟩
    | failed hopen hwithin hentry =>
      refine .inr ⟨by simp, hopen, fun _ => ⟨_, ?_, hentry⟩⟩
      rw [hwithin.schedule]
      simp

theorem completed_of_recorded (hrecorded : Recorded (some "completed") (run suite host).2.suite_manifest) :
    (run suite host).1 = .ok 0 ∧ (∀ entry ∈ suite.sequenced, Closes suite host entry) ∧
      (run suite host).2.suite_manifest = some (.ok (suite.completed host)) := by
  obtain ⟨hcode, hcloses, _, hmanifest⟩ | ⟨_, hopen, _⟩ := run_cases suite host
  · exact ⟨hcode, hcloses, hmanifest⟩
  · exact absurd hrecorded hopen

theorem completed_history (hrecorded : Recorded (some "completed") (run suite host).2.suite_manifest) :
    (run suite host).2.history = suite.sequenced.flatMap suite.acts := by
  obtain ⟨_, _, hhistory, _⟩ | ⟨_, hopen, _⟩ := run_cases suite host
  · exact hhistory
  · exact absurd hrecorded hopen

/-- The manifest says that a suite has completed exactly if it came to 0, which it does
once each of its runs has closed and is recorded, and in no other case that it returns. -/
theorem suite_completed_iff :
    ((run suite host).1 = .ok 0 ↔ Recorded (some "completed") (run suite host).2.suite_manifest) ∧
      ((run suite host).1 = .ok 0 ↔ (run suite host).2.suite_manifest = some (.ok (suite.completed host))) ∧
      ((run suite host).1 = .ok 0 ↔
        Returns (run suite host).1 ∧ ∀ entry ∈ suite.sequenced, Closes suite host entry) := by
  obtain ⟨hcode, hcloses, _, hmanifest⟩ | ⟨hcode, hopen, hunclosed⟩ := run_cases suite host
  · refine ⟨iff_of_true hcode ?_, iff_of_true hcode hmanifest, iff_of_true hcode ⟨⟨0, hcode⟩, hcloses⟩⟩
    rw [hmanifest]
    exact completed_recorded suite host
  · refine ⟨iff_of_false hcode hopen, iff_of_false hcode fun hmanifest => ?_, iff_of_false hcode ?_⟩
    · exact hopen (hmanifest ▸ completed_recorded suite host)
    · rintro ⟨hreturns, hcloses⟩
      obtain ⟨entry, hentry, hnot⟩ := hunclosed hreturns
      exact hnot (hcloses entry hentry)

end

def sample_args : SuiteArgs := ⟨"/data/suite", "/models/qwen", "/repo/vendor/vllm", 7, 8011⟩

/-- A host on which every run of a suite closes. -/
def closing_host : Host ℚ where
  inside_worktree := false
  suite_exists := false
  mkdir := .ok ()
  started_at_s := 0
  begun_written := .done
  lifecycle _ _ := .ok 0
  validation _ _ _ := .ok 0
  flag_written _ := .ok ()
  record_written _ := .done
  finished_at_s := 3600
  finished_written := .done

end online_suites
