import KvMaterialization.Experiments.SuiteOutcome

open python effects online_suites
open run_online_lifecycle (PolicyMode Recorded)

namespace run_m2_candidate_pilot

section Shards

variable {α : Type}

/-- The slices of a list share it out. -/
theorem slices_perm (shards : ℕ) (candidates : List α) :
    ((List.range (shards + 1)).flatMap fun shard => slice (shards + 1) shard candidates).Perm candidates := by
  induction candidates with
  | nil => simp [slice]
  | cons candidate rest ih =>
    rw [List.range_succ_eq_map, List.flatMap_cons, List.flatMap_map]
    rw [List.range_succ, List.flatMap_append, List.flatMap_singleton] at ih
    exact ((List.perm_append_comm.trans ih).cons candidate)

end Shards

/-- What a candidate is run with, once for each policy. -/
def runs_of (candidate : Candidate) : List (String × PolicyMode) := POLICIES.map fun policy => (candidate.1, policy)

theorem order_perm (place : ℕ) : (order place).Perm POLICIES := by
  unfold order
  split <;> decide

/-- A schedule has every candidate with every policy, wherever the candidate stands. -/
theorem build_schedule_perm (candidates : List Candidate) :
    ((build_schedule candidates).map fun spec => (spec.workload, spec.policy_mode)).Perm
      (candidates.flatMap runs_of) := by
  have hplaced : ∀ place, ((candidates.zipIdx place).flatMap fun placed =>
      (order placed.2).map fun policy => (placed.1.1, policy)).Perm (candidates.flatMap runs_of) := by
    induction candidates with
    | nil => exact fun _ => .refl _
    | cons candidate rest ih =>
      intro place
      rw [List.zipIdx_cons, List.flatMap_cons, List.flatMap_cons]
      exact ((order_perm place).map _).append (ih (place + 1))
  have hschedule := hplaced 0
  rw [build_schedule, List.map_flatMap]
  simpa only [List.map_map, Function.comp_def] using hschedule

section

variable {F : Type} [PyFloat F]

/-- The workloads and policies of the lifecycles that were started. -/
def started (world : World F) : List (String × PolicyMode) :=
  world.history.filterMap fun act =>
    match act with
    | .lifecycle args => some (args.workload_case, args.policy_mode)
    | .validation _ => none

omit [PyFloat F] in
theorem started_acts {S : Type} {suite : Suite F S} (entries : List (S × ℕ)) :
    (entries.flatMap suite.acts).filterMap (fun act : Act F =>
      match act with
      | .lifecycle args => some (args.workload_case, args.policy_mode)
      | .validation _ => none) =
      entries.map fun entry =>
        ((suite.arguments entry.1 entry.2).workload_case, (suite.arguments entry.1 entry.2).policy_mode) := by
  induction entries with
  | nil => rfl
  | cons entry rest ih =>
    rw [List.flatMap_cons, List.filterMap_append, ih]
    rfl

/-- What the pilot of a shard comes to, and what it leaves. -/
def pilot (host : Host F) (args : SuiteArgs) (candidate_set : CandidateSet) (shard_index num_shards : ℤ) :
    Except run_online_lifecycle.Raised ℤ × World F :=
  main host args candidate_set shard_index num_shards (World.empty F)

/-- A pilot is the run of its shard's suite, or has raised and left nothing. -/
theorem pilot_cases (host : Host F) (args : SuiteArgs) (candidate_set : CandidateSet) (shard_index num_shards : ℤ) :
    (∃ candidates, select_shard candidate_set.candidates shard_index num_shards = .ok candidates ∧
      pilot host args candidate_set shard_index num_shards =
        run (suite args candidate_set shard_index num_shards candidates) host) ∨
      ∃ error, (pilot host args candidate_set shard_index num_shards).1 = .error error ∧
        (pilot host args candidate_set shard_index num_shards).2 = World.empty F := by
  have hraises : ∀ inside_worktree overwrites (error : run_online_lifecycle.Raised),
      Meets (fun world => world = World.empty F) (do enter host inside_worktree overwrites; raise error : Step F ℤ)
        (fun _ _ => False) (fun _ world => world = World.empty F) := fun inside_worktree overwrites error =>
    Meets.bind (enter_meets host inside_worktree overwrites) fun _ => .raise fun _ hworld => hworld
  unfold pilot main
  cases hselected : select_shard candidate_set.candidates shard_index num_shards with
  | error error => exact .inr ((hraises _ _ _).raises rfl)
  | ok candidates =>
    cases candidates with
    | nil => exact .inr ((hraises _ _ _).raises rfl)
    | cons candidate rest => exact .inl ⟨candidate :: rest, rfl, rfl⟩

/-- Wherever a pilot stops, it has started the runs of its shard once each and in their
order, and none after one that does not close; of no shard it starts nothing. -/
theorem pilot_in_order (host : Host F) (args : SuiteArgs) (candidate_set : CandidateSet)
    (shard_index num_shards : ℤ) :
    (pilot host args candidate_set shard_index num_shards).2.history = [] ∨
      ∃ candidates done rest, select_shard candidate_set.candidates shard_index num_shards = .ok candidates ∧
        (suite args candidate_set shard_index num_shards candidates : Suite F RunSpec).sequenced = done ++ rest ∧
        (∀ entry ∈ done, Closes (suite args candidate_set shard_index num_shards candidates) host entry) ∧
        done.flatMap (suite args candidate_set shard_index num_shards candidates).acts <+:
          (pilot host args candidate_set shard_index num_shards).2.history ∧
        (pilot host args candidate_set shard_index num_shards).2.history <+:
          (done ++ rest.take 1).flatMap (suite args candidate_set shard_index num_shards candidates).acts := by
  obtain ⟨candidates, hselected, hpilot⟩ | ⟨_, _, hempty⟩ :=
    pilot_cases host args candidate_set shard_index num_shards
  · rw [hpilot]
    obtain ⟨done, rest, hschedule, hcloses, hstarted, honly⟩ :=
      suite_in_order (suite args candidate_set shard_index num_shards candidates) host
    exact .inr ⟨candidates, done, rest, hselected, hschedule, hcloses, hstarted, honly⟩
  · rw [hempty]
    exact .inl rfl

/-- The manifest says that a pilot has completed exactly if it came to 0. -/
theorem pilot_completed_iff (host : Host F) (args : SuiteArgs) (candidate_set : CandidateSet)
    (shard_index num_shards : ℤ) :
    (pilot host args candidate_set shard_index num_shards).1 = .ok 0 ↔
      Recorded (some "completed") (pilot host args candidate_set shard_index num_shards).2.suite_manifest := by
  obtain ⟨candidates, _, hpilot⟩ | ⟨error, herror, hempty⟩ :=
    pilot_cases host args candidate_set shard_index num_shards
  · rw [hpilot]
    exact (suite_completed_iff _ host).1
  · rw [herror, hempty]
    exact iff_of_false (by simp) run_online_lifecycle.not_completed_none

/-- The pilot of a shard that has completed has run each candidate of the shard with each policy. -/
theorem pilot_completed {host : Host F} {args : SuiteArgs} {candidate_set : CandidateSet} {shard shards : ℕ}
    (hshard : shard < shards)
    (hcompleted : Recorded (some "completed") (pilot host args candidate_set shard shards).2.suite_manifest) :
    (started (pilot host args candidate_set shard shards).2).Perm
      ((slice shards shard candidate_set.candidates).flatMap runs_of) := by
  obtain ⟨candidates, hselected, hpilot⟩ | ⟨error, _, hempty⟩ := pilot_cases host args candidate_set shard shards
  · have hslice : slice shards shard candidate_set.candidates = candidates := by
      rw [select_shard, if_neg (by omega), Int.toNat_natCast, Int.toNat_natCast] at hselected
      exact Except.ok.inj hselected
    rw [hpilot] at hcompleted ⊢
    have hhistory := completed_history _ host hcompleted
    have hstarted : started (run (suite args candidate_set shard shards candidates) host).2 =
        (build_schedule candidates).map fun spec => (spec.workload, spec.policy_mode) := by
      rw [started, hhistory, started_acts, ← List.zipIdx_map_fst 1 (build_schedule candidates), List.map_map]
      rfl
    rw [hslice, hstarted]
    exact build_schedule_perm candidates
  · rw [hempty] at hcompleted
    exact absurd hcompleted run_online_lifecycle.not_completed_none

/-- However a candidate set is shared out, the pilots of its shards run each candidate
with each policy, and once, if all of them complete. -/
theorem sharded_pilot_complete (candidate_set : CandidateSet) (num_shards : ℕ) (hosts : ℕ → Host F)
    (args : ℕ → SuiteArgs) (hpositive : 0 < num_shards)
    (hcompleted : ∀ shard < num_shards,
      Recorded (some "completed") (pilot (hosts shard) (args shard) candidate_set shard num_shards).2.suite_manifest) :
    ((List.range num_shards).flatMap fun shard =>
      started (pilot (hosts shard) (args shard) candidate_set shard num_shards).2).Perm
        (candidate_set.candidates.flatMap runs_of) := by
  obtain ⟨shards, rfl⟩ : ∃ shards, num_shards = shards + 1 := ⟨num_shards - 1, by omega⟩
  have hshards : ((List.range (shards + 1)).flatMap fun shard =>
      started (pilot (hosts shard) (args shard) candidate_set shard ((shards + 1 : ℕ))).2).Perm
        ((List.range (shards + 1)).flatMap fun shard =>
          (slice (shards + 1) shard candidate_set.candidates).flatMap runs_of) :=
    List.Perm.flatMap_left _ fun shard hshard =>
      pilot_completed (List.mem_range.mp hshard) (hcompleted shard (List.mem_range.mp hshard))
  refine hshards.trans ?_
  rw [← List.flatMap_assoc]
  exact (slices_perm shards candidate_set.candidates).flatMap_right _

end

theorem sharded_pilot_complete_ranked :
    ((List.range 2).flatMap fun shard =>
      started (pilot closing_host sample_args .offline_ranked shard 2).2).Perm
        (CandidateSet.offline_ranked.candidates.flatMap runs_of) := by
  refine sharded_pilot_complete .offline_ranked 2 (fun _ => closing_host) (fun _ => sample_args) (by decide) ?_
  intro shard hshard
  obtain rfl | rfl : shard = 0 ∨ shard = 1 := by omega
  · exact ⟨_, rfl, rfl⟩
  · exact ⟨_, rfl, rfl⟩

end run_m2_candidate_pilot
