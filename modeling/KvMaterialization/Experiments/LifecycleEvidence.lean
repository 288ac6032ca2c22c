import KvMaterialization.Experiments.BundleClosure
import KvMaterialization.Experiments.LifecycleOutcome

open python effects

namespace validate_online_bundle

section

variable {F : Type} [PyNumber F]

/-- What the environment, the run and the clean-up of a bundle without errors say. -/
structure Sound (records : Records F) : Prop where
  clean : ∀ part ∈ ["parent", "carrier"], dirty_part records.environment part = .ok false
  status : records.manifest.get "status" = .ok (.str "completed")
  port : ∃ free, records.cleanup.get "port_free_after" = .ok free ∧ free.truthy = true
  device : ∃ idle, records.cleanup.get "device_idle_after" = .ok idle ∧ idle.truthy = true
  graphs : ∃ evidence lines, records.environment.getD "execution_mode_evidence" (.list []) = .ok evidence ∧
    evidence.iterate = .ok lines ∧ ∃ line ∈ lines, line.containsText "enforce_eager=False" = .ok true

theorem run_errors_spec {runtime : Runtime F} {records : Records F} {require : Bool} {realized : List String}
    (herrors : run_errors runtime records require realized = .ok []) : Sound records := by
  simp only [run_errors, bind_eq_ok_iff, pure_eq_ok_iff] at herrors
  obtain ⟨fingerprint, _, dirty, hdirty, status, hstatus, port, hport, device, hdevice, evidence, hevidence, graphs,
    hgraphs, herrors⟩ := herrors
  simp only [List.append_eq_nil_iff, errorIf, ite_eq_right_iff, reduceCtorEq, imp_false, Bool.not_eq_true] at herrors
  obtain ⟨⟨⟨⟨⟨_, rfl⟩, hcompleted⟩, hidle⟩, hmode⟩, _⟩ := herrors
  rw [Bool.not_eq_false'] at hcompleted hmode
  rw [Bool.or_eq_false_iff, Bool.not_eq_false', Bool.not_eq_false'] at hidle
  subst hmode
  refine ⟨anyM_eq_ok_iff.1.mp hdirty, ?_, ⟨port, hport, hidle.1⟩, ⟨device, hdevice, hidle.2⟩, ?_⟩
  · rw [hstatus, eq_str_iff.mp hcompleted]
  · unfold proves_graph_mode at hgraphs
    split at hgraphs
    · cases pure_eq_ok_iff.mp hgraphs
    · obtain ⟨lines, hlines, hany⟩ := bind_eq_ok_iff.mp hgraphs
      exact ⟨evidence, lines, hevidence, hlines, anyM_eq_ok_iff.2 hany⟩

theorem validate_records_sound {runtime : Runtime F} {records : Records F} {label : Option String} {require : Bool}
    {result : Validation F} (hresult : validate_records runtime records label require = .ok result)
    (hvalid : result.valid = true) : Sound records := by
  obtain ⟨stages, rfl⟩ := validate_records_ok_iff.mp hresult
  simp only [Validation.valid, Stages.result, List.isEmpty_iff, List.append_eq_nil_iff] at hvalid
  obtain ⟨⟨_, hrun⟩, _⟩ := hvalid
  exact run_errors_spec (hrun ▸ stages.hrun)

theorem validate_bundle_sound {runtime : Runtime F} {bundle : Bundle F} {label : Option String} {require : Bool}
    {result : Validation F} (hresult : validate_bundle runtime bundle label require = .ok result)
    (hvalid : result.valid = true) : ∃ records, bundle.read = .ok records ∧ Sound records := by
  obtain ⟨_, records, hread, hrecords⟩ := validate_bundle_read hresult hvalid
  exact ⟨records, hread, validate_records_sound hrecords hvalid⟩

end

end validate_online_bundle

namespace run_online_lifecycle

open validate_online_bundle

/-- The files of a bundle that the server and the client write. -/
structure Outputs (F : Type) where
  request_summary : File (Json F)
  request_results : File (List (Json F))
  runtime_observations : File (List (Json F))
  runtime_events : File (List (Json F))

section

variable {F : Type}

/-- A file as the validator reads it: one that was not written whole does not decode. -/
def decoded : Except Raised (Json F) → Except Exception (Json F)
  | .ok value => .ok value
  | .error error => .error (.value_error error.message)

def World.bundle (world : World F) (outputs : Outputs F) : Bundle F where
  environment_manifest := world.environment_manifest.map decoded
  run_manifest := world.run_manifest.map decoded
  request_summary := outputs.request_summary
  request_results := outputs.request_results
  runtime_observations := outputs.runtime_observations
  runtime_events := outputs.runtime_events
  server_log := world.server_log
  client_log := world.client_log
  cleanup := world.cleanup.map decoded

theorem read_stored {stored : Stored F} {value : Json F} (hread : File.read (stored.map decoded) = .ok value) :
    stored = some (.ok value) := by
  obtain _ | error | found := stored
  · cases hread
  · cases hread
  · obtain rfl := Except.ok.inj hread
    rfl

/-- The records of a bundle are what the lifecycle left in it. -/
theorem World.bundle_read {world : World F} {outputs : Outputs F} {records : Records F}
    (hread : (world.bundle outputs).read = .ok records) :
    world.environment_manifest = some (.ok records.environment) ∧ world.run_manifest = some (.ok records.manifest) ∧
      world.cleanup = some (.ok records.cleanup) := by
  simp only [Bundle.read, bind_eq_ok_iff, pure_eq_ok_iff] at hread
  obtain ⟨environment, henvironment, manifest, hmanifest, summary, _, cleanup, hcleanup, _, _, _, _, _, _, rfl⟩ := hread
  exact ⟨read_stored henvironment, read_stored hmanifest, read_stored hcleanup⟩

theorem graphs_of_evidence (runtime : Runtime F) {evidence : Json F} {log : String} {lines : List (Json F)}
    (hevidence : evidence = texts (graph_evidence runtime.toInterpreter log)) (hlines : evidence.iterate = .ok lines)
    {line : Json F} (hline : line ∈ lines) (hmode : line.containsText "enforce_eager=False" = .ok true) :
    ∃ line ∈ splitlines log, contains line "enforce_eager=False" = true := by
  subst hevidence
  obtain rfl := Except.ok.inj hlines
  obtain ⟨text, htext, rfl⟩ := List.mem_map.mp hline
  exact ⟨text, (List.mem_filter.mp htext).1, Except.ok.inj hmode⟩

theorem evidence_final (runtime : Runtime F) (fingerprint : Json F → String) (args : Args F) (host : Host F)
    (checked : Checked F) (log : String) :
    (final_manifest runtime args (environment_manifest fingerprint args host checked) log).getD
        "execution_mode_evidence" (.list []) = .ok (texts (graph_evidence runtime.toInterpreter log)) := rfl

end

section

variable {F : Type} [PyNumber F] (runtime : Runtime F) (fingerprint : Json F → String) (args : Args F)
  (host : Host F)

/-- What a lifecycle that makes evidence has been through. -/
structure Evidenced (checked : Checked F) : Prop where
  checks : check_host args host = .ok checked
  admitted : blocking_reasons args host checked = .ok []
  parent_clean : checked.parent_state.dirty = false
  carrier_clean : checked.carrier_state.dirty = false
  confirmed : Confirmed runtime args host
  client : host.client = .ok 0
  port : host.port_free_after = .ok true
  device : ∃ npu, run_capture ["npu-smi", "info"] host.npu_after = .ok npu ∧ npu_is_idle npu.stdout args.device = true
  graphs : ∃ log, host.final_server_log = .ok log ∧ ∃ line ∈ splitlines log, contains line "enforce_eager=False" = true

/-- The finished manifest still has the worktrees as they were at the start. -/
theorem dirty_part_final (checked : Checked F) (log : String) :
    dirty_part (final_manifest runtime args (environment_manifest fingerprint args host checked) log) "parent" =
        .ok checked.parent_state.dirty ∧
      dirty_part (final_manifest runtime args (environment_manifest fingerprint args host checked) log) "carrier" =
        .ok checked.carrier_state.dirty := by
  constructor
  · rw [dirty_part, final_manifest, Json.getD_assign_of_ne _ _ _ (by decide), Json.getD_assign_of_ne _ _ _ (by decide)]
    rfl
  · rw [dirty_part, final_manifest, Json.getD_assign_of_ne _ _ _ (by decide), Json.getD_assign_of_ne _ _ _ (by decide)]
    rfl

/-- Only a lifecycle that comes to 0 records the run as completed. -/
theorem Settled.of_completed {checked : Checked F} {code : ℤ} {run_manifest : Stored F}
    {failed blocked : Option String} {server : Option ℕ}
    (hsettled : Settled runtime args host checked code run_manifest failed blocked server)
    (hcompleted : Recorded (some "completed") run_manifest) :
    code = 0 ∧ (∃ pid, run_manifest = some (.ok (completed_manifest runtime args host pid))) ∧ server.isSome = true ∧
      Confirmed runtime args host ∧ host.client = .ok 0 ∧ blocking_reasons args host checked = .ok [] := by
  cases hsettled with
  | completed pid hserver hconfirmed hclient hadmitted =>
    exact ⟨rfl, ⟨pid, rfl⟩, hserver, hconfirmed, hclient, hadmitted⟩
  | blocked => exact absurd hcompleted not_completed_none
  | failed error hrecorded =>
    obtain hnone | hfailed := hrecorded
    · exact absurd (hnone.eq hcompleted) (by decide)
    · exact absurd (hfailed.eq hcompleted) (by decide)

/-- The code of a lifecycle that returns is told by its files: it has completed, it was
refused before a server was started, or it has failed. -/
theorem exit_code_told (code : ℤ) (hcode : (lifecycle runtime fingerprint args host).1 = .ok code) :
    let world := (lifecycle runtime fingerprint args host).2
    (code = 0 ↔ Recorded (some "completed") world.run_manifest) ∧
      (code = 1 ↔ world.failed.isSome = true) ∧
      (code = 3 ↔ world.failed = none ∧ world.blocked.isSome = true) ∧
      (code = 3 → world.run_manifest = none ∧ world.server = none ∧ Phase.after world.history = some .idle) ∧
      (code = 0 ∨ code = 1 ∨ code = 3) ∧ Cleaned args host world := by
  obtain ⟨checked, hreturned⟩ := lifecycle_returned runtime fingerprint args host hcode
  obtain ⟨_, hsettled, hcleaned, _, phase, hphase, htracks⟩ := hreturned
  have hcompleted_code := fun hcompleted => (hsettled.of_completed _ _ _ hcompleted).1
  dsimp only
  generalize (lifecycle runtime fingerprint args host).2 = world at *
  obtain ⟨hpath, hserver, _⟩ := htracks
  obtain ⟨environment, run_manifest, cleanup, failed, blocked, server_log, client_log, server, returncode,
    history⟩ := world
  dsimp only at *
  cases hsettled with
  | completed pid =>
    exact ⟨iff_of_true rfl ⟨_, rfl, completed_status runtime args host pid⟩, by simp, by simp, by simp,
      by simp, hcleaned⟩
  | blocked hreasons =>
    have hidle : phase = .idle := by
      by_contra hne
      exact Bool.noConfusion (hserver.mpr hne)
    exact ⟨iff_of_false (by decide) not_completed_none, by simp, by simp, fun _ => ⟨rfl, rfl, hidle ▸ hpath⟩,
      by simp, hcleaned⟩
  | failed error hrecorded =>
    have hnot : ¬ Recorded (some "completed") run_manifest := fun hcompleted =>
      absurd (hcompleted_code hcompleted) (by decide)
    exact ⟨iff_of_false (by decide) hnot, by simp, by simp, by simp, by simp, hcleaned⟩

end

/-- A lifecycle on an idle device, in which every call does what is asked of it. -/
def orderlyArgs : Args ℚ where
  bundle_dir := "/data/bundle"
  workload_case := "reuse-heavy"
  condition := .tuned
  policy_mode := .controller
  seam := .segmented
  carrier_root := "/repo/vendor/vllm"
  model := "/models/qwen"
  served_model_name := "Qwen2.5-7B-Instruct"
  device := 7
  host := "127.0.0.1"
  port := 8011
  block_size := 128
  max_model_len := 32768
  gpu_memory_utilization := 17 / 20
  request_rate := 24
  concurrency := 4
  max_output_tokens := 64
  seed := 7
  env_name := "vllm-kv-materialization-exp"
  health_timeout_s := 900
  evidence_label := "real-online/formal-matrix"
  allow_dirty := false

def orderlyGit (path : String) : Git := ⟨path, .ok "", .ok "0a1b\n", .ok "main\n"⟩

def orderlyHost : Host ℚ where
  executable := "/env/bin/python"
  environ := .empty
  conda_prefix := none
  bundle_exists := false
  parent := orderlyGit "/repo"
  carrier := orderlyGit "/repo/vendor/vllm"
  mkdir := .ok ()
  created_at_utc := "2025-01-01T00:00:00.000000Z"
  npu_before := .finished 0 "No running processes found in NPU 7" ""
  workload_source := .ok .null
  versions := .finished 0 "[]" ""
  model_config := .ok (.dict [("_commit_hash", .str "c0de")])
  environment_written := .done
  port_free_before := .ok true
  model_config_is_file := .ok true
  blocked_written := .done
  run_started_at_utc := "2025-01-01T00:00:01.000000Z"
  starting_written := .done
  server_log_opened := .ok ()
  server_started := .ok 4242
  serving_written := .done
  probes := [⟨none, .unreachable "refused", .ok ()⟩, ⟨none, .status 200, .ok ()⟩]
  server_log := .ok "KV_MATERIALIZATION_PLUGIN_REGISTERED\nenforce_eager=False\n"
  client_log_opened := .ok ()
  client := .ok 0
  run_finished_at_utc := "2025-01-01T00:05:00.000000Z"
  completed_written := .done
  failure_written := .done
  failed_at_utc := ""
  failed_run_written := .done
  stopping := ⟨none, .ok (), .returned (-15), .ok (), .ok (-9)⟩
  port_free_after := .ok true
  npu_after := .finished 0 "No running processes found in NPU 7" ""
  cleanup_finished_at_utc := "2025-01-01T00:05:10.000000Z"
  cleanup_written := .done
  final_server_log := .ok "KV_MATERIALIZATION_PLUGIN_REGISTERED\nenforce_eager=False\n"
  final_environment_written := .done

theorem orderly_exit_code : (lifecycle Runtime.ascii (fun _ => "f3a1") orderlyArgs orderlyHost).1 = .ok 0 := by
  decide +kernel

theorem exit_code_told_orderly :
    Recorded (some "completed") (lifecycle Runtime.ascii (fun _ => "f3a1") orderlyArgs orderlyHost).2.run_manifest :=
  (exit_code_told Runtime.ascii (fun _ => "f3a1") orderlyArgs orderlyHost 0 orderly_exit_code).1.mp rfl

section

variable {F : Type} [PyNumber F] (runtime : Runtime F) (fingerprint : Json F → String) (args : Args F)
  (host : Host F)

/-- What is left of a lifecycle is sound only if it has returned 0, its server process has ended,
and what the host answered bears it out. -/
theorem sound_lifecycle {outputs : Outputs F} {records : Records F}
    (hread : ((lifecycle runtime fingerprint args host).2.bundle outputs).read = .ok records) (hsound : Sound records) :
    (lifecycle runtime fingerprint args host).1 = .ok 0 ∧
      Phase.after (lifecycle runtime fingerprint args host).2.history = some .down ∧
      (∃ pid, (lifecycle runtime fingerprint args host).2.run_manifest =
        some (.ok (completed_manifest runtime args host pid))) ∧
      ∃ checked, Evidenced runtime args host checked := by
  obtain ⟨hclean, hstatus, ⟨port, hport, hfree⟩, ⟨device, hdevice, hidle⟩, evidence, lines, hevidence, hlines, line,
    hline, hmode⟩ := hsound
  obtain ⟨henvironment, hmanifest, hcleanup⟩ := World.bundle_read hread
  have hcompleted : Recorded (some "completed") (lifecycle runtime fingerprint args host).2.run_manifest :=
    ⟨_, hmanifest, hstatus⟩
  -- A manifest that says nothing of the graphs does not prove how they were run.
  have hproof : ¬ Unproven (lifecycle runtime fingerprint args host).2.environment_manifest := by
    intro hunproven
    have hsilent := hunproven _ henvironment
    rw [Silent, hevidence] at hsilent
    obtain rfl := Except.ok.inj hsilent
    obtain rfl := Except.ok.inj hlines
    cases hline
  cases hended : (lifecycle runtime fingerprint args host).1 with
  | error error =>
    obtain hnot | hunproven := (lifecycle_broken runtime fingerprint args host hended).evidence
    · exact absurd hcompleted hnot
    · exact absurd hunproven hproof
  | ok code =>
    obtain ⟨checked, hchecks, hsettled, ⟨⟨free, report, hfree_after, hreport, hport_after⟩,
      npu, report', hnpu, hreport', hdevice_after⟩, hproven, phase, hphase, htracks⟩ :=
      lifecycle_returned runtime fingerprint args host hended
    obtain ⟨_, _⟩ | ⟨log, hlog, hfinal⟩ := hproven
    · contradiction
    obtain ⟨hcode, hwritten, hserver, hconfirmed, hclient, hadmitted⟩ := hsettled.of_completed _ _ _ hcompleted
    have hdown : phase = .down := hphase.resolve_left (htracks.server.mp hserver)
    subst hcode hdown
    rw [hcleanup] at hreport hreport'
    obtain rfl := Except.ok.inj (Option.some.inj hreport)
    obtain rfl := Except.ok.inj (Option.some.inj hreport')
    rw [hport_after] at hport
    rw [hdevice_after] at hdevice
    obtain rfl := Except.ok.inj hport
    obtain rfl := Except.ok.inj hdevice
    rw [henvironment] at hfinal
    have hrecorded := Except.ok.inj (Option.some.inj hfinal)
    obtain ⟨hparent, hcarrier⟩ := dirty_part_final runtime fingerprint args host checked log
    rw [← hrecorded, hclean _ (by simp)] at hparent hcarrier
    rw [hrecorded, evidence_final] at hevidence
    refine ⟨rfl, htracks.path, hwritten, checked, hchecks, hadmitted, ?_, ?_, hconfirmed, hclient, ?_,
      ⟨npu, hnpu, hidle⟩, log, hlog,
      graphs_of_evidence runtime (Except.ok.inj hevidence).symm hlines hline hmode⟩
    · exact (Except.ok.inj hparent).symm
    · exact (Except.ok.inj hcarrier).symm
    · rw [hfree_after, show free = true from hfree]

/-- Only a lifecycle that went through, and whose server process has ended, leaves a bundle
that validates. -/
theorem validated_lifecycle (outputs : Outputs F) (label : Option String) (realized_partial_required : Bool)
    (result : Validation F)
    (hresult : validate_bundle runtime ((lifecycle runtime fingerprint args host).2.bundle outputs) label
      realized_partial_required = .ok result) (hvalid : result.valid = true) :
    (lifecycle runtime fingerprint args host).1 = .ok 0 ∧
      Phase.after (lifecycle runtime fingerprint args host).2.history = some .down ∧
      (∃ pid, (lifecycle runtime fingerprint args host).2.run_manifest =
        some (.ok (completed_manifest runtime args host pid))) ∧
      ∃ checked, Evidenced runtime args host checked := by
  obtain ⟨records, hread, hsound⟩ := validate_bundle_sound hresult hvalid
  exact sound_lifecycle runtime fingerprint args host hread hsound

end

def orderlyOutputs : Outputs ℚ where
  request_summary := (oneRequest [recomputeObservation]).request_summary
  request_results := (oneRequest [recomputeObservation]).request_results
  runtime_observations := (oneRequest [recomputeObservation]).runtime_observations
  runtime_events := (oneRequest [recomputeObservation]).runtime_events

theorem validated_lifecycle_orderly :
    Phase.after (lifecycle Runtime.ascii (fun _ => "f3a1") orderlyArgs orderlyHost).2.history = some .down ∧
      (∃ pid, (lifecycle Runtime.ascii (fun _ => "f3a1") orderlyArgs orderlyHost).2.run_manifest =
        some (.ok (completed_manifest Runtime.ascii orderlyArgs orderlyHost pid))) ∧
      ∃ checked, Evidenced Runtime.ascii orderlyArgs orderlyHost checked := by
  have haccepts : accepts (validate_bundle Runtime.ascii
      ((lifecycle Runtime.ascii (fun _ => "f3a1") orderlyArgs orderlyHost).2.bundle orderlyOutputs)
      none false) = true := by
    decide +kernel
  obtain ⟨result, hresult, hvalid⟩ := accepts_iff.mp haccepts
  exact (validated_lifecycle _ _ _ _ _ _ _ result hresult hvalid).2

end run_online_lifecycle
