import KvMaterialization.Experiments.OnlineLifecycle

open python effects

namespace run_online_lifecycle

/-- How far the server process is, the leader of its group: what a lifecycle is meant to be,
whatever the host does. Of the other processes of the group nothing is known. -/
inductive Phase where
  | idle
  | starting
  | serving
  | driven
  | stopping
  | killing
  | down
  deriving DecidableEq, Repr

/-- A server is driven once it is confirmed and not after it is told to stop; it ends
once, and a second one is never started. -/
def Phase.next : Phase → Act → Option Phase
  | idle, .started _ => some starting
  | starting, .confirmed => some serving
  | serving, .drove _ => some driven
  | starting, .terminated => some stopping
  | serving, .terminated => some stopping
  | driven, .terminated => some stopping
  | stopping, .killed => some killing
  | idle, _ => none
  | down, _ => none
  | _, .exited _ => some down
  | _, _ => none

def Phase.after (history : List Act) : Option Phase := history.foldlM Phase.next .idle

theorem Phase.after_append (history : List Act) (act : Act) :
    Phase.after (history ++ [act]) = (Phase.after history).bind (Phase.next · act) := by
  unfold Phase.after
  rw [List.foldlM_append]
  cases history.foldlM Phase.next Phase.idle with
  | none => rfl
  | some phase => simp [List.foldlM]

section

variable {F : Type}

/-- What the program knows of its server is the phase the process is in. -/
structure Tracks (world : World F) (phase : Phase) : Prop where
  path : Phase.after world.history = some phase
  server : world.server.isSome = true ↔ phase ≠ .idle
  returncode : world.returncode.isSome = true ↔ phase = .down

theorem tracks_empty : Tracks (World.empty F) .idle := by
  refine ⟨rfl, ?_, ?_⟩
  · simp [World.empty]
  · simp [World.empty]

theorem Tracks.congr {world world' : World F} {phase : Phase} (htracks : Tracks world phase)
    (hhistory : world'.history = world.history) (hserver : world'.server = world.server)
    (hreturncode : world'.returncode = world.returncode) : Tracks world' phase :=
  ⟨by rw [hhistory]; exact htracks.path, by rw [hserver]; exact htracks.server,
    by rw [hreturncode]; exact htracks.returncode⟩

/-- An act that leaves the server running. -/
theorem Tracks.record {world : World F} {phase phase' : Phase} {act : Act} (htracks : Tracks world phase)
    (hnext : phase.next act = some phase') (hphase : phase ≠ .idle) (hphase' : phase' ≠ .idle)
    (hdown : phase ≠ .down) (hdown' : phase' ≠ .down) : Tracks (world.record act) phase' := by
  refine ⟨?_, ?_, ?_⟩
  · change Phase.after (world.history ++ [act]) = some phase'
    rw [Phase.after_append, htracks.path]
    exact hnext
  · exact iff_of_true (htracks.server.mpr hphase) hphase'
  · exact iff_of_false (fun hcode => hdown (htracks.returncode.mp hcode)) hdown'

theorem Tracks.start {world : World F} (htracks : Tracks world .idle) (pid : ℕ) :
    Tracks { world.record (.started pid) with server := some pid } .starting := by
  refine ⟨?_, ?_, ?_⟩
  · change Phase.after (world.history ++ [.started pid]) = some .starting
    rw [Phase.after_append, htracks.path]
    rfl
  · exact iff_of_true rfl (by decide)
  · exact iff_of_false (fun hcode => Phase.noConfusion (htracks.returncode.mp hcode)) (by decide)

/-- A server that is not known to have ended can be found to have. -/
theorem Tracks.reap {world : World F} {phase : Phase} (htracks : Tracks world phase) (hphase : phase ≠ .idle)
    (hdown : phase ≠ .down) (returncode : ℤ) : Tracks (world.reap returncode) .down := by
  refine ⟨?_, ?_, ?_⟩
  · change Phase.after (world.history ++ [.exited returncode]) = some .down
    rw [Phase.after_append, htracks.path]
    cases phase <;> first | rfl | contradiction
  · exact iff_of_true (htracks.server.mpr hphase) (by decide)
  · exact iff_of_true rfl rfl

theorem Tracks.store {world : World F} {phase : Phase} (htracks : Tracks world phase) (stored : Stored F)
    (artifact : Artifact) : Tracks (world.store stored artifact) phase := by
  cases artifact <;> exact htracks.congr rfl rfl rfl

/-- The status the run manifest has, or that there is no run manifest. -/
def Recorded : Option String → Stored F → Prop
  | none, stored => stored = none
  | some status, stored => ∃ manifest, stored = some (.ok manifest) ∧ manifest.get "status" = .ok (.str status)

/-- A status is one text. -/
theorem Recorded.eq {status status' : Option String} {stored : Stored F} (hrecorded : Recorded status stored)
    (hrecorded' : Recorded status' stored) : status = status' := by
  cases status with
  | none =>
    cases status' with
    | none => rfl
    | some text =>
      obtain ⟨manifest, hstored, _⟩ := hrecorded'
      rw [show stored = none from hrecorded] at hstored
      cases hstored
  | some text =>
    obtain ⟨manifest, hstored, hstatus⟩ := hrecorded
    subst hstored
    cases status' with
    | none => cases hrecorded'
    | some text' =>
      obtain ⟨manifest', hstored', hstatus'⟩ := hrecorded'
      obtain rfl := Except.ok.inj (Option.some.inj hstored')
      rw [hstatus] at hstatus'
      rw [Json.str.inj (Except.ok.inj hstatus')]

theorem Recorded.status {status : Option String} {manifest : Json F}
    {stored : Stored F} (hrecorded : Recorded status stored) (hstored : stored = some (.ok manifest)) :
    ∃ found, manifest.get "status" = .ok found := by
  subst hstored
  cases status with
  | none => cases hrecorded
  | some text =>
    obtain ⟨manifest', hmanifest, hstatus⟩ := hrecorded
    obtain rfl := Except.ok.inj (Option.some.inj hmanifest)
    exact ⟨_, hstatus⟩

/-- A call changes nothing. -/
theorem call_meets {α : Type} {P : World F → Prop} {R : Raised → World F → Prop} (result : Except Raised α)
    (hraised : ∀ error world, P world → R error world) :
    Meets P (call result) (fun a world => P world ∧ result = .ok a) R :=
  .call (fun _ _ hok hworld => ⟨hworld, hok⟩) (fun error world _ hworld => hraised error world hworld)

section Rules

variable {P : World F → Prop} {R : Raised → World F → Prop}

theorem write_meets {σ α : Type} {P : σ → Prop} {Q : Unit → σ → Prop} {R : Raised → σ → Prop} {outcome : Written α}
    {whole : σ → σ} {part : α → σ → σ} (hdone : ∀ state, P state → Q () (whole state))
    (hleft : ∀ error state, P state → R error state)
    (hpart : ∀ error left state, P state → R error (part left state)) : Meets P (write outcome whole part) Q R := by
  unfold write
  cases outcome with
  | done => exact .update hdone
  | failed error left =>
    cases left with
    | none => exact .raise (hleft error)
    | some left =>
      refine Meets.bind (Q := fun _ => R error) (.update (hpart error left)) (fun _ => ?_)
      exact .raise (fun _ hstate => hstate)

theorem poll_meets {Q : Option ℤ → World F → Prop} {outcome : Option ℤ}
    (hknown : ∀ world code, P world → world.returncode = some code → Q (some code) world)
    (hfound : ∀ world code, P world → world.returncode = none → Q (some code) (world.reap code))
    (hrunning : ∀ world, P world → world.returncode = none → Q none world) : Meets P (poll outcome) Q R := by
  unfold poll
  refine Meets.bind (Q := fun known world => P world ∧ world.returncode = known)
    (.observe (fun _ hworld => ⟨hworld, rfl⟩)) (fun known => ?_)
  cases known with
  | some code => exact .pure (fun world hworld => hknown world code hworld.1 hworld.2)
  | none =>
    cases outcome with
    | some code =>
      refine Meets.bind (Q := fun _ => Q (some code))
        (.update (fun world hworld => hfound world code hworld.1 hworld.2)) (fun _ => ?_)
      exact .pure (fun _ hworld => hworld)
    | none => exact .pure (fun world hworld => hrunning world hworld.1 hworld.2)

/-- The health check leaves the world as it is, but for a server it finds to have ended. -/
theorem wait_until_healthy_meets (hraised : ∀ error world, P world → R error world)
    (hreaped : ∀ error world code, P world → R error (world.reap code)) (timeout_s : ℤ) (last_error : String)
    (probes : List Probe) :
    Meets P (wait_until_healthy timeout_s last_error probes) (fun _ => P) R := by
  induction probes generalizing last_error with
  | nil => exact .raise (hraised _)
  | cons probe rest ih =>
    have hsleep : ∀ text, Meets P (do call probe.sleep; wait_until_healthy timeout_s text rest) (fun _ => P) R :=
      fun text => Meets.bind ((call_meets probe.sleep hraised).weaken (fun _ h => h) (fun _ _ h => h.1)
        (fun _ _ h => h)) (fun _ => ih text)
    rw [wait_until_healthy]
    refine Meets.bind (Q := fun polled world =>
      (polled = none → P world) ∧ ∀ error, polled ≠ none → R error world) ?_ (fun polled => ?_)
    · refine poll_meets (fun world code hworld _ => ?_) (fun world code hworld _ => ?_) (fun world hworld _ => ?_)
      · exact ⟨fun hnone => (nomatch hnone), fun error _ => hraised error world hworld⟩
      · exact ⟨fun hnone => (nomatch hnone), fun error _ => hreaped error world code hworld⟩
      · exact ⟨fun _ => hworld, fun _ hnone => absurd rfl hnone⟩
    · cases polled with
      | some code => exact .raise (fun world hworld => hworld.2 _ (by simp))
      | none =>
        refine Meets.weaken (P := P) ?_ (fun _ hworld => hworld.1 rfl) (fun _ _ h => h) (fun _ _ h => h)
        cases probe.response with
        | raised error => exact .raise (hraised error)
        | unreachable text => exact hsleep text
        | status code => exact .ite (fun _ => .pure (fun _ hworld => hworld)) (fun _ => hsleep _)

end Rules

/-- The bundle as it is while the lifecycle is tried, the server in a phase. -/
structure Begun (environment : Json F) (phase : Phase) (world : World F) : Prop where
  environment : world.environment_manifest = some (.ok environment)
  cleanup : world.cleanup = none
  tracks : Tracks world phase

theorem Begun.congr {environment : Json F} {phase phase' : Phase} {world world' : World F}
    (hbegun : Begun environment phase world) (htracks : Tracks world' phase')
    (henvironment : world'.environment_manifest = world.environment_manifest)
    (hcleanup : world'.cleanup = world.cleanup) : Begun environment phase' world' :=
  ⟨henvironment.trans hbegun.environment, hcleanup.trans hbegun.cleanup, htracks⟩

/-- The lifecycle has gone well so far. -/
structure Trying (environment : Json F) (phase : Phase) (status : Option String) (world : World F) : Prop where
  begun : Begun environment phase world
  failed : world.failed = none
  blocked : world.blocked = none
  recorded : Recorded status world.run_manifest

/-- The lifecycle has not come to its end, and the server is not being stopped. -/
structure Unfinished (environment : Json F) (world : World F) : Prop where
  begun : ∃ phase, phase ≠ .stopping ∧ phase ≠ .killing ∧ Begun environment phase world
  recorded : (∃ error, world.run_manifest = some (.error error)) ∨
    ∃ status, status ≠ some "completed" ∧ Recorded status world.run_manifest

section Trying

variable {environment : Json F} {phase phase' : Phase} {status : Option String} {world world' : World F}

theorem Trying.congr (htrying : Trying environment phase status world) (htracks : Tracks world' phase')
    (henvironment : world'.environment_manifest = world.environment_manifest)
    (hcleanup : world'.cleanup = world.cleanup) (hfailed : world'.failed = world.failed)
    (hblocked : world'.blocked = world.blocked) (hrun : world'.run_manifest = world.run_manifest) :
    Trying environment phase' status world' := by
  refine ⟨htrying.begun.congr htracks henvironment hcleanup, hfailed.trans htrying.failed,
    hblocked.trans htrying.blocked, ?_⟩
  rw [hrun]
  exact htrying.recorded

theorem Trying.unfinished (htrying : Trying environment phase status world) (hstatus : status ≠ some "completed")
    (hstopping : phase ≠ .stopping) (hkilling : phase ≠ .killing) : Unfinished environment world :=
  ⟨⟨phase, hstopping, hkilling, htrying.begun⟩, .inr ⟨status, hstatus, htrying.recorded⟩⟩

/-- A write of the run manifest while the server is in a phase: where it fails, it
leaves the manifest as it was or unreadable. -/
theorem write_run_meets {written : String} {outcome : Written Raised} {payload : Json F}
    (hpayload : payload.get "status" = .ok (.str written)) (hstatus : status ≠ some "completed")
    (hstopping : phase ≠ .stopping) (hkilling : phase ≠ .killing) :
    Meets (Trying environment phase status) (write_json outcome .run_manifest payload)
      (fun _ world => Trying environment phase (some written) world ∧ world.run_manifest = some (.ok payload))
      (fun _ => Unfinished environment) := by
  refine write_meets (fun world hworld => ?_) (fun _ world hworld => ?_) (fun _ unreadable world hworld => ?_)
  · exact ⟨⟨hworld.begun.congr (hworld.begun.tracks.store _ _) rfl rfl, hworld.failed, hworld.blocked, payload, rfl,
      hpayload⟩, rfl⟩
  · exact hworld.unfinished hstatus hstopping hkilling
  · exact ⟨⟨phase, hstopping, hkilling, hworld.begun.congr (hworld.begun.tracks.store _ _) rfl rfl⟩,
      .inl ⟨unreadable, rfl⟩⟩

end Trying

/-- The bundle after the `try` statement, its files under a condition. -/
structure Tried (environment : Json F) (kept : Stored F → Option String → Option String → Option ℕ → Prop)
    (world : World F) : Prop where
  kept : kept world.run_manifest world.failed world.blocked world.server
  environment : world.environment_manifest = some (.ok environment)
  cleanup : world.cleanup = none
  tracks : ∃ phase, phase ≠ .stopping ∧ phase ≠ .killing ∧ Tracks world phase

/-- A run that is not recorded as completed. -/
def NotCompleted (run_manifest : Stored F) : Prop := ¬ Recorded (some "completed") run_manifest

theorem not_completed_none : NotCompleted (none : Stored F) := by
  rintro ⟨manifest, hmanifest, _⟩
  cases hmanifest

theorem Unfinished.tried {environment : Json F} {world : World F} (hunfinished : Unfinished environment world) :
    Tried environment (fun run_manifest _ _ _ => NotCompleted run_manifest) world := by
  obtain ⟨phase, hstopping, hkilling, hbegun⟩ := hunfinished.begun
  refine ⟨?_, hbegun.environment, hbegun.cleanup, phase, hstopping, hkilling, hbegun.tracks⟩
  intro hcompleted
  obtain ⟨error, herror⟩ | ⟨status, hstatus, hrecorded⟩ := hunfinished.recorded
  · obtain ⟨manifest, hmanifest, _⟩ := hcompleted
    rw [herror] at hmanifest
    cases hmanifest
  · exact hstatus (hrecorded.eq hcompleted)

variable (runtime : Runtime F) (args : Args F) (host : Host F)

theorem failed_status {run_manifest found : Json F} (hfound : run_manifest.get "status" = .ok found)
    (error : Raised) : (failed_manifest host run_manifest error).get "status" = .ok (.str "failed") := by
  unfold failed_manifest Json.get
  rw [Json.getD_assign_of_ne _ _ _ (by decide), Json.getD_assign_of_ne _ _ _ (by decide)]
  exact Json.get_assign_self _ hfound

/-- What a host refuses to stop a server with. -/
inductive Refused (stopping : Stopping) (error : Raised) : Prop where
  | terminate (hraised : stopping.terminate = .error error)
  | wait (hraised : stopping.wait = .raised error)
  | kill (hraised : stopping.kill = .error error)
  | wait_killed (hraised : stopping.wait_killed = .error error)

/-- A server is down once it has been stopped, or the host has refused to stop it; what
does not depend on the server stays as it was. -/
theorem stop_process_group_meets {I : World F → Prop} (hrecord : ∀ world act, I world → I (world.record act))
    (hreap : ∀ world code, I world → I (world.reap code)) (stopping : Stopping) :
    Meets (fun world => I world ∧ ∃ phase, phase ≠ .idle ∧ phase ≠ .stopping ∧ phase ≠ .killing ∧ Tracks world phase)
      (stop_process_group stopping) (fun _ world => I world ∧ Tracks world .down)
      (fun error world => I world ∧ Refused stopping error ∧ ∃ phase, Tracks world phase) := by
  unfold stop_process_group
  refine Meets.bind (Q := fun polled world => I world ∧ ((polled.isSome = true ∧ Tracks world .down) ∨
    polled = none ∧ ∃ phase, phase ≠ .idle ∧ phase ≠ .down ∧ phase.next .terminated = some .stopping ∧
      Tracks world phase)) ?_ (fun polled => ?_)
  · refine poll_meets ?_ ?_ ?_
    · rintro world code ⟨hI, phase, _, _, _, htracks⟩ hcode
      obtain rfl := htracks.returncode.mp (by rw [hcode]; rfl)
      exact ⟨hI, .inl ⟨rfl, htracks⟩⟩
    · rintro world code ⟨hI, phase, hidle, _, _, htracks⟩ hcode
      have hdown : phase ≠ .down := fun hdown => by
        have hsome := htracks.returncode.mpr hdown
        rw [hcode] at hsome
        cases hsome
      exact ⟨hreap world code hI, .inl ⟨rfl, htracks.reap hidle hdown code⟩⟩
    · rintro world ⟨hI, phase, hidle, hstopping, hkilling, htracks⟩ hcode
      have hdown : phase ≠ .down := fun hdown => by
        have hsome := htracks.returncode.mpr hdown
        rw [hcode] at hsome
        cases hsome
      refine ⟨hI, .inr ⟨rfl, phase, hidle, hdown, ?_, htracks⟩⟩
      cases phase <;> first | rfl | contradiction
  cases polled with
  | some returncode =>
    refine .pure ?_
    rintro world ⟨hI, ⟨_, htracks⟩ | ⟨hnone, _⟩⟩
    · exact ⟨hI, htracks⟩
    · cases hnone
  | none =>
    refine Meets.bind (Q := fun _ world => I world ∧ ∃ phase, phase ≠ .idle ∧ phase ≠ .down ∧
      phase.next .terminated = some .stopping ∧ Tracks world phase) (.call ?_ ?_) (fun _ => ?_)
    · rintro _ world _ ⟨hI, ⟨hsome, _⟩ | ⟨_, hrunning⟩⟩
      · cases hsome
      · exact ⟨hI, hrunning⟩
    · rintro error world hraised ⟨hI, ⟨hsome, _⟩ | ⟨_, phase, _, _, _, htracks⟩⟩
      · cases hsome
      · exact ⟨hI, .terminate hraised, phase, htracks⟩
    refine Meets.bind (Q := fun _ world => I world ∧ Tracks world .stopping) (.update ?_) (fun _ => ?_)
    · rintro world ⟨hI, phase, hidle, hdown, hnext, htracks⟩
      exact ⟨hrecord world _ hI, htracks.record hnext hidle (by decide) hdown (by decide)⟩
    cases hwait : stopping.wait with
    | raised error => exact .raise (fun world hworld => ⟨hworld.1, .wait hwait, .stopping, hworld.2⟩)
    | returned returncode =>
      refine Meets.bind (Q := fun _ world => I world ∧ Tracks world .down) (.update ?_) (fun _ => ?_)
      · rintro world ⟨hI, htracks⟩
        exact ⟨hreap world _ hI, htracks.reap (by decide) (by decide) returncode⟩
      exact .pure (fun _ hworld => hworld)
    | timed_out =>
      refine Meets.bind (Q := fun _ world => I world ∧ Tracks world .stopping) (.call ?_ ?_) (fun _ => ?_)
      · exact fun _ _ _ hworld => hworld
      · exact fun _ world hraised hworld => ⟨hworld.1, .kill hraised, .stopping, hworld.2⟩
      refine Meets.bind (Q := fun _ world => I world ∧ Tracks world .killing) (.update ?_) (fun _ => ?_)
      · rintro world ⟨hI, htracks⟩
        exact ⟨hrecord world _ hI, htracks.record rfl (by decide) (by decide) (by decide) (by decide)⟩
      refine Meets.bind (Q := fun _ world => I world ∧ Tracks world .killing) (.call ?_ ?_) (fun returncode => ?_)
      · exact fun _ _ _ hworld => hworld
      · exact fun _ world hraised hworld => ⟨hworld.1, .wait_killed hraised, .killing, hworld.2⟩
      refine Meets.bind (Q := fun _ world => I world ∧ Tracks world .down) (.update ?_) (fun _ => ?_)
      · rintro world ⟨hI, htracks⟩
        exact ⟨hreap world _ hI, htracks.reap (by decide) (by decide) returncode⟩
      exact .pure (fun _ hworld => hworld)

/-- The log in which the server has confirmed what was asked of it. -/
def Confirmed : Prop :=
  ∃ log, host.server_log = .ok log ∧
    validate_server_carrier_log runtime.toInterpreter log args.block_size = .ok ()

theorem confirm_server_meets (environment : Json F) :
    Meets (Trying environment .starting (some "starting")) (confirm_server runtime args host)
      (fun _ world => Trying environment .serving (some "starting") world ∧ Confirmed runtime args host)
      (fun _ => Unfinished environment) := by
  have hunfinished : ∀ world : World F, Trying environment .starting (some "starting") world →
      Unfinished environment world :=
    fun world hworld => hworld.unfinished (by decide) (by decide) (by decide)
  unfold confirm_server
  refine Meets.bind (wait_until_healthy_meets (fun _ => hunfinished) (fun _ world code hworld => ?_) _ _ _)
    (fun _ => ?_)
  · -- A server that has ended is left for the last part to report.
    have hdown := hworld.begun.tracks.reap (by decide) (by decide) code
    exact ⟨⟨.down, by decide, by decide, hworld.begun.congr hdown rfl rfl⟩, (hunfinished world hworld).recorded⟩
  refine Meets.bind (call_meets _ (fun _ => hunfinished)) (fun log => ?_)
  refine Meets.bind (call_meets _ fun _ world hworld => hunfinished world hworld.1) (fun confirmed => .update ?_)
  rintro world ⟨⟨hworld, hlog⟩, hconfirmed⟩
  have hserving : Tracks (world.record .confirmed) .serving :=
    hworld.begun.tracks.record rfl (by decide) (by decide) (by decide) (by decide)
  exact ⟨hworld.congr hserving rfl rfl rfl rfl rfl, log, hlog, hconfirmed⟩

/-- What the clean-up has found, and put in its file. -/
structure Cleaned (world : World F) : Prop where
  port : ∃ free report, host.port_free_after = .ok free ∧ world.cleanup = some (.ok report) ∧
    report.get "port_free_after" = .ok (.bool free)
  device : ∃ npu report, run_capture ["npu-smi", "info"] host.npu_after = .ok npu ∧
    world.cleanup = some (.ok report) ∧
    report.get "device_idle_after" = .ok (.bool (npu_is_idle npu.stdout args.device))

/-- The environment says nothing of the graphs, as it does until the clean-up. -/
def Silent (environment : Json F) : Prop :=
  environment.getD "execution_mode_evidence" (.list []) = .ok (.list [])

/-- A manifest that says nothing of the graphs or cannot be read. -/
def Unproven (stored : Stored F) : Prop := ∀ environment, stored = some (.ok environment) → Silent environment

/-- The environment manifest is finished where there is a server log, and says nothing of
the graphs where there is none. -/
def Proven (environment : Json F) (world : World F) : Prop :=
  (world.server_log = false ∧ Unproven world.environment_manifest) ∨
    ∃ log, host.final_server_log = .ok log ∧
      world.environment_manifest = some (.ok (final_manifest runtime args environment log))

/-- The server is not running, because it never was or because it was stopped. -/
def Quiet (world : World F) : Prop := ∃ phase, (phase = .idle ∨ phase = .down) ∧ Tracks world phase

/-- The bundle while it is cleaned up, once the server is not running. -/
structure Cleaning (environment : Json F) (kept : Stored F → Option String → Option String → Option ℕ → Prop)
    (world : World F) : Prop where
  kept : kept world.run_manifest world.failed world.blocked world.server
  environment : world.environment_manifest = some (.ok environment)
  quiet : Quiet world

/-- The clean-up breaks off: the environment says nothing of the graphs, and the server
is not running unless it is stopping it that the host has refused. -/
structure BrokenOff (kept : Stored F → Option String → Option String → Option ℕ → Prop) (error : Raised)
    (world : World F) : Prop where
  kept : kept world.run_manifest world.failed world.blocked world.server
  unproven : Unproven world.environment_manifest
  server : Quiet world ∨ Refused host.stopping error ∧ ∃ phase, Tracks world phase

theorem Quiet.store {world : World F} (hquiet : Quiet world) (stored : Stored F) (artifact : Artifact) :
    Quiet (world.store stored artifact) := by
  obtain ⟨phase, hphase, htracks⟩ := hquiet
  exact ⟨phase, hphase, htracks.store stored artifact⟩

theorem unproven_of_silent {environment : Json F} {stored : Stored F} (hsilent : Silent environment)
    (hstored : stored = some (.ok environment)) : Unproven stored := by
  rintro environment' henvironment'
  rw [hstored] at henvironment'
  obtain rfl := Except.ok.inj (Option.some.inj henvironment')
  exact hsilent

section CleanUp

variable {environment : Json F} {kept : Stored F → Option String → Option String → Option ℕ → Prop}

theorem Cleaning.brokenOff {world : World F} {error : Raised} (hsilent : Silent environment)
    (hcleaning : Cleaning environment kept world) : BrokenOff host kept error world :=
  ⟨hcleaning.kept, unproven_of_silent hsilent hcleaning.environment, .inl hcleaning.quiet⟩

theorem stop_server_meets (hsilent : Silent environment) :
    Meets (Tried environment kept) (stop_server host)
      (fun server world => Cleaning environment kept world ∧ ∀ entry ∈ server, entry.1 = "server")
      (BrokenOff host kept) := by
  unfold stop_server
  refine Meets.bind (Q := fun server world => Tried environment kept world ∧ world.server = server)
    (.observe fun world hworld => ⟨hworld, rfl⟩) (fun server => ?_)
  cases server with
  | none =>
    refine .pure ?_
    rintro world ⟨hworld, hserver⟩
    obtain ⟨phase, _, _, htracks⟩ := hworld.tracks
    have hidle : phase = .idle := by
      by_contra hphase
      have hsome := htracks.server.mpr hphase
      rw [hserver] at hsome
      cases hsome
    exact ⟨⟨hworld.kept, hworld.environment, phase, .inl hidle, htracks⟩, by simp⟩
  | some pid =>
    have hstop := stop_process_group_meets (I := fun world : World F =>
      kept world.run_manifest world.failed world.blocked world.server ∧
        world.environment_manifest = some (.ok environment)) (fun _ _ h => h) (fun _ _ h => h) host.stopping
    refine Meets.bind (hstop.weaken ?_ (fun _ _ h => h) ?_) (fun stopped => .pure ?_)
    · rintro world ⟨hworld, hserver⟩
      obtain ⟨phase, hstopping, hkilling, htracks⟩ := hworld.tracks
      have hidle : phase ≠ .idle := htracks.server.mp (by rw [hserver]; rfl)
      exact ⟨⟨hworld.kept, hworld.environment⟩, phase, hidle, hstopping, hkilling, htracks⟩
    · rintro error world ⟨⟨hkept, henvironment⟩, hrefused, htracks⟩
      exact ⟨hkept, unproven_of_silent hsilent henvironment, .inr ⟨hrefused, htracks⟩⟩
    · rintro world ⟨⟨hkept, henvironment⟩, htracks⟩
      exact ⟨⟨hkept, henvironment, .down, .inr rfl, htracks⟩, by simp⟩

theorem record_graphs_meets (hsilent : Silent environment) :
    Meets (fun world => Cleaning environment kept world ∧ Cleaned args host world) (record_graphs runtime args host)
      (fun _ world => kept world.run_manifest world.failed world.blocked world.server ∧ Quiet world ∧
        Cleaned args host world ∧ Proven runtime args host environment world)
      (BrokenOff host kept) := by
  unfold record_graphs
  refine Meets.bind (Q := fun files world => (Cleaning environment kept world ∧ Cleaned args host world) ∧
    (world.environment_manifest, world.server_log) = files) (.observe fun world hworld => ⟨hworld, rfl⟩)
    (fun files => ?_)
  obtain ⟨_ | stored, _ | _⟩ := files
  case none.false =>
    refine .pure ?_
    rintro world ⟨⟨hworld, _⟩, hfiles⟩
    rw [hworld.environment] at hfiles
    cases (Prod.mk.inj hfiles).1
  case none.true =>
    refine .pure ?_
    rintro world ⟨⟨hworld, _⟩, hfiles⟩
    rw [hworld.environment] at hfiles
    cases (Prod.mk.inj hfiles).1
  case some.false =>
    refine .pure ?_
    rintro world ⟨⟨hworld, hcleaned⟩, hfiles⟩
    exact ⟨hworld.kept, hworld.quiet, hcleaned, .inl ⟨(Prod.mk.inj hfiles).2,
      unproven_of_silent hsilent hworld.environment⟩⟩
  case some.true =>
    refine Meets.bind (Q := fun found world => (Cleaning environment kept world ∧ Cleaned args host world) ∧
      found = environment) (.call ?_ ?_) (fun found => ?_)
    · rintro found world hfound ⟨hworld, hfiles⟩
      rw [hworld.1.environment, hfound] at hfiles
      exact ⟨hworld, (Except.ok.inj (Option.some.inj (Prod.mk.inj hfiles).1)).symm⟩
    · exact fun _ world _ hworld => hworld.1.1.brokenOff host hsilent
    refine Meets.bind (call_meets _ fun _ world hworld => hworld.1.1.brokenOff host hsilent) (fun log => ?_)
    refine write_meets ?_ (fun _ world hworld => hworld.1.1.1.brokenOff host hsilent) ?_
    · rintro world ⟨⟨⟨hworld, hport, hdevice⟩, rfl⟩, hlog⟩
      exact ⟨hworld.kept, hworld.quiet.store _ _, ⟨hport, hdevice⟩, .inr ⟨log, hlog, rfl⟩⟩
    · rintro error unreadable world ⟨⟨⟨hworld, _⟩, _⟩, _⟩
      refine ⟨hworld.kept, ?_, .inl (hworld.quiet.store _ _)⟩
      rintro environment' henvironment'
      cases henvironment'

/-- The entry of the server is not in the way of the others. -/
theorem get_after {server entries : List (String × Json F)} {key : String} {found : Json F}
    (hserver : ∀ entry ∈ server, entry.1 = "server") (hkey : key ≠ "server")
    (hentries : (Json.dict entries).get key = .ok found) : (Json.dict (server ++ entries)).get key = .ok found := by
  have hnone : server.find? (fun entry => entry.1 = key) = none := by
    rw [List.find?_eq_none]
    intro entry hentry
    rw [hserver entry hentry, decide_eq_true_eq]
    exact fun heq => hkey heq.symm
  rw [← hentries]
  simp only [Json.get, Json.getD, Json.find, List.find?_append, hnone, Option.none_or]

theorem clean_up_meets (hsilent : Silent environment) :
    Meets (Tried environment kept) (clean_up runtime args host)
      (fun _ world => kept world.run_manifest world.failed world.blocked world.server ∧ Quiet world ∧
        Cleaned args host world ∧ Proven runtime args host environment world)
      (BrokenOff host kept) := by
  have hbroken : ∀ (error : Raised) (world : World F), Cleaning environment kept world →
      BrokenOff host kept error world := fun _ world hworld => hworld.brokenOff host hsilent
  unfold clean_up
  refine Meets.bind (stop_server_meets host hsilent) (fun server => .given fun hserver => ?_)
  refine Meets.bind (call_meets _ hbroken) (fun free => ?_)
  refine Meets.bind (call_meets _ fun error world hworld => hbroken error world hworld.1) (fun npu => ?_)
  refine Meets.bind (write_meets ?_ (fun error world hworld => hbroken error world hworld.1.1) ?_)
    (fun _ => record_graphs_meets runtime args host hsilent)
  · rintro world ⟨⟨hworld, hfree⟩, hnpu⟩
    refine ⟨⟨hworld.kept, hworld.environment, hworld.quiet.store _ _⟩, ⟨free, _, hfree, rfl, ?_⟩,
      npu, _, hnpu, rfl, ?_⟩
    · exact get_after hserver (by decide) rfl
    · exact get_after hserver (by decide) rfl
  · rintro error unreadable world ⟨⟨hworld, _⟩, _⟩
    exact ⟨hworld.kept, unproven_of_silent hsilent hworld.environment, .inl (hworld.quiet.store _ _)⟩

end CleanUp

theorem environment_silent (fingerprint : Json F → String) (args : Args F) (host : Host F) (checked : Checked F) :
    Silent (environment_manifest fingerprint args host checked) := rfl

end

section

variable {F : Type} [PyNumber F] (runtime : Runtime F) (fingerprint : Json F → String) (args : Args F)
  (host : Host F)

/-- What the files say once the lifecycle has been tried, for the code it comes to. -/
inductive Settled (checked : Checked F) : ℤ → Stored F → Option String → Option String → Option ℕ → Prop where
  | completed {server : Option ℕ} (pid : ℕ) (hserver : server.isSome = true)
      (hconfirmed : Confirmed runtime args host) (hclient : host.client = .ok 0)
      (hadmitted : blocking_reasons args host checked = .ok []) :
      Settled checked 0 (some (.ok (completed_manifest runtime args host pid))) none none server
  | blocked {reasons : List String} (hreasons : reasons ≠ [])
      (hblocking : blocking_reasons args host checked = .ok reasons) :
      Settled checked 3 none none (some ("\n".intercalate reasons ++ "\n")) none
  | failed {run_manifest : Stored F} {blocked : Option String} {server : Option ℕ} (error : Raised)
      (hrecorded : Recorded none run_manifest ∨ Recorded (some "failed") run_manifest) :
      Settled checked 1 run_manifest (some (error.message ++ "\n")) blocked server

theorem preserve_failure_meets (checked : Checked F) (environment : Json F) (error : Raised) :
    Meets (Unfinished environment) (preserve_failure host error)
      (fun code => Tried environment (Settled runtime args host checked code))
      (fun _ => Tried environment fun run_manifest _ _ _ => NotCompleted run_manifest) := by
  unfold preserve_failure
  refine Meets.bind (Q := fun _ world => Unfinished environment world ∧ world.failed = some (error.message ++ "\n"))
    (write_meets ?_ ?_ ?_) (fun _ => ?_)
  · intro world hworld
    obtain ⟨phase, hstopping, hkilling, hbegun⟩ := hworld.begun
    exact ⟨⟨⟨phase, hstopping, hkilling, hbegun.congr (hbegun.tracks.congr rfl rfl rfl) rfl rfl⟩, hworld.recorded⟩,
      rfl⟩
  · exact fun _ world hworld => hworld.tried
  · intro _ part world hworld
    obtain ⟨hkept, henvironment, hcleanup, phase, hstopping, hkilling, htracks⟩ := hworld.tried
    exact ⟨hkept, henvironment, hcleanup, phase, hstopping, hkilling, htracks.congr rfl rfl rfl⟩
  refine Meets.bind (Q := fun stored world => (Unfinished environment world ∧
    world.failed = some (error.message ++ "\n")) ∧ world.run_manifest = stored)
    (.observe fun world hworld => ⟨hworld, rfl⟩) (fun stored => ?_)
  cases stored with
  | none =>
    refine .pure ?_
    rintro world ⟨⟨hworld, hfailed⟩, hnone⟩
    obtain ⟨_, henvironment, hcleanup, htracks⟩ := hworld.tried
    refine ⟨?_, henvironment, hcleanup, htracks⟩
    rw [hfailed]
    exact .failed error (.inl hnone)
  | some stored =>
    refine Meets.bind (call_meets stored fun _ world hworld => hworld.1.1.tried) (fun run_manifest => ?_)
    refine Meets.bind (Q := fun _ => Tried environment (Settled runtime args host checked 1))
      (write_meets ?_ ?_ ?_) (fun _ => .pure (fun _ hworld => hworld))
    · rintro world ⟨⟨⟨hworld, hfailed⟩, hstored⟩, hread⟩
      obtain ⟨_, henvironment, hcleanup, phase, hstopping, hkilling, htracks⟩ := hworld.tried
      refine ⟨?_, henvironment, hcleanup, phase, hstopping, hkilling, htracks.store _ _⟩
      change Settled runtime args host checked 1 _ world.failed _ _
      rw [hfailed]
      refine .failed error (.inr ⟨_, rfl, ?_⟩)
      subst hread
      obtain ⟨error', herror⟩ | ⟨status, _, hrecorded⟩ := hworld.recorded
      · rw [hstored] at herror
        cases herror
      · obtain ⟨found, hfound⟩ := hrecorded.status hstored
        exact failed_status host hfound error
    · exact fun _ world hworld => hworld.1.1.1.tried
    · rintro _ unreadable world ⟨⟨⟨hworld, _⟩, _⟩, _⟩
      obtain ⟨_, henvironment, hcleanup, phase, hstopping, hkilling, htracks⟩ := hworld.tried
      refine ⟨?_, henvironment, hcleanup, phase, hstopping, hkilling, htracks.store _ _⟩
      rintro ⟨manifest, hmanifest, _⟩
      cases hmanifest

theorem starting_status : (starting_manifest runtime args host).get "status" = .ok (.str "starting") := rfl

theorem serving_status (pid : ℕ) : (serving_manifest runtime args host pid).get "status" = .ok (.str "starting") := by
  unfold serving_manifest Json.get
  rw [Json.getD_assign_of_ne _ _ _ (by decide), Json.getD_assign_of_ne _ _ _ (by decide)]
  exact starting_status runtime args host

theorem completed_status (pid : ℕ) :
    (completed_manifest runtime args host pid).get "status" = .ok (.str "completed") := by
  unfold completed_manifest Json.get
  rw [Json.getD_assign_of_ne _ _ _ (by decide), Json.getD_assign_of_ne _ _ _ (by decide)]
  exact Json.get_assign_self _ (serving_status runtime args host pid)

theorem start_server_meets (environment : Json F) :
    Meets (Trying environment .idle none) (start_server runtime args host)
      (fun _ => Trying environment .starting (some "starting")) (fun _ => Unfinished environment) := by
  have hunfinished : ∀ world : World F, Trying environment .idle (some "starting") world →
      Unfinished environment world :=
    fun world hworld => hworld.unfinished (by decide) (by decide) (by decide)
  unfold start_server
  refine Meets.bind (write_run_meets (starting_status runtime args host) (by decide) (by decide) (by decide))
    (fun _ => ?_)
  refine Meets.bind (call_meets _ fun _ world hworld => hunfinished world hworld.1) (fun _ => ?_)
  refine Meets.bind (Q := fun _ => Trying environment .idle (some "starting")) (.update ?_) (fun _ => ?_)
  · rintro world ⟨⟨hworld, _⟩, _⟩
    exact hworld.congr (hworld.begun.tracks.congr rfl rfl rfl) rfl rfl rfl rfl rfl
  refine Meets.bind (call_meets _ (fun _ => hunfinished)) (fun pid => ?_)
  refine Meets.bind (Q := fun _ => Trying environment .starting (some "starting")) (.update ?_) (fun _ => ?_)
  · rintro world ⟨hworld, _⟩
    exact hworld.congr (hworld.begun.tracks.start pid) rfl rfl rfl rfl rfl
  refine Meets.bind (write_run_meets (serving_status runtime args host pid) (by decide) (by decide)
    (by decide)) (fun _ => ?_)
  exact .pure (fun _ hworld => hworld.1)

theorem drive_client_meets (environment : Json F) (pid : ℕ) :
    Meets (Trying environment .serving (some "starting")) (drive_client runtime args host pid)
      (fun code world => code = 0 ∧ (Trying environment .driven (some "completed") world ∧
        world.run_manifest = some (.ok (completed_manifest runtime args host pid))) ∧ host.client = .ok 0)
      (fun _ => Unfinished environment) := by
  have hunfinished : ∀ world : World F, Trying environment .serving (some "starting") world →
      Unfinished environment world :=
    fun world hworld => hworld.unfinished (by decide) (by decide) (by decide)
  unfold drive_client
  refine Meets.bind (call_meets _ (fun _ => hunfinished)) (fun _ => ?_)
  refine Meets.bind (Q := fun _ => Trying environment .serving (some "starting")) (.update ?_) (fun _ => ?_)
  · rintro world ⟨hworld, _⟩
    exact hworld.congr (hworld.begun.tracks.congr rfl rfl rfl) rfl rfl rfl rfl rfl
  refine Meets.bind (call_meets _ (fun _ => hunfinished)) (fun returncode => ?_)
  refine Meets.bind (Q := fun _ world => Trying environment .driven (some "starting") world ∧
    host.client = .ok returncode) (.update ?_) (fun _ => ?_)
  · rintro world ⟨hworld, hclient⟩
    have hdriven : Tracks (world.record (.drove returncode)) .driven :=
      hworld.begun.tracks.record rfl (by decide) (by decide) (by decide) (by decide)
    exact ⟨hworld.congr hdriven rfl rfl rfl rfl rfl, hclient⟩
  refine Meets.ite (fun hzero => ?_) (fun _ => ?_)
  · subst hzero
    have hwrite : Meets (Trying environment .driven (some "starting"))
        (write_json host.completed_written .run_manifest (completed_manifest runtime args host pid))
        (fun _ world => Trying environment .driven (some "completed") world ∧
          world.run_manifest = some (.ok (completed_manifest runtime args host pid)))
        (fun _ => Unfinished environment) :=
      write_run_meets (completed_status runtime args host pid) (by decide) (by decide) (by decide)
    refine Meets.bind (hwrite.carry (host.client = .ok 0)) (fun _ => ?_)
    exact .pure (fun _ hworld => ⟨rfl, hworld⟩)
  · exact .raise (fun world hworld => hworld.1.unfinished (by decide) (by decide) (by decide))

/-- The client is run once, on a server that has been confirmed; where it comes to its
end the run is recorded as completed, and in no other case. -/
theorem serve_meets (environment : Json F) :
    Meets (Trying environment .idle none) (serve runtime args host)
      (fun code world => code = 0 ∧ Trying environment .driven (some "completed") world ∧
        (∃ pid, world.run_manifest = some (.ok (completed_manifest runtime args host pid))) ∧
          Confirmed runtime args host ∧ host.client = .ok 0)
      (fun _ => Unfinished environment) := by
  unfold serve
  refine Meets.bind (start_server_meets runtime args host environment) (fun pid => ?_)
  refine Meets.bind (confirm_server_meets runtime args host environment) (fun _ => ?_)
  refine ((drive_client_meets runtime args host environment pid).carry (Confirmed runtime args host)).weaken
    (fun _ h => h) ?_ (fun _ _ h => h)
  rintro code world ⟨⟨hcode, ⟨hworld, hmanifest⟩, hclient⟩, hconfirmed⟩
  exact ⟨hcode, hworld, ⟨pid, hmanifest⟩, hconfirmed, hclient⟩

theorem run_lifecycle_meets (checked : Checked F) (environment : Json F) :
    Meets (Trying environment .idle none) (run_lifecycle runtime args host checked)
      (fun code => Tried environment (Settled runtime args host checked code)) (fun _ => Unfinished environment) := by
  have hunfinished : ∀ world : World F, Trying environment .idle none world → Unfinished environment world :=
    fun world hworld => hworld.unfinished (by decide) (by decide) (by decide)
  unfold run_lifecycle
  refine Meets.bind (call_meets _ (fun _ => hunfinished)) (fun reasons => .ite (fun hnil => ?_) (fun hreasons => ?_))
  · subst hnil
    refine ((serve_meets runtime args host environment).carry
      (blocking_reasons args host checked = .ok [])).weaken (fun _ h => h) ?_ (fun _ _ h => h)
    rintro code world ⟨⟨rfl, hworld, ⟨pid, hmanifest⟩, hconfirmed, hclient⟩, hadmitted⟩
    have hserver : world.server.isSome = true := hworld.begun.tracks.server.mpr (by decide)
    refine ⟨?_, hworld.begun.environment, hworld.begun.cleanup, .driven, by decide, by decide, hworld.begun.tracks⟩
    rw [hworld.failed, hworld.blocked, hmanifest]
    exact .completed pid hserver hconfirmed hclient hadmitted
  · refine Meets.bind (Q := fun _ => Tried environment (Settled runtime args host checked 3))
      (write_meets ?_ ?_ ?_) (fun _ => .pure (fun _ hworld => hworld))
    · rintro world ⟨hworld, hblocking⟩
      refine ⟨?_, hworld.begun.environment, hworld.begun.cleanup, .idle, by decide, by decide,
        hworld.begun.tracks.congr rfl rfl rfl⟩
      have hserver : world.server = none := by
        cases hserver : world.server with
        | none => rfl
        | some pid => exact absurd rfl (hworld.begun.tracks.server.mp (by rw [hserver]; rfl))
      change Settled runtime args host checked 3 world.run_manifest world.failed _ world.server
      rw [show world.run_manifest = none from hworld.recorded, hworld.failed, hserver]
      exact .blocked hreasons hblocking
    · exact fun _ world hworld => hunfinished world hworld.1
    · rintro _ part world ⟨hworld, _⟩
      exact ⟨⟨.idle, by decide, by decide, hworld.begun.congr (hworld.begun.tracks.congr rfl rfl rfl) rfl rfl⟩,
        .inr ⟨none, by decide, hworld.recorded⟩⟩

/-- The `try` statement comes to a code that the files bear out, or fails to record that
the run has failed. -/
theorem tried_meets (checked : Checked F) (environment : Json F) :
    Meets (Trying environment .idle none)
      (attempt (run_lifecycle runtime args host checked) (preserve_failure host))
      (fun code => Tried environment (Settled runtime args host checked code))
      (fun _ => Tried environment fun run_manifest _ _ _ => NotCompleted run_manifest) :=
  .attempt (run_lifecycle_meets runtime args host checked environment)
    (fun error => preserve_failure_meets runtime args host checked environment error)

/-- What a lifecycle that returns leaves behind. -/
structure Returned (code : ℤ) (world : World F) (checked : Checked F) : Prop where
  checks : check_host args host = .ok checked
  settled : Settled runtime args host checked code world.run_manifest world.failed world.blocked world.server
  cleaned : Cleaned args host world
  proven : Proven runtime args host (environment_manifest fingerprint args host checked) world
  quiet : Quiet world

/-- What one that raises leaves behind: a run that is not recorded as completed, or an
environment that says nothing of the graphs. -/
structure Broken (error : Raised) (world : World F) : Prop where
  evidence : NotCompleted world.run_manifest ∨ Unproven world.environment_manifest
  server : Quiet world ∨ Refused host.stopping error ∧ ∃ phase, Tracks world phase

theorem main_meets : Meets (fun world => world = World.empty F) (main runtime fingerprint args host)
    (fun code world => ∃ checked, Returned runtime fingerprint args host code world checked) (Broken host) := by
  have hempty : Quiet (World.empty F) := ⟨.idle, .inl rfl, tracks_empty⟩
  unfold main
  refine Meets.bind (call_meets _ ?_) (fun checked => ?_)
  · rintro error world rfl
    exact ⟨.inl not_completed_none, .inl hempty⟩
  have hsilent := environment_silent fingerprint args host checked
  refine Meets.bind (Q := fun _ world =>
    Trying (environment_manifest fingerprint args host checked) .idle none world ∧ check_host args host = .ok checked)
    (write_meets ?_ ?_ ?_) (fun _ => .given fun hchecked => ?_)
  · rintro world ⟨rfl, hchecked⟩
    exact ⟨⟨⟨rfl, rfl, tracks_empty.store _ _⟩, rfl, rfl, rfl⟩, hchecked⟩
  · rintro error world ⟨rfl, _⟩
    exact ⟨.inl not_completed_none, .inl hempty⟩
  · rintro error unreadable world ⟨rfl, _⟩
    exact ⟨.inl not_completed_none, .inl (hempty.store _ _)⟩
  refine Meets.ensure (tried_meets runtime args host checked _) (fun code => ?_) (fun error => ?_)
  · refine (clean_up_meets runtime args host hsilent).weaken (fun _ h => h) ?_ ?_
    · rintro _ world ⟨hsettled, hquiet, hcleaned, hproven⟩
      exact ⟨checked, hchecked, hsettled, hcleaned, hproven, hquiet⟩
    · exact fun _ world hworld => ⟨.inr hworld.unproven, hworld.server⟩
  · refine (clean_up_meets runtime args host hsilent).weaken (fun _ h => h) ?_ ?_
    · rintro _ world ⟨hkept, hquiet, _⟩
      exact ⟨.inl hkept, .inl hquiet⟩
    · exact fun _ world hworld => ⟨.inr hworld.unproven, hworld.server⟩

/-- What a lifecycle that finds nothing of a bundle comes to, and what it leaves. -/
def lifecycle : Except Raised ℤ × World F := main runtime fingerprint args host (World.empty F)

theorem lifecycle_returned {code : ℤ} (hcode : (lifecycle runtime fingerprint args host).1 = .ok code) :
    ∃ checked, Returned runtime fingerprint args host code (lifecycle runtime fingerprint args host).2 checked :=
  (main_meets runtime fingerprint args host).returned rfl hcode

theorem lifecycle_broken {error : Raised} (herror : (lifecycle runtime fingerprint args host).1 = .error error) :
    Broken host error (lifecycle runtime fingerprint args host).2 :=
  (main_meets runtime fingerprint args host).raised rfl herror

/-- Whatever the host answers to a lifecycle, its server process keeps to its phases and is
not left running, unless the host refuses to stop it. -/
theorem server_not_left_running :
    ∃ phase, Phase.after (lifecycle runtime fingerprint args host).2.history = some phase ∧
      (phase = .idle ∨ phase = .down ∨
        ∃ error, (lifecycle runtime fingerprint args host).1 = .error error ∧ Refused host.stopping error) := by
  cases hended : (lifecycle runtime fingerprint args host).1 with
  | error error =>
    obtain ⟨phase, hphase, htracks⟩ | ⟨hrefused, phase, htracks⟩ :=
      (lifecycle_broken runtime fingerprint args host hended).server
    · exact ⟨phase, htracks.path, hphase.imp_right .inl⟩
    · exact ⟨phase, htracks.path, .inr (.inr ⟨error, rfl, hrefused⟩)⟩
  | ok code =>
    obtain ⟨checked, hreturned⟩ := lifecycle_returned runtime fingerprint args host hended
    obtain ⟨phase, hphase, htracks⟩ := hreturned.quiet
    exact ⟨phase, htracks.path, hphase.imp_right .inl⟩

end

end run_online_lifecycle
