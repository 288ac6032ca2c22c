import KvMaterialization.Plugin.Registration

open python machine
open vllm_kv_materialization.live_control

namespace vllm_kv_materialization.plugin

/-- `HOST_PINS` of the school adapter. -/
def HOST_PIN_CHAT : String := "ea1f76074a9587c8054f54d30a6ba748b6a5fc4d90dd82c801504505c1da1f92"
def HOST_PIN_REQUEST : String := "da610d5203e72d2d524adc5fb39df11502a23520f2f31d9a44cf13d343f9c25d"

/-- A call of `register_plugin` on a host without the hook modules: what has happened to
the environment since the last one, the version of the host, and what the two adapters
meet, where an error is what an import raises. The adapters for 0.28 hash two sources. -/
structure Adapting (ε : Type) where
  environ : Environment → Environment
  version : Except ε String
  school_028_imports : Except ε Unit
  chat_sha256 : Except ε String
  request_sha256 : Except ε String
  legacy_023_imports : Except ε Unit

/-- The process of such a host: how often each adapter has patched its classes, and
whether the chat class says that it is patched. -/
structure Adapted where
  environ : Environment
  registered : Bool
  school_028_patches : ℕ
  legacy_023_patches : ℕ
  kvmat_school028 : Bool

def Adapted.init (environ : Environment) : Adapted := ⟨environ, false, 0, 0, false⟩

section

variable {ε : Type}

def legacy_vllm_023_available (version : Except ε String) : Bool :=
  match version with
  | .ok host_version => "0.23.".toList <+: host_version.toList.takeWhile (· ≠ '+')
  | .error _ => false

def check_pin (name pin : String) (sha256 : Except ε String) : Except (Failure ε) Unit :=
  match sha256 with
  | .error error => .error (.host error)
  | .ok digest =>
    if digest ≠ pin then .error (.runtime_error s!"School 0.28 {name} source does not match qualified pin")
    else .ok ()

def host_step {α : Type} (outcome : Except ε α) : Except (Failure ε) α :=
  match outcome with
  | .error error => .error (.host error)
  | .ok value => .ok value

/-- `if condition: raise RuntimeError(message)` -/
def raise_if (condition : Bool) (message : String) : Except (Failure ε) Unit :=
  if condition then .error (.runtime_error message) else .ok ()

/-- `register_school_vllm_028_adapter()`: what it raises, or the process it leaves. -/
def register_school_vllm_028_adapter (process : Adapted) (call : Adapting ε) : Except (Failure ε) Adapted := do
  host_step call.school_028_imports
  check_pin "chat" HOST_PIN_CHAT call.chat_sha256
  check_pin "request" HOST_PIN_REQUEST call.request_sha256
  if process.kvmat_school028 then
    return process
  return { process with school_028_patches := process.school_028_patches + 1, kvmat_school028 := true }

/-- `register_legacy_vllm_023_adapter()`, which patches once all it needs is imported. -/
def register_legacy_vllm_023_adapter (process : Adapted) (call : Adapting ε) : Except (Failure ε) Adapted := do
  host_step call.legacy_023_imports
  return { process with legacy_023_patches := process.legacy_023_patches + 1 }

def Adapted.loaded (self : Adapted) (mode : String) : Adapted :=
  { self with
    environ := setenv (setenv self.environ "VLLM_KV_MATERIALIZATION_PLUGIN_LOADED" "1")
      "VLLM_KV_MATERIALIZATION_PLUGIN_MODE" mode
    registered := true }

/-- `VERSION.startswith("0.28.1.post1.dev143+gf18cf803c")` -/
def pinned_version (version : String) : Bool := "0.28.1.post1.dev143+gf18cf803c".toList <+: version.toList

def register_school (process : Adapted) (call : Adapting ε) : Except (Failure ε) Adapted := do
  let host_version ← host_step call.version
  raise_if (!pinned_version host_version) "School adapter requires the pinned 0.28 host"
  let process ← register_school_vllm_028_adapter process call
  return process.loaded "school028-recompute-only"

def register_legacy (process : Adapted) (call : Adapting ε) : Except (Failure ε) Adapted := do
  raise_if (!legacy_vllm_023_available call.version)
    ("KV materialization requires the versioned vLLM-HUST request-processing and KV runtime hooks; " ++
      "the installed host is unsupported")
  let process ← register_legacy_vllm_023_adapter process call
  return process.loaded
    (getenv process.environ "VLLM_KV_MATERIALIZATION_PLUGIN_MODE" "prefix_cache_runtime_control")

/-- The two parts of the `except ImportError` branch. -/
def register_adapter (process : Adapted) (call : Adapting ε) : Except (Failure ε) Adapted :=
  if process.environ "VLLM_KV_ENABLE_SCHOOL_028" = some "1" then register_school process call
  else register_legacy process call

/-- `register_plugin()` on a host without the hook modules. -/
def adapt_plugin (process : Adapted) (call : Adapting ε) : Except (Failure ε) Unit × Adapted :=
  let process := { process with environ := call.environ process.environ }
  if process.registered || !activation_requested process.environ then (.ok (), process)
  else
    match register_adapter process call with
    | .error failure => (.error failure, process)
    | .ok process => (.ok (), process)

/-- The school adapter may be registered in an environment: it is asked for by its flag,
on the pinned version and sources. -/
structure SchoolQualified (environ : Environment) (call : Adapting ε) : Prop where
  flag : environ "VLLM_KV_ENABLE_SCHOOL_028" = some "1"
  version : ∃ version, call.version = .ok version ∧ pinned_version version = true
  chat : call.chat_sha256 = .ok HOST_PIN_CHAT
  request : call.request_sha256 = .ok HOST_PIN_REQUEST

/-- The legacy adapter may: the school flag is not set, and the host is of its line. -/
structure LegacyQualified (environ : Environment) (call : Adapting ε) : Prop where
  flag : environ "VLLM_KV_ENABLE_SCHOOL_028" ≠ some "1"
  version : legacy_vllm_023_available call.version = true

theorem check_pin_eq_ok_iff {name pin : String} {sha256 : Except ε String} {done : Unit} :
    check_pin name pin sha256 = .ok done ↔ sha256 = .ok pin := by
  unfold check_pin
  cases sha256 with
  | error error => simp
  | ok digest => simp

theorem host_step_eq_ok_iff {α : Type} {outcome : Except ε α} {value : α} :
    host_step outcome = .ok value ↔ outcome = .ok value := by
  unfold host_step
  cases outcome with
  | error error => simp
  | ok value => simp

theorem raise_if_eq_ok_iff {condition : Bool} {message : String} {done : Unit} :
    (raise_if condition message : Except (Failure ε) Unit) = .ok done ↔ condition = false := by
  unfold raise_if
  cases condition with
  | true => simp
  | false => simp

theorem register_school_spec {process after : Adapted} {call : Adapting ε}
    (hafter : register_school_vllm_028_adapter process call = .ok after) :
    call.chat_sha256 = .ok HOST_PIN_CHAT ∧ call.request_sha256 = .ok HOST_PIN_REQUEST ∧
      after = { process with
        school_028_patches := process.school_028_patches + (!process.kvmat_school028).toNat
        kvmat_school028 := true } := by
  simp only [register_school_vllm_028_adapter, bind_eq_ok_iff] at hafter
  obtain ⟨_, _, _, hchat, _, hrequest, hafter⟩ := hafter
  refine ⟨check_pin_eq_ok_iff.mp hchat, check_pin_eq_ok_iff.mp hrequest, ?_⟩
  obtain ⟨environ, registered, school, legacy, patched⟩ := process
  cases patched with
  | true => exact (Except.ok.inj hafter).symm
  | false => exact (Except.ok.inj hafter).symm

/-- An adapter is registered only where the host qualifies for it. -/
theorem register_adapter_spec {process after : Adapted} {call : Adapting ε}
    (hafter : register_adapter process call = .ok after) :
    (SchoolQualified process.environ call ∧ after = Adapted.loaded { process with
        school_028_patches := process.school_028_patches + (!process.kvmat_school028).toNat
        kvmat_school028 := true } "school028-recompute-only") ∨
      (LegacyQualified process.environ call ∧ ∃ mode, after = Adapted.loaded { process with
        legacy_023_patches := process.legacy_023_patches + 1 } mode) := by
  unfold register_adapter at hafter
  split at hafter
  · rename_i hflag
    simp only [register_school, bind_eq_ok_iff, pure_eq_ok_iff] at hafter
    obtain ⟨version, hversion, _, hpinned, school, hschool, rfl⟩ := hafter
    obtain ⟨hchat, hrequest, rfl⟩ := register_school_spec hschool
    have hpinned := raise_if_eq_ok_iff.mp hpinned
    rw [Bool.not_eq_false'] at hpinned
    exact .inl ⟨⟨hflag, ⟨version, host_step_eq_ok_iff.mp hversion, hpinned⟩, hchat, hrequest⟩, rfl⟩
  · rename_i hflag
    simp only [register_legacy, bind_eq_ok_iff, pure_eq_ok_iff] at hafter
    obtain ⟨_, havailable, legacy, hlegacy, rfl⟩ := hafter
    simp only [register_legacy_vllm_023_adapter, bind_eq_ok_iff, pure_eq_ok_iff] at hlegacy
    obtain ⟨_, _, rfl⟩ := hlegacy
    have havailable := raise_if_eq_ok_iff.mp havailable
    rw [Bool.not_eq_false'] at havailable
    exact .inr ⟨⟨hflag, havailable⟩, _, rfl⟩

/-- What a call does to a process: nothing but what the environment went through, or it
registers the one adapter that the host qualifies for. -/
inductive Adapts (process : Adapted) (call : Adapting ε) : Adapted → Prop where
  | idle : Adapts process call { process with environ := call.environ process.environ }
  | school (hregistered : process.registered = false)
    (hrequested : activation_requested (call.environ process.environ) = true)
    (hqualified : SchoolQualified (call.environ process.environ) call) (environ : Environment) :
    Adapts process call ⟨environ, true, process.school_028_patches + (!process.kvmat_school028).toNat,
      process.legacy_023_patches, true⟩
  | legacy (hregistered : process.registered = false)
    (hrequested : activation_requested (call.environ process.environ) = true)
    (hqualified : LegacyQualified (call.environ process.environ) call) (environ : Environment) :
    Adapts process call ⟨environ, true, process.school_028_patches, process.legacy_023_patches + 1,
      process.kvmat_school028⟩

theorem adapt_plugin_adapts (process : Adapted) (call : Adapting ε) :
    Adapts process call (adapt_plugin process call).2 := by
  unfold adapt_plugin
  dsimp only
  split
  · exact .idle
  · rename_i hskip
    rw [Bool.not_eq_true, Bool.or_eq_false_iff, Bool.not_eq_false'] at hskip
    obtain ⟨hregistered, hrequested⟩ := hskip
    split
    · exact .idle
    · rename_i after hafter
      obtain ⟨hqualified, rfl⟩ | ⟨hqualified, mode, rfl⟩ := register_adapter_spec hafter
      · exact .school hregistered hrequested hqualified _
      · exact .legacy hregistered hrequested hqualified _

/-- A call that has registered an adapter in a run. -/
def RegisteredBy (process : Adapted) (qualified : Environment → Adapting ε → Prop)
    (events : List (Event Adapted (Adapting ε) (Except (Failure ε) Unit))) : Prop :=
  process.registered = true ∧ ∃ event ∈ events, event.before.registered = false ∧
    activation_requested (event.call.environ event.before.environ) = true ∧
      qualified (event.call.environ event.before.environ) event.call

/-- What has been patched in a process: nothing before it is registered, and then what one
adapter patches once. -/
inductive Patched (events : List (Event Adapted (Adapting ε) (Except (Failure ε) Unit))) (process : Adapted) :
    Prop where
  | nothing (hregistered : process.registered = false) (hschool : process.school_028_patches = 0)
    (hlegacy : process.legacy_023_patches = 0) (hflag : process.kvmat_school028 = false)
  | school (hregistered : RegisteredBy process SchoolQualified events) (hschool : process.school_028_patches = 1)
    (hlegacy : process.legacy_023_patches = 0) (hflag : process.kvmat_school028 = true)
  | legacy (hregistered : RegisteredBy process LegacyQualified events) (hschool : process.school_028_patches = 0)
    (hlegacy : process.legacy_023_patches = 1) (hflag : process.kvmat_school028 = false)

theorem RegisteredBy.later {process after : Adapted} {qualified : Environment → Adapting ε → Prop}
    {events : List (Event Adapted (Adapting ε) (Except (Failure ε) Unit))}
    (hregistered : RegisteredBy process qualified events) (hafter : after.registered = true)
    (later : List (Event Adapted (Adapting ε) (Except (Failure ε) Unit))) :
    RegisteredBy after qualified (events ++ later) := by
  obtain ⟨_, event, hevent, hbefore⟩ := hregistered
  exact ⟨hafter, event, List.mem_append_left _ hevent, hbefore⟩

/-- On a host without the hooks, and whatever happens to its environment between the calls,
the plugin patches for one adapter at most, once, and only for the one that it was asked
for and that the host qualifies for; a call that raises has patched nothing. -/
theorem adapter_patched_once (environ : Environment) (calls : List (Adapting ε)) :
    Patched (trace adapt_plugin (.init environ) calls) (run adapt_plugin (.init environ) calls) ∧
      ∀ event ∈ trace adapt_plugin (.init environ) calls, ∀ failure, event.reply = .error failure →
        event.after = { event.before with environ := event.call.environ event.before.environ } := by
  constructor
  · induction calls using List.reverseRecOn with
    | nil => exact .nothing rfl rfl rfl rfl
    | append_singleton calls call ih =>
      rw [run_snoc, trace_snoc]
      generalize trace adapt_plugin (.init environ) calls = events at ih ⊢
      generalize run adapt_plugin (.init environ) calls = process at ih ⊢
      have hadapts := adapt_plugin_adapts process call
      generalize adapt_plugin process call = ended at hadapts ⊢
      obtain ⟨reply, after⟩ := ended
      dsimp only at hadapts ⊢
      cases hadapts with
      | idle =>
        cases ih with
        | nothing hregistered hschool hlegacy hflag => exact .nothing hregistered hschool hlegacy hflag
        | school hregistered hschool hlegacy hflag =>
          exact .school (hregistered.later hregistered.1 _) hschool hlegacy hflag
        | legacy hregistered hschool hlegacy hflag =>
          exact .legacy (hregistered.later hregistered.1 _) hschool hlegacy hflag
      | school hfresh hrequested hqualified environ' =>
        cases ih with
        | nothing hregistered hschool hlegacy hflag =>
          refine .school ⟨rfl, _, List.mem_append_right _ (List.mem_singleton.mpr rfl), hfresh, hrequested, hqualified⟩
            ?_ hlegacy rfl
          rw [hschool, hflag]
          rfl
        | school hregistered => exact absurd hregistered.1 (by simp [hfresh])
        | legacy hregistered => exact absurd hregistered.1 (by simp [hfresh])
      | legacy hfresh hrequested hqualified environ' =>
        cases ih with
        | nothing hregistered hschool hlegacy hflag =>
          refine .legacy ⟨rfl, _, List.mem_append_right _ (List.mem_singleton.mpr rfl), hfresh, hrequested, hqualified⟩
            hschool ?_ hflag
          rw [hlegacy]
        | school hregistered => exact absurd hregistered.1 (by simp [hfresh])
        | legacy hregistered => exact absurd hregistered.1 (by simp [hfresh])
  · intro event hevent failure hfailure
    have hstep := step_of_mem_trace adapt_plugin hevent
    unfold adapt_plugin at hstep
    dsimp only at hstep
    split at hstep
    · rw [Prod.mk.injEq, hfailure] at hstep
      cases hstep.1
    · split at hstep
      · exact (congrArg Prod.snd hstep).symm
      · rw [Prod.mk.injEq, hfailure] at hstep
        cases hstep.1

end

end vllm_kv_materialization.plugin
