import KvMaterialization.Machine
import KvMaterialization.Plugin.RequestProcessing

open python machine
open vllm_kv_materialization.live_control

namespace vllm_kv_materialization.plugin

def EXTENSION_ID : String := "org.vllm-hust.kv-materialization-arrival-control"
def SCHOOL_EXTENSION_ID : String := "org.vllm-hust.kv-materialization-school028-recompute"
def PLUGIN_NAME : String := "kv_materialization"
def REQUIRED_REQUEST_PROCESSING_API : String := "1.0"
def REQUIRED_KV_MATERIALIZATION_API : String := "1.0"
def ENABLED_BUNDLES_ENV : String := "VLLMHUST_EXT_ENABLED_BUNDLES"
def VLLM_PLUGINS_ENV : String := "VLLM_PLUGINS"

/-- `{item.strip() for item in raw.split(",") if item.strip()}` -/
def listed (raw : String) : List String :=
  ((raw.toList.splitOn ',').map fun item => strip (String.ofList item)).filter (· ≠ "")

def activation_requested (environ : Environment) : Bool :=
  match environ ENABLED_BUNDLES_ENV with
  | some raw => (listed raw).contains EXTENSION_ID ||
      ((listed raw).contains SCHOOL_EXTENSION_ID && environ "VLLM_KV_ENABLE_SCHOOL_028" = some "1")
  | none => (listed (getenv environ VLLM_PLUGINS_ENV "")).contains PLUGIN_NAME

/-- The versions that the two hook modules of a native host state. -/
structure Host where
  REQUEST_PROCESSING_HOOK_API_VERSION : String
  KV_MATERIALIZATION_RUNTIME_CONTROL_API_VERSION : String
  deriving DecidableEq, Repr

/-- What is raised to the caller: an error of the plugin, or one of the host. -/
inductive Failure (ε : Type) where
  | runtime_error (message : String)
  | host (error : ε)
  deriving DecidableEq, Repr

/-- A call of `register_plugin`: what else has happened to the environment since the last
one, and what either registration function of the host raises, if anything. -/
structure Registering (ε : Type) where
  environ : Environment → Environment
  register_request_processor : Option ε
  register_kv_materialization_runtime_observer : Option ε

/-- What the calls act on: the environment, the flag of the module, and what the host
has been given. A processor is registered for its headers. -/
structure Process where
  environ : Environment
  registered : Bool
  request_processors : List (String × List String)
  runtime_observers : List String

def Process.init (environ : Environment) : Process := ⟨environ, false, [], []⟩

/-- `os.environ[name] = value` -/
def setenv (environ : Environment) (name value : String) : Environment :=
  fun other => if other = name then some value else environ other

/-- What the version checks say against a host. -/
def Host.unsupported (host : Host) : Option String :=
  if host.REQUEST_PROCESSING_HOOK_API_VERSION ≠ REQUIRED_REQUEST_PROCESSING_API then
    some (s!"Unsupported vLLM-HUST request-processing hook API: expected {REQUIRED_REQUEST_PROCESSING_API}, " ++
      s!"got {host.REQUEST_PROCESSING_HOOK_API_VERSION}")
  else if host.KV_MATERIALIZATION_RUNTIME_CONTROL_API_VERSION ≠ REQUIRED_KV_MATERIALIZATION_API then
    some (s!"Unsupported vLLM-HUST KV materialization API: expected {REQUIRED_KV_MATERIALIZATION_API}, " ++
      s!"got {host.KV_MATERIALIZATION_RUNTIME_CONTROL_API_VERSION}")
  else none

/-- Where everything is registered, which the environment is told of. -/
def Process.complete (self : Process) : Process where
  environ := setenv (setenv self.environ "VLLM_KV_MATERIALIZATION_PLUGIN_LOADED" "1")
    "VLLM_KV_MATERIALIZATION_PLUGIN_MODE"
    (getenv self.environ "VLLM_KV_MATERIALIZATION_PLUGIN_MODE" "prefix_cache_runtime_control")
  registered := true
  request_processors := self.request_processors
  runtime_observers := self.runtime_observers

variable {ε : Type}

/-- `register_plugin()` on a native host. -/
def register_plugin (host : Host) (process : Process) (call : Registering ε) :
    Except (Failure ε) Unit × Process :=
  let process := { process with environ := call.environ process.environ }
  if process.registered || !activation_requested process.environ then (.ok (), process)
  else
    match host.unsupported with
    | some message => (.error (.runtime_error message), process)
    | none =>
      match call.register_request_processor with
      | some error => (.error (.host error), process)
      | none =>
        let process := { process with
          request_processors := process.request_processors ++ [(PLUGIN_NAME, REQUEST_HEADERS)] }
        match call.register_kv_materialization_runtime_observer with
        | some error => (.error (.host error), process)
        | none =>
          (.ok (), Process.complete { process with runtime_observers := process.runtime_observers ++ [PLUGIN_NAME] })

/-- Both hooks are registered once and the module knows, or neither is. -/
def AllOrNothing (process : Process) : Prop :=
  (process.request_processors = [(PLUGIN_NAME, REQUEST_HEADERS)] ∧ process.runtime_observers = [PLUGIN_NAME] ∧
    process.registered = true) ∨
  (process.request_processors = [] ∧ process.runtime_observers = [] ∧ process.registered = false)

/-- A call that gets as far as the observer, which the host then refuses. -/
def failsMidway (host : Host) (process : Process) (call : Registering ε) : Bool :=
  !process.registered && activation_requested (call.environ process.environ) && host.unsupported.isNone &&
    call.register_request_processor.isNone && call.register_kv_materialization_runtime_observer.isSome

/-- A call changes nothing that is registered, adds a processor where it fails midway, or
registers both hooks. -/
theorem register_plugin_cases (host : Host) (process : Process) (call : Registering ε) :
    let after := (register_plugin host process call).2
    (failsMidway host process call = false ∧ after.registered = process.registered ∧
      after.request_processors = process.request_processors ∧
      after.runtime_observers = process.runtime_observers) ∨
    (failsMidway host process call = true ∧ process.registered = false ∧ after.registered = false ∧
      after.request_processors = process.request_processors ++ [(PLUGIN_NAME, REQUEST_HEADERS)] ∧
      after.runtime_observers = process.runtime_observers) ∨
    (failsMidway host process call = false ∧ process.registered = false ∧ after.registered = true ∧
      after.request_processors = process.request_processors ++ [(PLUGIN_NAME, REQUEST_HEADERS)] ∧
      after.runtime_observers = process.runtime_observers ++ [PLUGIN_NAME]) := by
  dsimp only [register_plugin]
  split
  · rename_i hskip
    refine .inl ⟨?_, rfl, rfl, rfl⟩
    rw [Bool.or_eq_true, Bool.not_eq_true'] at hskip
    obtain hregistered | hidle := hskip
    · simp [failsMidway, hregistered]
    · simp [failsMidway, hidle]
  · rename_i hskip
    rw [Bool.not_eq_true, Bool.or_eq_false_iff, Bool.not_eq_false'] at hskip
    obtain ⟨hregistered, hactive⟩ := hskip
    cases hhost : host.unsupported with
    | some message => exact .inl ⟨by simp [failsMidway, hhost], rfl, rfl, rfl⟩
    | none =>
      cases hprocessor : call.register_request_processor with
      | some error => exact .inl ⟨by simp [failsMidway, hprocessor], rfl, rfl, rfl⟩
      | none =>
        cases hobserver : call.register_kv_materialization_runtime_observer with
        | some error =>
          refine .inr (.inl ⟨?_, hregistered, hregistered, rfl, rfl⟩)
          simp [failsMidway, hregistered, hactive, hhost, hprocessor, hobserver]
        | none => exact .inr (.inr ⟨by simp [failsMidway, hobserver], hregistered, rfl, rfl, rfl⟩)

/-- The process after as many calls have failed midway: each has left a processor. -/
structure Counted (failures : ℕ) (process : Process) : Prop where
  request_processors : process.request_processors =
    List.replicate (failures + process.registered.toNat) (PLUGIN_NAME, REQUEST_HEADERS)
  runtime_observers : process.runtime_observers = List.replicate process.registered.toNat PLUGIN_NAME

theorem Counted.register {host : Host} {failures : ℕ} {process : Process} (hcounted : Counted failures process)
    (call : Registering ε) : Counted (failures + (failsMidway host process call).toNat)
      (register_plugin host process call).2 := by
  obtain ⟨hprocessors, hobservers⟩ := hcounted
  obtain ⟨hmidway, hsame, hprocessors', hobservers'⟩ | ⟨hmidway, hbefore, hafter, hprocessors', hobservers'⟩ |
    ⟨hmidway, hbefore, hafter, hprocessors', hobservers'⟩ := register_plugin_cases host process call
  · constructor
    · rw [hprocessors', hprocessors, hmidway, hsame, Bool.toNat_false, Nat.add_zero]
    · rw [hobservers', hobservers, hsame]
  · constructor
    · rw [hprocessors', hprocessors, hmidway, hbefore, hafter, ← List.replicate_succ']
      rfl
    · rw [hobservers', hobservers, hbefore, hafter]
  · constructor
    · rw [hprocessors', hprocessors, hmidway, hbefore, hafter, ← List.replicate_succ']
      rfl
    · rw [hobservers', hobservers, hbefore, hafter]
      rfl

/-- The calls of a run that failed midway. -/
def failures (host : Host) (environ : Environment) (calls : List (Registering ε)) : ℕ :=
  (trace (register_plugin host) (.init environ) calls).countP fun event =>
    failsMidway host event.before event.call

theorem counted_run (host : Host) (environ : Environment) (calls : List (Registering ε)) :
    Counted (failures host environ calls) (run (register_plugin host) (.init environ) calls) := by
  induction calls using List.reverseRecOn with
  | nil => exact ⟨rfl, rfl⟩
  | append_singleton calls call ih =>
    have hcount : failures host environ (calls ++ [call]) = failures host environ calls +
        (failsMidway host (run (register_plugin host) (.init environ) calls) call).toNat := by
      rw [failures, trace_snoc, List.countP_append, List.countP_singleton, failures]
      cases failsMidway host (run (register_plugin host) (.init environ) calls) call <;> rfl
    rw [hcount, run_snoc]
    exact ih.register call

theorem Counted.allOrNothing_iff {failures : ℕ} {process : Process} (hcounted : Counted failures process) :
    AllOrNothing process ↔ failures = 0 := by
  obtain ⟨hprocessors, hobservers⟩ := hcounted
  unfold AllOrNothing
  rw [hprocessors, hobservers]
  cases hregistered : process.registered with
  | false => simp
  | true => simp [List.replicate_succ]

/-- After each call of a run everything is registered once or nothing is, exactly if no
call of the run has failed midway. -/
theorem all_or_nothing_run_iff (host : Host) (environ : Environment) (calls : List (Registering ε)) :
    (∀ earlier, earlier <+: calls → AllOrNothing (run (register_plugin host) (.init environ) earlier)) ↔
      ∀ event ∈ trace (register_plugin host) (.init environ) calls,
        failsMidway host event.before event.call = false := by
  constructor
  · intro hall event hevent
    have hnone := (counted_run host environ calls).allOrNothing_iff.mp (hall calls List.prefix_rfl)
    exact Bool.eq_false_iff.mpr (List.countP_eq_zero.mp hnone event hevent)
  · rintro hnone earlier ⟨later, rfl⟩
    rw [(counted_run host environ earlier).allOrNothing_iff, failures, List.countP_eq_zero]
    intro event hevent
    rw [trace_append] at hnone
    exact Bool.eq_false_iff.mp (hnone event (List.mem_append_left _ hevent))

/-- A call in an unchanged environment that the observer hook of the host refuses. -/
def refused : Registering Exception := ⟨id, none, some .type_error⟩

/-- One refusal leaves the processor behind without the observer. -/
theorem register_plugin_half :
    ¬ ∀ (host : Host) (environ : Environment) (calls : List (Registering Exception)),
      AllOrNothing (run (register_plugin host) (.init environ) calls) := by
  intro hall
  have hhalf := hall ⟨"1.0", "1.0"⟩ (Environment.ofList [("VLLM_PLUGINS", "kv_materialization")]) [refused]
  have hone : failures ⟨"1.0", "1.0"⟩ (Environment.ofList [("VLLM_PLUGINS", "kv_materialization")]) [refused] = 1 := by
    decide +kernel
  rw [(counted_run _ _ _).allOrNothing_iff, hone] at hhalf
  cases hhalf

end vllm_kv_materialization.plugin
