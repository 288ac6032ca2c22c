import KvMaterialization.Experiments.WorkloadHeaders
import KvMaterialization.Plugin.Registration

open python machine
open vllm_kv_materialization.live_control
open vllm_kv_materialization.plugin

namespace vllm_kv_materialization.launcher

def merge_plugins (existing : Option String) (plugin_name : String) : String :=
  match existing with
  | none => plugin_name
  | some existing =>
    if existing = "" then plugin_name
    else
      let parts := listed existing
      ",".intercalate (if plugin_name ∈ parts then parts else parts ++ [plugin_name])

/-- The environment that `main` hands over to the command line of the host. -/
def main (environ : Environment) : Environment :=
  let environ := setenv environ VLLM_PLUGINS_ENV (merge_plugins (environ VLLM_PLUGINS_ENV) PLUGIN_NAME)
  setenv environ ENABLED_BUNDLES_ENV (merge_plugins (environ ENABLED_BUNDLES_ENV) EXTENSION_ID)

/-- A name that is read back from a list of names as it was written there. -/
def Plain (name : String) : Prop := name ≠ "" ∧ strip name = name ∧ ',' ∉ name.toList

/-- Both texts name a list of plugins by the syntax the secondary anchors are listed in. -/
theorem listed_eq (raw : String) : listed raw = split_secondary_anchor_ids raw := by
  unfold split_secondary_anchor_ids
  split
  · rename_i hempty
    rw [hempty]
    decide
  · rfl

theorem listed_intercalate {names : List String} (hplain : ∀ name ∈ names, Plain name) :
    listed (",".intercalate names) = names := by
  rw [listed_eq]
  exact (run_openai_workloads.secondary_anchor_ids_round_trip_iff names).mpr hplain

theorem listed_plain (raw : String) : ∀ name ∈ listed raw, Plain name := by
  intro name hname
  rw [listed, List.mem_filter, List.mem_map] at hname
  obtain ⟨⟨piece, hpiece, rfl⟩, hnonempty⟩ := hname
  have hstrip : (strip (String.ofList piece)).toList = stripped piece := by
    rw [strip_eq, String.toList_ofList, String.toList_ofList]
  refine ⟨of_decide_eq_true hnonempty, ?_, ?_⟩
  · rw [strip_eq_self_iff, hstrip]
    exact stripped_stripped piece
  · rw [hstrip]
    exact fun hcomma => delimited.not_mem_of_mem_splitOn hpiece (stripped_subset piece hcomma)

/-- What a variable names that may not be set. -/
def named (existing : Option String) : List String := listed (existing.getD "")

/-- The names with the plugin among them, behind the others if it is new. -/
def including (plugin_name : String) (names : List String) : List String :=
  if plugin_name ∈ names then names else names ++ [plugin_name]

theorem mem_including (plugin_name : String) (names : List String) : plugin_name ∈ including plugin_name names := by
  unfold including
  split
  · assumption
  · simp

theorem including_of_mem {plugin_name : String} {names : List String} (hmem : plugin_name ∈ names) :
    including plugin_name names = names := if_pos hmem

theorem including_plain {plugin_name : String} (hplain : Plain plugin_name) (raw : String) :
    ∀ name ∈ including plugin_name (listed raw), Plain name := by
  intro name hname
  unfold including at hname
  split at hname
  · exact listed_plain raw name hname
  · obtain hlisted | hnew := List.mem_append.mp hname
    · exact listed_plain raw name hlisted
    · rw [List.mem_singleton.mp hnew]
      exact hplain

/-- A merged variable is the list of the names so far with the plugin among them. -/
theorem merge_plugins_eq (existing : Option String) (plugin_name : String) :
    merge_plugins existing plugin_name = ",".intercalate (including plugin_name (named existing)) := by
  have hempty : ",".intercalate (including plugin_name (listed "")) = plugin_name := by
    have hnothing : listed "" = [] := by decide
    rw [hnothing, including, if_neg List.not_mem_nil, List.nil_append, String.intercalate_singleton]
  cases existing with
  | none => exact hempty.symm
  | some existing =>
    dsimp only [merge_plugins, named, Option.getD_some]
    split
    · rename_i hnone
      rw [hnone]
      exact hempty.symm
    · rfl

theorem named_merge_plugins (existing : Option String) {plugin_name : String} (hplain : Plain plugin_name) :
    named (some (merge_plugins existing plugin_name)) = including plugin_name (named existing) := by
  rw [merge_plugins_eq]
  exact listed_intercalate (including_plain hplain _)

/-- Merging is done once for all. -/
theorem merge_plugins_merged (existing : Option String) {plugin_name : String} (hplain : Plain plugin_name) :
    merge_plugins (some (merge_plugins existing plugin_name)) plugin_name = merge_plugins existing plugin_name := by
  rw [merge_plugins_eq, named_merge_plugins existing hplain, including_of_mem (mem_including _ _), ← merge_plugins_eq]

theorem plugin_name_plain : Plain PLUGIN_NAME := by
  unfold Plain
  decide

theorem extension_id_plain : Plain EXTENSION_ID := by
  unfold Plain
  decide

section

variable (environ : Environment)

theorem main_plugins : main environ VLLM_PLUGINS_ENV = some (merge_plugins (environ VLLM_PLUGINS_ENV) PLUGIN_NAME) := by
  simp [main, setenv, VLLM_PLUGINS_ENV, ENABLED_BUNDLES_ENV]

theorem main_bundles :
    main environ ENABLED_BUNDLES_ENV = some (merge_plugins (environ ENABLED_BUNDLES_ENV) EXTENSION_ID) := by
  simp [main, setenv, VLLM_PLUGINS_ENV, ENABLED_BUNDLES_ENV]

theorem main_other {name : String} (hplugins : name ≠ VLLM_PLUGINS_ENV) (hbundles : name ≠ ENABLED_BUNDLES_ENV) :
    main environ name = environ name := by
  simp [main, setenv, hplugins, hbundles]

theorem main_activates : activation_requested (main environ) = true := by
  have hnamed := named_merge_plugins (environ ENABLED_BUNDLES_ENV) extension_id_plain
  have hmem : EXTENSION_ID ∈ listed (merge_plugins (environ ENABLED_BUNDLES_ENV) EXTENSION_ID) := by
    rw [named, Option.getD_some] at hnamed
    rw [hnamed]
    exact mem_including _ _
  rw [activation_requested, main_bundles]
  simp [hmem]

/-- Whatever the environment holds, the launcher asks for the plugin, keeps every plugin
and bundle that was asked for and the order they were named in, changes no other variable,
and has nothing to add a second time. -/
theorem launched_environment :
    activation_requested (main environ) = true ∧
      named (main environ VLLM_PLUGINS_ENV) = including PLUGIN_NAME (named (environ VLLM_PLUGINS_ENV)) ∧
      named (main environ ENABLED_BUNDLES_ENV) = including EXTENSION_ID (named (environ ENABLED_BUNDLES_ENV)) ∧
      (∀ name, name ≠ VLLM_PLUGINS_ENV → name ≠ ENABLED_BUNDLES_ENV → main environ name = environ name) ∧
      main (main environ) = main environ := by
  refine ⟨main_activates environ, ?_, ?_, fun name => main_other environ, ?_⟩
  · rw [main_plugins]
    exact named_merge_plugins _ plugin_name_plain
  · rw [main_bundles]
    exact named_merge_plugins _ extension_id_plain
  · funext name
    by_cases hplugins : name = VLLM_PLUGINS_ENV
    · rw [hplugins, main_plugins, main_plugins, merge_plugins_merged _ plugin_name_plain]
    by_cases hbundles : name = ENABLED_BUNDLES_ENV
    · rw [hbundles, main_bundles, main_bundles, merge_plugins_merged _ extension_id_plain]
    · rw [main_other _ hplugins hbundles]

end

section

variable {ε : Type}

/-- A call of `register_plugin` in the environment as the launcher left it, on a host that
takes both hooks. -/
structure Smooth (call : Registering ε) : Prop where
  environ : ∀ environ, call.environ environ = environ
  processor : call.register_request_processor = none
  observer : call.register_kv_materialization_runtime_observer = none

/-- Both hooks of the host have been given one registration each. -/
structure Registered (process : Process) : Prop where
  registered : process.registered = true
  request_processors : process.request_processors = [(PLUGIN_NAME, REQUEST_HEADERS)]
  runtime_observers : process.runtime_observers = [PLUGIN_NAME]

theorem Registered.register {host : Host} {process : Process} {call : Registering ε}
    (hregistered : Registered process) (hsmooth : Smooth call) :
    Registered (register_plugin host process call).2 := by
  rw [register_plugin, hsmooth.environ, hregistered.registered, Bool.true_or, if_pos rfl]
  exact ⟨rfl, hregistered.request_processors, hregistered.runtime_observers⟩

theorem Registered.run {host : Host} {process : Process} {calls : List (Registering ε)}
    (hregistered : Registered process) (hsmooth : ∀ call ∈ calls, Smooth call) :
    Registered (run (register_plugin host) process calls) := by
  induction calls generalizing process with
  | nil => exact hregistered
  | cons call rest ih =>
    rw [List.forall_mem_cons] at hsmooth
    exact ih (hregistered.register hsmooth.1) hsmooth.2

/-- However often a host loads the plugin in a process that was started by the launcher,
it is registered, and once with each hook. -/
theorem launched_registers_once {host : Host} (hsupported : host.unsupported = none) (environ : Environment)
    (calls : List (Registering ε)) (hcalls : calls ≠ []) (hsmooth : ∀ call ∈ calls, Smooth call) :
    Registered (run (register_plugin host) (.init (main environ)) calls) := by
  obtain ⟨call, rest, rfl⟩ := List.exists_cons_of_ne_nil hcalls
  rw [List.forall_mem_cons] at hsmooth
  obtain ⟨hfirst, hrest⟩ := hsmooth
  have hloaded : Registered (register_plugin host (.init (main environ)) call).2 := by
    rw [register_plugin, hfirst.environ, Process.init]
    simp only [main_activates, hsupported, hfirst.processor, hfirst.observer]
    exact ⟨rfl, rfl, rfl⟩
  exact hloaded.run hrest

end

/-- A host of the supported versions, by which the plugin is loaded twice. -/
theorem launched_registers_once_twice :
    Registered (run (register_plugin ⟨"1.0", "1.0"⟩) (.init (main fun _ => none))
      [(⟨id, none, none⟩ : Registering Exception), ⟨id, none, none⟩]) := by
  refine launched_registers_once rfl (fun _ => none) _ (List.cons_ne_nil _ _) ?_
  intro call hcall
  have hsmooth : Smooth (⟨id, none, none⟩ : Registering Exception) := ⟨fun _ => rfl, rfl, rfl⟩
  obtain rfl | hcall := List.mem_cons.mp hcall
  · exact hsmooth
  · rw [List.mem_singleton.mp hcall]
    exact hsmooth

end vllm_kv_materialization.launcher
