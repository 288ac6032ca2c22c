import KvMaterialization.Experiments.M2Boundary
import KvMaterialization.Python.Statistics

open python
open aggregate_m2_boundary (isDecimal)

namespace aggregate_online_results

def FACTORIAL_WORKLOADS : List String :=
  ["shared_scenario_multi_turn_knowledge_service", "shared_tool_scaffold_agent"]

def PRIMARY_METRICS : List String := ["mean_ttft_ms", "mean_latency_ms", "request_throughput_rps"]

def T_CRITICAL_95_DF2 : ℚ := 4.302652729911275

def ROUNDS : List ℤ := [1, 2, 3]

def SEAMS : List String := ["old", "segmented"]

def CONDITIONS : List String := ["baseline", "tuned"]

/-- A collected run: its place in the matrix, and its measured fields. -/
structure Run (F : Type) where
  bundle : String
  workload : String
  seam : String
  condition : String
  measured : List (String × Json F)

/-- The workload, the matched round, the seam and the condition of a run. -/
abbrev Key := String × ℤ × String × String

section

variable {F : Type} (py : Interpreter F)

/-- `re.search(r"(?:^|/)round_(\d+)_sequence_\d+$", bundle)` with its group, read from the end. -/
def matched_round (bundle : String) : Option String :=
  let reversed := bundle.toList.reverse
  let reversed := if reversed.head? = some '\n' then reversed.tail else reversed
  let (sequence, rest) := reversed.span (isDecimal py)
  let separator := "_sequence_".toList.reverse
  if sequence = [] ∨ !separator.isPrefixOf rest then none
  else
    let (round, rest) := (rest.drop separator.length).span (isDecimal py)
    let opening := "round_".toList.reverse
    if round = [] ∨ !opening.isPrefixOf rest then none
    else
      match (rest.drop opening.length).head? with
      | none => some (String.ofList round.reverse)
      | some '/' => some (String.ofList round.reverse)
      | some _ => none

def round_number (bundle : String) : Except Exception ℤ :=
  match matched_round py bundle with
  | none => .error (.value_error ("cannot recover matched round from bundle path: " ++ bundle))
  | some text =>
    match py.int text with
    | some round => .ok round
    | none => .error (.value_error ("invalid literal for int() with base 10: " ++ py.repr text))

def key_repr (key : Key) : String :=
  "(" ++ py.repr key.1 ++ ", " ++ toString key.2.1 ++ ", " ++ py.repr key.2.2.1 ++ ", " ++ py.repr key.2.2.2 ++ ")"

/-- `a < b` of two keys: of the first entries they differ in. -/
def key_lt (a b : Key) : Bool :=
  if a.1 ≠ b.1 then a.1 < b.1
  else if a.2.1 ≠ b.2.1 then a.2.1 < b.2.1
  else if a.2.2.1 ≠ b.2.2.1 then a.2.2.1 < b.2.2.1
  else a.2.2.2 < b.2.2.2

/-- `sorted(a - b)` of two sets of keys, as it is printed. -/
def sorted_difference (a b : List Key) : String :=
  let only := (a.filter fun key => key ∉ b).insertionSort fun x y => key_lt y x = false
  "[" ++ ", ".intercalate (only.map (key_repr py)) ++ "]"

def run_key (row : Run F) : Except Exception Key := do
  return (row.workload, ← round_number py row.bundle, row.seam, row.condition)

/-- One turn of the loop of the index, which only holds what is of the factorial. -/
def index_run (indexed : Dict Key (Run F)) (row : Run F) : Except Exception (Dict Key (Run F)) := do
  if row.workload ∉ FACTORIAL_WORKLOADS then
    return indexed
  let key ← run_key py row
  raiseIf (key ∈ indexed.keys) ("duplicate factorial cell for matched round: " ++ key_repr py key)
  return indexed.set key row

def expected : List Key :=
  FACTORIAL_WORKLOADS.flatMap fun workload => ROUNDS.flatMap fun round_number =>
    SEAMS.flatMap fun seam => CONDITIONS.map fun condition => (workload, round_number, seam, condition)

def factorial_index (runs : List (Run F)) : Except Exception (Dict Key (Run F)) := do
  let indexed ← runs.foldlM (index_run py) .empty
  let actual := indexed.keys
  raiseIf (!(actual.all (· ∈ expected) && expected.all (· ∈ actual)))
    ("factorial matched rounds are incomplete or misaligned: missing=" ++ sorted_difference py expected actual ++
      ", extra=" ++ sorted_difference py actual expected)
  return indexed

/-- `indexed[key]` -/
def lookup_run (indexed : Dict Key (Run F)) (key : Key) : Except Exception (Run F) :=
  match indexed.get? key with
  | some row => .ok row
  | none => .error (.key_error (key_repr py key))

end

/-- The values of a metric in the four cells of a round. -/
structure Cell (F : Type) where
  old_baseline : F
  old_tuned : F
  segmented_baseline : F
  segmented_tuned : F

structure Contrast (F : Type) where
  effect : String
  absolute : F
  relative : F
  unit : String

structure RoundRow (F : Type) where
  workload : String
  metric : String
  effect : String
  round : ℤ
  absolute_delta : F
  relative_delta : F
  relative_delta_unit : String

structure Summary (F : Type) where
  workload : String
  metric : String
  effect : String
  matched_rounds : ℤ
  absolute_delta_mean : F
  absolute_delta_ci95_low : F
  absolute_delta_ci95_high : F
  relative_delta_mean : F
  relative_delta_ci95_low : F
  relative_delta_ci95_high : F
  relative_delta_unit : String
  interval_interpretation : String

/-- `statistics.stdev` and `math.sqrt`, which round to a float. -/
structure Roots (F : Type) where
  stdev : List F → Except Exception F
  sqrt : F → Except Exception F

def EFFECTS : List String := ["seam_main", "tuning_main", "interaction", "segmented_tuned_vs_old_baseline"]

section

variable {F : Type} [PyNumber F] (py : Interpreter F) (roots : Roots F)

def mean_ci (values : List F) : Except Exception (F × F × F) := do
  raiseIf (values.length ≠ 3)
    ("factorial analysis requires exactly 3 matched rounds, got " ++ toString values.length)
  let mean ← mean values
  let half_width ← PyFloat.div (lit T_CRITICAL_95_DF2 * (← roots.stdev values)) (← roots.sqrt (← ofInt values.length))
  return (mean, mean - half_width, mean + half_width)

def relative_delta (numerator denominator : F) (label : String) : Except Exception F := do
  raiseIf (PyNumber.eq denominator (lit 0)) ("zero denominator for " ++ label)
  return lit 100 * ((← PyFloat.div numerator denominator) - lit 1)

/-- `float(row[metric])` -/
def Run.number (row : Run F) (metric : String) : Except Exception F := do
  (← (Json.dict row.measured).item metric).toFloat py

def read_cell (indexed : Dict Key (Run F)) (workload metric : String) (round : ℤ) : Except Exception (Cell F) := do
  let read (seam condition : String) : Except Exception F := do
    (← lookup_run py indexed (workload, round, seam, condition)).number py metric
  return {
    old_baseline := ← read "old" "baseline"
    old_tuned := ← read "old" "tuned"
    segmented_baseline := ← read "segmented" "baseline"
    segmented_tuned := ← read "segmented" "tuned" }

def contrasts (cell : Cell F) : Except Exception (List (Contrast F)) := do
  let old_mean ← mean [cell.old_baseline, cell.old_tuned]
  let segmented_mean ← mean [cell.segmented_baseline, cell.segmented_tuned]
  let baseline_mean ← mean [cell.old_baseline, cell.segmented_baseline]
  let tuned_mean ← mean [cell.old_tuned, cell.segmented_tuned]
  let segmented_tuning_pct ← relative_delta cell.segmented_tuned cell.segmented_baseline "segmented tuning effect"
  let old_tuning_pct ← relative_delta cell.old_tuned cell.old_baseline "old-seam tuning effect"
  let seam_main ← relative_delta segmented_mean old_mean "seam main effect"
  let tuning_main ← relative_delta tuned_mean baseline_mean "tuning main effect"
  let endpoint ← relative_delta cell.segmented_tuned cell.old_baseline "endpoint contrast"
  return [
    ⟨"seam_main", segmented_mean - old_mean, seam_main, "percent"⟩,
    ⟨"tuning_main", tuned_mean - baseline_mean, tuning_main, "percent"⟩,
    ⟨"interaction", (cell.segmented_tuned - cell.segmented_baseline) - (cell.old_tuned - cell.old_baseline),
      segmented_tuning_pct - old_tuning_pct, "percentage_points"⟩,
    ⟨"segmented_tuned_vs_old_baseline", cell.segmented_tuned - cell.old_baseline, endpoint, "percent"⟩]

def round_row (workload metric : String) (round : ℤ) (contrast : Contrast F) : RoundRow F where
  workload
  metric
  effect := contrast.effect
  round
  absolute_delta := roundTo contrast.absolute 6
  relative_delta := roundTo contrast.relative 6
  relative_delta_unit := contrast.unit

/-- The summary of one effect, over what `values_by_effect` has of it. -/
def summary (workload metric : String) (rounds : List (Contrast F)) (effect : String) :
    Except Exception (Summary F) := do
  let values := rounds.filter fun contrast => contrast.effect = effect
  let absolute ← mean_ci roots (values.map Contrast.absolute)
  let relative ← mean_ci roots (values.map Contrast.relative)
  return {
    workload
    metric
    effect
    matched_rounds := 3
    absolute_delta_mean := roundTo absolute.1 6
    absolute_delta_ci95_low := roundTo absolute.2.1 6
    absolute_delta_ci95_high := roundTo absolute.2.2 6
    relative_delta_mean := roundTo relative.1 6
    relative_delta_ci95_low := roundTo relative.2.1 6
    relative_delta_ci95_high := roundTo relative.2.2 6
    relative_delta_unit := if effect = "interaction" then "percentage_points" else "percent"
    interval_interpretation := "descriptive_exploratory" }

def metric_effects (indexed : Dict Key (Run F)) (workload metric : String) :
    Except Exception (List (RoundRow F) × List (Summary F)) := do
  let rounds ← ROUNDS.mapM fun round => do
    return (round, ← contrasts (← read_cell py indexed workload metric round))
  let summaries ← EFFECTS.mapM (summary roots workload metric (rounds.flatMap Prod.snd))
  return (rounds.flatMap fun round => round.2.map (round_row workload metric round.1), summaries)

def factorial_effects (runs : List (Run F)) : Except Exception (List (RoundRow F) × List (Summary F)) := do
  let indexed ← factorial_index py runs
  let effects ← (FACTORIAL_WORKLOADS.product PRIMARY_METRICS).mapM fun item =>
    metric_effects py roots indexed item.1 item.2
  return (effects.flatMap Prod.fst, effects.flatMap Prod.snd)

end

section Index

variable {F : Type} {py : Interpreter F}

/-- The runs of the factorial. -/
def factorial (runs : List (Run F)) : List (Run F) := runs.filter fun row => row.workload ∈ FACTORIAL_WORKLOADS

variable (py) in
def run_entry (row : Run F) : Except Exception (Key × Run F) := do return (← run_key py row, row)

theorem index_run_of_not_mem (indexed : Dict Key (Run F)) {row : Run F} (hother : row.workload ∉ FACTORIAL_WORKLOADS) :
    index_run py indexed row = .ok indexed := by
  unfold index_run
  rw [if_pos hother]
  rfl

/-- A run of the factorial is entered under its key, which no earlier run has. -/
theorem index_run_eq_ok_iff {indexed after : Dict Key (Run F)} {row : Run F}
    (hfactorial : row.workload ∈ FACTORIAL_WORKLOADS) :
    index_run py indexed row = .ok after ↔
      ∃ entry, run_entry py row = .ok entry ∧ after.entries = indexed.entries ++ [entry] := by
  unfold index_run run_entry
  rw [if_neg (not_not.mpr hfactorial)]
  simp only [bind_eq_ok_iff, raiseIf_eq_ok_iff, decide_eq_false_iff_not, pure_eq_ok_iff, exists_const]
  constructor
  · rintro ⟨key, hkey, hfresh, rfl⟩
    exact ⟨(key, row), ⟨key, hkey, rfl⟩, Dict.set_entries_of_not_mem hfresh row⟩
  · rintro ⟨_, ⟨key, hkey, rfl⟩, hentries⟩
    have hnodup := after.nodup
    rw [hentries, List.map_append, List.nodup_append_comm] at hnodup
    have hfresh : key ∉ indexed.keys := (List.nodup_cons.mp hnodup).1
    exact ⟨key, hkey, hfresh, Dict.eq_of_entries ((Dict.set_entries_of_not_mem hfresh row).trans hentries.symm)⟩

/-- The index has the runs of the factorial in their order. -/
theorem foldlM_index_run_iff {runs : List (Run F)} {indexed after : Dict Key (Run F)} :
    runs.foldlM (index_run py) indexed = .ok after ↔
      ∃ entries, (factorial runs).mapM (run_entry py) = .ok entries ∧ after.entries = indexed.entries ++ entries := by
  induction runs generalizing indexed with
  | nil =>
    simp only [factorial, List.foldlM_nil, List.filter_nil, List.mapM_nil, pure_eq_ok_iff, exists_eq_left',
      List.append_nil]
    exact ⟨fun heq => heq ▸ rfl, fun hentries => Dict.eq_of_entries hentries.symm⟩
  | cons row rest ih =>
    rw [List.foldlM_cons]
    by_cases hfactorial : row.workload ∈ FACTORIAL_WORKLOADS
    · have hcons : factorial (row :: rest) = row :: factorial rest :=
        List.filter_cons_of_pos (by simpa using hfactorial)
      rw [hcons, List.mapM_cons]
      simp only [bind_eq_ok_iff, index_run_eq_ok_iff hfactorial, pure_eq_ok_iff, ih]
      constructor
      · rintro ⟨next, ⟨entry, hentry, hnext⟩, entries, hentries, hafter⟩
        refine ⟨entry :: entries, ⟨entry, hentry, entries, hentries, rfl⟩, ?_⟩
        rw [hafter, hnext, List.append_assoc, List.singleton_append]
      · rintro ⟨_, ⟨entry, hentry, entries, hentries, rfl⟩, hafter⟩
        have hsplit : after.entries = (indexed.entries ++ [entry]) ++ entries := by
          rw [hafter, List.append_assoc, List.singleton_append]
        have hnodup := after.nodup
        rw [hsplit, List.map_append] at hnodup
        exact ⟨⟨indexed.entries ++ [entry], (List.nodup_append.mp hnodup).1⟩, ⟨entry, hentry, rfl⟩,
          entries, hentries, hsplit⟩
    · have hskip : factorial (row :: rest) = factorial rest := List.filter_cons_of_neg (by simpa using hfactorial)
      rw [index_run_of_not_mem indexed hfactorial, hskip]
      exact ih

theorem expected_nodup : expected.Nodup := by decide +kernel

/-- The runs are indexed exactly if the keys of those of the factorial are the keys of the
design, each of them once. -/
theorem factorial_index_eq_ok_iff {runs : List (Run F)} {indexed : Dict Key (Run F)} :
    factorial_index py runs = .ok indexed ↔
      (factorial runs).mapM (run_entry py) = .ok indexed.entries ∧ indexed.keys.Perm expected := by
  have hindex : ∀ after, runs.foldlM (index_run py) .empty = .ok after ↔
      (factorial runs).mapM (run_entry py) = .ok after.entries := by
    intro after
    rw [foldlM_index_run_iff]
    exact ⟨fun ⟨_, hentries, hafter⟩ => hafter ▸ hentries, fun hentries => ⟨_, hentries, rfl⟩⟩
  unfold factorial_index
  simp only [bind_eq_ok_iff, hindex, raiseIf_eq_ok_iff, pure_eq_ok_iff, exists_const, Bool.not_eq_false',
    Bool.and_eq_true, List.all_eq_true, decide_eq_true_eq]
  constructor
  · rintro ⟨found, hentries, ⟨hinside, hcomplete⟩, rfl⟩
    refine ⟨hentries, (List.perm_ext_iff_of_nodup found.nodup expected_nodup).mpr fun key => ?_⟩
    exact ⟨hinside key, hcomplete key⟩
  · rintro ⟨hentries, hperm⟩
    refine ⟨indexed, hentries, ⟨fun key hkey => ?_, fun key hkey => ?_⟩, rfl⟩
    · exact hperm.mem_iff.mp hkey
    · exact hperm.mem_iff.mpr hkey

/-- The index is made of the runs of the factorial, in whatever order they come and
whatever comes in between. -/
theorem factorial_index_perm {runs runs' : List (Run F)} (hperm : (factorial runs).Perm (factorial runs'))
    {indexed : Dict Key (Run F)} (hindexed : factorial_index py runs = .ok indexed) :
    ∃ indexed', factorial_index py runs' = .ok indexed' ∧ ∀ key, indexed'.get? key = indexed.get? key := by
  rw [factorial_index_eq_ok_iff] at hindexed
  obtain ⟨hentries, hkeys⟩ := hindexed
  obtain ⟨entries', hentries', hsame⟩ := mapM_perm hperm hentries
  have hnodup : (entries'.map Prod.fst).Nodup := (hsame.map Prod.fst).nodup_iff.mp indexed.nodup
  refine ⟨⟨entries', hnodup⟩, ?_, Dict.get?_eq_of_perm hsame.symm⟩
  rw [factorial_index_eq_ok_iff]
  exact ⟨hentries', (hsame.map Prod.fst).symm.trans hkeys⟩

theorem run_keys_of_entries {runs : List (Run F)} {entries : List (Key × Run F)}
    (hentries : runs.mapM (run_entry py) = .ok entries) : runs.mapM (run_key py) = .ok (entries.map Prod.fst) := by
  have hrelated := forall₂_of_mapM_ok hentries
  clear hentries
  induction hrelated with
  | nil => rfl
  | @cons row entry rest others hfirst _ ih =>
    unfold run_entry at hfirst
    rw [bind_eq_ok_iff] at hfirst
    obtain ⟨key, hkey, hentry⟩ := hfirst
    rw [pure_eq_ok_iff] at hentry
    subst hentry
    rw [List.mapM_cons, hkey, ih]
    rfl

end Index

section Order

variable {F : Type} [PyNumber F] {py : Interpreter F} {roots : Roots F}

theorem metric_effects_congr {indexed indexed' : Dict Key (Run F)} (hget : ∀ key, indexed'.get? key = indexed.get? key)
    (workload metric : String) :
    metric_effects py roots indexed' workload metric = metric_effects py roots indexed workload metric := by
  unfold metric_effects read_cell lookup_run
  simp only [hget]

end Order

end aggregate_online_results
