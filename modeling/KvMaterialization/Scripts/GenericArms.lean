import KvMaterialization.Scripts.Pathology

open python

namespace g0_pathology

section Go

variable {F : Type} [PyNumber F]

/-- The median effect of an arm is more than one point below the one of the oracle. -/
def Below (rounds : List (Round F)) (arm : String) : Prop :=
  ∃ effect regression, tail_effect arm rounds = .ok effect ∧
    tail_effect "materialization_paced_oracle" rounds = .ok regression ∧
    lt effect (regression - lit 1) = true

def below (rounds : List (Round F)) (arm : String) : Bool :=
  match tail_effect arm rounds, tail_effect "materialization_paced_oracle" rounds with
  | .ok effect, .ok regression => lt effect (regression - lit 1)
  | _, _ => false

theorem below_iff {rounds : List (Round F)} {arm : String} : below rounds arm = true ↔ Below rounds arm := by
  unfold below
  constructor
  · intro hbelow
    split at hbelow
    · rename_i effect regression heffect hregression
      exact ⟨effect, regression, heffect, hregression, hbelow⟩
    · cases hbelow
  · rintro ⟨effect, regression, heffect, hregression, hlt⟩
    rw [heffect, hregression]
    exact hlt

instance (rounds : List (Round F)) (arm : String) : Decidable (Below rounds arm) :=
  decidable_of_iff (below rounds arm = true) below_iff

theorem cell_evidence_row {collected : Collected F} {workload intensity : String} {row : Evidence F}
    (hrow : cell_evidence collected workload intensity = .ok (.inr row)) :
    ∃ cap bucket, tail_effect "concurrency_cap" (rounds collected workload intensity) = .ok cap ∧
      tail_effect "request_token_bucket" (rounds collected workload intensity) = .ok bucket ∧
      tail_effect "materialization_paced_oracle" (rounds collected workload intensity) =
        .ok row.p95_regression_pct ∧
      row.generic_cap_effect_pct = pyMin cap bucket := by
  unfold cell_evidence at hrow
  dsimp only at hrow
  split at hrow
  · simp only [bind_eq_ok_iff, pure_eq_ok_iff, Sum.inr.injEq] at hrow
    obtain ⟨regression, hregression, cap, hcap, bucket, hbucket, _, _, _, _, rfl⟩ := hrow
    exact ⟨cap, bucket, hcap, hbucket, hregression, rfl⟩
  · rw [pure_eq_ok_iff] at hrow
    cases hrow

/-- A suite goes only if each of its cells is complete and passes. -/
theorem rebuild_go {runtime : Runtime F} {suite : Suite F} {report : Report F}
    (hreport : rebuild runtime suite = .ok report) (hgo : report.verdict = .go) :
    ∃ collected, collect runtime suite = .ok collected ∧ ∀ cell ∈ cells,
      ∃ row, cell_evidence collected cell.1 cell.2 = .ok (.inr row) ∧ row.passes = true := by
  unfold rebuild at hreport
  rw [bind_eq_ok_iff] at hreport
  obtain ⟨collected, hcollected, hreport⟩ := hreport
  refine ⟨collected, hcollected, ?_⟩
  split at hreport
  · simp only [bind_eq_ok_iff, pure_eq_ok_iff] at hreport
    obtain ⟨rows, hrows, lows, _, rfl⟩ := hreport
    dsimp only at hgo
    split at hgo
    · rename_i hpass
      simp only [Bool.and_eq_true, List.isEmpty_iff, List.append_eq_nil_iff, List.all_eq_true] at hpass
      obtain ⟨⟨⟨hcomplete, _⟩, _⟩, hpasses⟩ := hpass
      intro cell hcell
      obtain ⟨result, hresult, hevidence⟩ := exists_right_of_mem (forall₂_of_mapM_ok hrows) hcell
      cases result with
      | inl error =>
        have herror : error ∈ rows.filterMap Sum.getLeft? := List.mem_filterMap.mpr ⟨.inl error, hresult, rfl⟩
        rw [hcomplete] at herror
        cases herror
      | inr row => exact ⟨row, hevidence, hpasses row (List.mem_filterMap.mpr ⟨.inr row, hresult, rfl⟩)⟩
    · cases hgo
  · rw [pure_eq_ok_iff] at hreport
    subst hreport
    cases hgo

/-- Only the lesser of the two medians is held against the oracle. -/
theorem passes_below {collected : Collected F} {workload intensity : String} {row : Evidence F}
    (hrow : cell_evidence collected workload intensity = .ok (.inr row)) (hpasses : row.passes = true) :
    Below (rounds collected workload intensity) "concurrency_cap" ∨
      Below (rounds collected workload intensity) "request_token_bucket" := by
  obtain ⟨cap, bucket, hcap, hbucket, hregression, hgeneric⟩ := cell_evidence_row hrow
  simp only [Evidence.passes, Bool.and_eq_true] at hpasses
  obtain ⟨⟨_, hlt⟩, _⟩ := hpasses
  rw [hgeneric] at hlt
  obtain hlt | hlt := lt_of_pyMin_lt hlt
  · exact .inl ⟨cap, _, hcap, hregression, hlt⟩
  · exact .inr ⟨bucket, _, hbucket, hregression, hlt⟩

/-- What a Go says of the generic arms: both of them are below the oracle in every cell
exactly if no cell tells the two of them apart. -/
theorem go_below_iff (runtime : Runtime F) (suite : Suite F) (report : Report F)
    (hreport : rebuild runtime suite = .ok report) (hgo : report.verdict = .go) :
    ∃ collected, collect runtime suite = .ok collected ∧
      ((∀ workload ∈ WORKLOADS, ∀ intensity ∈ INTENSITIES, ∀ arm ∈ GENERIC_ARMS,
          Below (rounds collected workload intensity) arm) ↔
        ∀ workload ∈ WORKLOADS, ∀ intensity ∈ INTENSITIES,
          (Below (rounds collected workload intensity) "concurrency_cap" ↔
            Below (rounds collected workload intensity) "request_token_bucket")) := by
  obtain ⟨collected, hcollected, hcells⟩ := rebuild_go hreport hgo
  refine ⟨collected, hcollected, ?_, ?_⟩
  · intro hbelow workload hworkload intensity hintensity
    have harms := hbelow workload hworkload intensity hintensity
    simp only [GENERIC_ARMS, List.forall_mem_cons] at harms
    exact iff_of_true harms.1 harms.2.1
  · intro hagree workload hworkload intensity hintensity
    have hcell : (workload, intensity) ∈ cells :=
      List.mem_flatMap.mpr ⟨workload, hworkload, List.mem_map.mpr ⟨intensity, hintensity, rfl⟩⟩
    obtain ⟨row, hrow, hpasses⟩ := hcells _ hcell
    have hboth : Below (rounds collected workload intensity) "concurrency_cap" ∧
        Below (rounds collected workload intensity) "request_token_bucket" := by
      obtain hcap | hbucket := passes_below hrow hpasses
      · exact ⟨hcap, (hagree workload hworkload intensity hintensity).mp hcap⟩
      · exact ⟨(hagree workload hworkload intensity hintensity).mpr hbucket, hbucket⟩
    simp only [GENERIC_ARMS, List.forall_mem_cons]
    exact ⟨hboth.1, hboth.2, by simp⟩

end Go

section Measured

/-- A request that had its first token after some milliseconds. -/
def measuredRequest (ttft_ms : ℤ) : Json Binary64 := .dict [("request_id", .str "r1"), ("ok", .bool true),
  ("ttft_ms", .int ttft_ms), ("e2e_ms", .int 1000), ("tpot_ms", .int 10), ("output_tokens", .int 8)]

/-- Its materialization, which waited in the queue of the connector. -/
def measuredTelemetry (queue_wait_ms : ℤ) : Json Binary64 :=
  .dict ([("request_id", .str "r1"), ("activation_counter", .int 1), ("connector_queue_wait_ms", .int queue_wait_ms)] ++
    ["requested_materialization_bytes", "realized_materialization_bytes", "bytes_in_flight",
      "connector_queue_depth", "layer_ready_wait_ms", "transfer_busy_ms", "compute_busy_ms", "hbm_peak_bytes",
      "dram_peak_bytes", "realized_reuse_tokens", "fallback_reason", "waiting_reason"].map fun key => (key, .int 1))

/-- The run of an entry of the schedule: the oracle takes the wait and a sixth of the
delay away, and the two generic arms have the given delays. -/
def measuredBundle (cap bucket : ℤ) (spec : Spec) : Bundle Binary64 where
  run_manifest := some (.ok (.dict [("workload", .str spec.workload),
    ("burst_intensity", .str spec.burst_intensity), ("repeat", .int spec.repeat_), ("arm", .str spec.arm)]))
  request_results := some (.ok [
    if spec.low_concurrency_control then measuredRequest 100
    else if spec.arm = "materialization_paced_oracle" then measuredRequest 100
    else if spec.arm = "concurrency_cap" then measuredRequest cap
    else if spec.arm = "request_token_bucket" then measuredRequest bucket
    else measuredRequest 120])
  materialization_telemetry := some (.ok [
    if spec.arm = "materialization_paced_oracle" then measuredTelemetry 1 else measuredTelemetry 4])

/-- A complete run of the schedule, by the sequence the names start with. -/
def measuredSuite (cap bucket : ℤ) : Suite Binary64 where
  path := "/suite"
  suite_manifest := .ok (.dict [("schedule", .list (schedule.map Spec.toJson))])
  runs name :=
    let sequence := digits ((name.toByteArray.data.toList.take 3).map fun byte => Char.ofNat byte.toNat)
    match sequence.bind fun sequence => schedule[sequence - 1]? with
    | some spec => measuredBundle cap bucket spec
    | none => ⟨none, none, none⟩

/-- The suite goes, and what was collected of it is as said. -/
def goes (suite : Suite Binary64) (holds : Collected Binary64 → Bool) : Bool :=
  match collect Runtime.binary64 suite, rebuild Runtime.binary64 suite with
  | .ok collected, .ok report => report.verdict = .go && holds collected
  | _, _ => false

theorem exists_of_goes {suite : Suite Binary64} {holds : Collected Binary64 → Bool}
    (hsuite : goes suite holds = true) :
    ∃ collected report, collect Runtime.binary64 suite = .ok collected ∧
      rebuild Runtime.binary64 suite = .ok report ∧ report.verdict = .go ∧ holds collected = true := by
  unfold goes at hsuite
  split at hsuite
  · rename_i collected report hcollected hreport
    simp only [Bool.and_eq_true, decide_eq_true_eq] at hsuite
    exact ⟨collected, report, hcollected, hreport, hsuite⟩
  · cases hsuite

/-- In every cell both of the generic arms are short of the oracle, or neither is. -/
def agree (collected : Collected Binary64) : Bool :=
  decide (∀ workload ∈ WORKLOADS, ∀ intensity ∈ INTENSITIES,
    (Below (rounds collected workload intensity) "concurrency_cap" ↔
      Below (rounds collected workload intensity) "request_token_bucket"))

theorem short_goes : goes (measuredSuite 115 110) agree = true := by decide +kernel

theorem go_below_iff_short :
    ∃ collected, collect Runtime.binary64 (measuredSuite 115 110) = .ok collected ∧
      ∀ workload ∈ WORKLOADS, ∀ intensity ∈ INTENSITIES, ∀ arm ∈ GENERIC_ARMS,
        Below (rounds collected workload intensity) arm := by
  obtain ⟨collected, report, hcollected, hreport, hgo, hagree⟩ := exists_of_goes short_goes
  obtain ⟨collected', hcollected', hiff⟩ := go_below_iff Runtime.binary64 (measuredSuite 115 110) report hreport hgo
  rw [hcollected, Except.ok.injEq] at hcollected'
  subst hcollected'
  exact ⟨collected, hcollected, hiff.mpr (of_decide_eq_true hagree)⟩

/-- The concurrency cap is no point short of the oracle. -/
def overlooked (collected : Collected Binary64) : Bool :=
  !below (rounds collected "burstgpt" "moderate") "concurrency_cap"

theorem capped_goes : goes (measuredSuite 100 115) overlooked = true := by decide +kernel

/-- A concurrency cap that takes the whole delay away does not stop a suite whose token
bucket does not. -/
theorem equivalent_cap_goes :
    ¬ ∀ (suite : Suite Binary64) (report : Report Binary64) (collected : Collected Binary64),
      rebuild Runtime.binary64 suite = .ok report → report.verdict = .go →
        collect Runtime.binary64 suite = .ok collected →
        ∀ workload ∈ WORKLOADS, ∀ intensity ∈ INTENSITIES, ∀ arm ∈ GENERIC_ARMS,
          Below (rounds collected workload intensity) arm := by
  intro hbelow
  obtain ⟨collected, report, hcollected, hreport, hgo, hcap⟩ := exists_of_goes capped_goes
  have hcell := below_iff.mpr (hbelow _ report collected hreport hgo hcollected "burstgpt" List.mem_cons_self "moderate"
    List.mem_cons_self "concurrency_cap" List.mem_cons_self)
  rw [overlooked, hcell] at hcap
  cases hcap

end Measured

end g0_pathology
