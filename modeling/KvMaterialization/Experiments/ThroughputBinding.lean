import KvMaterialization.Experiments.BundleClosure

open python

namespace validate_online_bundle

section Edit

variable {F : Type}

/-- The summary with another token count and another throughput written over it. -/
def edit_summary (summary tokens throughput : Json F) : Json F :=
  (summary.assign "completed_output_tokens" tokens).assign "output_throughput_toks" throughput

def Records.edit (records : Records F) (tokens throughput : Json F) : Records F :=
  { records with summary := edit_summary records.summary tokens throughput }

@[simp] theorem Records.edit_requests (records : Records F) (tokens throughput : Json F) :
    (records.edit tokens throughput).requests = records.requests := rfl

@[simp] theorem Records.edit_summary (records : Records F) (tokens throughput : Json F) :
    (records.edit tokens throughput).summary =
      validate_online_bundle.edit_summary records.summary tokens throughput := rfl

/-- The bundle with nothing but the two fields of its summary edited. -/
def Bundle.edit (bundle : Bundle F) (tokens throughput : Json F) : Bundle F :=
  { bundle with
    request_summary := bundle.request_summary.map fun file =>
      file.map fun summary => edit_summary summary tokens throughput }

theorem Bundle.read_edit {bundle : Bundle F} {records : Records F} (tokens throughput : Json F)
    (hread : bundle.read = .ok records) :
    (bundle.edit tokens throughput).read = .ok (records.edit tokens throughput) := by
  simp only [Bundle.read, bind_eq_ok_iff, pure_eq_ok_iff] at hread ⊢
  obtain ⟨environment, henvironment, manifest, hmanifest, summary, hsummary, cleanup, hcleanup, requests,
    hrequests, observations, hobservations, events, hevents, rfl⟩ := hread
  refine ⟨environment, henvironment, manifest, hmanifest, edit_summary summary tokens throughput, ?_, cleanup,
    hcleanup, requests, hrequests, observations, hobservations, events, hevents, rfl⟩
  unfold File.read at hsummary ⊢
  cases hfile : bundle.request_summary with
  | none =>
    rw [hfile] at hsummary
    cases hsummary
  | some file =>
    rw [hfile, Option.getD_some] at hsummary
    subst hsummary
    simp only [Bundle.edit, hfile]
    rfl

theorem edit_summary_getD {key : String} (summary tokens throughput default : Json F)
    (htokens : key ≠ "completed_output_tokens") (hthroughput : key ≠ "output_throughput_toks") :
    (edit_summary summary tokens throughput).getD key default = summary.getD key default := by
  rw [edit_summary, Json.getD_assign_of_ne _ _ _ hthroughput, Json.getD_assign_of_ne _ _ _ htokens]

theorem edit_summary_get {key : String} (summary tokens throughput : Json F)
    (htokens : key ≠ "completed_output_tokens") (hthroughput : key ≠ "output_throughput_toks") :
    (edit_summary summary tokens throughput).get key = summary.get key :=
  edit_summary_getD summary tokens throughput .null htokens hthroughput

theorem edit_summary_tokens {summary found : Json F} {key : String} (tokens throughput : Json F)
    (hfound : summary.get key = .ok found) :
    (edit_summary summary tokens throughput).get "completed_output_tokens" = .ok tokens := by
  obtain ⟨entry, hentry⟩ := Json.get_returns hfound "completed_output_tokens"
  have hother := Json.getD_assign_of_ne (summary.assign "completed_output_tokens" tokens) throughput .null
    (by decide : "completed_output_tokens" ≠ "output_throughput_toks")
  exact hother.trans (Json.get_assign_self tokens hentry)

theorem edit_summary_throughput {summary found : Json F} {key : String} (tokens throughput : Json F)
    (hfound : summary.get key = .ok found) :
    (edit_summary summary tokens throughput).get "output_throughput_toks" = .ok throughput := by
  obtain ⟨entry, hentry⟩ := Json.get_returns hfound "output_throughput_toks"
  have hother := Json.getD_assign_of_ne summary tokens .null
    (by decide : "output_throughput_toks" ≠ "completed_output_tokens")
  exact Json.get_assign_self throughput (hother.trans hentry)

end Edit

section Stages

variable {F : Type} [PyNumber F] (runtime : Runtime F) (records : Records F) (tokens throughput : Json F)

/-- The raw rows are compared with fields that are not edited. -/
theorem verify_request_summary_edit (summary : Json F) (requests : List (Json F)) :
    verify_request_summary runtime (edit_summary summary tokens throughput) requests =
      verify_request_summary runtime summary requests := by
  have hfield : ∀ recomputed : Json F, ∀ field ∈ RAW_RECOMPUTABLE_SUMMARY_FIELDS,
      field_errors runtime (edit_summary summary tokens throughput) recomputed field =
        field_errors runtime summary recomputed field := by
    intro recomputed field hfield
    have hother : field ≠ "completed_output_tokens" ∧ field ≠ "output_throughput_toks" := by
      constructor
      · rintro rfl
        revert hfield
        decide
      · rintro rfl
        revert hfield
        decide
    unfold field_errors
    rw [edit_summary_get summary tokens throughput hother.1 hother.2]
  unfold verify_request_summary
  cases recompute_request_summary runtime requests with
  | error error => rfl
  | ok recomputed =>
    have hfields := mapM_congr (hfield recomputed)
    simp only [bind, Except.bind] at hfields ⊢
    rw [hfields]

theorem id_errors_edit (request_ids observation_ids : List (Json F)) :
    id_errors runtime (records.edit tokens throughput) request_ids observation_ids =
      id_errors runtime records request_ids observation_ids := by
  unfold id_errors Records.edit
  dsimp only
  rw [edit_summary_get _ _ _ (by decide) (by decide), edit_summary_getD _ _ _ _ (by decide) (by decide)]

theorem request_throughput_errors_edit (summary : Json F) :
    request_throughput_errors runtime (edit_summary summary tokens throughput) =
      request_throughput_errors runtime summary := by
  unfold request_throughput_errors rate_mismatch
  rw [edit_summary_get _ _ _ (by decide) (by decide), edit_summary_getD _ _ _ _ (by decide) (by decide),
    edit_summary_get _ _ _ (by decide) (by decide)]

theorem m2_errors_edit {errors : List String} (herrors : m2_errors runtime records true = .ok errors)
    (hclean : errors = []) :
    m2_errors runtime (records.edit tokens throughput) true =
      output_throughput_errors (edit_summary records.summary tokens throughput) := by
  simp only [m2_errors, Bool.not_true, Bool.false_eq_true, if_false, bind_eq_ok_iff, pure_eq_ok_iff] at herrors
  obtain ⟨policy, hpolicy, rate, hrate, output, _, rfl⟩ := herrors
  rw [List.append_eq_nil_iff, List.append_eq_nil_iff] at hclean
  obtain ⟨⟨rfl, rfl⟩, _⟩ := hclean
  have hpolicy' : policy_errors runtime (records.edit tokens throughput) = .ok [] := hpolicy
  have hrate' : request_throughput_errors runtime (records.edit tokens throughput).summary = .ok [] :=
    (request_throughput_errors_edit runtime tokens throughput records.summary).trans hrate
  simp only [m2_errors, Bool.not_true, Bool.false_eq_true, if_false, hpolicy', hrate', bind, Except.bind]
  rw [Records.edit]
  cases output_throughput_errors (edit_summary records.summary tokens throughput) with
  | error error => rfl
  | ok output => rfl

omit [PyNumber F] in
theorem throughput_verification_returns {summary found : Json F} {key : String}
    (hfound : summary.get key = .ok found) :
    ∃ verification, throughput_verification summary true = .ok verification := by
  obtain ⟨duration, hduration⟩ := Json.get_returns hfound "measurement_duration_s"
  obtain ⟨count, hcount⟩ := Json.get_returns hfound "completed_output_tokens"
  obtain ⟨requests, hrequests⟩ := Json.get_returns hfound "request_throughput_rps"
  obtain ⟨rate, hrate⟩ := Json.get_returns hfound "output_throughput_toks"
  unfold throughput_verification
  rw [hduration, hcount, hrequests, hrate]
  exact ⟨_, rfl⟩

/-- Of a bundle that validates, the edited one does exactly if the check of the output
throughput passes it: no other check reads the edited fields. -/
theorem validate_records_edit_iff {label : Option String} {require : Bool} {result : Validation F}
    (hresult : validate_records runtime records label require = .ok result) (hvalid : result.valid = true)
    (hm2 : is_m2_bundle records label = .ok true) :
    accepts (validate_records runtime (records.edit tokens throughput) label require) = true ↔
      output_throughput_errors (edit_summary records.summary tokens throughput) = .ok [] := by
  have hm2' : is_m2_bundle (records.edit tokens throughput) label = .ok true := hm2
  obtain ⟨stages, rfl⟩ := validate_records_ok_iff.mp hresult
  have his_m2 : stages.is_m2 = true := Except.ok.inj (stages.his_m2.symm.trans hm2)
  simp only [Validation.valid, Stages.result, List.isEmpty_iff, List.append_eq_nil_iff] at hvalid
  obtain ⟨hothers, hm2_clean⟩ := hvalid
  have hm2_errors := m2_errors_edit runtime records tokens throughput (his_m2 ▸ stages.hm2) hm2_clean
  rw [accepts_iff]
  constructor
  · rintro ⟨result', hresult', hvalid'⟩
    obtain ⟨stages', rfl⟩ := validate_records_ok_iff.mp hresult'
    have his_m2' : stages'.is_m2 = true := Except.ok.inj (stages'.his_m2.symm.trans hm2')
    simp only [Validation.valid, Stages.result, List.isEmpty_iff, List.append_eq_nil_iff] at hvalid'
    rw [← hm2_errors, ← his_m2', stages'.hm2, hvalid'.2]
  · intro houtput
    have hthroughput := stages.hthroughput
    rw [his_m2] at hthroughput
    simp only [throughput_verification, if_true, bind_eq_ok_iff] at hthroughput
    obtain ⟨found, hfound, _⟩ := hthroughput
    have hedited := edit_summary_tokens tokens throughput hfound
    obtain ⟨verification, hverification⟩ := throughput_verification_returns hedited
    -- every other check reads what it read before
    let stages' : Stages runtime (records.edit tokens throughput) label require :=
      { stages with
        m2 := []
        throughput := verification
        hverify := (verify_request_summary_edit runtime tokens throughput records.summary
          records.requests).trans stages.hverify
        hid_messages := (id_errors_edit runtime records tokens throughput stages.request_ids
          stages.observation_ids).trans stages.hid_messages
        hm2 := by rw [his_m2, hm2_errors, houtput]
        hthroughput := by rw [his_m2]; exact hverification }
    refine ⟨stages'.result, validate_records_ok_iff.mpr ⟨stages', rfl⟩, ?_⟩
    simp only [Validation.valid, Stages.result, List.isEmpty_iff, List.append_eq_nil_iff]
    exact ⟨hothers, rfl⟩

end Stages

section Binding

variable {F : Type} [PyNumber F]

/-- The tokens `summarize` counts for a row: the actual ones, or the target without them. -/
def row_tokens (row : Json F) : Option ℤ :=
  let actual := field "completion_tokens_actual" row
  if actual.truthy then actual.int? else (field "completion_tokens_target" row).int?

/-- The sum over the successful rows. -/
def rawOutputTokens (requests : List (Json F)) : Option ℤ :=
  ((requests.filter fun row => (field "ok" row).truthy).mapM row_tokens).map List.sum

/-- The token count of the summary is the one of the rows. -/
def Bound (records : Records F) : Prop :=
  ∃ count, (field "completed_output_tokens" records.summary).int? = some count ∧
    rawOutputTokens records.requests = some count

/-- The count is an integer from zero up, and the throughput its quotient by the duration. -/
def Closes (summary tokens throughput : Json F) : Prop :=
  ∃ count duration rate, tokens.int? = some count ∧ 0 ≤ count ∧
    (field "measurement_duration_s" summary).number? = some duration ∧
    (Number.int count).div duration = .ok rate ∧ throughput.eq (.float (roundTo rate 3)) = true

omit [PyNumber F] in
theorem field_of_get {row value : Json F} {key : String} (hget : row.get key = .ok value) :
    field key row = value := by
  rw [field, hget]

theorem rate_mismatch_iff {summary reported : Json F} {key : String} {count : ℤ} {duration : Number F}
    (hreported : summary.get key = .ok reported) :
    rate_mismatch summary key count duration = .ok false ↔
      ∃ rate, (Number.int count).div duration = .ok rate ∧ reported.eq (.float (roundTo rate 3)) = true := by
  unfold rate_mismatch
  rw [hreported]
  cases (Number.int count : Number F).div duration with
  | error error => simp [bind, Except.bind]
  | ok rate => simp [bind, Except.bind]

/-- The check of the output throughput reads the summary alone. -/
theorem output_throughput_errors_edit {summary found : Json F} {duration : Number F} (tokens throughput : Json F)
    (hfound : summary.get "measurement_duration_s" = .ok found) (hnumber : found.number? = some duration)
    (hpositive : (Number.int 0).lt duration = true) :
    output_throughput_errors (edit_summary summary tokens throughput) = .ok [] ↔
      Closes summary tokens throughput := by
  have hduration := edit_summary_get summary tokens throughput
    (by decide : "measurement_duration_s" ≠ "completed_output_tokens") (by decide)
  have hrate := edit_summary_throughput tokens throughput hfound
  unfold output_throughput_errors
  rw [hduration, hfound, edit_summary_tokens tokens throughput hfound]
  simp only [bind_eq_ok_iff, Except.ok.injEq, exists_eq_left', Closes, field_of_get hfound, hnumber]
  cases hcount : tokens.int? with
  | none => simp
  | some count =>
    by_cases hnegative : count < 0
    · simp [hnegative]
    · simp only [hnegative, if_false, hpositive, if_true, bind_eq_ok_iff, pure_eq_ok_iff, errorIf_eq_nil_iff,
        exists_eq_right, rate_mismatch_iff hrate, Option.some.injEq]
      constructor
      · rintro ⟨rate, hdiv, heq⟩
        exact ⟨count, duration, rate, rfl, not_lt.mp hnegative, rfl, hdiv, heq⟩
      · rintro ⟨_, _, rate, rfl, _, rfl, hdiv, heq⟩
        exact ⟨rate, hdiv, heq⟩

/-- An M2 bundle that validates has passed the check of the request throughput, and
says its throughput was recomputed. -/
theorem m2_result {runtime : Runtime F} {records : Records F} {label : Option String} {require : Bool}
    {result : Validation F} (hresult : validate_records runtime records label require = .ok result)
    (hvalid : result.valid = true) :
    ∃ is_m2 report, is_m2_bundle records label = .ok is_m2 ∧ result.report = some report ∧
      (report.throughput.item "status" = .ok (.str "raw_recomputed") ↔ is_m2 = true) ∧
      (is_m2 = true → request_throughput_errors runtime records.summary = .ok []) := by
  obtain ⟨stages, rfl⟩ := validate_records_ok_iff.mp hresult
  refine ⟨stages.is_m2, _, stages.his_m2, rfl, ?_, ?_⟩
  · have hthroughput := stages.hthroughput
    change stages.throughput.item "status" = _ ↔ _
    cases his_m2 : stages.is_m2 with
    | true =>
      rw [his_m2] at hthroughput
      simp only [throughput_verification, if_true, bind_eq_ok_iff, pure_eq_ok_iff] at hthroughput
      obtain ⟨_, _, _, _, _, _, _, _, hverification⟩ := hthroughput
      rw [← hverification]
      exact ⟨fun _ => rfl, fun _ => rfl⟩
    | false =>
      rw [his_m2] at hthroughput
      rw [← Except.ok.inj hthroughput]
      simp [Json.item, Json.find]
  · intro his_m2
    simp only [Validation.valid, Stages.result, List.isEmpty_iff, List.append_eq_nil_iff] at hvalid
    have hm2 := stages.hm2
    rw [his_m2, hvalid.2] at hm2
    simp only [m2_errors, Bool.not_true, Bool.false_eq_true, if_false, bind_eq_ok_iff, pure_eq_ok_iff,
      List.append_eq_nil_iff] at hm2
    obtain ⟨_, _, _, hrequest, _, _, ⟨_, rfl⟩, _⟩ := hm2
    exact hrequest

end Binding

section Duration

theorem eq_nan (reported : Json Binary64) : reported.eq (.float .nan) = false := by
  cases reported with
  | float x => cases x <;> rfl
  | null => rfl
  | bool b => cases b <;> rfl
  | int n => simp [Json.eq, Json.same, Json.number?, Json.sameNumber, Number.eq, PyNumber.ratio, Binary64.ratio]
  | str s => rfl
  | list items => simp [Json.eq, Json.same, Json.number?]
  | dict entries => simp [Json.eq, Json.same, Json.number?]

/-- Beyond the finite numbers only the infinity is above zero. -/
theorem lt_special (x : Binary64) (hspecial : PyNumber.ratio x = none) :
    ((Number.int 0).lt (.float x) = true ↔ x = .infinity false) ∧
      ((Number.float x).lt (.int 0) = true ↔ x = .infinity true) := by
  have hzero : |(0 : ℚ)| < overflow := by
    rw [abs_zero]
    exact lt_overflow (by norm_num)
  simp only [Number.lt, hspecial]
  rw [Binary64.lit_eq, Binary64.ofRat_of_lt hzero]
  cases x with
  | finite q hq => cases hspecial
  | infinity negative => cases negative <;> exact ⟨by simp [PyFloat.lt, Binary64.lt], by simp [PyFloat.lt, Binary64.lt]⟩
  | nan => exact ⟨by simp [PyFloat.lt, Binary64.lt], by simp [PyFloat.lt, Binary64.lt]⟩

theorem div_nan {count : ℤ} {rate : Binary64}
    (hdiv : (Number.int count).div (.float (.nan : Binary64)) = .ok rate) : rate = .nan := by
  simp only [Number.div, Number.toFloat, bind_eq_ok_iff, Except.ok.injEq, exists_eq_left'] at hdiv
  obtain ⟨x, _, hdiv⟩ := hdiv
  change Binary64.div x .nan = .ok rate at hdiv
  cases x <;> exact (Except.ok.inj hdiv).symm

/-- The check of the request throughput lets only a positive duration pass: a NaN is
not below zero, but equals no reported rate. -/
theorem duration_positive {runtime : Runtime Binary64} {summary : Json Binary64}
    (herrors : request_throughput_errors runtime summary = .ok []) :
    ∃ found duration, summary.get "measurement_duration_s" = .ok found ∧ found.number? = some duration ∧
      (Number.int 0).lt duration = true := by
  simp only [request_throughput_errors, bind_eq_ok_iff] at herrors
  obtain ⟨found, hfound, herrors⟩ := herrors
  split at herrors
  · rw [pure_eq_ok_iff] at herrors
    cases herrors
  · rename_i duration hnumber
    split at herrors
    · rw [pure_eq_ok_iff] at herrors
      cases herrors
    · rename_i hpositive
      simp only [bind_eq_ok_iff, pure_eq_ok_iff, errorIf_eq_nil_iff, exists_eq_right] at herrors
      obtain ⟨_, _, completed, _, hmismatch⟩ := herrors
      refine ⟨found, duration, hfound, hnumber, ?_⟩
      obtain ⟨reported, hreported⟩ := Json.get_returns hfound "request_throughput_rps"
      obtain ⟨rate, hdiv, heq⟩ := (rate_mismatch_iff hreported).mp hmismatch
      cases duration with
      | int n =>
        simp only [Number.le, Number.lt, Number.eq, Bool.or_eq_true, decide_eq_true_eq] at hpositive ⊢
        omega
      | float x =>
        cases x with
        | finite q hq =>
          simp only [Number.le, Number.lt, Number.eq, PyNumber.ratio, Binary64.ratio, Bool.or_eq_true,
            decide_eq_true_eq, Option.some.injEq, Int.cast_zero, not_or, not_lt] at hpositive ⊢
          exact lt_of_le_of_ne hpositive.1 fun h => hpositive.2 h.symm
        | infinity negative =>
          obtain ⟨habove, hbelow⟩ := lt_special (.infinity negative) rfl
          cases negative with
          | true => exact absurd (by rw [Number.le, hbelow.mpr rfl]; rfl) hpositive
          | false => exact habove.mpr rfl
        | nan =>
          rw [div_nan hdiv] at heq
          have hnan : (roundTo Binary64.nan 3 : Binary64) = .nan := rfl
          rw [hnan, eq_nan] at heq
          cases heq

/-- No token, or one, divided by a positive duration is a number. -/
theorem div_positive {count : ℤ} {duration : Number Binary64} (hcount : count = 0 ∨ count = 1)
    (hpositive : (Number.int 0).lt duration = true) :
    ∃ rate, (Number.int count).div duration = .ok rate ∧ rate ≠ .nan := by
  have hone : |(count : ℚ)| < overflow := by
    apply lt_overflow
    obtain rfl | rfl := hcount <;> norm_num
  cases duration with
  | int n =>
    have hn : 0 < n := by simpa [Number.lt] using hpositive
    have hlt : |(count : ℚ) / n| < overflow := Binary64.abs_ratio_lt_overflow (by omega) (by omega) hn
    exact ⟨_, Binary64.intDiv_of_lt hn.ne' hlt, nofun⟩
  | float x =>
    simp only [Number.div, Number.toFloat, Binary64.ofInt_of_lt hone, bind, Except.bind]
    change ∃ rate, Binary64.div (.finite (nearest count) (nearest_representable hone)) x = .ok rate ∧ rate ≠ .nan
    cases x with
    | finite q hq =>
      have hq0 : q ≠ 0 := by
        rintro rfl
        simp [Number.lt, PyNumber.ratio, Binary64.ratio] at hpositive
      exact ⟨_, if_neg hq0, Binary64.ofRat_ne_nan _⟩
    | infinity negative => exact ⟨_, rfl, Binary64.ofRat_ne_nan _⟩
    | nan => cases (lt_special .nan rfl).1.mp hpositive

/-- Whatever the rows say, some other count closes with the duration. -/
theorem exists_closing_edit {summary found : Json Binary64} {duration : Number Binary64}
    (hfound : summary.get "measurement_duration_s" = .ok found) (hnumber : found.number? = some duration)
    (hpositive : (Number.int 0).lt duration = true) (raw : Option ℤ) :
    ∃ (count : ℤ) (throughput : Json Binary64), raw ≠ some count ∧ Closes summary (.int count) throughput := by
  obtain ⟨count, hcount, hraw⟩ : ∃ count : ℤ, (count = 0 ∨ count = 1) ∧ raw ≠ some count := by
    by_cases hzero : raw = some 0
    · exact ⟨1, .inr rfl, by rw [hzero]; decide⟩
    · exact ⟨0, .inl rfl, hzero⟩
  obtain ⟨rate, hdiv, hnumber_rate⟩ := div_positive hcount hpositive
  refine ⟨count, .float (roundTo rate 3), hraw, count, duration, rate, rfl, by omega, ?_, hdiv, ?_⟩
  · rw [field_of_get hfound]
    exact hnumber
  · exact Binary64.eq_self (Binary64.roundTo_ne_nan hnumber_rate 3)

end Duration

theorem validate_bundle_edit {F : Type} [PyNumber F] {runtime : Runtime F} {bundle : Bundle F}
    {records : Records F} {label : Option String} {require : Bool} (tokens throughput : Json F)
    (hfiles : (bundle.required_files.filter fun file => !file.2) = []) (hread : bundle.read = .ok records) :
    validate_bundle runtime (bundle.edit tokens throughput) label require =
      validate_records runtime (records.edit tokens throughput) label require := by
  have hfiles' : (bundle.edit tokens throughput).required_files = bundle.required_files := by
    unfold Bundle.required_files Bundle.edit
    simp
  unfold validate_bundle
  dsimp only
  rw [hfiles', hfiles, List.map_nil, if_neg (by simp), Bundle.read_edit tokens throughput hread]
  rfl

/-- What the M2 branch binds: of a bundle it accepts, an edit of the token count and the
throughput together is noticed only where the two do not close with the duration, and
so some edit to a count the rows do not bear out is accepted as recomputed. -/
theorem throughput_edit_detected_iff (runtime : Runtime Binary64) (bundle : Bundle Binary64)
    (label : Option String) (realized_partial_required : Bool) (result : Validation Binary64)
    (report : Report Binary64)
    (hresult : validate_bundle runtime bundle label realized_partial_required = .ok result)
    (hvalid : result.valid = true) (hreport : result.report = some report)
    (hstatus : report.throughput.item "status" = .ok (.str "raw_recomputed")) :
    ∃ records, bundle.read = .ok records ∧
      (∀ tokens throughput,
        accepts (validate_bundle runtime (bundle.edit tokens throughput) label realized_partial_required) = true ↔
          Closes records.summary tokens throughput) ∧
      ∃ tokens throughput result' report',
        validate_bundle runtime (bundle.edit tokens throughput) label realized_partial_required = .ok result' ∧
          result'.valid = true ∧ result'.report = some report' ∧
          report'.throughput.item "status" = .ok (.str "raw_recomputed") ∧
          ¬ Bound (records.edit tokens throughput) := by
  obtain ⟨hfiles, records, hread, hrecords⟩ := validate_bundle_read hresult hvalid
  obtain ⟨is_m2, report, his_m2, hreport', hstatus_iff, hrequest⟩ := m2_result hrecords hvalid
  rw [hreport, Option.some.injEq] at hreport'
  subst hreport'
  have hm2 := hstatus_iff.mp hstatus
  subst hm2
  obtain ⟨found, duration, hfound, hnumber, hpositive⟩ := duration_positive (hrequest rfl)
  have haccepts : ∀ tokens throughput,
      accepts (validate_bundle runtime (bundle.edit tokens throughput) label realized_partial_required) = true ↔
        Closes records.summary tokens throughput := by
    intro tokens throughput
    rw [validate_bundle_edit tokens throughput hfiles hread,
      validate_records_edit_iff runtime records tokens throughput hrecords hvalid his_m2]
    exact output_throughput_errors_edit tokens throughput hfound hnumber hpositive
  refine ⟨records, hread, haccepts, ?_⟩
  obtain ⟨count, throughput, hraw, hcloses⟩ :=
    exists_closing_edit hfound hnumber hpositive (rawOutputTokens records.requests)
  obtain ⟨result', hresult', hvalid'⟩ := accepts_iff.mp ((haccepts (.int count) throughput).mpr hcloses)
  have hrecords' := hresult'
  rw [validate_bundle_edit _ _ hfiles hread] at hrecords'
  obtain ⟨_, report', his_m2', hreport', hstatus', _⟩ := m2_result hrecords' hvalid'
  have hm2' : is_m2_bundle (records.edit (.int count) throughput) label = .ok true := his_m2
  rw [hm2', Except.ok.injEq] at his_m2'
  refine ⟨.int count, throughput, result', report', hresult', hvalid', hreport', hstatus'.mpr his_m2'.symm, ?_⟩
  rintro ⟨other, hother, hbound⟩
  rw [Records.edit_summary, field_of_get (edit_summary_tokens _ _ hfound)] at hother
  rw [Records.edit_requests, ← hother] at hbound
  exact hraw hbound

/-- A measured run of one request that produced 12 tokens in two seconds. -/
def measuredRequest (tokens throughput : Json Binary64) : Bundle Binary64 where
  environment_manifest := some (.ok (.dict [
    ("evidence_label", .str "real-online/m2-benefit-boundary"), ("protocol_fingerprint", .str "f3a1"),
    ("execution_mode_evidence", .list [.str "enforce_eager=False"])]))
  run_manifest := some (.ok (.dict [
    ("evidence_label", .str "real-online/m2-benefit-boundary"), ("status", .str "completed"),
    ("policy_mode", .str "controller")]))
  request_summary := some (.ok (.dict [
    ("requests", .int 1), ("completed", .int 1), ("failures", .list []),
    ("mean_latency_ms", .float (lit 1000)), ("p95_latency_ms", .float (lit 1000)),
    ("mean_ttft_ms", .float (lit 125)), ("p95_ttft_ms", .float (lit 125)),
    ("measurement_duration_s", .float (lit 2)), ("completed_output_tokens", tokens),
    ("request_throughput_rps", .float (lit (1 / 2))), ("output_throughput_toks", throughput)]))
  request_results := some (.ok [.dict [
    ("request_id", .str "r1"), ("ok", .bool true), ("latency_s", .float (lit 1)),
    ("ttft_s", .float (lit (1 / 8))), ("completion_tokens_target", .int 16),
    ("completion_tokens_actual", .int 12), ("raw_events", .list [.dict []])]])
  runtime_observations := some (.ok [.dict [
    ("request_id", .str "r1"), ("decision", .str "recompute"),
    ("runtime_effective_decision", .str "recompute"), ("runtime_target_reuse_tokens", .int 0),
    ("runtime_target_tail_tokens", .int 100), ("runtime_fallback_reason", .null),
    ("prompt_tokens", .int 100), ("policy_mode", .str "controller"),
    ("decision_latency_ms", .float (lit 1)), ("boundary_alignment_latency_ms", .float (lit 1)),
    ("controller_latency_ms", .float (lit 1))]])
  runtime_events := some (.ok [
    .dict [("request_id", .str "chatcmpl-r1"), ("event", .str "lookup"),
      ("engine_prompt_tokens", .int 100), ("engine_reused_tokens", .int 0),
      ("engine_recomputed_tokens", .int 100), ("applied_decision", .str "recompute"),
      ("observed_decision", .str "recompute"), ("target_reuse_tokens", .int 0),
      ("realized_decision", .str "recompute"), ("lookup_latency_ms", .float (lit 1)),
      ("tail_isolation_latency_ms", .int 0), ("cache_usage", .float (lit (1 / 2)))],
    .dict [("request_id", .str "chatcmpl-r1"), ("event", .str "commit"),
      ("commit_latency_ms", .float (lit 1)), ("cached_blocks", .int 4), ("cache_usage", .float (lit (1 / 2)))]])
  server_log := true
  client_log := true
  cleanup := some (.ok (.dict [("port_free_after", .bool true), ("device_idle_after", .bool true)]))

/-- The result says the throughput was recomputed from the raw rows. -/
def rawRecomputed (outcome : Except Exception (Validation Binary64)) : Bool :=
  match outcome with
  | .ok { errors := [], report := some report } =>
    match report.throughput.item "status" with
    | .ok (.str status) => status = "raw_recomputed"
    | _ => false
  | _ => false

theorem rawRecomputed_iff {outcome : Except Exception (Validation Binary64)}
    (houtcome : rawRecomputed outcome = true) :
    ∃ result report, outcome = .ok result ∧ result.valid = true ∧ result.report = some report ∧
      report.throughput.item "status" = .ok (.str "raw_recomputed") := by
  unfold rawRecomputed at houtcome
  split at houtcome
  · rename_i report
    split at houtcome
    · rename_i status hstatus
      rw [decide_eq_true_eq] at houtcome
      subst houtcome
      exact ⟨_, report, rfl, rfl, rfl, hstatus⟩
    · cases houtcome
  · cases houtcome

theorem throughput_edit_detected_iff_measured :
    ∃ records, (measuredRequest (.int 12) (.float (lit 6))).read = .ok records ∧
      (∀ tokens throughput,
        accepts (validate_bundle Runtime.binary64
            ((measuredRequest (.int 12) (.float (lit 6))).edit tokens throughput) none false) = true ↔
          Closes records.summary tokens throughput) ∧
      ∃ tokens throughput result report,
        validate_bundle Runtime.binary64
            ((measuredRequest (.int 12) (.float (lit 6))).edit tokens throughput) none false = .ok result ∧
          result.valid = true ∧ result.report = some report ∧
          report.throughput.item "status" = .ok (.str "raw_recomputed") ∧
          ¬ Bound (records.edit tokens throughput) := by
  have hmeasured : rawRecomputed (validate_bundle Runtime.binary64
      (measuredRequest (.int 12) (.float (lit 6))) none false) = true := by decide +kernel
  obtain ⟨result, report, hresult, hvalid, hreport, hstatus⟩ := rawRecomputed_iff hmeasured
  exact throughput_edit_detected_iff Runtime.binary64 _ none false result report hresult hvalid hreport hstatus

/-- With a thousand tokens and five hundred a second over its twelve, the summary still
passes as recomputed from the raw rows. -/
theorem inflated_throughput_accepted :
    ¬ ∀ (bundle : Bundle Binary64) (result : Validation Binary64) (report : Report Binary64),
      validate_bundle Runtime.binary64 bundle none false = .ok result → result.valid = true →
        result.report = some report →
        report.throughput.item "status" = .ok (.str "raw_recomputed") →
        ∃ records, bundle.read = .ok records ∧ Bound records := by
  intro hbound
  have hinflated : rawRecomputed (validate_bundle Runtime.binary64
      (measuredRequest (.int 1000) (.float (lit 500))) none false) = true := by decide +kernel
  obtain ⟨result, report, hresult, hvalid, hreport, hstatus⟩ := rawRecomputed_iff hinflated
  obtain ⟨records, hread, count, hcount, hraw⟩ := hbound _ result report hresult hvalid hreport hstatus
  cases hread
  have htokens : (1000 : ℤ) = count := Option.some.inj hcount
  have hrows : (12 : ℤ) = count := Option.some.inj hraw
  omega

end validate_online_bundle
