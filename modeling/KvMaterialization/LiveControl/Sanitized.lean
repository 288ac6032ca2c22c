import KvMaterialization.LiveControl.Overflow
import KvMaterialization.Python.Capped

open python
open python.Binary64
open vllm_kv_materialization.policy

namespace vllm_kv_materialization.live_control

/-- Counts from zero up, finite times and pressure from zero up, and a confidence of the
unit interval. -/
structure Sanitized (signals : MaterializationSignals Binary64) : Prop where
  reusable_prefix_tokens : 0 ≤ signals.reusable_prefix_tokens
  remote_kv_bytes : 0 ≤ signals.remote_kv_bytes
  transfer_time_ms : Clean signals.transfer_time_ms
  recompute_time_ms : Clean signals.recompute_time_ms
  queue_pressure : Clean signals.queue_pressure
  reuse_confidence : InUnit signals.reuse_confidence

/-- The queue pressure a request is given. -/
def stated_queue_pressure (py : Interpreter Binary64) (env : Environment) (headers : Headers) : Binary64 :=
  header_float py headers HEADER_QUEUE_PRESSURE
    (env_float py env "VLLM_KV_QUEUE_PRESSURE" (lit DEFAULT_QUEUE_PRESSURE))

def prefill_ms_per_1k (py : Interpreter Binary64) (env : Environment) : Binary64 :=
  env_float py env "VLLM_KV_PREFILL_MS_PER_1K" (lit DEFAULT_PREFILL_MS_PER_1K)

/-- The prefill cost times a prefix, in thousands of tokens, stays below the overflow; a
cost of negative infinity does so for every prefix but the empty one. -/
def PrefillInRange (prefill : Binary64) (reusable_prefix_tokens : ℤ) : Prop :=
  (∃ cost hcost, prefill = finite cost hcost ∧ nearest (nearest reusable_prefix_tokens / 1000) * cost < overflow) ∨
    (prefill = .infinity true ∧ 0 < reusable_prefix_tokens)

/-- A bandwidth from zero up that does not overflow itself takes milliseconds below the
overflow for the bytes. -/
def BandwidthInRange (bandwidth : Binary64) (remote_kv_bytes : ℤ) : Prop :=
  ∀ gbps hgbps, bandwidth = finite gbps hgbps → 0 < gbps → gbps * 1000000000 < overflow →
    nearest (nearest remote_kv_bytes / nearest (gbps * 1000000000)) * 1000 < overflow

/-- What a request, its environment and its session must keep to. -/
structure InputsCapped (py : Interpreter Binary64) (env : Environment) (headers : Headers)
    (reusable_prefix_tokens : ℤ) : Prop where
  queue_pressure : Capped (stated_queue_pressure py env headers)
  prefill : PrefillInRange (prefill_ms_per_1k py env) reusable_prefix_tokens
  bandwidth : BandwidthInRange (bandwidth py env) (reusable_prefix_tokens * max (bytes_per_token py env) 0)

section

variable {py : Interpreter Binary64} {env : Environment}

/-- A count that converts, with what it converts to. -/
theorem ofInt_eq_ok {n : ℤ} {x : Binary64} (hconvert : ofInt n = .ok x) :
    ∃ hrepresentable, |(n : ℚ)| < overflow ∧ x = finite (nearest n) hrepresentable := by
  have hlt := ofInt_returns_iff.mp ⟨x, hconvert⟩
  rw [ofInt_of_lt hlt, Except.ok.injEq] at hconvert
  exact ⟨nearest_representable hlt, hlt, hconvert.symm⟩

theorem lit_thousand : ∃ hrepresentable, (lit 1000 : Binary64) = finite 1000 hrepresentable := by
  have hthousand := lit_natCast (n := 1000) (by norm_num)
  rwa [Nat.cast_ofNat] at hthousand

theorem lit_billion : ∃ hrepresentable, (lit 1000000000 : Binary64) = finite 1000000000 hrepresentable := by
  have hbillion := lit_natCast (n := 1000000000) (by norm_num)
  rwa [Nat.cast_ofNat] at hbillion

theorem div_finite {x y : ℚ} {hx : Representable x} {hy : Representable y} (hne : y ≠ 0) :
    PyFloat.div (finite x hx) (finite y hy) = .ok (ofRat (x / y)) := by
  change Binary64.div (finite x hx) (finite y hy) = _
  rw [Binary64.div, if_neg hne]

/-- The thousands of a prefix are its conversion over a thousand, and positive with it. -/
theorem thousands_eq {reusable_prefix_tokens : ℤ} (hnonneg : 0 ≤ reusable_prefix_tokens) {tokens thousands : Binary64}
    (htokens : ofInt reusable_prefix_tokens = .ok tokens) (hthousands : PyFloat.div tokens (lit 1000) = .ok thousands) :
    ∃ hrepresentable, thousands = finite (nearest (nearest reusable_prefix_tokens / 1000)) hrepresentable := by
  obtain ⟨hrepresentable, hlt, rfl⟩ := ofInt_eq_ok htokens
  obtain ⟨hthousand, hlit⟩ := lit_thousand
  rw [hlit, div_finite (by norm_num), Except.ok.injEq] at hthousands
  have hnear := nearest_nonneg (by exact_mod_cast hnonneg : (0 : ℚ) ≤ reusable_prefix_tokens)
  have hbound := abs_nearest_lt hlt
  rw [abs_of_nonneg hnear] at hbound
  have hquotient : |nearest (reusable_prefix_tokens : ℚ) / 1000| < overflow := by
    rw [abs_of_nonneg (by positivity)]
    exact (div_le_self hnear (by norm_num)).trans_lt hbound
  rw [ofRat_of_lt hquotient] at hthousands
  exact ⟨nearest_representable hquotient, hthousands.symm⟩

theorem thousands_pos_iff {reusable_prefix_tokens : ℤ} (hnonneg : 0 ≤ reusable_prefix_tokens) :
    0 < nearest (nearest reusable_prefix_tokens / 1000) ↔ 0 < reusable_prefix_tokens := by
  constructor
  · intro hpositive
    by_contra hnot
    have hzero : reusable_prefix_tokens = 0 := by omega
    rw [hzero, Int.cast_zero, nearest_zero, zero_div, nearest_zero] at hpositive
    exact lt_irrefl 0 hpositive
  · intro hpositive
    have hone : (1 : ℚ) ≤ reusable_prefix_tokens := by exact_mod_cast hpositive
    have hmono := nearest_mono zero_le_one hone
    rw [nearest_one] at hmono
    apply nearest_pos
    calc (2 : ℚ) ^ (-1074 : ℤ) ≤ 2 ^ (-10 : ℤ) := zpow_le_zpow_right₀ (by norm_num) (by norm_num)
      _ ≤ 1 / 1000 := by norm_num
      _ ≤ nearest reusable_prefix_tokens / 1000 := by gcongr

/-- The time to recompute is capped exactly if the prefill cost is in range. -/
theorem capped_recompute_iff {reusable_prefix_tokens : ℤ} (hnonneg : 0 ≤ reusable_prefix_tokens)
    {tokens thousands : Binary64} (htokens : ofInt reusable_prefix_tokens = .ok tokens)
    (hthousands : PyFloat.div tokens (lit 1000) = .ok thousands) (prefill : Binary64) :
    Capped (thousands * prefill) ↔ PrefillInRange prefill reusable_prefix_tokens := by
  obtain ⟨hrepresentable, rfl⟩ := thousands_eq hnonneg htokens hthousands
  have hpositive := thousands_pos_iff hnonneg
  have hthousandsNonneg : 0 ≤ nearest (nearest reusable_prefix_tokens / 1000) := by
    apply nearest_nonneg
    have hnear := nearest_nonneg (by exact_mod_cast hnonneg : (0 : ℚ) ≤ reusable_prefix_tokens)
    positivity
  unfold PrefillInRange
  cases prefill with
  | finite cost hcost =>
    rw [mul_finite, capped_ofRat_iff]
    simp only [finite.injEq, reduceCtorEq, false_and, or_false]
    constructor
    · intro hlt
      exact ⟨cost, hcost, rfl, hlt⟩
    · rintro ⟨cost', _, rfl, hlt⟩
      exact hlt
  | infinity negative =>
    have hmul : finite (nearest (nearest reusable_prefix_tokens / 1000)) hrepresentable * infinity negative =
        if nearest (nearest (reusable_prefix_tokens : ℚ) / 1000) = 0 then nan
        else infinity (decide (nearest (nearest (reusable_prefix_tokens : ℚ) / 1000) < 0) != negative) := rfl
    rw [hmul, decide_eq_false (not_lt.mpr hthousandsNonneg), Bool.false_bne]
    simp only [reduceCtorEq, false_and, exists_false, false_or, infinity.injEq]
    by_cases hzero : nearest (nearest (reusable_prefix_tokens : ℚ) / 1000) = 0
    · rw [if_pos hzero]
      refine iff_of_false (fun hcapped => hcapped.1 rfl) ?_
      rintro ⟨_, hsome⟩
      exact (hpositive.mpr hsome).ne' hzero
    · rw [if_neg hzero]
      have hsome := hpositive.mp (lt_of_le_of_ne hthousandsNonneg (Ne.symm hzero))
      cases negative with
      | true => exact iff_of_true ⟨by simp, by simp⟩ ⟨rfl, hsome⟩
      | false => exact iff_of_false (fun hcapped => hcapped.2 rfl) (fun h => Bool.false_ne_true h.1)
  | nan =>
    refine iff_of_false (fun hcapped => hcapped.1 rfl) ?_
    rintro (⟨_, _, hnan, _⟩ | ⟨hnan, _⟩)
    · cases hnan
    · cases hnan

/-- The quotient of the bytes and a bandwidth, in milliseconds. -/
theorem capped_milliseconds_iff {bytes scale : ℚ} (hbytes : 0 ≤ bytes) (hscale : 0 < scale) :
    Capped (ofRat (bytes / scale) * lit 1000) ↔ nearest (bytes / scale) * 1000 < overflow := by
  obtain ⟨hthousand, hlit⟩ := lit_thousand
  have hquotient : 0 ≤ bytes / scale := div_nonneg hbytes hscale.le
  rw [hlit]
  by_cases hlt : |bytes / scale| < overflow
  · rw [ofRat_of_lt hlt, mul_finite, capped_ofRat_iff]
  · have hmul : ofRat (bytes / scale) * finite 1000 hthousand = infinity false := by
      rw [ofRat, dif_neg hlt, decide_eq_false (not_lt.mpr hquotient)]
      have hinfinity : (infinity false * finite 1000 hthousand : Binary64) =
          if (1000 : ℚ) = 0 then nan else infinity (false != decide ((1000 : ℚ) < 0)) := rfl
      rw [hinfinity, if_neg (by norm_num), decide_eq_false (by norm_num)]
      rfl
    rw [hmul]
    refine iff_of_false (fun hcapped => hcapped.2 rfl) ?_
    intro hproduct
    rw [abs_of_nonneg hquotient] at hlt
    exact hlt (lt_overflow_of_nearest_mul le_rfl hproduct)

/-- Over an infinite scale the bytes take no time. -/
theorem capped_of_div_infinity {bytes seconds : Binary64} {x : ℚ} {hx : Representable x} {negative : Bool}
    (hbytes : bytes = finite x hx) (hseconds : PyFloat.div bytes (infinity negative) = .ok seconds) :
    Capped (seconds * lit 1000) := by
  obtain ⟨hthousand, hthousandLit⟩ := lit_thousand
  have hdiv : PyFloat.div (finite x hx) (infinity negative) = .ok (ofRat 0) := rfl
  rw [hbytes, hdiv, Except.ok.injEq] at hseconds
  obtain ⟨hrepresentable, hzero⟩ := lit_zero
  rw [lit_eq] at hzero
  rw [← hseconds, hzero, hthousandLit, mul_finite, capped_ofRat_iff, zero_mul]
  exact lt_overflow (by norm_num)

/-- The time to transfer is capped exactly if the bandwidth is in range. -/
theorem capped_transfer_iff {remote_kv_bytes : ℤ} (hnonneg : 0 ≤ remote_kv_bytes) {transfer_time_ms : Binary64}
    (htransfer : transfer_ms py env remote_kv_bytes = .ok transfer_time_ms) :
    Capped transfer_time_ms ↔ BandwidthInRange (bandwidth py env) remote_kv_bytes := by
  obtain ⟨hzeroRepresentable, hzero⟩ := lit_zero
  obtain ⟨hbillion, hbillionLit⟩ := lit_billion
  unfold transfer_ms at htransfer
  dsimp only at htransfer
  change (if lt (lit 0) (bandwidth py env) = true then _ else _) = _ at htransfer
  unfold BandwidthInRange
  split at htransfer
  · rename_i hpositive
    rw [bind_eq_ok_iff] at htransfer
    obtain ⟨bytes, hbytes, htransfer⟩ := htransfer
    rw [bind_eq_ok_iff] at htransfer
    obtain ⟨seconds, hseconds, htransfer⟩ := htransfer
    rw [pure_eq_ok_iff] at htransfer
    subst htransfer
    obtain ⟨hrepresentable, _, rfl⟩ := ofInt_eq_ok hbytes
    have hnear := nearest_nonneg (by exact_mod_cast hnonneg : (0 : ℚ) ≤ remote_kv_bytes)
    change PyFloat.div _ (bandwidth py env * lit 1000000000) = _ at hseconds
    generalize bandwidth py env = configured at hpositive hseconds ⊢
    rw [hzero] at hpositive
    rw [hbillionLit] at hseconds
    cases configured with
    | finite gbps hgbps =>
      rw [lt_finite, decide_eq_true_eq] at hpositive
      rw [mul_finite] at hseconds
      have hproduct : 0 ≤ gbps * 1000000000 := by positivity
      by_cases hlt : gbps * 1000000000 < overflow
      · have habs : |gbps * 1000000000| < overflow := by rwa [abs_of_nonneg hproduct]
        have hscale : 0 < nearest (gbps * 1000000000) := nearest_pos
          ((hgbps.two_pow_le hpositive).trans (le_mul_of_one_le_right hpositive.le (by norm_num)))
        rw [ofRat_of_lt habs, div_finite hscale.ne', Except.ok.injEq] at hseconds
        rw [← hseconds, capped_milliseconds_iff hnear hscale]
        constructor
        · rintro hcapped gbps' hgbps' heq _ _
          cases heq
          exact hcapped
        · intro hrange
          exact hrange gbps hgbps rfl hpositive hlt
      · have habs : ¬ |gbps * 1000000000| < overflow := by rwa [abs_of_nonneg hproduct]
        rw [ofRat, dif_neg habs] at hseconds
        refine iff_of_true (capped_of_div_infinity rfl hseconds) ?_
        intro gbps' hgbps' heq _ hlt'
        cases heq
        exact absurd hlt' hlt
    | infinity negative =>
      have hscale : (infinity negative * finite 1000000000 hbillion : Binary64) =
          if (1000000000 : ℚ) = 0 then nan else infinity (negative != decide ((1000000000 : ℚ) < 0)) := rfl
      rw [hscale, if_neg (by norm_num)] at hseconds
      refine iff_of_true (capped_of_div_infinity rfl hseconds) ?_
      intro gbps hgbps heq _ _
      cases heq
    | nan => exact absurd hpositive Bool.false_ne_true
  · rename_i hnotPositive
    rw [pure_eq_ok_iff] at htransfer
    rw [← htransfer, lit_eq, capped_ofRat_iff]
    refine iff_of_true (lt_overflow (by norm_num)) ?_
    intro gbps hgbps heq hpositive _
    rw [heq, hzero, lt_finite, decide_eq_true_eq] at hnotPositive
    exact absurd hpositive hnotPositive

/-- The signals of a request are sanitized exactly if what is read for it is capped: the
clamps let NaN and positive infinity through wherever they are the first argument. -/
theorem signals_sanitized_iff (py : Interpreter Binary64) (env : Environment) (session : Session) (headers : Headers)
    (prompt_tokens output_tokens : ℤ) (signals : MaterializationSignals Binary64) (extras : SignalExtras)
    (hestimated : (estimate_signals py env session headers prompt_tokens output_tokens).1 = .ok (signals, extras)) :
    ∃ reusable_prefix_tokens, estimate_reusable_prefix_tokens py headers prompt_tokens
        (read_session session (primary_anchor_id headers)).1.previous_prompt_tokens
        (read_session session (primary_anchor_id headers)).1.previous_output_tokens = .ok reusable_prefix_tokens ∧
      (Sanitized signals ↔ InputsCapped py env headers reusable_prefix_tokens) := by
  rw [estimate_signals_result, bind_eq_ok_iff] at hestimated
  obtain ⟨reusable_prefix_tokens, hreusable, hsignals⟩ := hestimated
  refine ⟨reusable_prefix_tokens, hreusable, ?_⟩
  obtain ⟨hnonneg, _⟩ := estimate_reusable_prefix_tokens_bounds hreusable
  obtain ⟨transfer_time_ms, tokens, thousands, htransfer, htokens, hthousands, hfields⟩ :=
    request_signals_fields hsignals
  rw [max_eq_left hnonneg] at htransfer htokens
  have hbytes : 0 ≤ reusable_prefix_tokens * max (bytes_per_token py env) 0 :=
    mul_nonneg hnonneg (le_max_right _ _)
  have htransferIff : Clean signals.transfer_time_ms ↔ BandwidthInRange (bandwidth py env)
      (reusable_prefix_tokens * max (bytes_per_token py env) 0) := by
    rw [hfields, clean_pyMax_iff]
    exact capped_transfer_iff hbytes htransfer
  have hrecomputeIff : Clean signals.recompute_time_ms ↔
      PrefillInRange (prefill_ms_per_1k py env) reusable_prefix_tokens := by
    rw [hfields, clean_pyMax_iff]
    exact capped_recompute_iff hnonneg htokens hthousands _
  have hqueueIff : Clean signals.queue_pressure ↔ Capped (stated_queue_pressure py env headers) := by
    rw [hfields, clean_pyMax_iff]
    rfl
  constructor
  · intro hsanitized
    exact ⟨hqueueIff.mp hsanitized.queue_pressure, hrecomputeIff.mp hsanitized.recompute_time_ms,
      htransferIff.mp hsanitized.transfer_time_ms⟩
  · rintro ⟨hqueue, hprefill, hbandwidth⟩
    refine ⟨?_, ?_, htransferIff.mpr hbandwidth, hrecomputeIff.mpr hprefill, hqueueIff.mpr hqueue, ?_⟩
    · rw [hfields]
      exact le_max_right _ _
    · rw [hfields]
      exact le_max_right _ _
    · rw [hfields]
      exact pyMax_pyMin_inUnit (lit_inUnit le_rfl zero_le_one) (lit_inUnit zero_le_one le_rfl) _

end

/-- The headers of a follow-up turn, with numbers for all that is read as one. -/
def follow_up_headers : Headers :=
  bind_request_headers asciiLower [("X-KV-Primary-Anchor-Id", "session"), ("X-KV-Shared-Prefix-Tokens", "600"),
    ("X-KV-Reuse-Confidence", "0.8"), ("X-KV-Queue-Pressure", "0.9")]

theorem signals_sanitized_follow_up : ∃ signals extras,
    (estimate_signals Interpreter.binary64 (.ofList []) .init follow_up_headers 1000 64).1 = .ok (signals, extras) ∧
      signals.reusable_prefix_tokens = 600 ∧ Sanitized signals := by
  have hreturns : Returns (estimate_signals Interpreter.binary64 (.ofList []) .init follow_up_headers 1000 64).1 := by
    decide +kernel
  obtain ⟨⟨signals, extras⟩, hestimated⟩ := hreturns
  obtain ⟨reusable_prefix_tokens, hreusable, hiff⟩ := signals_sanitized_iff Interpreter.binary64 (.ofList []) .init
    follow_up_headers 1000 64 signals extras hestimated
  have hestimate : estimate_reusable_prefix_tokens Interpreter.binary64 follow_up_headers 1000 0 0 = .ok 600 := by
    rfl
  have hstated : reusable_prefix_tokens = 600 := (Except.ok.inj (hestimate.symm.trans hreusable)).symm
  subst hstated
  refine ⟨signals, extras, hestimated, ?_, hiff.mpr ⟨?_, .inl ?_, ?_⟩⟩
  · rw [estimate_signals_result, bind_eq_ok_iff] at hestimated
    obtain ⟨reusable, hreusable', hsignals⟩ := hestimated
    obtain ⟨_, _, _, _, _, _, hfields⟩ := request_signals_fields hsignals
    rw [hreusable, Except.ok.injEq] at hreusable'
    rw [hfields, ← hreusable']
    rfl
  · have hpressure : stated_queue_pressure Interpreter.binary64 (.ofList []) follow_up_headers =
        ofRat ((9 : ℕ) / 10 ^ 1) := rfl
    rw [hpressure, capped_ofRat_iff]
    exact lt_overflow (by norm_num)
  · have hprefill : prefill_ms_per_1k Interpreter.binary64 (.ofList []) = ofRat DEFAULT_PREFILL_MS_PER_1K := rfl
    have hlt : |DEFAULT_PREFILL_MS_PER_1K| < overflow := lt_overflow (by norm_num [DEFAULT_PREFILL_MS_PER_1K])
    refine ⟨_, _, hprefill.trans (ofRat_of_lt hlt), ?_⟩
    decide +kernel
  · intro gbps hgbps heq _ _
    have hgbps : bandwidth Interpreter.binary64 (.ofList []) = ofRat DEFAULT_TRANSFER_BANDWIDTH_GBPS := rfl
    have hlt : |DEFAULT_TRANSFER_BANDWIDTH_GBPS| < overflow :=
      lt_overflow (by norm_num [DEFAULT_TRANSFER_BANDWIDTH_GBPS])
    rw [hgbps, ofRat_of_lt hlt] at heq
    cases heq
    decide +kernel

/-- A client that sends `nan` for the queue pressure. -/
theorem nan_queue_pressure_kept : ∃ signals extras,
    (estimate_signals Interpreter.binary64 (.ofList []) .init
      (bind_request_headers asciiLower [("X-KV-Queue-Pressure", "nan")]) 1000 64).1 = .ok (signals, extras) ∧
    ¬ Sanitized signals := by
  have hreturns : Returns (estimate_signals Interpreter.binary64 (.ofList []) .init
      (bind_request_headers asciiLower [("X-KV-Queue-Pressure", "nan")]) 1000 64).1 := by
    decide +kernel
  obtain ⟨⟨signals, extras⟩, hestimated⟩ := hreturns
  refine ⟨signals, extras, hestimated, ?_⟩
  rw [estimate_signals_result, bind_eq_ok_iff] at hestimated
  obtain ⟨reusable_prefix_tokens, _, hsignals⟩ := hestimated
  obtain ⟨_, _, _, _, _, _, hfields⟩ := request_signals_fields hsignals
  have hpressure : stated_queue_pressure Interpreter.binary64 (.ofList [])
      (bind_request_headers asciiLower [("X-KV-Queue-Pressure", "nan")]) = .nan := rfl
  intro hsanitized
  have hclean := hsanitized.queue_pressure
  rw [hfields, clean_pyMax_iff] at hclean
  exact hclean.1 hpressure

end vllm_kv_materialization.live_control
