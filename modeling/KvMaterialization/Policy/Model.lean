import KvMaterialization.Python.Interpreter

open python

namespace vllm_kv_materialization.policy

inductive MaterializationDecision where
  | full_reuse
  | partial_reuse
  | recompute
  deriving DecidableEq, Repr

def MaterializationDecision.value : MaterializationDecision → String
  | full_reuse => "full_reuse"
  | partial_reuse => "partial_reuse"
  | recompute => "recompute"

structure MaterializationSignals (F : Type) where
  reusable_prefix_tokens : ℤ
  remote_kv_bytes : ℤ
  transfer_time_ms : F
  recompute_time_ms : F
  queue_pressure : F
  ttft_sensitive : Bool
  reuse_confidence : F

/-- The rationale strings of every outcome the repository builds. -/
inductive Rationale where
  | no_reusable_prefix
  | recompute_cheaper_for_small_reuse_window
  | full_reuse_transfer_cheaper_than_recompute
  | partial_reuse_balances_transfer_and_recompute
  | partial_reuse_trims_low_confidence_tail
  | fixed_policy_always_recompute
  | fixed_policy_always_full_reuse
  deriving DecidableEq, Repr

structure MaterializationOutcome where
  decision : MaterializationDecision
  reused_tokens : ℤ
  rationale : Rationale
  deriving DecidableEq, Repr

section

variable {F : Type} [PyFloat F]

def clamp01 (value : F) : F := pyMax (lit 0) (pyMin value (lit 1))

/-- The share of the reusable prefix that is reused with confidence. -/
def confident_ratio (signals : MaterializationSignals F) (floor_ratio : F) : F :=
  let confident_ratio := lit 0.18 + (lit 0.72 * clamp01 signals.reuse_confidence)
  let confident_ratio :=
    if signals.ttft_sensitive then confident_ratio + lit 0.05 else confident_ratio
  let confident_ratio :=
    confident_ratio - lit 0.06 * pyMax (signals.queue_pressure - lit 0.5) (lit 0)
  pyMax floor_ratio (pyMin confident_ratio (lit 0.92))

def estimate_confident_reuse_tokens (signals : MaterializationSignals F)
    (partial_reuse_floor_tokens : ℤ) : Except Exception ℤ := do
  let total_tokens := max signals.reusable_prefix_tokens 0
  if total_tokens ≤ 0 then
    return 0
  if total_tokens ≤ partial_reuse_floor_tokens then
    return total_tokens
  let floor_ratio := pyMax (← intDiv partial_reuse_floor_tokens total_tokens) (lit 0.18)
  let total ← ofInt total_tokens
  let rounded ← PyFloat.round (total * confident_ratio signals floor_ratio)
  return min total_tokens (max partial_reuse_floor_tokens rounded)

def control_overhead_ms (signals : MaterializationSignals F) (decision : MaterializationDecision) : F :=
  if decision = .full_reuse then lit 0.8
  else
    lit 0.6 + (if signals.ttft_sensitive then lit 0.25 else lit 0)
      + (lit 0.15 * signals.queue_pressure)

/-- The part of `estimate_materialization_ttft_ms` past its early returns: the
cost of reusing `reused_tokens` of `total_tokens`. -/
def reuse_ttft_ms (signals : MaterializationSignals F) (decision : MaterializationDecision)
    (reused_tokens total_tokens partial_reuse_floor_tokens : ℤ) : Except Exception F := do
  let confident_tokens ← estimate_confident_reuse_tokens signals partial_reuse_floor_tokens
  let confident_reused_tokens := min reused_tokens confident_tokens
  let uncertain_reused_tokens := max 0 (reused_tokens - confident_tokens)
  let uncertain_tail_discount := lit 0.5 + (lit 0.4 * clamp01 signals.reuse_confidence)
  let effective_reused_tokens :=
    (← ofInt confident_reused_tokens) + ((← ofInt uncertain_reused_tokens) * uncertain_tail_discount)
  let transfer_ratio ← intDiv reused_tokens total_tokens
  let effective_reuse_ratio :=
    pyMin (lit 1) (← PyFloat.div effective_reused_tokens (← ofInt total_tokens))
  let uncertain_ratio ← intDiv uncertain_reused_tokens total_tokens
  let transfer_component_ms := signals.transfer_time_ms * transfer_ratio
  let recompute_component_ms := signals.recompute_time_ms * (lit 1 - effective_reuse_ratio)
  let tail_penalty_ms :=
    ((signals.recompute_time_ms * lit 0.25) + (signals.transfer_time_ms * lit 0.1))
      * uncertain_ratio * (lit 1 - clamp01 signals.reuse_confidence)
  return roundTo
    (transfer_component_ms + recompute_component_ms + tail_penalty_ms
      + control_overhead_ms signals decision) 3

def estimate_materialization_ttft_ms (signals : MaterializationSignals F)
    (decision : MaterializationDecision) (reused_tokens partial_reuse_floor_tokens : ℤ) :
    Except Exception F := do
  let total_tokens := max signals.reusable_prefix_tokens 0
  if decision = .recompute ∨ total_tokens ≤ 0 then
    return roundTo signals.recompute_time_ms 3
  if decision = .full_reuse then
    reuse_ttft_ms signals decision total_tokens total_tokens partial_reuse_floor_tokens
  else
    let reused_tokens := min (max reused_tokens 0) total_tokens
    if reused_tokens ≤ 0 then
      return roundTo signals.recompute_time_ms 3
    reuse_ttft_ms signals decision reused_tokens total_tokens partial_reuse_floor_tokens

/-- The two set expressions of `optimize_partial_reuse_tokens`, in the order
their elements are iterated. -/
def candidate_tokens (setOrder : SetOrder) (total_tokens confident_tokens
    partial_reuse_floor_tokens : ℤ) : List ℤ :=
  let step_tokens := max 64 (partial_reuse_floor_tokens / 2)
  let candidate_tokens := setOrder.order [
    partial_reuse_floor_tokens,
    max partial_reuse_floor_tokens (total_tokens / 3),
    max partial_reuse_floor_tokens (total_tokens / 2),
    max partial_reuse_floor_tokens ((2 * total_tokens) / 3),
    max partial_reuse_floor_tokens (confident_tokens - step_tokens),
    confident_tokens,
    min (total_tokens - 1) (confident_tokens + step_tokens)]
  setOrder.order ((candidate_tokens.filter
    (fun tokens => partial_reuse_floor_tokens ≤ tokens ∧ tokens < total_tokens)).map
    (fun tokens => min (total_tokens - 1) tokens))

def optimize_partial_reuse_tokens (setOrder : SetOrder) (signals : MaterializationSignals F)
    (partial_reuse_floor_tokens : ℤ) : Except Exception ℤ := do
  let total_tokens := max signals.reusable_prefix_tokens 0
  if total_tokens < partial_reuse_floor_tokens then
    return 0
  let confident_tokens ← estimate_confident_reuse_tokens signals partial_reuse_floor_tokens
  let keyed (tokens : ℤ) : Except Exception (F × ℤ) := do
    return (← estimate_materialization_ttft_ms signals .partial_reuse tokens
      partial_reuse_floor_tokens, tokens)
  match candidate_tokens setOrder total_tokens confident_tokens partial_reuse_floor_tokens with
  | [] => return 0
  | first :: rest => return (minItem (← keyed first) (← rest.mapM keyed)).2

end

/-- The keyword parameters of the policy, all of them set by its constructor. -/
structure MaterializationPolicy (F : Type) where
  partial_reuse_floor_tokens : ℤ
  queue_pressure_discount_ms : F
  ttft_bonus_ms : F
  low_confidence_cutoff : F
  confidence_penalty_ms : F

namespace MaterializationPolicy

variable {F : Type} [PyFloat F]

/-- `MaterializationPolicy()`. -/
def default : MaterializationPolicy F := ⟨256, lit 0.5, lit 1.5, lit 0.55, lit 4⟩

/-- `adjusted_signals` of `decide`. -/
def adjusted_signals (self : MaterializationPolicy F) (signals : MaterializationSignals F) :
    MaterializationSignals F :=
  let adjusted_transfer_ms :=
    signals.transfer_time_ms - (signals.queue_pressure * self.queue_pressure_discount_ms)
  let adjusted_transfer_ms :=
    if signals.ttft_sensitive then adjusted_transfer_ms - self.ttft_bonus_ms
    else adjusted_transfer_ms
  { signals with transfer_time_ms := pyMax (lit 0) adjusted_transfer_ms }

@[simp] theorem adjusted_signals_tokens (self : MaterializationPolicy F) (signals : MaterializationSignals F) :
    (self.adjusted_signals signals).reusable_prefix_tokens = signals.reusable_prefix_tokens := rfl

/-- `full_reuse_signals` of `decide`. -/
def full_reuse_signals (self : MaterializationPolicy F) (signals : MaterializationSignals F) :
    MaterializationSignals F :=
  let adjusted_signals := self.adjusted_signals signals
  { adjusted_signals with
    transfer_time_ms := adjusted_signals.transfer_time_ms
      + ((lit 1 - clamp01 signals.reuse_confidence) * self.confidence_penalty_ms) }

/-- The rationale of a partial reuse at `partial_tokens`. -/
def partial_rationale (self : MaterializationPolicy F) (adjusted_signals : MaterializationSignals F)
    (partial_tokens confident_tokens : ℤ) : Rationale :=
  if lt adjusted_signals.reuse_confidence self.low_confidence_cutoff = true ∧
      partial_tokens ≤ confident_tokens + max 64 (self.partial_reuse_floor_tokens / 2) then
    .partial_reuse_trims_low_confidence_tail
  else .partial_reuse_balances_transfer_and_recompute

/-- The partial candidate of `decide`, when the optimizer found a cut. -/
def partial_candidate (self : MaterializationPolicy F) (adjusted_signals : MaterializationSignals F)
    (partial_tokens : ℤ) : Except Exception (List (F × MaterializationOutcome)) := do
  if partial_tokens > 0 then
    let confident_tokens ←
      estimate_confident_reuse_tokens adjusted_signals self.partial_reuse_floor_tokens
    let cost ← estimate_materialization_ttft_ms adjusted_signals .partial_reuse partial_tokens
      self.partial_reuse_floor_tokens
    return [(cost, ⟨.partial_reuse, partial_tokens,
      self.partial_rationale adjusted_signals partial_tokens confident_tokens⟩)]
  else
    return []

def decide (self : MaterializationPolicy F) (setOrder : SetOrder)
    (signals : MaterializationSignals F) : Except Exception MaterializationOutcome := do
  if signals.reusable_prefix_tokens ≤ 0 then
    return ⟨.recompute, 0, Rationale.no_reusable_prefix⟩
  let adjusted_signals := self.adjusted_signals signals
  let full_reuse_signals := self.full_reuse_signals signals
  let recompute_cost ← estimate_materialization_ttft_ms adjusted_signals .recompute 0
    self.partial_reuse_floor_tokens
  let full_reuse_cost ← estimate_materialization_ttft_ms full_reuse_signals .full_reuse
    signals.reusable_prefix_tokens self.partial_reuse_floor_tokens
  let partial_tokens ← optimize_partial_reuse_tokens setOrder adjusted_signals
    self.partial_reuse_floor_tokens
  let partial_candidate ← self.partial_candidate adjusted_signals partial_tokens
  return (minItem
    (recompute_cost, ⟨.recompute, 0, .recompute_cheaper_for_small_reuse_window⟩)
    ((full_reuse_cost, ⟨.full_reuse, signals.reusable_prefix_tokens,
      .full_reuse_transfer_cheaper_than_recompute⟩) :: partial_candidate)).2

end MaterializationPolicy

end vllm_kv_materialization.policy
