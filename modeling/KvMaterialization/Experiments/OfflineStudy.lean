import KvMaterialization.Policy.Model

open python
open vllm_kv_materialization.policy

namespace run_offline_study

section

variable {F : Type} [PyFloat F]

def decide_baseline (setOrder : SetOrder) (name : String) (signals : MaterializationSignals F) :
    Except Exception (MaterializationDecision × ℤ) := do
  if name = "always_recompute" then
    return (.recompute, 0)
  if name = "always_full_reuse" then
    if signals.reusable_prefix_tokens > 0 then
      return (.full_reuse, signals.reusable_prefix_tokens)
    return (.recompute, 0)
  if name = "threshold_partial" then
    if signals.reusable_prefix_tokens ≥ 512 then
      let partial_tokens ← optimize_partial_reuse_tokens setOrder signals 256
      if partial_tokens > 0 then
        return (.partial_reuse, partial_tokens)
    return (.recompute, 0)
  throw (.value_error ("unknown baseline: " ++ name))

/-- The record `evaluate` returns, less the decision's own name. -/
structure Evaluation (F : Type) where
  decision : MaterializationDecision
  reused_tokens : ℤ
  ttft_ms : F
  recompute_tokens : ℤ
  transferred_bytes : ℤ

/-- Every decision is scored with the same floor, whatever floor it was made with. -/
def evaluate (signals : MaterializationSignals F) (decision : MaterializationDecision)
    (reused_tokens : ℤ) : Except Exception (Evaluation F) := do
  let ttft_ms ← estimate_materialization_ttft_ms signals decision reused_tokens 256
  match decision with
  | .full_reuse =>
    return ⟨decision, signals.reusable_prefix_tokens, ttft_ms, 0, signals.remote_kv_bytes⟩
  | .partial_reuse =>
    let reuse_ratio : F ← intDiv reused_tokens (max 1 signals.reusable_prefix_tokens)
    let remote_kv_bytes : F ← ofInt signals.remote_kv_bytes
    let transferred_bytes ← PyFloat.trunc (remote_kv_bytes * reuse_ratio)
    return ⟨decision, reused_tokens, ttft_ms, max 0 (signals.reusable_prefix_tokens - reused_tokens),
      transferred_bytes⟩
  | .recompute => return ⟨decision, 0, ttft_ms, signals.reusable_prefix_tokens, 0⟩

/-- The `candidates` of `decide_oracle` past the first, which is to recompute. -/
def oracle_candidates (setOrder : SetOrder) (signals : MaterializationSignals F)
    (partial_reuse_floor_tokens : ℤ) : Except Exception (List (MaterializationDecision × ℤ)) := do
  let full : List (MaterializationDecision × ℤ) :=
    if signals.reusable_prefix_tokens > 0 then [(.full_reuse, signals.reusable_prefix_tokens)] else []
  if signals.reusable_prefix_tokens ≥ partial_reuse_floor_tokens then
    let partial_tokens ← optimize_partial_reuse_tokens setOrder signals partial_reuse_floor_tokens
    if partial_tokens > 0 then
      return full ++ [(.partial_reuse, partial_tokens)]
  return full

def decide_oracle (setOrder : SetOrder) (signals : MaterializationSignals F)
    (partial_reuse_floor_tokens : ℤ) : Except Exception (MaterializationDecision × ℤ) := do
  let candidates ← oracle_candidates setOrder signals partial_reuse_floor_tokens
  let keyed (candidate : MaterializationDecision × ℤ) :
      Except Exception (F × (MaterializationDecision × ℤ)) := do
    return ((← evaluate signals candidate.1 candidate.2).ttft_ms, candidate)
  return (minItem (← keyed (.recompute, 0)) (← candidates.mapM keyed)).2

def perturb_signals (signals : MaterializationSignals F) (transfer_factor recompute_factor : F) :
    MaterializationSignals F :=
  { signals with
    transfer_time_ms := signals.transfer_time_ms * transfer_factor
    recompute_time_ms := signals.recompute_time_ms * recompute_factor }

/-- `MaterializationPolicy(partial_reuse_floor_tokens=128)`. -/
def study_policy : MaterializationPolicy F :=
  { MaterializationPolicy.default with partial_reuse_floor_tokens := 128 }

/-- The signals the sensitivity policies decide on. -/
def estimated_signals (signals : MaterializationSignals F) :
    List (String × MaterializationSignals F) := [
  ("heuristic_transfer_underestimated", perturb_signals signals (lit 0.75) (lit 1)),
  ("heuristic_transfer_overestimated", perturb_signals signals (lit 1.25) (lit 1)),
  ("heuristic_recompute_underestimated", perturb_signals signals (lit 1) (lit 0.75)),
  ("heuristic_recompute_overestimated", perturb_signals signals (lit 1) (lit 1.25))]

/-- A policy that decides on estimated signals and is scored on the true ones. -/
def heuristic_evaluation (setOrder : SetOrder) (signals estimated : MaterializationSignals F) :
    Except Exception (Evaluation F) := do
  let outcome ← study_policy.decide setOrder estimated
  evaluate signals outcome.decision outcome.reused_tokens

def oracle_evaluation (setOrder : SetOrder) (signals : MaterializationSignals F) :
    Except Exception (Evaluation F) := do
  let (decision, reused_tokens) ← decide_oracle setOrder signals
    (study_policy (F := F)).partial_reuse_floor_tokens
  evaluate signals decision reused_tokens

def baseline_evaluation (setOrder : SetOrder) (signals : MaterializationSignals F) (name : String) :
    Except Exception (Evaluation F) := do
  let (decision, reused_tokens) ← decide_baseline setOrder name signals
  evaluate signals decision reused_tokens

/-- What the loop of `main` evaluates for one trace besides the oracle, under the
names of the policies. -/
def policy_evaluations (setOrder : SetOrder) (signals : MaterializationSignals F) :
    List (String × Except Exception (Evaluation F)) :=
  ("heuristic", heuristic_evaluation setOrder signals signals) ::
    ["always_recompute", "always_full_reuse", "threshold_partial"].map
      (fun name => (name, baseline_evaluation setOrder signals name)) ++
    (estimated_signals signals).map
      (fun (name, estimated) => (name, heuristic_evaluation setOrder signals estimated))

end

end run_offline_study
