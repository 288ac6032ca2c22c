import Mathlib.Data.List.Basic

namespace machine

/-- One call of a run, with the reply it got and the states on both sides. -/
structure Event (σ α β : Type) where
  before : σ
  call : α
  reply : β
  after : σ

variable {σ α β : Type} (step : σ → α → β × σ)

/-- The state a sequence of calls ends in. -/
def run (start : σ) : List α → σ
  | [] => start
  | call :: rest => run (step start call).2 rest

/-- The events of a sequence of calls, oldest first. -/
def trace (start : σ) : List α → List (Event σ α β)
  | [] => []
  | call :: rest =>
    ⟨start, call, (step start call).1, (step start call).2⟩ :: trace (step start call).2 rest

theorem run_append (start : σ) (first second : List α) :
    run step start (first ++ second) = run step (run step start first) second := by
  induction first generalizing start with
  | nil => rfl
  | cons call rest ih => exact ih _

theorem trace_append (start : σ) (first second : List α) :
    trace step start (first ++ second) =
      trace step start first ++ trace step (run step start first) second := by
  induction first generalizing start with
  | nil => rfl
  | cons call rest ih => simp only [List.cons_append, trace, run, ih]

/-- The events of a run are its calls, one each. -/
theorem trace_calls (start : σ) (calls : List α) : (trace step start calls).map Event.call = calls := by
  induction calls generalizing start with
  | nil => rfl
  | cons call rest ih => rw [trace, List.map_cons, ih]

theorem run_snoc (start : σ) (calls : List α) (call : α) :
    run step start (calls ++ [call]) = (step (run step start calls) call).2 := by
  rw [run_append]
  rfl

theorem trace_snoc (start : σ) (calls : List α) (call : α) :
    trace step start (calls ++ [call]) = trace step start calls ++
      [⟨run step start calls, call, (step (run step start calls) call).1,
        (step (run step start calls) call).2⟩] := by
  rw [trace_append]
  rfl

/-- Every event of a trace is one step of the machine. -/
theorem step_of_mem_trace {start : σ} {calls : List α} {event : Event σ α β}
    (hmem : event ∈ trace step start calls) :
    step event.before event.call = (event.reply, event.after) := by
  induction calls generalizing start with
  | nil => simp [trace] at hmem
  | cons call rest ih =>
    obtain heq | hrest := List.mem_cons.mp hmem
    · subst heq
      rfl
    · exact ih hrest

/-- An event is met exactly where some prefix of the calls leads to it. -/
theorem mem_trace_iff {start : σ} {calls : List α} {event : Event σ α β} :
    event ∈ trace step start calls ↔
      ∃ earlier later, calls = earlier ++ event.call :: later ∧
        event.before = run step start earlier ∧
        step event.before event.call = (event.reply, event.after) := by
  constructor
  · intro hmem
    have hstep := step_of_mem_trace step hmem
    induction calls generalizing start with
    | nil => simp [trace] at hmem
    | cons call rest ih =>
      obtain heq | hrest := List.mem_cons.mp hmem
      · subst heq
        exact ⟨[], rest, rfl, rfl, hstep⟩
      · obtain ⟨earlier, later, hcalls, hbefore, _⟩ := ih hrest
        exact ⟨call :: earlier, later, by rw [hcalls]; rfl, hbefore, hstep⟩
  · rintro ⟨earlier, later, hcalls, hbefore, hstep⟩
    rw [hcalls, trace_append]
    apply List.mem_append_right
    obtain ⟨before, call, reply, after⟩ := event
    simp only at hbefore hstep
    subst hbefore
    simp [trace, hstep]

/-- A condition on the calls of a run, in the states they meet, is one on the
states its prefixes lead to. -/
theorem forall_mem_trace_iff {P : σ → α → Prop} {start : σ} {calls : List α} :
    (∀ event ∈ trace step start calls, P event.before event.call) ↔
      ∀ earlier call later, calls = earlier ++ call :: later → P (run step start earlier) call := by
  constructor
  · intro hall earlier call later hcalls
    exact hall ⟨run step start earlier, call, (step (run step start earlier) call).1,
      (step (run step start earlier) call).2⟩
      ((mem_trace_iff step).mpr ⟨earlier, later, hcalls, rfl, rfl⟩)
  · intro hall event hmem
    obtain ⟨earlier, later, hcalls, hbefore, _⟩ := (mem_trace_iff step).mp hmem
    rw [hbefore]
    exact hall earlier event.call later hcalls

/-- What holds at the start and survives every step holds after every run. -/
theorem run_invariant {P : σ → Prop} (hstep : ∀ state call, P state → P (step state call).2)
    {start : σ} (hstart : P start) (calls : List α) : P (run step start calls) := by
  induction calls generalizing start with
  | nil => exact hstart
  | cons call rest ih => exact ih (hstep start call hstart)

/-- A relation between the states of two machines that every call keeps relates
the states of their runs. -/
theorem run_related {τ γ : Type} {step' : τ → α → γ × τ} {R : σ → τ → Prop}
    (hstep : ∀ state state' call, R state state' → R (step state call).2 (step' state' call).2)
    {start : σ} {start' : τ} (hstart : R start start') (calls : List α) :
    R (run step start calls) (run step' start' calls) := by
  induction calls generalizing start start' with
  | nil => exact hstart
  | cons call rest ih => exact ih (hstep start start' call hstart)

/-- The same for a property that only the events of this run have to keep. -/
theorem run_stable {P : σ → Prop} {start : σ} {calls : List α}
    (hstable : ∀ event ∈ trace step start calls, P event.before → P event.after)
    (hstart : P start) : P (run step start calls) := by
  induction calls generalizing start with
  | nil => exact hstart
  | cons call rest ih =>
    simp only [trace, List.forall_mem_cons] at hstable
    exact ih hstable.2 (hstable.1 hstart)

/-- A step that establishes a property which the run keeps, and which excludes
that step, is taken at most once; not at all where the property already holds. -/
theorem countP_trace_le_one {P : σ → Prop} {Q : Event σ α β → Bool} {start : σ} {calls : List α}
    (hstable : ∀ event ∈ trace step start calls, P event.before → P event.after)
    (hsets : ∀ event ∈ trace step start calls, Q event = true → P event.after)
    (hexcludes : ∀ event ∈ trace step start calls, Q event = true → ¬ P event.before) :
    (trace step start calls).countP Q ≤ 1 ∧
      (P start → (trace step start calls).countP Q = 0) := by
  induction calls generalizing start with
  | nil => simp [trace]
  | cons call rest ih =>
    simp only [trace, List.forall_mem_cons] at hstable hsets hexcludes
    obtain ⟨hle, hzero⟩ := ih hstable.2 hsets.2 hexcludes.2
    simp only [trace, List.countP_cons]
    split
    · rename_i hq
      have hnone := hzero (hsets.1 hq)
      exact ⟨by omega, fun hstart => absurd hstart (hexcludes.1 hq)⟩
    · exact ⟨by omega, fun hstart => by rw [hzero (hstable.1 hstart)]⟩

end machine
