import KvMaterialization.Machine

open machine

namespace scopes

/-- What a call does to a value that is set for as long as a scope lasts. -/
inductive Mark where
  | enter
  | leave
  | inside
  deriving DecidableEq, Repr

section

variable {α : Type} (mark : α → Mark)

/-- Calls that leave every scope they enter, and no other. -/
inductive Balanced : List α → Prop where
  | nil : Balanced []
  | inside {call : α} {rest : List α} (hcall : mark call = .inside) (hrest : Balanced rest) : Balanced (call :: rest)
  | scope {first last : α} {body rest : List α} (henter : mark first = .enter) (hbody : Balanced body)
      (hleave : mark last = .leave) (hrest : Balanced rest) : Balanced (first :: body ++ last :: rest)

end

/-- A machine whose current value is saved by every call that enters a scope, and put back
by the call that leaves it. -/
structure Scoped {σ α β ν : Type} (step : σ → α → β × σ) (mark : α → Mark) (current : σ → ν) (saved : σ → List ν) :
    Prop where
  enter : ∀ state call, mark call = .enter → saved (step state call).2 = current state :: saved state
  leave : ∀ state call value rest, mark call = .leave → saved state = value :: rest →
    current (step state call).2 = value ∧ saved (step state call).2 = rest
  inside : ∀ state call, mark call = .inside → saved (step state call).2 = saved state

namespace Scoped

variable {σ α β ν : Type} {step : σ → α → β × σ} {mark : α → Mark} {current : σ → ν} {saved : σ → List ν}

/-- Balanced calls save nothing beyond their end. -/
theorem saved_run (hscoped : Scoped step mark current saved) {calls : List α} (hcalls : Balanced mark calls)
    (state : σ) : saved (run step state calls) = saved state := by
  induction hcalls generalizing state with
  | nil => rfl
  | inside hcall hrest ih => rw [run, ih, hscoped.inside state _ hcall]
  | @scope first last body rest henter hbody hleave hrest ihbody ihrest =>
    have hentered : saved (run step (step state first).2 body) = current state :: saved state := by
      rw [ihbody, hscoped.enter state first henter]
    obtain ⟨_, hleft⟩ := hscoped.leave _ last _ _ hleave hentered
    rw [run_append, run, run, ihrest, hleft]

/-- A scope puts back what it found, whatever it did in between. -/
theorem restored (hscoped : Scoped step mark current saved) {first last : α} {body : List α}
    (henter : mark first = .enter) (hbody : Balanced mark body) (hleave : mark last = .leave) (state : σ) :
    current (run step state (first :: body ++ [last])) = current state ∧
      saved (run step state (first :: body ++ [last])) = saved state := by
  have hentered : saved (run step (step state first).2 body) = current state :: saved state := by
    rw [hscoped.saved_run hbody, hscoped.enter state first henter]
  rw [run_append]
  exact hscoped.leave _ last _ _ hleave hentered

/-- What the calls outside of inner scopes keep of the value is kept throughout. -/
theorem view_run {κ : Type} (hscoped : Scoped step mark current saved) (view : ν → κ) {calls : List α}
    (hcalls : Balanced mark calls)
    (hview : ∀ call ∈ calls, mark call = .inside → ∀ state, view (current (step state call).2) = view (current state))
    (state : σ) : view (current (run step state calls)) = view (current state) := by
  induction hcalls generalizing state with
  | nil => rfl
  | inside hcall hrest ih =>
    rw [List.forall_mem_cons] at hview
    rw [run, ih hview.2, hview.1 hcall]
  | @scope first last body rest henter hbody hleave hrest _ ihrest =>
    have hrestored := (hscoped.restored henter hbody hleave state).1
    have hrun : run step state (first :: body ++ last :: rest) =
        run step (run step state (first :: body ++ [last])) rest := by
      rw [← run_append, List.append_assoc, List.singleton_append]
    rw [hrun, ihrest, hrestored]
    intro call hmem
    exact hview call (List.mem_append_right _ (List.mem_cons_of_mem _ hmem))

end Scoped

end scopes
