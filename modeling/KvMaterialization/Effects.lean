import Mathlib.Logic.Basic

namespace effects

/-- A computation that acts on a state and may raise. What it did to the state
before it raised stays done. -/
abbrev Action (σ ε α : Type) := ExceptT ε (StateM σ) α

section

variable {σ ε α β : Type}

/-- What `call` gives, which does nothing to the state. -/
def call (result : Except ε α) : Action σ ε α := fun state => (result, state)

def raise (error : ε) : Action σ ε α := fun state => (.error error, state)

def update (change : σ → σ) : Action σ ε Unit := fun state => (.ok (), change state)

def observe (read : σ → α) : Action σ ε α := fun state => (.ok (read state), state)

/-- `body`, and `handler` on what it raises. -/
def attempt (body : Action σ ε α) (handler : ε → Action σ ε α) : Action σ ε α := fun state =>
  match body state with
  | (.ok a, after) => (.ok a, after)
  | (.error error, after) => handler error after

/-- `body`, and `last` whatever it does: what `last` raises replaces the outcome. -/
def ensure (body : Action σ ε α) (last : Action σ ε Unit) : Action σ ε α := fun state =>
  match body state with
  | (result, after) =>
    match last after with
    | (.ok _, final) => (result, final)
    | (.error error, final) => (.error error, final)

/-- From a state with `P` the action returns with `Q` or raises with `R`. -/
def Meets (P : σ → Prop) (action : Action σ ε α) (Q : α → σ → Prop) (R : ε → σ → Prop) : Prop :=
  ∀ state, P state →
    match action state with
    | (.ok a, after) => Q a after
    | (.error error, after) => R error after

theorem bind_apply (action : Action σ ε α) (next : α → Action σ ε β) (state : σ) :
    (action >>= next) state =
      match action state with
      | (.ok a, after) => next a after
      | (.error error, after) => (.error error, after) := by
  change (ExceptT.bindCont next : Except ε α → StateM σ (Except ε β)) (action state).1 (action state).2 = _
  generalize action state = outcome
  obtain ⟨_ | _, _⟩ := outcome <;> rfl

variable {P P' : σ → Prop} {action : Action σ ε α} {Q Q' : α → σ → Prop} {R R' : ε → σ → Prop}

theorem Meets.returned (hmeets : Meets P action Q R) {state : σ} (hstate : P state) {a : α}
    (ha : (action state).1 = .ok a) : Q a (action state).2 := by
  have houtcome := hmeets state hstate
  generalize action state = outcome at *
  obtain ⟨error | a', after⟩ := outcome
  · cases ha
  · obtain rfl := Except.ok.inj ha
    exact houtcome

theorem Meets.raised (hmeets : Meets P action Q R) {state : σ} (hstate : P state) {error : ε}
    (herror : (action state).1 = .error error) : R error (action state).2 := by
  have houtcome := hmeets state hstate
  generalize action state = outcome at *
  obtain ⟨error' | a, after⟩ := outcome
  · obtain rfl := Except.error.inj herror
    exact houtcome
  · cases herror

/-- An action that cannot return raises. -/
theorem Meets.raises (hmeets : Meets P action (fun _ _ => False) R) {state : σ} (hstate : P state) :
    ∃ error, (action state).1 = .error error ∧ R error (action state).2 := by
  cases hended : (action state).1 with
  | error error => exact ⟨error, rfl, hmeets.raised hstate hended⟩
  | ok a => exact (hmeets.returned hstate hended).elim

/-- The rule of consequence. -/
theorem Meets.weaken (hmeets : Meets P action Q R) (hbefore : ∀ state, P' state → P state)
    (hreturned : ∀ a state, Q a state → Q' a state) (hraised : ∀ error state, R error state → R' error state) :
    Meets P' action Q' R' := by
  intro state hstate
  have houtcome := hmeets state (hbefore state hstate)
  generalize action state = outcome at *
  obtain ⟨error | a, after⟩ := outcome
  · exact hraised error after houtcome
  · exact hreturned a after houtcome

theorem Meets.pure {a : α} (hstate : ∀ state, P state → Q a state) : Meets P (Pure.pure a) Q R := hstate

theorem Meets.bind {action : Action σ ε α} {next : α → Action σ ε β} {T : β → σ → Prop}
    (haction : Meets P action Q R) (hnext : ∀ a, Meets (Q a) (next a) T R) :
    Meets P (action >>= next) T R := by
  intro state hstate
  have houtcome := haction state hstate
  rw [bind_apply]
  generalize action state = outcome at *
  obtain ⟨error | a, after⟩ := outcome
  · exact houtcome
  · exact hnext a after houtcome

theorem Meets.call {result : Except ε α} (hreturned : ∀ a state, result = .ok a → P state → Q a state)
    (hraised : ∀ error state, result = .error error → P state → R error state) : Meets P (call result) Q R := by
  intro state hstate
  cases result with
  | error error => exact hraised error state rfl hstate
  | ok a => exact hreturned a state rfl hstate

theorem Meets.raise {error : ε} (hstate : ∀ state, P state → R error state) :
    Meets P (raise error : Action σ ε α) Q R := hstate

theorem Meets.update {change : σ → σ} {Q : Unit → σ → Prop} (hstate : ∀ state, P state → Q () (change state)) :
    Meets P (update change) Q R := hstate

theorem Meets.observe {read : σ → α} (hstate : ∀ state, P state → Q (read state) state) :
    Meets P (observe read) Q R := hstate

theorem Meets.attempt {body : Action σ ε α} {handler : ε → Action σ ε α} {S : ε → σ → Prop}
    (hbody : Meets P body Q S) (hhandler : ∀ error, Meets (S error) (handler error) Q R) :
    Meets P (attempt body handler) Q R := by
  intro state hstate
  have houtcome := hbody state hstate
  unfold effects.attempt
  generalize body state = outcome at *
  obtain ⟨error | a, after⟩ := outcome
  · exact hhandler error after houtcome
  · exact houtcome

/-- Both outcomes of the body meet the last part, which may replace either. -/
theorem Meets.ensure {body : Action σ ε α} {last : Action σ ε Unit} {T : α → σ → Prop} {S : ε → σ → Prop}
    (hbody : Meets P body Q R) (hreturned : ∀ a, Meets (Q a) last (fun _ => T a) S)
    (hraised : ∀ error, Meets (R error) last (fun _ => S error) S) : Meets P (ensure body last) T S := by
  intro state hstate
  have houtcome := hbody state hstate
  unfold effects.ensure
  generalize body state = outcome at *
  obtain ⟨error | a, after⟩ := outcome
  · have hlast := hraised error after houtcome
    dsimp only
    generalize last after = finished at *
    obtain ⟨_ | _, final⟩ := finished <;> exact hlast
  · have hlast := hreturned a after houtcome
    dsimp only
    generalize last after = finished at *
    obtain ⟨_ | _, final⟩ := finished <;> exact hlast

theorem Meets.ite {c : Prop} [Decidable c] {yes no : Action σ ε α}
    (hyes : c → Meets P yes Q R) (hno : ¬ c → Meets P no Q R) : Meets P (if c then yes else no) Q R := by
  split
  · exact hyes ‹_›
  · exact hno ‹_›

/-- What does not depend on the state can be taken out of the condition. -/
theorem Meets.given {fact : Prop} (hmeets : fact → Meets P action Q R) :
    Meets (fun state => P state ∧ fact) action Q R :=
  fun state hstate => hmeets hstate.2 state hstate.1

/-- What does not depend on the state is still so afterwards. -/
theorem Meets.carry (hmeets : Meets P action Q R) (fact : Prop) :
    Meets (fun state => P state ∧ fact) action (fun a state => Q a state ∧ fact) R := by
  rintro state ⟨hstate, hfact⟩
  have houtcome := hmeets state hstate
  generalize action state = outcome at *
  obtain ⟨error | a, after⟩ := outcome
  · exact houtcome
  · exact ⟨houtcome, hfact⟩

end

end effects
