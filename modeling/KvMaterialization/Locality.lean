import KvMaterialization.Machine

namespace machine

/-- A machine over a keyed store whose calls are local. A call with a key is
answered from what the store shows at that key, and what it shows at a key changes
only under calls with that key. A call without a key may read everything. -/
structure Local {σ α β κ ν : Type} (step : σ → α → β × σ) (key : α → Option κ)
    (view : σ → κ → ν) : Prop where
  reply : ∀ state state' call own, key call = some own → view state own = view state' own →
    (step state call).1 = (step state' call).1
  update : ∀ state state' call own, key call = some own → view state own = view state' own →
    view (step state call).2 own = view (step state' call).2 own
  frame : ∀ state call other, key call ≠ some other → view (step state call).2 other = view state other

variable {σ α β κ ν : Type} {step : σ → α → β × σ} {key : α → Option κ} {view : σ → κ → ν}

/-- A call does not notice that a call with another key went first. -/
theorem Local.reply_after (hlocal : Local step key view) (state : σ) {first second : α} {own : κ}
    (hsecond : key second = some own) (hfirst : key first ≠ some own) :
    (step (step state first).2 second).1 = (step state second).1 :=
  hlocal.reply _ _ second own hsecond (hlocal.frame state first own hfirst)

/-- Calls with different keys leave the same store in either order. -/
theorem Local.view_comm (hlocal : Local step key view) (state : σ) {first second : α} {own own' : κ}
    (hfirst : key first = some own) (hsecond : key second = some own') (hne : own ≠ own') (other : κ) :
    view (step (step state first).2 second).2 other = view (step (step state second).2 first).2 other := by
  by_cases hother : key second = some other
  · have hfirst' : key first ≠ some other := by
      rw [hfirst, ← hother, hsecond]
      simpa using hne
    rw [hlocal.update _ state second other hother (hlocal.frame state first other hfirst'),
      hlocal.frame _ first other hfirst']
  · rw [hlocal.frame _ second other hother]
    by_cases hother' : key first = some other
    · exact (hlocal.update _ state first other hother' (hlocal.frame state second other hother)).symm
    · rw [hlocal.frame state first other hother', hlocal.frame _ first other hother',
        hlocal.frame state second other hother]

variable [DecidableEq κ]

/-- The calls with one key, each with its reply, in the order of the events. -/
def repliesAt (key : α → Option κ) (own : κ) (events : List (Event σ α β)) : List (α × β) :=
  (events.filter (fun event => key event.call = some own)).map (fun event => (event.call, event.reply))

theorem repliesAt_cons_of_eq {key : α → Option κ} {own : κ} {event : Event σ α β}
    (hkey : key event.call = some own) (events : List (Event σ α β)) :
    repliesAt key own (event :: events) = (event.call, event.reply) :: repliesAt key own events := by
  simp [repliesAt, hkey]

theorem repliesAt_cons_of_ne {key : α → Option κ} {own : κ} {event : Event σ α β}
    (hkey : key event.call ≠ some own) (events : List (Event σ α β)) :
    repliesAt key own (event :: events) = repliesAt key own events := by
  simp [repliesAt, hkey]

/-- Calls with other keys, and calls without one, can be purged from a run: those
with the key are answered as before. -/
theorem Local.repliesAt_purge (hlocal : Local step key view) {own : κ} {start start' : σ}
    (hview : view start own = view start' own) (calls : List α) :
    repliesAt key own (trace step start calls) =
      repliesAt key own (trace step start' (calls.filter (fun call => key call = some own))) := by
  induction calls generalizing start start' with
  | nil => rfl
  | cons call rest ih =>
    by_cases hkey : key call = some own
    · have hreply := hlocal.reply start start' call own hkey hview
      have hupdate := hlocal.update start start' call own hkey hview
      rw [List.filter_cons_of_pos (by simpa using hkey)]
      simp only [trace]
      rw [repliesAt_cons_of_eq hkey, repliesAt_cons_of_eq hkey, hreply, ih hupdate]
    · have hframe := hlocal.frame start call own hkey
      rw [List.filter_cons_of_neg (by simpa using hkey)]
      simp only [trace]
      rw [repliesAt_cons_of_ne hkey]
      exact ih (hframe.trans hview)

/-- Two runs with the same calls at a key, from states that agree there, answer
those calls alike. -/
theorem Local.noninterference (hlocal : Local step key view) {own : κ} {start start' : σ}
    (hview : view start own = view start' own) {calls calls' : List α}
    (hcalls : calls.filter (fun call => key call = some own) =
      calls'.filter (fun call => key call = some own)) :
    repliesAt key own (trace step start calls) = repliesAt key own (trace step start' calls') := by
  rw [hlocal.repliesAt_purge hview calls, hlocal.repliesAt_purge (rfl : view start' own = _) calls', hcalls]

end machine
