import Mathlib.Algebra.Order.Field.Basic
import Mathlib.Tactic.Linarith
import Mathlib.Tactic.Ring

namespace kinked

variable {K : Type} [Field K] [LinearOrder K] [IsStrictOrderedRing K]

/-- A function with one slope up to a kink and another one past it. -/
def value (base first second kink t : K) : K := base + first * min t kink + second * max 0 (t - kink)

variable {base first second kink low high t u : K}

/-- A point is what it covers before the kink and what it covers past it. -/
theorem min_add_max (t kink : K) : min t kink + max 0 (t - kink) = t := by
  obtain hle | hge := le_total t kink
  · rw [min_eq_left hle, max_eq_left (by linarith), add_zero]
  · rw [min_eq_right hge, max_eq_right (by linarith)]
    ring

theorem value_of_le (hle : t ≤ kink) : value base first second kink t = base + first * t := by
  rw [value, min_eq_left hle, max_eq_left (by linarith)]
  ring

theorem value_of_ge (hge : kink ≤ t) :
    value base first second kink t = base + first * kink + second * (t - kink) := by
  rw [value, min_eq_right hge, max_eq_right (by linarith)]

/-- Over an interval such a function is least at an end or at the kink: from any
point one of them is reached without the value growing. -/
theorem exists_breakpoint_le (kink : K) (hlow : low ≤ t) (hhigh : t ≤ high) :
    value base first second kink low ≤ value base first second kink t ∨
      (low ≤ kink ∧ kink ≤ high ∧
        value base first second kink kink ≤ value base first second kink t) ∨
      value base first second kink high ≤ value base first second kink t := by
  obtain hbefore | hafter := le_total t kink
  · rw [value_of_le hbefore]
    obtain hup | hdown := le_total 0 first
    · left
      rw [value_of_le (hlow.trans hbefore)]
      nlinarith
    · right
      obtain hinside | houtside := le_total kink high
      · left
        refine ⟨hlow.trans hbefore, hinside, ?_⟩
        rw [value_of_le le_rfl]
        nlinarith
      · right
        rw [value_of_le houtside]
        nlinarith
  · rw [value_of_ge hafter]
    obtain hup | hdown := le_total 0 second
    · obtain hinside | houtside := le_total low kink
      · right
        left
        refine ⟨hinside, hafter.trans hhigh, ?_⟩
        rw [value_of_ge le_rfl]
        nlinarith
      · left
        rw [value_of_ge houtside]
        nlinarith
    · right
      right
      rw [value_of_ge (hafter.trans hhigh)]
      nlinarith

/-- Past the kink the second slope decides. -/
theorem value_mono_past_kink (hup : 0 ≤ second) (hkink : kink ≤ t) (hle : t ≤ u) :
    value base first second kink t ≤ value base first second kink u := by
  rw [value_of_ge hkink, value_of_ge (hkink.trans hle)]
  nlinarith

end kinked
