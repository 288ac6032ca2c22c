import KvMaterialization.Python.Result
import KvMaterialization.Python.Rounding

namespace python

/-- A reading of the interpreter's `float`: what its operators, conversions and
rounding functions compute on a carrier. Programs are written over any reading,
the exact rationals and binary64 among them. The one law a reading carries is
the only one that results about every reading rest on. -/
class PyFloat (F : Type) extends Add F, Sub F, Mul F where
  /-- A decimal literal of the program text. -/
  lit : ℚ → F
  /-- `x < y`. -/
  lt : F → F → Bool
  /-- An `int` operand of a mixed operation, converted to `float`. -/
  ofInt : ℤ → Except Exception F
  /-- `x / y`. -/
  div : F → F → Except Exception F
  /-- `m / n` of two integers. -/
  intDiv : ℤ → ℤ → Except Exception F
  /-- `round(x)`. -/
  round : F → Except Exception ℤ
  /-- `round(x, digits)`. -/
  roundTo : F → ℕ → F
  /-- `int(x)`. -/
  trunc : F → Except Exception ℤ
  /-- Scaling a positive integer down by a literal and truncating does not exceed it. -/
  trunc_scaled_le : ∀ {n k : ℤ} {c : ℚ} {x : F}, 0 < n → 0 ≤ c → c ≤ 3 / 4 →
    ofInt n = .ok x → trunc (x * lit c) = .ok k → k ≤ n

export PyFloat (lit lt ofInt intDiv roundTo)

section

variable {F : Type} [PyFloat F]

/-- `max(x, y)`: the second argument only where it is greater than the first. -/
def pyMax (x y : F) : F := if lt x y then y else x

/-- `min(x, y)`: the second argument only where it is less than the first. -/
def pyMin (x y : F) : F := if lt y x then y else x

/-- A bound above the lesser of two values is above one of them. -/
theorem lt_of_pyMin_lt {x y bound : F} (hlt : lt (pyMin x y) bound = true) :
    lt x bound = true ∨ lt y bound = true := by
  unfold pyMin at hlt
  split at hlt
  · exact .inr hlt
  · exact .inl hlt

/-- `min(items, key=...)` of a nonempty sequence of items with their keys: a later
item replaces an earlier one only where its key is strictly less. -/
def minItem {α : Type} (first : F × α) (rest : List (F × α)) : F × α :=
  rest.foldl (fun best item => if lt item.1 best.1 then item else best) first

variable {α : Type}

theorem minItem_cons (first next : F × α) (rest : List (F × α)) :
    minItem first (next :: rest) = minItem (if lt next.1 first.1 then next else first) rest := rfl

theorem minItem_mem (first : F × α) (rest : List (F × α)) :
    minItem first rest ∈ first :: rest := by
  induction rest generalizing first with
  | nil => exact List.mem_cons_self
  | cons item rest ih =>
    rw [minItem_cons]
    split
    · exact List.mem_cons_of_mem _ (ih item)
    · obtain hfirst | hrest := List.mem_cons.mp (ih first)
      · exact List.mem_cons.mpr (.inl hfirst)
      · exact List.mem_cons_of_mem _ (List.mem_cons_of_mem _ hrest)

end

/-- Truncation toward zero. -/
def truncate (x : ℚ) : ℤ := if 0 ≤ x then ⌊x⌋ else ⌈x⌉

/-- The exact reading: every operation is the one of the rationals. -/
instance : PyFloat ℚ where
  lit c := c
  lt x y := decide (x < y)
  ofInt n := .ok n
  div x y := if y = 0 then .error .zero_division_error else .ok (x / y)
  intDiv m n := if n = 0 then .error .zero_division_error else .ok ((m : ℚ) / n)
  round x := .ok (roundHalfEven x)
  roundTo x digits := roundDecimals x digits
  trunc x := .ok (truncate x)
  trunc_scaled_le := by
    intro n k c x hn hc hc1 hx hk
    cases hx
    have hnonneg : (0 : ℚ) < n := by exact_mod_cast hn
    have hscaled : (n : ℚ) * c ≤ n := by nlinarith
    have hk' : k = ⌊(n : ℚ) * c⌋ := by
      simp only [truncate, if_pos (mul_nonneg hnonneg.le hc), Except.ok.injEq] at hk
      exact hk.symm
    have hfloor := Int.floor_le ((n : ℚ) * c)
    rw [← hk'] at hfloor
    exact_mod_cast hfloor.trans hscaled

section Exact

@[simp] theorem lit_exact (c : ℚ) : (lit c : ℚ) = c := rfl

@[simp] theorem lt_exact (x y : ℚ) : lt x y = decide (x < y) := rfl

@[simp] theorem ofInt_exact (n : ℤ) : (ofInt n : Except Exception ℚ) = .ok (n : ℚ) := rfl

theorem intDiv_exact (m : ℤ) {n : ℤ} (hn : n ≠ 0) :
    (intDiv m n : Except Exception ℚ) = .ok ((m : ℚ) / n) := if_neg hn

theorem div_exact (x : ℚ) {y : ℚ} (hy : y ≠ 0) : PyFloat.div x y = .ok (x / y) := if_neg hy

@[simp] theorem round_exact (x : ℚ) : PyFloat.round x = .ok (roundHalfEven x) := rfl

@[simp] theorem roundTo_exact (x : ℚ) (digits : ℕ) : roundTo x digits = roundDecimals x digits := rfl

@[simp] theorem pyMax_exact (x y : ℚ) : pyMax x y = max x y := by
  simp only [pyMax, lt_exact, decide_eq_true_eq]
  split
  · rename_i hlt
    exact (max_eq_right hlt.le).symm
  · rename_i hnot
    exact (max_eq_left (not_lt.mp hnot)).symm

@[simp] theorem pyMin_exact (x y : ℚ) : pyMin x y = min x y := by
  simp only [pyMin, lt_exact, decide_eq_true_eq]
  split
  · rename_i hlt
    exact (min_eq_right hlt.le).symm
  · rename_i hnot
    exact (min_eq_left (not_lt.mp hnot)).symm

/-- Exactly compared keys make the selected one a lower bound of them all. -/
theorem minItem_le {α : Type} (first : ℚ × α) (rest : List (ℚ × α)) :
    ∀ item ∈ first :: rest, (minItem first rest).1 ≤ item.1 := by
  induction rest generalizing first with
  | nil => simp [minItem]
  | cons next rest ih =>
    intro item hitem
    simp only [minItem_cons, lt_exact, decide_eq_true_eq]
    split
    · rename_i hlt
      obtain hfirst | hrest := List.mem_cons.mp hitem
      · rw [hfirst]
        exact (ih next next List.mem_cons_self).trans hlt.le
      · exact ih next item hrest
    · rename_i hnot
      obtain hfirst | hrest := List.mem_cons.mp hitem
      · rw [hfirst]
        exact ih first first List.mem_cons_self
      · obtain hnext | hlater := List.mem_cons.mp hrest
        · rw [hnext]
          exact (ih first first List.mem_cons_self).trans (not_lt.mp hnot)
        · exact ih first item (List.mem_cons_of_mem _ hlater)

end Exact

end python
