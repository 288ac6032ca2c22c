import Mathlib.Algebra.BigOperators.Group.List.Basic
import Mathlib.Data.List.Perm.Basic
import Mathlib.Order.Basic
import Mathlib.Tactic.Ring

namespace words

section

variable {α β : Type}

/-- The words of a given length over the letters, a letter occurring as often in
every place as it is listed. -/
def all (letters : List α) : ℕ → List (List α)
  | 0 => [[]]
  | n + 1 => letters.flatMap fun letter => (all letters n).map (letter :: ·)

theorem length_all (letters : List α) (n : ℕ) : (all letters n).length = letters.length ^ n := by
  induction n with
  | zero => rfl
  | succ n ih =>
    have hconstant : (letters.map fun letter => ((all letters n).map (letter :: ·)).length) =
        letters.map fun _ => letters.length ^ n := by
      simp only [List.length_map, ih]
    rw [all, List.length_flatMap, hconstant]
    simp [pow_succ, mul_comm]

theorem mem_all {letters : List α} {n : ℕ} {word : List α} :
    word ∈ all letters n ↔ word.length = n ∧ ∀ letter ∈ word, letter ∈ letters := by
  induction n generalizing word with
  | zero =>
    rw [all, List.mem_singleton, List.length_eq_zero_iff]
    constructor
    · rintro rfl
      simp
    · exact fun h => h.1
  | succ n ih =>
    rw [all, List.mem_flatMap]
    constructor
    · rintro ⟨letter, hletter, hword⟩
      obtain ⟨rest, hrest, rfl⟩ := List.mem_map.mp hword
      obtain ⟨hlength, hletters⟩ := ih.mp hrest
      exact ⟨by rw [List.length_cons, hlength], List.forall_mem_cons.mpr ⟨hletter, hletters⟩⟩
    · rintro ⟨hlength, hletters⟩
      cases word with
      | nil => cases hlength
      | cons letter rest =>
        obtain ⟨hletter, hrest⟩ := List.forall_mem_cons.mp hletters
        refine ⟨letter, hletter, List.mem_map.mpr ⟨rest, ih.mpr ⟨?_, hrest⟩, rfl⟩⟩
        exact Nat.succ_injective hlength

/-- Words over renamed letters are the renamed words. -/
theorem all_map (f : α → β) (letters : List α) (n : ℕ) :
    all (letters.map f) n = (all letters n).map (List.map f) := by
  induction n with
  | zero => rfl
  | succ n ih => simp [all, ih, List.flatMap_map, List.map_flatMap, Function.comp_def]

theorem all_perm {letters letters' : List α} (hperm : letters.Perm letters') (n : ℕ) :
    (all letters n).Perm (all letters' n) := by
  induction n with
  | zero => exact List.Perm.refl _
  | succ n ih => exact hperm.flatMap fun letter _ => ih.map (letter :: ·)

/-- How many words have at least `t` letters of a first kind and `u` of the first or a
second one, of letters of which `a`, `b` and `c` are of the first, the second and
neither kind. -/
def tally (a b c : ℕ) : ℕ → ℕ → ℕ → ℕ
  | 0, t, u => if t = 0 ∧ u = 0 then 1 else 0
  | n + 1, t, u => a * tally a b c n (t - 1) (u - 1) + b * tally a b c n t (u - 1) + c * tally a b c n t u

/-- Summing over the letters what depends on their kind only. -/
theorem sum_by_kind (first second : α → Bool) (letters : List α) (x y z : ℕ) :
    (letters.map fun letter => if first letter then x else if second letter then y else z).sum =
      letters.countP first * x + letters.countP (fun letter => !first letter && second letter) * y +
        letters.countP (fun letter => !first letter && !second letter) * z := by
  induction letters with
  | nil => simp
  | cons letter rest ih =>
    rw [List.map_cons, List.sum_cons, ih]
    cases hfirst : first letter <;> cases hsecond : second letter <;> simp [hfirst, hsecond] <;> ring

theorem countP_all (first second : α → Bool) (letters : List α) (n t u : ℕ) :
    (all letters n).countP (fun word => decide (t ≤ word.countP first ∧
        u ≤ word.countP fun letter => first letter || second letter)) =
      tally (letters.countP first) (letters.countP fun letter => !first letter && second letter)
        (letters.countP fun letter => !first letter && !second letter) n t u := by
  induction n generalizing t u with
  | zero => simp [all, tally]
  | succ n ih =>
    have hletter : ∀ letter : α, ((all letters n).map (letter :: ·)).countP (fun word => decide
          (t ≤ word.countP first ∧ u ≤ word.countP fun letter => first letter || second letter)) =
        if first letter then (all letters n).countP (fun word => decide (t - 1 ≤ word.countP first ∧
          u - 1 ≤ word.countP fun letter => first letter || second letter))
        else if second letter then (all letters n).countP (fun word => decide (t ≤ word.countP first ∧
          u - 1 ≤ word.countP fun letter => first letter || second letter))
        else (all letters n).countP (fun word => decide (t ≤ word.countP first ∧
          u ≤ word.countP fun letter => first letter || second letter)) := by
      intro letter
      rw [List.countP_map]
      -- One letter more meets the bounds where the rest meets what is left of them.
      cases hfirst : first letter <;> cases hsecond : second letter <;>
        simp [Function.comp_def, hfirst, hsecond]
    rw [all, List.countP_flatMap, Function.comp_def]
    simp only [hletter]
    rw [sum_by_kind, ih, ih, ih, tally]

end

/-! The place of a bound among sorted values. -/

section

variable {α : Type} [LinearOrder α] {values : List α} {bound : α} {i : ℕ}

/-- More than `i` values up to the bound reach the one at place `i`. -/
theorem getElem_le_of_lt_countP (hsorted : values.Pairwise (· ≤ ·)) (hi : i < values.length)
    (hcount : i < values.countP fun value => decide (value ≤ bound)) : values[i] ≤ bound := by
  by_contra habove
  have hdrop : (values.drop i).countP (fun value => decide (value ≤ bound)) = 0 := by
    rw [List.countP_eq_zero]
    intro value hvalue
    rw [List.drop_eq_getElem_cons hi] at hvalue
    have htail := hsorted.sublist (List.drop_sublist i values)
    rw [List.drop_eq_getElem_cons hi, List.pairwise_cons] at htail
    have hle : values[i] ≤ value := by
      obtain rfl | hlater := List.mem_cons.mp hvalue
      · exact le_rfl
      · exact htail.1 value hlater
    rw [decide_eq_true_eq, not_le]
    exact (not_le.mp habove).trans_le hle
  have htake := List.countP_le_length (p := fun value => decide (value ≤ bound)) (l := values.take i)
  rw [← List.take_append_drop i values, List.countP_append, hdrop] at hcount
  rw [List.length_take] at htake
  omega

/-- So do as many from the bound on, counted from the other end. -/
theorem le_getElem_of_lt_countP (hsorted : values.Pairwise (· ≤ ·)) (hi : i < values.length)
    (hcount : values.length ≤ i + values.countP fun value => decide (bound ≤ value)) : bound ≤ values[i] := by
  by_contra hbelow
  have htake : (values.take (i + 1)).countP (fun value => decide (bound ≤ value)) = 0 := by
    rw [List.countP_eq_zero]
    intro value hvalue
    obtain ⟨j, hj, rfl⟩ := List.mem_iff_getElem.mp hvalue
    have hj' : j < values.length := by
      rw [List.length_take] at hj
      omega
    rw [List.getElem_take, decide_eq_true_eq, not_le]
    have hle : values[j] ≤ values[i] := by
      rw [List.length_take] at hj
      obtain hlt | heq := Nat.lt_or_eq_of_le (show j ≤ i by omega)
      · exact List.pairwise_iff_getElem.mp hsorted j i hj' hi hlt
      · subst heq
        exact le_rfl
    exact hle.trans_lt (not_le.mp hbelow)
  have hdrop := List.countP_le_length (p := fun value => decide (bound ≤ value)) (l := values.drop (i + 1))
  rw [← List.take_append_drop (i + 1) values, List.countP_append, htake, List.length_append] at hcount
  rw [List.length_drop] at hdrop
  rw [List.length_take, List.length_drop] at hcount
  omega

end

end words
