import Mathlib.Data.List.Basic

/-- A list that is handed out one item at a time. -/
structure Cursor (α : Type) where
  items : List α
  position : ℕ
  deriving DecidableEq, Repr

namespace Cursor

variable {α : Type}

def start (items : List α) : Cursor α := ⟨items, 0⟩

/-- The next item and the cursor past it; at the end there is none and the cursor stays. -/
def next (self : Cursor α) : Option α × Cursor α :=
  match self.items[self.position]? with
  | some item => (some item, { self with position := self.position + 1 })
  | none => (none, self)

/-- The cursor after a number of items were asked for. -/
def skip (self : Cursor α) : ℕ → Cursor α
  | 0 => self
  | steps + 1 => (self.skip steps).next.2

@[simp] theorem skip_zero (self : Cursor α) : self.skip 0 = self := rfl

theorem skip_succ (self : Cursor α) (steps : ℕ) : self.skip (steps + 1) = (self.skip steps).next.2 := rfl

theorem next_fst (self : Cursor α) : self.next.1 = self.items[self.position]? := by
  unfold next
  split
  · rename_i item hitem
    exact hitem.symm
  · rename_i hnone
    exact hnone.symm

@[simp] theorem next_items (self : Cursor α) : self.next.2.items = self.items := by
  unfold next
  split <;> rfl

@[simp] theorem skip_items (self : Cursor α) (steps : ℕ) : (self.skip steps).items = self.items := by
  induction steps with
  | zero => rfl
  | succ steps ih => rw [skip_succ, next_items, ih]

theorem next_position (self : Cursor α) :
    self.next.2.position = if self.position < self.items.length then self.position + 1 else self.position := by
  unfold next
  split
  · rename_i item hitem
    rw [if_pos (List.getElem?_eq_some_iff.mp hitem).1]
  · rename_i hnone
    rw [if_neg (by rw [List.getElem?_eq_none_iff] at hnone; omega)]

/-- The position counts what was asked for, up to the end. -/
theorem skip_start_position (items : List α) (steps : ℕ) :
    ((start items).skip steps).position = min steps items.length := by
  induction steps with
  | zero => simp [start]
  | succ steps ih =>
    have hitems : ((start items).skip steps).items = items := skip_items _ _
    rw [skip_succ, next_position, hitems, ih]
    split
    · omega
    · omega

/-- From its start a cursor hands out the items in their order, and nothing after the last. -/
theorem next_skip_start (items : List α) (steps : ℕ) : ((start items).skip steps).next.1 = items[steps]? := by
  have hitems : ((start items).skip steps).items = items := skip_items _ _
  rw [next_fst, hitems, skip_start_position]
  by_cases hinside : steps < items.length
  · rw [Nat.min_eq_left (Nat.le_of_lt hinside)]
  · rw [List.getElem?_eq_none (by omega), List.getElem?_eq_none (by omega)]

/-- Past the last item the cursor stays. -/
theorem next_of_none {self : Cursor α} (hnone : self.next.1 = none) : self.next.2 = self := by
  rw [next_fst] at hnone
  unfold next
  rw [hnone]

end Cursor
