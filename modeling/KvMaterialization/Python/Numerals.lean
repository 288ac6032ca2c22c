import KvMaterialization.Python.Interpreter

namespace python

/-- `f"{number:02d}"` -/
def padded (number : ℕ) : String := if number < 10 then "0" ++ toString number else toString number

theorem padded_digits (number : ℕ) {c : Char} (hc : c ∈ (padded number).toList) : c.isDigit = true := by
  have hdigits : ∀ c ∈ (toString number).toList, c.isDigit = true := by
    intro c hc
    rw [Nat.toString_eq_ofList_toDigits, String.toList_ofList] at hc
    exact Nat.isDigit_of_mem_toDigits (by decide) (by decide) hc
  unfold padded at hc
  split at hc
  · rw [String.toList_append, List.mem_append] at hc
    obtain hzero | hrest := hc
    · obtain rfl : c = '0' := by simpa using hzero
      rfl
    · exact hdigits c hrest
  · exact hdigits c hc

theorem padded_ne_nil (number : ℕ) : (padded number).toList ≠ [] := by
  have hdigits : (toString number).toList ≠ [] := by
    rw [Nat.toString_eq_ofList_toDigits, String.toList_ofList]
    exact Nat.toDigits_ne_nil
  unfold padded
  split
  · simp
  · exact hdigits

theorem padded_value (number : ℕ) : Nat.ofDigitChars 10 (padded number).toList 0 = number := by
  have hdigits : Nat.ofDigitChars 10 (toString number).toList 0 = number := by
    rw [Nat.toString_eq_ofList_toDigits, String.toList_ofList, Nat.ofDigitChars_ten_toDigits]
  unfold padded
  split
  · rw [String.toList_append, Nat.ofDigitChars_append]
    exact hdigits
  · exact hdigits

/-- How `int` reads the numerals of ASCII. -/
structure Numerals {F : Type} (py : Interpreter F) : Prop where
  digit : ∀ c : Char, c.isDigit = true → (py.int (String.singleton c)).isSome = true
  underscore : py.int "_" = none
  padded : ∀ number, py.int (padded number) = some (number : ℤ)

/-- The digits are read by their places. -/
theorem digits_eq {text : List Char} (hne : text ≠ []) (hdigits : ∀ c ∈ text, c.isDigit = true) :
    digits text = some (Nat.ofDigitChars 10 text 0) := by
  rw [digits, if_neg hne, Nat.ofDigitChars_eq_foldl]
  clear hne
  generalize 0 = value
  induction text generalizing value with
  | nil => rfl
  | cons c rest ih =>
    rw [List.forall_mem_cons] at hdigits
    rw [List.foldl_cons, List.foldl_cons, Option.bind_some, if_pos hdigits.1]
    exact ih hdigits.2 _

theorem ascii_int {text : String} (hne : text.toList ≠ []) (hdigits : ∀ c ∈ text.toList, c.isDigit = true) :
    Interpreter.ascii.int text = some (Nat.ofDigitChars 10 text.toList 0 : ℤ) := by
  have hint : (digits text.toList).map (fun value => (value : ℤ)) = some (Nat.ofDigitChars 10 text.toList 0 : ℤ) := by
    rw [digits_eq hne hdigits]
    rfl
  unfold Interpreter.ascii
  dsimp only
  split
  · rename_i hminus
    rw [hminus] at hdigits
    exact absurd (hdigits '-' List.mem_cons_self) (by decide)
  · exact hint

theorem ascii_numerals : Numerals Interpreter.ascii where
  digit c hc := by
    rw [ascii_int]
    · rfl
    · simp [String.toList_singleton]
    · simpa [String.toList_singleton] using hc
  underscore := rfl
  padded number := by
    rw [ascii_int (padded_ne_nil number) fun c hc => padded_digits number hc, padded_value]

/-- A text is divided where the test first fails. -/
theorem span_append {test : Char → Bool} {kept : List Char} (hkept : ∀ c ∈ kept, test c = true) {c : Char}
    (hc : test c = false) (rest : List Char) : (kept ++ c :: rest).span test = (kept, c :: rest) := by
  rw [List.span_eq_takeWhile_dropWhile, List.takeWhile_append_of_pos hkept, List.dropWhile_append_of_pos hkept,
    List.takeWhile_cons_of_neg (by simp [hc]), List.dropWhile_cons_of_neg (by simp [hc]), List.append_nil]

end python
