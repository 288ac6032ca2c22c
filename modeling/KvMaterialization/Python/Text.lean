import KvMaterialization.Python.Interpreter
import Mathlib.Data.List.DropRight

namespace python

/-- What `strip` leaves of the characters of a text. -/
def stripped (text : List Char) : List Char := ((text.dropWhile isSpace).rdropWhile isSpace)

theorem strip_eq (text : String) : strip text = String.ofList (stripped text.toList) := rfl

theorem stripped_subset (text : List Char) : stripped text ⊆ text :=
  ((List.rdropWhile_prefix _ _).sublist.trans (List.dropWhile_sublist _)).subset

theorem stripped_of_no_space {text : List Char} (hspace : ∀ c ∈ text, isSpace c = false) : stripped text = text := by
  unfold stripped
  have hleft : text.dropWhile isSpace = text := by
    rw [List.dropWhile_eq_self_iff]
    intro hpositive
    rw [hspace _ (List.getElem_mem hpositive)]
    exact Bool.false_ne_true
  rw [hleft, List.rdropWhile_eq_self_iff]
  intro hne
  rw [hspace _ (List.getLast_mem hne)]
  exact Bool.false_ne_true

/-- What is left has nothing more to strip. -/
theorem stripped_stripped (text : List Char) : stripped (stripped text) = stripped text := by
  have hleft : (stripped text).dropWhile isSpace = stripped text := by
    rw [List.dropWhile_eq_self_iff]
    intro hpositive
    have hinit : stripped text <+: text.dropWhile isSpace := List.rdropWhile_prefix _ _
    have hlength := hinit.length_le
    have hhead := hinit.getElem hpositive
    rw [hhead]
    have hne : text.dropWhile isSpace ≠ [] := List.ne_nil_of_length_pos (by omega)
    have hnot := List.head_dropWhile_not isSpace hne
    rw [List.head_eq_getElem] at hnot
    rw [hnot]
    exact Bool.false_ne_true
  change ((stripped text).dropWhile isSpace).rdropWhile isSpace = stripped text
  rw [hleft]
  exact List.rdropWhile_idempotent _ _

theorem strip_eq_self_iff (text : String) : strip text = text ↔ stripped text.toList = text.toList := by
  rw [strip_eq, ← String.toList_inj, String.toList_ofList]

theorem isSpace_eq_false_of_isDigit {c : Char} (hdigit : c.isDigit = true) : isSpace c = false := by
  unfold Char.isDigit at hdigit
  rw [Bool.and_eq_true, decide_eq_true_eq, decide_eq_true_eq, ge_iff_le, UInt32.le_iff_toNat_le,
    UInt32.le_iff_toNat_le] at hdigit
  have hlow : 48 ≤ c.toNat := hdigit.1
  have hhigh : c.toNat ≤ 57 := hdigit.2
  unfold isSpace
  simp only [Bool.or_eq_false_iff, Bool.and_eq_false_iff, decide_eq_false_iff_not]
  omega

theorem isDigit_of_mem_toString {n : ℕ} {c : Char} (hc : c ∈ (toString n).toList) : c.isDigit = true := by
  rw [Nat.toString_eq_ofList_toDigits, String.toList_ofList] at hc
  exact Nat.isDigit_of_mem_toDigits (by decide) (by decide) hc

theorem digits_toString (n : ℕ) : ∀ c ∈ (toString n).toList, isSpace c = false := by
  intro c hc
  exact isSpace_eq_false_of_isDigit (isDigit_of_mem_toString hc)

theorem toString_ne_empty (n : ℕ) : toString n ≠ "" := Nat.repr_ne_empty

/-- A printed integer has no blanks around it and is not empty. -/
theorem strip_toString (value : ℤ) : strip (toString value) = toString value ∧ toString value ≠ "" := by
  cases value with
  | ofNat n =>
    refine ⟨?_, toString_ne_empty n⟩
    rw [strip_eq_self_iff]
    exact stripped_of_no_space (digits_toString n)
  | negSucc n =>
    have hprinted : (toString (Int.negSucc n)).toList = '-' :: (toString (n + 1)).toList := by
      change ("-" ++ toString (n + 1)).toList = _
      rw [String.toList_append]
      rfl
    constructor
    · rw [strip_eq_self_iff, hprinted]
      apply stripped_of_no_space
      rw [List.forall_mem_cons]
      exact ⟨by decide, digits_toString (n + 1)⟩
    · intro hempty
      rw [hempty] at hprinted
      cases hprinted

section Digests

variable {α : Type} [DecidableEq α]

/-- A hash that gives the contents of a table the digests they have, and tells all others
apart from them and from each other. -/
def tableDigest (known : List (α × String)) (spell : α → List Char) (content : α) : String :=
  (known.lookup content).getD (String.ofList ('#' :: spell content))

theorem tableDigest_injective {known : List (α × String)} {spell : α → List Char} (hspell : Function.Injective spell)
    (hdigests : (known.map Prod.snd).Nodup) (hhash : ∀ item ∈ known, item.2.toList.head? ≠ some '#') :
    Function.Injective (tableDigest known spell) := by
  have hmem : ∀ {content digest}, known.lookup content = some digest → (content, digest) ∈ known := by
    intro content digest hlookup
    obtain ⟨before, after, rfl, _⟩ := List.lookup_eq_some_iff.mp hlookup
    simp
  have hapart : ∀ {content digest other}, known.lookup content = some digest →
      digest ≠ String.ofList ('#' :: spell other) := by
    intro content digest other hlookup heq
    apply hhash _ (hmem hlookup)
    dsimp only
    rw [heq, String.toList_ofList]
    rfl
  intro content other heq
  unfold tableDigest at heq
  cases hlookup : known.lookup content with
  | some digest =>
    rw [hlookup, Option.getD_some] at heq
    cases hlookup' : known.lookup other with
    | some digest' =>
      rw [hlookup', Option.getD_some] at heq
      subst heq
      exact congrArg Prod.fst (List.inj_on_of_nodup_map hdigests (hmem hlookup) (hmem hlookup') rfl)
    | none =>
      rw [hlookup', Option.getD_none] at heq
      exact absurd heq (hapart hlookup)
  | none =>
    rw [hlookup, Option.getD_none] at heq
    cases hlookup' : known.lookup other with
    | some digest' =>
      rw [hlookup', Option.getD_some] at heq
      exact absurd heq.symm (hapart hlookup')
    | none =>
      rw [hlookup', Option.getD_none] at heq
      exact hspell (List.cons.inj (String.ofList_injective heq)).2

end Digests

end python
