import KvMaterialization.Python.Text

namespace python

/-- The words of a text of which the characters of the first are already read. -/
def wordsFrom (word : List Char) : List Char → List String
  | [] => if word = [] then [] else [String.ofList word.reverse]
  | c :: rest =>
    if isSpace c then
      if word = [] then wordsFrom [] rest else String.ofList word.reverse :: wordsFrom [] rest
    else wordsFrom (c :: word) rest

/-- `text.split()` -/
def split (text : String) : List String := wordsFrom [] text.toList

/-- A text that `split` takes for one word. -/
structure IsWord (text : String) : Prop where
  nonempty : text.toList ≠ []
  no_space : ∀ c ∈ text.toList, isSpace c = false

theorem wordsFrom_append {read : List Char} (hread : ∀ c ∈ read, isSpace c = false) (word rest : List Char) :
    wordsFrom word (read ++ rest) = wordsFrom (read.reverse ++ word) rest := by
  induction read generalizing word with
  | nil => rfl
  | cons c read ih =>
    rw [List.forall_mem_cons] at hread
    rw [List.cons_append, wordsFrom, hread.1, if_neg Bool.false_ne_true, ih hread.2, List.reverse_cons,
      List.append_assoc]
    rfl

/-- Words that are joined by blanks are found again. -/
theorem split_intercalate {words : List String} (hwords : ∀ word ∈ words, IsWord word) :
    split (" ".intercalate words) = words := by
  unfold split
  rw [String.toList_intercalate]
  induction words with
  | nil => rfl
  | cons word rest ih =>
    rw [List.forall_mem_cons] at hwords
    obtain ⟨hword, hrest⟩ := hwords
    have hne : word.toList.reverse ≠ [] := by simpa using hword.nonempty
    cases rest with
    | nil =>
      have hjoined : " ".toList.intercalate ([word].map String.toList) = word.toList ++ [] := by simp
      rw [hjoined, wordsFrom_append hword.no_space, List.append_nil, wordsFrom, if_neg hne, List.reverse_reverse,
        String.ofList_toList]
    | cons next rest =>
      have hjoined : " ".toList.intercalate ((word :: next :: rest).map String.toList) =
          word.toList ++ ' ' :: " ".toList.intercalate ((next :: rest).map String.toList) := by
        simp [List.intercalate]
      rw [hjoined, wordsFrom_append hword.no_space, List.append_nil, wordsFrom, if_pos (by decide), if_neg hne,
        List.reverse_reverse, String.ofList_toList, ih hrest]

end python
