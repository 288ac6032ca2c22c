import Mathlib.Data.List.Basic

namespace delimited

/-- Two texts in two parts, the second pair got by moving a piece of the first
part across the delimiter. -/
def Shifted {α : Type} (delimiter : List α) (first second first' second' : List α) : Prop :=
  ∃ piece, second' = piece ++ delimiter ++ second ∧ first = first' ++ delimiter ++ piece

theorem append_eq_of_shifted {α : Type} {delimiter first second first' second' : List α}
    (hshifted : Shifted delimiter first second first' second') :
    first ++ delimiter ++ second = first' ++ delimiter ++ second' := by
  obtain ⟨piece, rfl, rfl⟩ := hshifted
  simp only [List.append_assoc]

/-- A one-symbol delimiter that the parts may contain tells the parts of a text
apart up to such a shift, and no further. -/
theorem append_cons_eq_iff {α : Type} {c : α} {first second first' second' : List α} :
    first ++ [c] ++ second = first' ++ [c] ++ second' ↔
      (first = first' ∧ second = second') ∨ Shifted [c] first second first' second' ∨
        Shifted [c] first' second' first second := by
  constructor
  · intro heq
    rw [List.append_assoc, List.append_assoc, List.singleton_append, List.singleton_append,
      List.append_eq_append_iff] at heq
    obtain ⟨piece, hfirst, hsecond⟩ | ⟨piece, hfirst, hsecond⟩ := heq
    · cases piece with
      | nil =>
        left
        rw [List.nil_append, List.cons.injEq] at hsecond
        exact ⟨by rw [hfirst, List.append_nil], hsecond.2⟩
      | cons d piece =>
        right
        right
        rw [List.cons_append, List.cons.injEq] at hsecond
        obtain ⟨rfl, hsecond⟩ := hsecond
        exact ⟨piece, by simpa using hsecond, by simpa using hfirst⟩
    · cases piece with
      | nil =>
        left
        rw [List.nil_append, List.cons.injEq] at hsecond
        exact ⟨by rw [hfirst, List.append_nil], hsecond.2.symm⟩
      | cons d piece =>
        right
        left
        rw [List.cons_append, List.cons.injEq] at hsecond
        obtain ⟨rfl, hsecond⟩ := hsecond
        exact ⟨piece, by simpa using hsecond, by simpa using hfirst⟩
  · rintro (⟨rfl, rfl⟩ | hshifted | hshifted)
    · rfl
    · exact append_eq_of_shifted hshifted
    · exact (append_eq_of_shifted hshifted).symm

section

variable {α : Type} [DecidableEq α]

/-- No part of a split text contains the delimiter. -/
theorem not_mem_of_mem_splitOn {c : α} {text part : List α} (hpart : part ∈ text.splitOn c) : c ∉ part := by
  induction text generalizing part with
  | nil =>
    rw [List.splitOn_nil, List.mem_singleton] at hpart
    rw [hpart]
    exact List.not_mem_nil
  | cons first rest ih =>
    rw [List.splitOn_cons_eq_if_modifyHead] at hpart
    split at hpart
    · obtain rfl | hrest := List.mem_cons.mp hpart
      · exact List.not_mem_nil
      · exact ih hrest
    · rename_i hne
      cases hsplit : rest.splitOn c with
      | nil =>
        rw [hsplit] at hpart
        cases hpart
      | cons head tail =>
        rw [hsplit] at hpart ih
        obtain rfl | htail := List.mem_cons.mp hpart
        · intro hmem
          obtain rfl | hhead := List.mem_cons.mp hmem
          · exact hne (BEq.refl c)
          · exact ih List.mem_cons_self hhead
        · exact ih (List.mem_cons_of_mem _ htail)

/-- Parts joined by a delimiter, split again, cleaned, and the empty ones dropped. -/
def rejoined (clean : List α → List α) (c : α) (parts : List (List α)) : List (List α) :=
  ((([c].intercalate parts).splitOn c).map clean).filter (· ≠ [])

/-- They come back exactly if all of them are clean, none is empty and none contains the
delimiter. -/
theorem rejoined_eq_iff {clean : List α → List α} (hclean : ∀ part, clean (clean part) = clean part)
    (hsubset : ∀ part, clean part ⊆ part) (c : α) (parts : List (List α)) :
    rejoined clean c parts = parts ↔ ∀ part ∈ parts, part ≠ [] ∧ clean part = part ∧ c ∉ part := by
  unfold rejoined
  constructor
  · intro heq part hpart
    rw [← heq, List.mem_filter, List.mem_map] at hpart
    obtain ⟨⟨piece, hpiece, rfl⟩, hnonempty⟩ := hpart
    exact ⟨of_decide_eq_true hnonempty, hclean piece,
      fun hmem => not_mem_of_mem_splitOn hpiece (hsubset piece hmem)⟩
  · intro hparts
    cases parts with
    | nil =>
      have hnil : clean [] = [] := List.subset_nil.mp (hsubset [])
      simp [hnil]
    | cons first rest =>
      rw [List.splitOn_intercalate c (fun part hpart => (hparts part hpart).2.2) (List.cons_ne_nil _ _)]
      have hmap : (first :: rest).map clean = first :: rest := by
        rw [List.map_congr_left (fun part hpart => (hparts part hpart).2.1), List.map_id'']
        exact fun _ => rfl
      rw [hmap, List.filter_eq_self]
      exact fun part hpart => decide_eq_true (hparts part hpart).1

end

end delimited
