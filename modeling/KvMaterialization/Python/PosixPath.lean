import KvMaterialization.Delimited
import KvMaterialization.Python.Text

namespace python

/-- A part of a path: a name that parsing the path again does not drop or divide. -/
def PlainPart (part : String) : Prop := part ≠ "" ∧ part ≠ "." ∧ '/' ∉ part.toList

instance (part : String) : Decidable (PlainPart part) := inferInstanceAs (Decidable (_ ∧ _ ∧ _))

/-- `PurePosixPath`: the slashes it starts with and the parts that are left of its text. -/
@[ext]
structure PurePosixPath where
  root : String
  tail : List String
  root_mem : root ∈ ["", "/", "//"]
  plain : ∀ part ∈ tail, PlainPart part

namespace PurePosixPath

/-- `posixpath.splitroot`: two slashes at the start are a root of their own, more are one. -/
def splitroot (text : String) : String :=
  match text.toList with
  | '/' :: '/' :: '/' :: _ => "/"
  | '/' :: '/' :: _ => "//"
  | '/' :: _ => "/"
  | _ => ""

theorem splitroot_mem (text : String) : splitroot text ∈ ["", "/", "//"] := by
  unfold splitroot
  split <;> decide

/-- The parts of a text: empty ones and dots mean nothing. -/
def components (text : String) : List String :=
  ((text.toList.splitOn '/').map String.ofList).filter fun part => part ≠ "" ∧ part ≠ "."

theorem plain_of_mem_components {text part : String} (hpart : part ∈ components text) : PlainPart part := by
  obtain ⟨hmem, hkept⟩ := List.mem_filter.mp hpart
  obtain ⟨piece, hpiece, rfl⟩ := List.mem_map.mp hmem
  rw [decide_eq_true_eq] at hkept
  refine ⟨hkept.1, hkept.2, ?_⟩
  rw [String.toList_ofList]
  exact delimited.not_mem_of_mem_splitOn hpiece

/-- `PurePosixPath(text)` -/
def parse (text : String) : PurePosixPath where
  root := splitroot text
  tail := components text
  root_mem := splitroot_mem text
  plain _ hpart := plain_of_mem_components hpart

/-- `str(path)` -/
def toText (self : PurePosixPath) : String :=
  if self.root = "" ∧ self.tail = [] then "." else self.root ++ "/".intercalate self.tail

def is_absolute (self : PurePosixPath) : Bool := self.root != ""

/-- `path.parts`, the root among them. -/
def parts (self : PurePosixPath) : List String :=
  if self.root = "" then self.tail else self.root :: self.tail

/-- `self / other` -/
def join (self other : PurePosixPath) : PurePosixPath :=
  if other.is_absolute then other
  else ⟨self.root, self.tail ++ other.tail, self.root_mem, by
    intro part hpart
    obtain hself | hother := List.mem_append.mp hpart
    · exact self.plain part hself
    · exact other.plain part hother⟩

theorem join_relative (self : PurePosixPath) {other : PurePosixPath} (hrelative : other.is_absolute = false) :
    (self.join other).root = self.root ∧ (self.join other).tail = self.tail ++ other.tail := by
  rw [join, if_neg (by rw [hrelative]; exact Bool.false_ne_true)]
  exact ⟨rfl, rfl⟩

/-- Parts that are joined are found again. -/
theorem components_intercalate {parts : List String} (hplain : ∀ part ∈ parts, PlainPart part) :
    components ("/".intercalate parts) = parts := by
  cases parts with
  | nil => decide
  | cons first rest =>
    have hjoined : ("/".intercalate (first :: rest)).toList =
        ['/'].intercalate ((first :: rest).map String.toList) := by
      rw [String.toList_intercalate]
      rfl
    have hsplit : (("/".intercalate (first :: rest)).toList).splitOn '/' = (first :: rest).map String.toList := by
      rw [hjoined]
      apply List.splitOn_intercalate '/' _ (by simp)
      intro piece hpiece
      obtain ⟨part, hpart, rfl⟩ := List.mem_map.mp hpiece
      exact (hplain part hpart).2.2
    have hparts : ((first :: rest).map String.toList).map String.ofList = first :: rest := by
      rw [List.map_map]
      exact (List.map_congr_left fun part _ => String.ofList_toList).trans (List.map_id _)
    rw [components, hsplit, hparts, List.filter_eq_self]
    intro part hpart
    exact decide_eq_true ⟨(hplain part hpart).1, (hplain part hpart).2.1⟩

/-- A text of parts starts with no slash. -/
theorem splitroot_intercalate {parts : List String} (hplain : ∀ part ∈ parts, PlainPart part) :
    splitroot ("/".intercalate parts) = "" := by
  cases parts with
  | nil => decide
  | cons first rest =>
    obtain ⟨hnonempty, _, hslash⟩ := hplain first List.mem_cons_self
    have hhead : ∃ c more, first.toList = c :: more ∧ c ≠ '/' := by
      cases hfirst : first.toList with
      | nil => exact absurd (String.toList_inj.mp (hfirst.trans String.toList_empty.symm)) hnonempty
      | cons c more =>
        rw [hfirst] at hslash
        exact ⟨c, more, rfl, fun heq => hslash (by rw [heq]; exact List.mem_cons_self)⟩
    obtain ⟨c, more, hfirst, hne⟩ := hhead
    have htext : ∃ after, ("/".intercalate (first :: rest)).toList = c :: after := by
      rw [String.toList_intercalate, List.map_cons, hfirst]
      cases rest with
      | nil => exact ⟨more, by simp⟩
      | cons second rest => exact ⟨_, by simp [List.intercalate]; rfl⟩
    obtain ⟨after, htext⟩ := htext
    unfold splitroot
    rw [htext]
    split
    · rename_i heq
      exact absurd (List.cons.inj heq).1 hne
    · rename_i heq
      exact absurd (List.cons.inj heq).1 hne
    · rename_i heq
      exact absurd (List.cons.inj heq).1 hne
    · rfl

/-- The text of a relative path with parts, which is not the dot. -/
theorem parse_intercalate {parts : List String} (hplain : ∀ part ∈ parts, PlainPart part) :
    (parse ("/".intercalate parts)).is_absolute = false ∧ (parse ("/".intercalate parts)).tail = parts := by
  constructor
  · change (splitroot ("/".intercalate parts) != "") = false
    rw [splitroot_intercalate hplain]
    rfl
  · exact components_intercalate hplain

/-- A path that is written as it is printed is its parts. -/
theorem toText_of_relative {path : PurePosixPath} (hrelative : path.is_absolute = false) (htail : path.tail ≠ []) :
    path.toText = "/".intercalate path.tail := by
  rw [is_absolute, bne_eq_false_iff_eq] at hrelative
  rw [toText, if_neg (fun h => htail h.2), hrelative, String.empty_append]

end PurePosixPath

end python
