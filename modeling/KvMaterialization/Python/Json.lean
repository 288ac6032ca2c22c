import KvMaterialization.Python.Dict
import KvMaterialization.Python.Number

namespace python

/-- A value `json.loads` returns. The keys of a dictionary are distinct, the last of
two equal ones having been kept by the decoder. -/
inductive Json (F : Type) where
  | null
  | bool (value : Bool)
  | int (value : ℤ)
  | float (value : F)
  | str (value : String)
  | list (items : List (Json F))
  | dict (entries : List (String × Json F))

namespace Json

variable {F : Type}

/-- The number a value is where one is called for: a `bool` is an `int`. -/
def number? : Json F → Option (Number F)
  | .bool value => some (.int (if value then 1 else 0))
  | .int value => some (.int value)
  | .float value => some (.float value)
  | _ => none

/-- `isinstance(value, int)`, with the integer. -/
def int? : Json F → Option ℤ
  | .bool value => some (if value then 1 else 0)
  | .int value => some value
  | _ => none

/-- `isinstance(value, str)`, with the text. -/
def str? : Json F → Option String
  | .str value => some value
  | _ => none

def isNull : Json F → Bool
  | .null => true
  | _ => false

/-- The entry at a key of a dictionary. -/
def find (entries : List (String × Json F)) (key : String) : Option (Json F) :=
  (entries.find? (fun entry => entry.1 = key)).map Prod.snd

/-- `value.get(key, default)` -/
def getD (value : Json F) (key : String) (default : Json F) : Except Exception (Json F) :=
  match value with
  | .dict entries => .ok ((find entries key).getD default)
  | _ => .error .attribute_error

/-- `value.get(key)` -/
def get (value : Json F) (key : String) : Except Exception (Json F) := value.getD key .null

/-- `value[key]` -/
def item (value : Json F) (key : String) : Except Exception (Json F) :=
  match value with
  | .dict entries =>
    match find entries key with
    | some value => .ok value
    | none => .error (.key_error key)
  | _ => .error .type_error

/-- `value[key] = entry` -/
def assign (value : Json F) (key : String) (entry : Json F) : Json F :=
  match value with
  | .dict entries =>
    if key ∈ entries.map Prod.fst then .dict (Dict.replaceAt entries key entry)
    else .dict (entries ++ [(key, entry)])
  | other => other

theorem getD_assign_of_ne (value : Json F) {key other : String} (entry default : Json F)
    (hne : other ≠ key) : (value.assign key entry).getD other default = value.getD other default := by
  cases value with
  | dict entries =>
    unfold assign
    dsimp only
    split
    · simp only [getD, find, Dict.find?_replaceAt_of_ne entry hne]
    · have hkey : ¬ key = other := fun h => hne h.symm
      simp [getD, find, hkey]
  | null => rfl
  | bool b => rfl
  | int n => rfl
  | float x => rfl
  | str s => rfl
  | list items => rfl

theorem get_assign_self {value found : Json F} {key : String} (entry : Json F)
    (hfound : value.get key = .ok found) : (value.assign key entry).get key = .ok entry := by
  cases value with
  | dict entries =>
    unfold assign
    dsimp only
    split
    · rename_i hkey
      simp only [get, getD, find, Dict.find?_replaceAt_self entry hkey, Option.map_some, Option.getD_some]
    · rename_i hkey
      have hnone : entries.find? (fun entry => entry.1 = key) = none := by
        rw [List.find?_eq_none]
        intro present hpresent heq
        exact hkey (List.mem_map.mpr ⟨present, hpresent, by simpa using heq⟩)
      simp [get, getD, find, List.find?_append, hnone]
  | null => cases hfound
  | bool b => cases hfound
  | int n => cases hfound
  | float x => cases hfound
  | str s => cases hfound
  | list items => cases hfound

/-- A value that has one key read off it can have any. -/
theorem get_returns {value found : Json F} {key : String} (hfound : value.get key = .ok found)
    (other : String) : ∃ entry, value.get other = .ok entry := by
  cases value with
  | dict entries => exact ⟨_, rfl⟩
  | null => cases hfound
  | bool b => cases hfound
  | int n => cases hfound
  | float x => cases hfound
  | str s => cases hfound
  | list items => cases hfound

/-- `value.keys()` -/
def keys : Json F → Except Exception (List String)
  | .dict entries => .ok (entries.map Prod.fst)
  | _ => .error .attribute_error

/-- `text in value`: a key, an element or a part. -/
def containsText (value : Json F) (text : String) : Except Exception Bool :=
  match value with
  | .dict entries => .ok (find entries text).isSome
  | .list items => .ok (items.any fun element => element.str? = some text)
  | .str whole => .ok (decide (text.toList <:+: whole.toList))
  | _ => .error .type_error

/-- `None`, or a value made of what there is. -/
def nullable {α : Type} (value : α → Json F) : Option α → Json F
  | none => .null
  | some x => value x

/-- What iterating over a value yields. -/
def iterate : Json F → Except Exception (List (Json F))
  | .list items => .ok items
  | .dict entries => .ok (entries.map fun entry => .str entry.1)
  | .str text => .ok (text.toList.map fun c => .str (String.singleton c))
  | _ => .error .type_error

/-- `isinstance(value, (list, dict))`: what no set or dictionary takes as a key. -/
def hashable : Json F → Bool
  | .list _ => false
  | .dict _ => false
  | _ => true

section

variable [PyNumber F]

/-- `bool(value)` -/
def truthy : Json F → Bool
  | .null => false
  | .bool value => value
  | .int value => value != 0
  | .float value => !PyNumber.eq value (lit 0)
  | .str value => value != ""
  | .list items => !items.isEmpty
  | .dict entries => !entries.isEmpty

/-- Numbers as elements: the decoder hands out one NaN object, which a container finds
identical to itself before it compares. -/
def sameNumber (x y : Number F) : Bool := x.eq y || (!x.eq x && !y.eq y)

mutual

/-- Equality of the elements of containers. -/
def same : Json F → Json F → Bool
  | .null, .null => true
  | .str a, .str b => a = b
  | .list a, .list b => sameItems a b
  | .dict a, .dict b => a.length = b.length && sameEntries a b
  | a, b =>
    match a.number?, b.number? with
    | some x, some y => sameNumber x y
    | _, _ => false

def sameItems : List (Json F) → List (Json F) → Bool
  | [], [] => true
  | a :: as, b :: bs => same a b && sameItems as bs
  | _, _ => false

/-- Every entry is in the other dictionary. -/
def sameEntries : List (String × Json F) → List (String × Json F) → Bool
  | [], _ => true
  | (key, a) :: as, bs =>
    (match find bs key with
      | some b => same a b
      | none => false) && sameEntries as bs

end

/-- `a == b`, which is not reflexive at a NaN. -/
def eq : Json F → Json F → Bool
  | .float x, .float y => PyNumber.eq x y
  | a, b => same a b

/-- Numbers are compared as such, whatever type they come in. -/
theorem same_of_number {a b : Json F} {x y : Number F} (ha : a.number? = some x) (hb : b.number? = some y) :
    a.same b = sameNumber x y := by
  cases a <;> cases ha <;> cases b <;> cases hb <;> rfl

/-- An integer is equal to what it was read off, which may be a `bool`. -/
theorem int_eq_of_int? {value : Json F} {n : ℤ} (hvalue : value.int? = some n) : (int n).eq value = true := by
  have hnumber : value.number? = some (.int n) := by
    cases value <;> cases hvalue <;> rfl
  change (int n).same value = true
  rw [same_of_number rfl hnumber]
  simp [sameNumber, Number.eq]

@[simp] theorem same_int {m n : ℤ} : (int m : Json F).same (int n) = true ↔ m = n := by
  rw [same_of_number rfl rfl]
  simp [sameNumber, Number.eq]

@[simp] theorem same_bool {b c : Bool} : (bool b : Json F).same (bool c) = true ↔ b = c := by
  rw [same_of_number rfl rfl]
  cases b <;> cases c <;> simp [sameNumber, Number.eq]

/-- Only itself is the same as a value that is neither a number nor a container. -/
theorem same_leaf {value leaf : Json F} (hleaf : leaf = null ∨ ∃ t, leaf = str t) :
    (value.same leaf = true ↔ value = leaf) ∧ (leaf.same value = true ↔ value = leaf) := by
  obtain rfl | ⟨t, rfl⟩ := hleaf
  · cases value <;> simp [same, number?]
  · cases value with
    | str s => simp [same, eq_comm]
    | null => simp [same, number?]
    | bool b => simp [same, number?]
    | int n => simp [same, number?]
    | float x => simp [same, number?]
    | list items => simp [same, number?]
    | dict entries => simp [same, number?]

theorem same_str_iff {value : Json F} {t : String} : value.same (str t) = true ↔ value = str t :=
  (same_leaf (.inr ⟨t, rfl⟩)).1

theorem str_same_iff {value : Json F} {t : String} : (str t).same value = true ↔ value = str t :=
  (same_leaf (.inr ⟨t, rfl⟩)).2

theorem same_null_iff {value : Json F} : value.same null = true ↔ value = null := (same_leaf (.inl rfl)).1

theorem null_same_iff {value : Json F} : (null : Json F).same value = true ↔ value = null := (same_leaf (.inl rfl)).2

@[simp] theorem same_str {s t : String} : (str s : Json F).same (str t) = true ↔ s = t := by
  rw [same_str_iff, Json.str.injEq]

@[simp] theorem same_list (a b : List (Json F)) : (list a).same (list b) = sameItems a b := by
  rw [same]

theorem same_dict_iff {a b : List (String × Json F)} :
    (dict a).same (dict b) = true ↔ a.length = b.length ∧ sameEntries a b = true := by
  simp [same]

theorem same_nullable {α : Type} {value : α → Json F} {x y : Option α}
    (hvalue : ∀ a b, (value a).same (value b) = true ↔ a = b) (hnull : ∀ a, value a ≠ null) :
    (nullable value x).same (nullable value y) = true ↔ x = y := by
  cases x with
  | none =>
    cases y with
    | none => simp [nullable, same_null_iff]
    | some b =>
      rw [nullable, nullable, null_same_iff]
      simp [hnull b]
  | some a =>
    cases y with
    | none =>
      rw [nullable, nullable, same_null_iff]
      simp [hnull a]
    | some b =>
      rw [nullable, nullable, hvalue]
      simp

/-- `float(value)` -/
def toFloat (interpreter : Interpreter F) (value : Json F) : Except Exception F :=
  match value.number?, value with
  | some number, _ => number.toFloat
  | none, .str text =>
    match interpreter.float text with
    | some x => .ok x
    | none => .error (.value_error ("could not convert string to float: " ++ interpreter.repr text))
  | none, _ => .error .type_error

/-- `int(value)` -/
def toInt (interpreter : Interpreter F) (value : Json F) : Except Exception ℤ :=
  match value.number?, value with
  | some number, _ => number.toInt
  | none, .str text =>
    match interpreter.int text with
    | some n => .ok n
    | none => .error (.value_error ("invalid literal for int() with base 10: " ++ interpreter.repr text))
  | none, _ => .error .type_error

/-- `a / b` -/
def div (a b : Json F) : Except Exception F :=
  match a.number?, b.number? with
  | some x, some y => x.div y
  | _, _ => .error .type_error

/-- `a < b` of numbers or of texts. -/
def lt (a b : Json F) : Except Exception Bool :=
  match a.number?, b.number?, a.str?, b.str? with
  | some x, some y, _, _ => .ok (x.lt y)
  | _, _, some x, some y => .ok (decide (x < y))
  | _, _, _, _ => .error .type_error

/-! Sets of values, in the order of insertion. -/

/-- `value in elements` -/
def memberOf (value : Json F) (elements : List (Json F)) : Bool := elements.any value.same

def insertInto (elements : List (Json F)) (value : Json F) : List (Json F) :=
  if value.memberOf elements then elements else elements ++ [value]

/-- `{*values}` -/
def setOf (values : List (Json F)) : Except Exception (List (Json F)) :=
  if values.all hashable then .ok (values.foldl insertInto []) else .error .type_error

/-- `a - b` of two sets. -/
def difference (a b : List (Json F)) : List (Json F) := a.filter fun value => !value.memberOf b

/-- `a == b` of two sets. -/
def sameSet (a b : List (Json F)) : Bool := a.length = b.length && a.all fun value => value.memberOf b

/-- No element comes up twice: no later one is the same as an earlier one. -/
def Distinct (values : List (Json F)) : Prop := values.Pairwise fun earlier later => later.same earlier = false

theorem setOf_eq_ok_iff {values elements : List (Json F)} :
    setOf values = .ok elements ↔ values.all hashable = true ∧ values.foldl insertInto [] = elements := by
  unfold setOf
  split
  · rename_i hhashable
    simp [hhashable]
  · rename_i hhashable
    simp [hhashable]

theorem insertInto_length (elements : List (Json F)) (value : Json F) :
    (insertInto elements value).length ≤ elements.length + 1 := by
  unfold insertInto
  split
  · omega
  · simp

theorem foldl_insertInto_length (values : List (Json F)) :
    (values.foldl insertInto []).length ≤ values.length := by
  induction values using List.reverseRecOn with
  | nil => exact Nat.le_refl 0
  | append_singleton values value ih =>
    rw [List.foldl_append, List.length_append]
    have hlength := insertInto_length (values.foldl insertInto []) value
    simp only [List.foldl_cons, List.foldl_nil, List.length_singleton]
    omega

/-- A set as long as the list it is made of is the list itself, of distinct elements. -/
theorem foldl_insertInto_of_length {values : List (Json F)}
    (hlength : (values.foldl insertInto []).length = values.length) :
    values.foldl insertInto [] = values ∧ Distinct values := by
  induction values using List.reverseRecOn with
  | nil => exact ⟨rfl, List.Pairwise.nil⟩
  | append_singleton values value ih =>
    have hle := foldl_insertInto_length values
    have hinsert := insertInto_length (values.foldl insertInto []) value
    rw [List.foldl_append, List.length_append] at hlength
    simp only [List.foldl_cons, List.foldl_nil, List.length_singleton] at hlength
    obtain ⟨hvalues, hdistinct⟩ := ih (by omega)
    rw [hvalues] at hlength
    rw [List.foldl_append, List.foldl_cons, List.foldl_nil, hvalues]
    unfold insertInto at hlength ⊢
    split at hlength
    · omega
    · rename_i hfresh
      refine ⟨if_neg hfresh, List.pairwise_append.mpr ⟨hdistinct, List.pairwise_singleton _ _, ?_⟩⟩
      intro earlier hearlier later hlater
      rw [List.mem_singleton.mp hlater]
      rw [memberOf, Bool.not_eq_true, List.any_eq_false] at hfresh
      exact Bool.eq_false_iff.mpr (hfresh earlier hearlier)

/-- Every value is an element, or the same as one. -/
theorem foldl_insertInto_covers {values : List (Json F)} {value : Json F} (hvalue : value ∈ values) :
    ∃ element ∈ values.foldl insertInto [], value = element ∨ value.same element = true := by
  induction values using List.reverseRecOn with
  | nil => cases hvalue
  | append_singleton values last ih =>
    rw [List.foldl_append, List.foldl_cons, List.foldl_nil]
    unfold insertInto
    obtain hearlier | hlast := List.mem_append.mp hvalue
    · obtain ⟨element, helement, hsame⟩ := ih hearlier
      split
      · exact ⟨element, helement, hsame⟩
      · exact ⟨element, List.mem_append_left _ helement, hsame⟩
    · rw [List.mem_singleton.mp hlast]
      split
      · rename_i hmember
        obtain ⟨element, helement, hsame⟩ := List.any_eq_true.mp hmember
        exact ⟨element, helement, .inr hsame⟩
      · exact ⟨last, List.mem_append_right _ (List.mem_singleton.mpr rfl), .inl rfl⟩

theorem foldl_insertInto_subset (values : List (Json F)) : values.foldl insertInto [] ⊆ values := by
  induction values using List.reverseRecOn with
  | nil => exact fun _ => id
  | append_singleton values last ih =>
    rw [List.foldl_append, List.foldl_cons, List.foldl_nil]
    unfold insertInto
    split
    · exact fun element helement => List.mem_append_left _ (ih helement)
    · intro element helement
      obtain hearlier | hlast := List.mem_append.mp helement
      · exact List.mem_append_left _ (ih hearlier)
      · exact List.mem_append_right _ hlast

theorem str_memberOf_iff {text : String} {elements : List (Json F)} :
    (str text).memberOf elements = true ↔ str text ∈ elements := by
  rw [memberOf, List.any_eq_true]
  constructor
  · rintro ⟨element, helement, hsame⟩
    rwa [← str_same_iff.mp hsame]
  · intro helement
    exact ⟨str text, helement, same_str.mpr rfl⟩

theorem distinct_str_iff {texts : List String} :
    Distinct (texts.map str : List (Json F)) ↔ texts.Nodup := by
  rw [Distinct, List.pairwise_map]
  constructor
  · intro hdistinct
    refine hdistinct.imp ?_
    intro earlier later hfresh heq
    rw [heq, same_str.mpr rfl] at hfresh
    cases hfresh
  · intro hnodup
    refine hnodup.imp ?_
    intro earlier later hne
    exact Bool.eq_false_iff.mpr fun hsame => hne (same_str.mp hsame).symm

def orderedInsert (value : Json F) : List (Json F) → Except Exception (List (Json F))
  | [] => .ok [value]
  | first :: rest => do
    if ← first.lt value then
      return first :: (← orderedInsert value rest)
    return value :: first :: rest

/-- `sorted(values)`, which raises on values of different kinds. -/
def sortedValues (values : List (Json F)) : Except Exception (List (Json F)) :=
  values.foldrM orderedInsert []

end

end Json

/-! Dictionaries whose keys are told apart by a test of sameness. -/

section Table

variable {κ ν : Type} (same : κ → κ → Bool)

/-- `entries.get(key)` -/
def lookup (entries : List (κ × ν)) (key : κ) : Option ν :=
  (entries.find? fun entry => same key entry.1).map Prod.snd

/-- `entries[key] = value`: a key already there keeps its place and its spelling. -/
def assignAt (entries : List (κ × ν)) (key : κ) (value : ν) : List (κ × ν) :=
  match entries with
  | [] => [(key, value)]
  | entry :: rest =>
    if same key entry.1 then (entry.1, value) :: rest else entry :: assignAt rest key value

end Table

/-- An interpreter that also prints the values of a program: `str`, `repr` and the
text of an exception. -/
structure Runtime (F : Type) extends Interpreter F where
  str : Json F → String
  reprValue : Json F → String
  message : Exception → String
  str_text : ∀ text, str (.str text) = text

section

variable {F : Type} (repr : String → String) (number : F → String)

mutual

def reprJson : Json F → String
  | .null => "None"
  | .bool value => if value then "True" else "False"
  | .int value => toString value
  | .float value => number value
  | .str value => repr value
  | .list items => "[" ++ ", ".intercalate (reprItems items) ++ "]"
  | .dict entries => "\x7b" ++ ", ".intercalate (reprEntries entries) ++ "\x7d"

def reprItems : List (Json F) → List String
  | [] => []
  | item :: rest => reprJson item :: reprItems rest

def reprEntries : List (String × Json F) → List String
  | [] => []
  | (key, value) :: rest => (repr key ++ ": " ++ reprJson value) :: reprEntries rest

end

end

/-- The printing of an interpreter, given how it prints its floats. -/
def Interpreter.printing {F : Type} (self : Interpreter F) (number : F → String) : Runtime F where
  toInterpreter := self
  str value := value.str?.getD (reprJson self.repr number value)
  reprValue := reprJson self.repr number
  message error :=
    match error with
    | .value_error message => message
    | .key_error key => self.repr key
    | .index_error => "IndexError"
    | .overflow_error => "OverflowError"
    | .zero_division_error => "ZeroDivisionError"
    | .type_error => "TypeError"
    | .attribute_error => "AttributeError"
    | .os_error => "OSError"
  str_text _ := rfl

/-- A fraction as a float prints it where it has few decimals. -/
def decimal (x : ℚ) : String := toString (truncate x) ++ "." ++ toString (truncate (x * 10) % 10)

/-- The interpreter on plain texts, over each of the two readings. -/
def Runtime.ascii : Runtime ℚ := Interpreter.ascii.printing decimal

def Runtime.binary64 : Runtime Binary64 :=
  (Interpreter.ascii.reading Binary64.ofRat).printing fun x =>
    match x with
    | .finite x _ => decimal x
    | .infinity negative => if negative then "-inf" else "inf"
    | .nan => "nan"

end python
