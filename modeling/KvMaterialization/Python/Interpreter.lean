import KvMaterialization.Python.Float
import Mathlib.Data.List.Dedup

namespace python

/-- The order a set of integers is iterated in, as a function of the order its
elements were inserted in. The language promises nothing about it but that every
element comes up once. -/
structure SetOrder where
  order : List ℤ → List ℤ
  perm : ∀ inserted, (order inserted).Perm inserted.dedup

theorem SetOrder.mem_order (self : SetOrder) (inserted : List ℤ) (element : ℤ) :
    element ∈ self.order inserted ↔ element ∈ inserted := by
  rw [(self.perm inserted).mem_iff, List.mem_dedup]

/-- The order of first insertion. -/
def SetOrder.insertion : SetOrder := ⟨List.dedup, fun _ => List.Perm.refl _⟩

/-- Lower-casing of a text that has no characters beyond ASCII. -/
def asciiLower (text : String) : String := String.ofList (text.toList.map Char.toLower)

/-- What a program leaves to the interpreter: case mapping, printing and number
parsing of strings (`none` where `int` or `float` raise `ValueError`), and the
iteration order of its sets. -/
structure Interpreter (F : Type) where
  lower : String → String
  repr : String → String
  int : String → Option ℤ
  float : String → Option F
  setOrder : SetOrder
  lower_ascii : ∀ text, (∀ c ∈ text.toList, c.toNat < 128) → lower text = asciiLower text

theorem Interpreter.lower_of_ascii {F : Type} (self : Interpreter F) {text : String}
    (hascii : text.toList.all (fun c => c.toNat < 128) = true) : self.lower text = asciiLower text :=
  self.lower_ascii text (fun c hc => of_decide_eq_true (List.all_eq_true.mp hascii c hc))

/-- A plain decimal numeral, with at least one digit. -/
def digits (text : List Char) : Option ℕ :=
  if text = [] then none
  else text.foldl (fun value c => value.bind (fun value =>
    if c.isDigit then some (10 * value + (c.toNat - 48)) else none)) (some 0)

/-- The interpreter on texts within ASCII and numerals without exponent,
underscores or names of special values. -/
def Interpreter.ascii : Interpreter ℚ where
  lower := asciiLower
  repr text := "'" ++ text ++ "'"
  int text :=
    match text.toList with
    | '-' :: rest => (digits rest).map (fun value => -(value : ℤ))
    | rest => (digits rest).map (fun value => (value : ℤ))
  float text :=
    match text.toList.span (· ≠ '.') with
    | (whole, []) => (digits whole).map (fun value => (value : ℚ))
    | (whole, _ :: fraction) =>
      (digits (whole ++ fraction)).map (fun value => (value : ℚ) / 10 ^ fraction.length)
  setOrder := .insertion
  lower_ascii _ _ := rfl

/-- The same interpreter under another reading of its floats. -/
def Interpreter.reading {F G : Type} (self : Interpreter F) (f : F → G) : Interpreter G where
  lower := self.lower
  repr := self.repr
  int := self.int
  float text := (self.float text).map f
  setOrder := self.setOrder
  lower_ascii := self.lower_ascii

/-- The characters `str.strip` removes. -/
def isSpace (c : Char) : Bool :=
  let code := c.toNat
  (0x09 ≤ code && code ≤ 0x0D) || (0x1C ≤ code && code ≤ 0x20) || code = 0x85 || code = 0xA0 ||
    code = 0x1680 || (0x2000 ≤ code && code ≤ 0x200A) || code = 0x2028 || code = 0x2029 ||
    code = 0x202F || code = 0x205F || code = 0x3000

/-- `text.strip()`. -/
def strip (text : String) : String :=
  String.ofList ((text.toList.dropWhile isSpace).reverse.dropWhile isSpace).reverse

/-- The process environment. -/
abbrev Environment := String → Option String

def Environment.ofList (assigned : List (String × String)) : Environment :=
  fun name => (assigned.find? (fun item => item.1 = name)).map Prod.snd

/-- `os.getenv(name, default)`. -/
def getenv (env : Environment) (name default : String) : String := (env name).getD default

end python
