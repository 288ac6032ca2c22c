import KvMaterialization.Python.Interpreter

namespace python

/-- The characters `str.splitlines` ends a line at. -/
def isLineEnd (c : Char) : Bool :=
  let code := c.toNat
  (0x0A ≤ code && code ≤ 0x0D) || (0x1C ≤ code && code ≤ 0x1E) || code = 0x85 || code = 0x2028 || code = 0x2029

/-- The lines of a text of which the characters of the first are already read. -/
def linesFrom (line : List Char) : List Char → List String
  | [] => if line = [] then [] else [String.ofList line.reverse]
  | '\r' :: '\n' :: rest => String.ofList line.reverse :: linesFrom [] rest
  | c :: rest =>
    if isLineEnd c then String.ofList line.reverse :: linesFrom [] rest else linesFrom (c :: line) rest

/-- `text.splitlines()` -/
def splitlines (text : String) : List String := linesFrom [] text.toList

/-- `part in text` -/
def contains (text part : String) : Bool := decide (part.toList <:+: text.toList)

/-- A character that `\d` matches, which `int` reads as a numeral of its own. -/
def isNumeral {F : Type} (py : Interpreter F) (c : Char) : Bool := (py.int (String.singleton c)).isSome

/-- `re.search(before + r"(\d+)", text)` with its group: the digits after the first
occurrence that any follow. -/
def searchNumeral {F : Type} (py : Interpreter F) (before : List Char) : List Char → Option String
  | [] => none
  | c :: rest =>
    let digits := ((c :: rest).drop before.length).takeWhile (isNumeral py)
    if before.isPrefixOf (c :: rest) ∧ digits ≠ [] then some (String.ofList digits)
    else searchNumeral py before rest

end python
