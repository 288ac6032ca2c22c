import KvMaterialization.Python.Binary64
import KvMaterialization.Python.Interpreter

namespace python

/-- A reading of `float` together with how its values compare for equality and
pass to and from exact fractions. -/
class PyNumber (F : Type) extends PyFloat F where
  /-- `x == y`. -/
  eq : F → F → Bool
  /-- `x.as_integer_ratio()`, which only a finite number has. -/
  ratio : F → Option ℚ
  /-- `float(fraction)`. -/
  ofRatio : ℚ → Except Exception F
  /-- The builtin `sum` of floats, whose compensation for rounding is the interpreter's own. -/
  sum : List F → F

instance : PyNumber ℚ where
  eq x y := decide (x = y)
  ratio := some
  ofRatio := .ok
  sum := List.sum

namespace Binary64

protected def eq : Binary64 → Binary64 → Bool
  | finite x _, finite y _ => decide (x = y)
  | infinity negative, infinity negative' => negative == negative'
  | _, _ => false

protected def ratio : Binary64 → Option ℚ
  | finite x _ => some x
  | infinity _ => none
  | nan => none

instance : PyNumber Binary64 where
  eq := Binary64.eq
  ratio := Binary64.ratio
  ofRatio := Binary64.ofReal
  sum values := values.foldl (· + ·) (lit 0)

end Binary64

/-- `x <= y`. -/
def pyLe {F : Type} [PyNumber F] (x y : F) : Bool := lt x y || PyNumber.eq x y

@[simp] theorem pyLe_exact (x y : ℚ) : pyLe x y = decide (x ≤ y) := by
  have hle : pyLe x y = (decide (x < y) || decide (x = y)) := rfl
  rw [hle, ← Bool.decide_or]
  simp only [le_iff_lt_or_eq]

/-- `abs(x)`. -/
def pyAbs {F : Type} [PyNumber F] (x : F) : F := if lt x (lit 0) then lit 0 - x else x

/-- `math.ceil(x)` -/
def ceil {F : Type} [PyNumber F] (x : F) : Except Exception ℤ :=
  match PyNumber.ratio x with
  | some fraction => .ok ⌈fraction⌉
  | none =>
    if PyNumber.eq x x then .error .overflow_error
    else .error (.value_error "cannot convert float NaN to integer")

/-- An `int` or a `float`, which mixed operations take alike. -/
inductive Number (F : Type) where
  | int (n : ℤ)
  | float (x : F)

namespace Number

variable {F : Type} [PyNumber F]

/-- Mixed comparisons are exact: a finite float is compared as the fraction it is. -/
protected def eq : Number F → Number F → Bool
  | .int m, .int n => decide (m = n)
  | .float x, .float y => PyNumber.eq x y
  | .int m, .float y => decide (PyNumber.ratio y = some (m : ℚ))
  | .float x, .int n => decide (PyNumber.ratio x = some (n : ℚ))

protected def lt : Number F → Number F → Bool
  | .int m, .int n => decide (m < n)
  | .float x, .float y => PyFloat.lt x y
  | .int m, .float y =>
    match PyNumber.ratio y with
    | some fraction => decide ((m : ℚ) < fraction)
    | none => PyFloat.lt (lit 0) y
  | .float x, .int n =>
    match PyNumber.ratio x with
    | some fraction => decide (fraction < (n : ℚ))
    | none => PyFloat.lt x (lit 0)

protected def le (x y : Number F) : Bool := x.lt y || x.eq y

/-- `float(x)` -/
def toFloat : Number F → Except Exception F
  | .int n => ofInt n
  | .float x => .ok x

/-- `int(x)` -/
def toInt : Number F → Except Exception ℤ
  | .int n => .ok n
  | .float x => PyFloat.trunc x

/-- `x / y` -/
protected def div : Number F → Number F → Except Exception F
  | .int m, .int n => intDiv m n
  | x, y => do PyFloat.div (← x.toFloat) (← y.toFloat)

/-- `x * y` -/
protected def mul : Number F → Number F → Except Exception (Number F)
  | .int m, .int n => .ok (.int (m * n))
  | x, y => do return .float ((← x.toFloat) * (← y.toFloat))

/-- `bool(x)` -/
def truthy : Number F → Bool
  | .int n => n != 0
  | .float x => !PyNumber.eq x (lit 0)

end Number

end python
