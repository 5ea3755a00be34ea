import Blueprint.Number.Shortest
import Blueprint.Text.Quoted
import Blueprint.Value.Basic

/-!
# Values as text

A value has a literal form, in which texts are quoted, and a plain form, in which a text stands for
itself. Inside lists and maps every text is quoted. The name of a value's sort is what messages
about a value of the wrong sort call it.
-/

namespace Blueprint

/-- The literal form of a scalar. -/
def Scalar.literal : Scalar → String
  | .null => "None"
  | .bool b => if b then "True" else "False"
  | .int n => toString n
  | .float x => x.text
  | .str s => Text.quoted s

namespace Value

mutual

/-- The literal form of a value. -/
def literal : Value → String
  | .scalar s => s.literal
  | .list items => "[" ++ ", ".intercalate (literals items) ++ "]"
  | .map entries => "\x7b" ++ ", ".intercalate (entryLiterals entries) ++ "\x7d"

/-- The literal forms of the items of a list. -/
def literals : List Value → List String
  | [] => []
  | v :: vs => v.literal :: literals vs

/-- The literal forms of the entries of a map. -/
def entryLiterals : List (Scalar × Value) → List String
  | [] => []
  | (k, v) :: rest => (k.literal ++ ": " ++ v.literal) :: entryLiterals rest

end

/-- The plain form of a value. -/
def plain : Value → String
  | .str s => s
  | v => v.literal

end Value

/-- The plain form of a scalar. -/
def Scalar.plain (s : Scalar) : String := (Value.scalar s).plain

/-- The sort of a value. -/
inductive Shape where
  /-- Absent. -/
  | null
  /-- A truth value. -/
  | bool
  /-- A whole number. -/
  | int
  /-- A double-precision number. -/
  | float
  /-- A text. -/
  | str
  /-- A list. -/
  | list
  /-- A map. -/
  | map
deriving DecidableEq, Repr

/-- What messages call a sort. -/
def Shape.name : Shape → String
  | null => "NoneType"
  | bool => "bool"
  | int => "int"
  | float => "float"
  | str => "str"
  | list => "list"
  | map => "dict"

/-- The sort of a value. -/
def Value.shape : Value → Shape
  | .null => .null
  | .bool _ => .bool
  | .int _ => .int
  | .float _ => .float
  | .str _ => .str
  | .list _ => .list
  | .map _ => .map

end Blueprint
