import Blueprint.Number.Binary64

/-!
# Dynamic values

Saved documents, node settings and variables hold values whose sort is known only when they are
looked at: scalars, lists, and maps. A map is ordered and its keys may be any scalar; two keys that
are numerically equal (`1`, `1.0` and `true`) are one key. `Value.ofEntries` builds maps by that
rule.
-/

namespace Blueprint

/-- A value without parts. -/
inductive Scalar where
  /-- The absent value. -/
  | null
  /-- A truth value. -/
  | bool (b : Bool)
  /-- A whole number of any size. -/
  | int (n : Int)
  /-- A double-precision number. -/
  | float (x : Binary64)
  /-- A text. -/
  | str (s : String)
deriving DecidableEq, Repr, Inhabited

/-- A dynamic value. -/
inductive Value where
  /-- A value without parts. -/
  | scalar (s : Scalar)
  /-- A list of values. -/
  | list (items : List Value)
  /-- An ordered map; `Value.ofEntries` keeps its keys apart. -/
  | map (entries : List (Scalar × Value))
deriving Repr, Inhabited

/-- The entries of a map, in order. -/
abbrev Fields := List (Scalar × Value)

namespace Value

/-- The absent value. -/
@[match_pattern]
abbrev null : Value := .scalar .null

/-- A truth value. -/
@[match_pattern]
abbrev bool (b : Bool) : Value := .scalar (.bool b)

/-- A whole number. -/
@[match_pattern]
abbrev int (n : Int) : Value := .scalar (.int n)

/-- A double-precision number. -/
@[match_pattern]
abbrev float (x : Binary64) : Value := .scalar (.float x)

/-- A text. -/
@[match_pattern]
abbrev str (s : String) : Value := .scalar (.str s)

end Value

/-! ## Marks -/

/-- What scalars are told apart by. -/
inductive Mark where
  /-- The mark of the absent value. -/
  | null
  /-- A number, in multiples of the least positive double. -/
  | number (units : Int)
  /-- An infinity. -/
  | infinite (negative : Bool)
  /-- An undefined number. -/
  | undefined (made : Nat)
  /-- A text. -/
  | text (s : String)
deriving DecidableEq, Repr

namespace Scalar

/-- The mark of a whole number. -/
def markOfInt (n : Int) : Mark := .number (n * Binary64.unitsPerOne)

/-- What a scalar is told apart by. Numbers go by their exact value, and truth values count as zero
and one. -/
def mark : Scalar → Mark
  | .null => .null
  | .bool b => markOfInt (if b then 1 else 0)
  | .int n => markOfInt n
  | .float (.nan made) => .undefined made
  | .float (.infinite negative) => .infinite negative
  | .float (.finite negative significand scale) =>
    .number (Binary64.units negative significand scale)
  | .str s => .text s

/-- Whether two scalars are one key of a map. -/
def agrees (a b : Scalar) : Bool := a.mark == b.mark

end Scalar

/-! ## Maps -/

namespace Fields

/-- Sets the value under a key. A key equal to one that is there keeps its place and its spelling;
a new key goes to the end. -/
def insert (fields : Fields) (key : Scalar) (value : Value) : Fields :=
  if fields.any (·.1.agrees key) then
    fields.map fun entry => if entry.1.agrees key then (entry.1, value) else entry
  else fields ++ [(key, value)]

/-- The value under a text key. -/
def get? (fields : Fields) (name : String) : Option Value :=
  fields.lookup (.str name)

/-- The value under a text key, or the absent value. -/
def get (fields : Fields) (name : String) : Value :=
  (fields.get? name).getD .null

/-- Whether there is a value, the absent one included, under a text key. -/
def has (fields : Fields) (name : String) : Bool :=
  (fields.get? name).isSome

end Fields

namespace Value

/-- A map with the given entries. Of entries under equal keys the last one gives the value, the
first one the place and the spelling of the key. -/
def ofEntries (entries : List (Scalar × Value)) : Value :=
  .map (entries.foldl (fun fields entry => Fields.insert fields entry.1 entry.2) [])

/-- The text a value holds, if it is a text. -/
def text? : Value → Option String
  | .str s => some s
  | _ => none

/-- Whether a value is one that stands for nothing: absent, false, zero, or empty. -/
def isVacant : Value → Bool
  | .null => true
  | .bool b => !b
  | .int n => n == 0
  | .float (.finite _ significand _) => significand == 0
  | .float _ => false
  | .str s => s.isEmpty
  | .list items => items.isEmpty
  | .map entries => entries.isEmpty

/-- A value, or a second one in place of a vacant value. -/
def orElse (a b : Value) : Value :=
  if a.isVacant then b else a

/-- What a value yields when it is gone through: a list its items, a map its keys, a text its
characters. Other values cannot be gone through. -/
def elements? : Value → Option (List Value)
  | .list items => some items
  | .map entries => some (entries.map fun entry => .scalar entry.1)
  | .str s => some (s.toList.map fun c => .str (String.singleton c))
  | _ => none

end Value

end Blueprint
