import Blueprint.Document.Load
import Blueprint.Text.SnakeCase

/-!
# Fields of records

A record is a map with known keys. A key may be written in camel case or in snake case; where both
are there the camel case counts, even if it holds nothing. Reading a field fails at a place, with a
fault.
-/

namespace Blueprint

/-- The value under the first key that is there, among the given ones and their snake case forms;
the absent value if none is. -/
def Fields.spelled (fields : Fields) (names : List String) : Value :=
  ((names.flatMap fun name => [name, Text.snakeCase name]).findSome? fields.get?).getD .null

namespace Document

/-- The entries of a map. -/
def asMap (place : Place) : Value → Except Malformed Fields
  | .map entries => .ok entries
  | v => .error ⟨place, .notMap v.shape⟩

/-- The items of a list; an absent list has none. -/
def asList (place : Place) : Value → Except Malformed (List Value)
  | .null => .ok []
  | .list items => .ok items
  | v => .error ⟨place, .notList v.shape⟩

/-- The name of a record: a text with characters in it. -/
def requireId (place : Place) (record : Fields) : Except Malformed String :=
  match record.get "id" with
  | .str id => if id.isEmpty then .error ⟨place, .missingId⟩ else .ok id
  | _ => .error ⟨place, .missingId⟩

/-- A text that may be absent. -/
def optionalText (place : Place) (key : String) : Value → Except Malformed (Option String)
  | .null => .ok none
  | .str s => .ok (some s)
  | _ => .error ⟨place, .notText key⟩

/-- A kind of flow that may be absent. -/
def optionalFlow (place : Place) : Value → Except Malformed (Option Flow)
  | .null => .ok none
  | .str s =>
    match Flow.ofText? s with
    | some flow => .ok (some flow)
    | none => .error ⟨place, .unknownFlow s⟩
  | _ => .error ⟨place, .notText "kind"⟩

end Document

end Blueprint
