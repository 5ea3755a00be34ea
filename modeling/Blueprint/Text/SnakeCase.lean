import Blueprint.Text.Case

/-!
# Snake case

The normal form of keys: an underscore goes before each capital `A` to `Z` that does not open the
key, and then all letters become small. A key already in normal form is left as it is.
-/

namespace Blueprint.Text

/-- The characters of a key, with an underscore before each capital `A` to `Z` but the first
character. -/
def separated : List Char → List Char
  | [] => []
  | c :: cs => c :: cs.flatMap fun c => if c.isUpper then ['_', c] else [c]

/-- A key in normal form. -/
def snakeCase (key : String) : String := lower (String.ofList (separated key.toList))

end Blueprint.Text
