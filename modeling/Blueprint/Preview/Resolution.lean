import Blueprint.Value.Frozen

/-!
# Resolutions

What a variable is found to hold, how sure that is, and which nodes assign it. Several assignments
are put together by comparing the values of those that are sure.
-/

namespace Blueprint

/-- How sure a value is. -/
inductive Status where
  /-- The variable holds the value. -/
  | resolved
  /-- Assignments disagree. -/
  | ambiguous
  /-- It cannot be told. -/
  | unknown
deriving DecidableEq, Repr

/-- How a status is written. -/
def Status.text : Status → String
  | resolved => "resolved"
  | ambiguous => "ambiguous"
  | unknown => "unknown"

/-- What is found out about a variable. -/
structure Resolution where
  /-- The value found, or the default. -/
  value : Value
  /-- How sure the value is. -/
  status : Status
  /-- The node that assigns the value, if it is the only one. -/
  source : Option String := none
  /-- The nodes that assign the variable, in the order of execution. -/
  candidates : List String := []

/-- What is found out about a variable that is not declared. -/
def Resolution.undeclared : Resolution := ⟨.null, .unknown, none, []⟩

/-- The value that one assignment produces. -/
structure Produced where
  /-- The value. -/
  value : Value
  /-- How sure it is. -/
  status : Status

namespace Produced

/-- The value, if it is sure. -/
def settled? (m : Produced) : Option Value :=
  if m.status = .resolved then some m.value else none

/-- Whether some value differs from the first one. -/
def disagree : List Value → Bool
  | [] => false
  | first :: rest => rest.any fun v => !v.same first

/-- Puts together what the assignments of a variable produce. A single assignment decides alone.
Several are ambiguous if one of them is or if sure values differ, else unknown if one of them is,
else they agree. -/
def combine (default : Value) (candidates : List String) : List Produced → Resolution
  | [] => ⟨default, .resolved, none, candidates⟩
  | [only] => ⟨only.value, only.status, candidates.head?, candidates⟩
  | first :: second :: rest =>
    let all := first :: second :: rest
    if disagree (all.filterMap settled?) || all.any (·.status = .ambiguous) then
      ⟨first.value, .ambiguous, none, candidates⟩
    else if all.any (·.status = .unknown) then ⟨default, .unknown, none, candidates⟩
    else ⟨first.value, .resolved, none, candidates⟩

end Produced

end Blueprint
