import Blueprint.Audit.Program
import Blueprint.Text.Case
import Blueprint.Text.Quoted

/-!
# Audit of issue codes

The issue codes of a program are the names in capitals to which a statement of the program itself,
not of a body in it, assigns a constant text. Each must be spelled like its name, stand for itself
alone, be exported and be reported by some call.
-/

namespace Blueprint.Audit

/-- An issue code that a program declares. -/
structure Code where
  /-- Its name. -/
  name : String
  /-- The line of its last assignment. -/
  line : Nat
  /-- The text assigned there. -/
  value : String
deriving DecidableEq, Repr

/-- The code that a statement assigns: its only target is a name in capitals and its value a
text. -/
def codeOf? : Nat × Statement → Option Code
  | (line, .assign [.name name] (.constant (.str value))) =>
    if Text.inCapitals name then some ⟨name, line, value⟩ else none
  | _ => none

/-- Replaces the code of the same name, or adds the code at the end. -/
def putCode (c : Code) : List Code → List Code
  | [] => [c]
  | d :: rest => if d.name = c.name then c :: rest else d :: putCode c rest

/-- The codes of a program, in the order of their first assignment, as of their last one. -/
def codes (program : Program) : List Code :=
  ((Program.located 1 program).filterMap codeOf?).foldl (fun known c => putCode c known) []

/-- The name that a program lists its exports under. -/
def exportsName : String := "__all__"

/-- Whether an expression is the name of the exports. -/
def isExportsName : Expression → Bool
  | .name id => id == exportsName
  | _ => false

/-- The text of a constant text. -/
def constantText? : Expression → Option String
  | .constant (.str s) => some s
  | _ => none

/-- The texts of the list that a statement assigns to the exports. -/
def exportsOf? : Statement → Option (List String)
  | .assign targets (.list items) =>
    if targets.any isExportsName then some (items.filterMap constantText?) else none
  | _ => none

/-- The names that a program exports: its first assignment of a list to the exports counts. -/
def exported (program : Program) : List String := (program.findSome? exportsOf?).getD []

/-- Codes that are reported in another way than by a call. -/
def reportedElsewhere : List String := ["GRAPH_EMPTY"]

/-- What can be wrong with a code. -/
inductive Problem where
  /-- Its text is not its name. -/
  | misspelled (value : String)
  /-- An earlier code has the same text. -/
  | duplicates (first : String)
  /-- It is not exported. -/
  | unexported
  /-- No call reports it. -/
  | unreported
deriving DecidableEq, Repr

/-- A code with something wrong about it. -/
structure Violation where
  /-- The code. -/
  code : Code
  /-- What is wrong. -/
  problem : Problem
deriving DecidableEq, Repr

/-- The text of a violation. -/
def Violation.message (v : Violation) : String :=
  match v.problem with
  | .misspelled value => v.code.name ++ " is spelled " ++ Text.quoted value
  | .duplicates first => v.code.name ++ " duplicates " ++ first
  | .unexported => v.code.name ++ " missing from " ++ exportsName
  | .unreported => v.code.name ++ " is never reported"

/-- The problems of a code, given the codes before it and the names exported and reported. -/
def problems (earlier : List Code) (exported reported : List String) (c : Code) : List Problem :=
  (if c.value = c.name then [] else [.misspelled c.value]) ++
    (match earlier.find? (·.value == c.value) with
      | some first => [.duplicates first.name]
      | none => []) ++
    (if c.name ∈ exported then [] else [.unexported]) ++
    (if c.name ∈ reported ∨ c.name ∈ reportedElsewhere then [] else [.unreported])

/-- The violations of codes, each looked at with those before it. -/
def violationsOf (exported reported : List String) :
    (earlier : List Code) → List Code → List Violation
  | _, [] => []
  | earlier, c :: rest =>
    (problems earlier exported reported c).map (⟨c, ·⟩) ++
      violationsOf exported reported (earlier ++ [c]) rest

/-- The violations of a program. -/
def violations (program : Program) : List Violation :=
  violationsOf (exported program) (Program.reported program) [] (codes program)

/-- What an audit prints about a program kept at a path. -/
def printed (path : String) (program : Program) : List String :=
  match violations program with
  | [] => ["semantic-lint: ok"]
  | found =>
    "semantic-lint: issue code problems:" :: found.map fun v =>
      "  - " ++ path ++ ":" ++ toString v.code.line ++ ": " ++ v.message

/-- The exit status of an audit. -/
def status (program : Program) : Nat := if (violations program).isEmpty then 0 else 1

end Blueprint.Audit
