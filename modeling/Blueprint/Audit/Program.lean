import Blueprint.Value.Basic

/-!
# Audited programs

The statements and expressions of the source module that declares the issue codes. Forms that an
audit does not tell apart (operators, comprehensions, loops, handlers and the like) are one compound
form, with the expressions and the statements in it. A simple statement takes one line; one with a
body takes a line for its head and then the lines of its body.
-/

namespace Blueprint.Audit

/-- An expression. -/
inductive Expression where
  /-- A name. -/
  | name (id : String)
  /-- A constant. -/
  | constant (value : Scalar)
  /-- A list display. -/
  | list (items : List Expression)
  /-- A tuple display. -/
  | tuple (items : List Expression)
  /-- A member of an object. -/
  | member (object : Expression) (name : String)
  /-- A call, with its positional and its named arguments. -/
  | call (function : Expression) (arguments : List Expression)
      (named : List (String × Expression))
  /-- Any other expression, by its parts. -/
  | compound (parts : List Expression)
deriving Inhabited

/-- A statement. -/
inductive Statement where
  /-- Assigns a value to each of its targets. -/
  | assign (targets : List Expression) (value : Expression)
  /-- Assigns a value to a target of a stated type. -/
  | annotated (target value : Expression)
  /-- Adds a value to a target. -/
  | augmented (target value : Expression)
  /-- Evaluates an expression. -/
  | evaluate (e : Expression)
  /-- Returns a value. -/
  | giveBack (e : Expression)
  /-- Defines a function. -/
  | function (name : String) (body : List Statement)
  /-- Defines a class. -/
  | classDefinition (name : String) (body : List Statement)
  /-- Runs its body on a condition. -/
  | conditional (test : Expression) (body : List Statement)
  /-- Any other statement, by the expressions and the statements in it. -/
  | compound (parts : List Expression) (body : List Statement)
  /-- Empty lines. -/
  | blank (lines : Nat)
deriving Inhabited

/-- The statements of a source module. -/
abbrev Program := List Statement

mutual

/-- How many lines a statement takes. -/
def Statement.lines : Statement → Nat
  | .function _ body | .classDefinition _ body | .conditional _ body | .compound _ body =>
    1 + Program.lines body
  | .blank n => n
  | _ => 1

/-- How many lines statements take. -/
def Program.lines : List Statement → Nat
  | [] => 0
  | s :: rest => s.lines + Program.lines rest

end

/-- Statements with the lines on which they start, the first of which is given. -/
def Program.located (line : Nat) : Program → List (Nat × Statement)
  | [] => []
  | s :: rest => (line, s) :: Program.located (line + s.lines) rest

/-! ## Reporting calls -/

/-- The member through which a program reports an issue. -/
def reportingMember : String := "_push"

/-- The name that a call reports: its first positional argument, if the call is to the member for
reporting and the argument is a plain name. -/
def reportedBy : Expression → List Expression → List String
  | .member _ called, .name id :: _ => if called = reportingMember then [id] else []
  | _, _ => []

mutual

/-- The names that the calls in an expression report, at any depth. -/
def Expression.reported : Expression → List String
  | .name _ | .constant _ => []
  | .list items | .tuple items | .compound items => reportedInAll items
  | .member object _ => object.reported
  | .call function arguments named =>
    reportedBy function arguments ++ function.reported ++ reportedInAll arguments ++
      reportedInNamed named

/-- The names that the calls in some expressions report. -/
def reportedInAll : List Expression → List String
  | [] => []
  | e :: rest => e.reported ++ reportedInAll rest

/-- The names that the calls in named arguments report. -/
def reportedInNamed : List (String × Expression) → List String
  | [] => []
  | (_, e) :: rest => e.reported ++ reportedInNamed rest

end

mutual

/-- The names that the calls in a statement report, at any depth. -/
def Statement.reported : Statement → List String
  | .assign targets value => reportedInAll targets ++ value.reported
  | .annotated target value | .augmented target value => target.reported ++ value.reported
  | .evaluate e | .giveBack e => e.reported
  | .function _ body | .classDefinition _ body => Program.reported body
  | .conditional test body => test.reported ++ Program.reported body
  | .compound parts body => reportedInAll parts ++ Program.reported body
  | .blank _ => []

/-- The names that the calls in a program report, at any depth. -/
def Program.reported : List Statement → List String
  | [] => []
  | s :: rest => s.reported ++ Program.reported rest

end

end Blueprint.Audit
