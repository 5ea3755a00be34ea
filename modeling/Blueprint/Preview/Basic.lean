import Blueprint.Preview.Execution
import Blueprint.Preview.Resolution

/-!
# Preview of variables

The preview says what each declared variable holds after a diagram has run, as far as that can be
told without running it. A variable may copy another one, so a resolution is made from those of the
variables it copies. Variables that copy one another in a circle are entangled and not followed;
`settle` works through the rest so that a resolution is made once, after those it needs.
-/

namespace Blueprint

/-- All that the preview of a diagram needs to know. -/
structure Survey where
  /-- What is executed. -/
  execution : Execution
  /-- The palette that tells variable nodes. -/
  palette : Palette
  /-- The declared variables. -/
  declarations : List Declaration
  /-- The links from each declared variable to those it copies. -/
  copyLinks : Links String
  /-- The declared variables that copy one another in a circle. -/
  entangled : List String

namespace Survey

/-- The names of declared variables, each once, in the order of their first declaration. -/
def declaredIds (declarations : List Declaration) : List String :=
  (declarations.map (·.id)).eraseDups

/-- The links from each declared variable to those it copies. Variables with a tainted assignment
are not followed. -/
def linksOf (x : Execution) (p : Palette) (declarations : List Declaration) : Links String :=
  (declaredIds declarations).map fun v => (v, if x.isTainted v then [] else x.copies p v)

/-- Surveys a diagram. -/
def of (d : Diagram) (p : Palette) (declarations : List Declaration) : Survey :=
  let execution := Execution.of d
  let copyLinks := linksOf execution p declarations
  { execution, palette := p, declarations, copyLinks
    entangled := copyLinks.looping (declaredIds declarations) }

/-- The declaration of a variable: the first one of its name. -/
def declaration? (s : Survey) (v : String) : Option Declaration :=
  s.declarations.find? (·.id == v)

/-- Whether there is an entry. -/
def hasEntry (s : Survey) : Bool := !s.execution.diagram.entryIds.isEmpty

/-- The variables whose resolutions are needed for that of a variable. -/
def needs (s : Survey) (v : String) : List String :=
  if s.entangled.contains v then [] else s.copyLinks.next v

/-- What a data edge brings, given the resolutions of other variables. The value of a variable node
is followed; any other would have to be computed. -/
def traced (s : Survey) (look : String → Resolution) (default : Value) (e : Edge) : Produced :=
  match s.execution.diagram.node? e.source with
  | none => ⟨default, .unknown⟩
  | some source =>
    match s.palette.isVariable source, source.boundTo? with
    | true, some w =>
      if (look w).status = .unknown then ⟨default, .unknown⟩
      else ⟨(look w).value, (look w).status⟩
    | _, _ => ⟨default, .unknown⟩

/-- What an assignment produces: the value that an edge brings, else the one entered by hand, else
the default. -/
def produced (s : Survey) (look : String → Resolution) (default : Value) (n : Node) : Produced :=
  match s.execution.feeds n with
  | [] => ⟨n.override?.getD default, .resolved⟩
  | [e] => s.traced look default e
  | _ => ⟨default, .ambiguous⟩

/-- The resolution of a declared variable, given the resolutions of other variables. -/
def resolve (s : Survey) (look : String → Resolution) (declared : Declaration) : Resolution :=
  let nodes := s.execution.assignments declared.id
  let candidates := nodes.map (·.id)
  if !s.hasEntry then ⟨declared.default, .unknown, none, []⟩
  else if s.execution.isTainted declared.id || s.entangled.contains declared.id then
    ⟨declared.default, .unknown, none, candidates⟩
  else
    Produced.combine declared.default candidates
      (nodes.map (s.produced look declared.default))

/-- Resolutions made so far, by variable. -/
abbrev Table := List (String × Resolution)

/-- The resolution of a variable in a table. -/
def Table.look (table : Table) (v : String) : Resolution :=
  (table.lookup v).getD .undeclared

/-- Makes the resolutions of the variables `todo` that the table lacks, one after the other, each
after those it needs. `pending` are the declared variables that no resolution under way waits
for. -/
def settle (s : Survey) : (todo pending : List String) → Table → Table
  | [], _, table => table
  | v :: todo, pending, table =>
    if (table.lookup v).isSome then settle s todo pending table
    else if _h : v ∈ pending then
      let table := settle s (s.needs v) (pending.erase v) table
      match s.declaration? v with
      | some declared => settle s todo pending ((v, s.resolve table.look declared) :: table)
      | none => settle s todo pending table
    else settle s todo pending table
termination_by todo pending => (pending.length, todo.length)
decreasing_by
  · exact Prod.Lex.right _ (by simp)
  · exact Prod.Lex.left _ _ (Links.length_erase_lt _h)
  · exact Prod.Lex.right _ (by simp)
  · exact Prod.Lex.right _ (by simp)
  · exact Prod.Lex.right _ (by simp)

/-- The table of all declared variables. -/
def table (s : Survey) : Table :=
  let ids := declaredIds s.declarations
  s.settle ids ids []

end Survey

/-- The resolution of each declared variable, in the order of their first declaration. -/
def Diagram.preview (d : Diagram) (p : Palette) (declarations : List Declaration) :
    List (String × Resolution) :=
  let table := (Survey.of d p declarations).table
  (Survey.declaredIds declarations).map fun v => (v, Survey.Table.look table v)

end Blueprint
