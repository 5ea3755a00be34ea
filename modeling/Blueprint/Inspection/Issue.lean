import Blueprint.Diagram.Basic

/-!
# Issues

What an inspection can find wrong with a diagram. An issue carries the nodes and edges it is about;
its rule, its text and the names it refers to are read off it.
-/

namespace Blueprint

/-- How much an issue weighs. -/
inductive Severity where
  /-- No program can be made of the diagram. -/
  | error
  /-- Worth a look. -/
  | warning
deriving DecidableEq, Repr

/-- How a severity is written. -/
def Severity.text : Severity → String
  | error => "error"
  | warning => "warning"

/-- The rules a diagram is inspected by. -/
inductive Rule where
  /-- There is a node. -/
  | graphEmpty
  /-- There is an entry. -/
  | entryMissing
  /-- There are not several entries. -/
  | entryMultiple
  /-- There is an exit. -/
  | exitMissing
  /-- Both ends of an edge are nodes. -/
  | edgeMissingNode
  /-- An edge does not lead back to its own source. -/
  | edgeSelfLoop
  /-- Control does not leave an exit. -/
  | controlFromExit
  /-- Control does not arrive at an entry. -/
  | controlIntoEntry
  /-- Data stays clear of entries. -/
  | dataTouchesEntry
  /-- Data does not leave an exit. -/
  | dataFromExit
  /-- Some edge carries control. -/
  | noControlFlow
  /-- No edge repeats an earlier one. -/
  | edgeDuplicate
  /-- No control edge arrives at the entry. -/
  | entryHasIncoming
  /-- Some control edge leaves the entry. -/
  | entryNoOutgoing
  /-- No control edge leaves the exit. -/
  | exitHasOutgoing
  /-- Some control edge arrives at the exit. -/
  | exitNoIncoming
  /-- Every node that takes part in execution is reached from the entry. -/
  | nodeUnreachable
  /-- Control does not go round in circles. -/
  | controlCycle
  /-- Variable nodes are linked in the usual way. -/
  | dataVariableToVariable
deriving DecidableEq, Repr

namespace Rule

/-- The code of a rule. -/
def code : Rule → String
  | graphEmpty => "GRAPH_EMPTY"
  | entryMissing => "ENTRY_MISSING"
  | entryMultiple => "ENTRY_MULTIPLE"
  | exitMissing => "EXIT_MISSING"
  | edgeMissingNode => "EDGE_MISSING_NODE"
  | edgeSelfLoop => "EDGE_SELF_LOOP"
  | controlFromExit => "CONTROL_FROM_EXIT"
  | controlIntoEntry => "CONTROL_INTO_ENTRY"
  | dataTouchesEntry => "DATA_TOUCHES_ENTRY"
  | dataFromExit => "DATA_FROM_EXIT"
  | noControlFlow => "NO_CONTROL_FLOW"
  | edgeDuplicate => "EDGE_DUPLICATE"
  | entryHasIncoming => "ENTRY_HAS_INCOMING"
  | entryNoOutgoing => "ENTRY_NO_OUTGOING"
  | exitHasOutgoing => "EXIT_HAS_OUTGOING"
  | exitNoIncoming => "EXIT_NO_INCOMING"
  | nodeUnreachable => "NODE_UNREACHABLE"
  | controlCycle => "CONTROL_CYCLE"
  | dataVariableToVariable => "DATA_VARIABLE_TO_VARIABLE"

/-- How much breaking a rule weighs. -/
def severity : Rule → Severity
  | edgeDuplicate | entryNoOutgoing | exitNoIncoming | dataVariableToVariable => .warning
  | _ => .error

end Rule

/-- One way in which a diagram breaks a rule. -/
inductive Issue where
  /-- There are no nodes. -/
  | graphEmpty
  /-- There is no entry. -/
  | entryMissing
  /-- There are several entries. -/
  | entryMultiple (entries : List Node)
  /-- There is no exit. -/
  | exitMissing
  /-- An end of the edge at this position, counted from one, is no node. -/
  | edgeMissingNode (position : Nat) (e : Edge)
  /-- The edge leads back to its own source. -/
  | edgeSelfLoop (e : Edge)
  /-- The control edge leaves an exit. -/
  | controlFromExit (e : Edge) (source : Node)
  /-- The control edge arrives at an entry. -/
  | controlIntoEntry (e : Edge) (target : Node)
  /-- The data edge leaves or arrives at an entry. -/
  | dataTouchesEntry (e : Edge)
  /-- The data edge leaves an exit. -/
  | dataFromExit (e : Edge)
  /-- There are several nodes and no control edge. -/
  | noControlFlow
  /-- The edge repeats an earlier one. -/
  | edgeDuplicate (e : Edge)
  /-- A control edge arrives at the only entry. -/
  | entryHasIncoming (entry : Node)
  /-- No control edge leaves the only entry. -/
  | entryNoOutgoing (entry : Node)
  /-- A control edge leaves the exit. -/
  | exitHasOutgoing (exit : Node)
  /-- No control edge arrives at the exit. -/
  | exitNoIncoming (exit : Node)
  /-- The nodes take part in execution and are not reached from the only entry. -/
  | nodeUnreachable (nodes : List Node)
  /-- Control goes round along these nodes. -/
  | controlCycle (walk : List String)
  /-- The data edge links two variable nodes in an unusual way. -/
  | dataVariableToVariable (e : Edge)

namespace Issue

/-- The rule that is broken. -/
def rule : Issue → Rule
  | graphEmpty => .graphEmpty
  | entryMissing => .entryMissing
  | entryMultiple _ => .entryMultiple
  | exitMissing => .exitMissing
  | edgeMissingNode _ _ => .edgeMissingNode
  | edgeSelfLoop _ => .edgeSelfLoop
  | controlFromExit _ _ => .controlFromExit
  | controlIntoEntry _ _ => .controlIntoEntry
  | dataTouchesEntry _ => .dataTouchesEntry
  | dataFromExit _ => .dataFromExit
  | noControlFlow => .noControlFlow
  | edgeDuplicate _ => .edgeDuplicate
  | entryHasIncoming _ => .entryHasIncoming
  | entryNoOutgoing _ => .entryNoOutgoing
  | exitHasOutgoing _ => .exitHasOutgoing
  | exitNoIncoming _ => .exitNoIncoming
  | nodeUnreachable _ => .nodeUnreachable
  | controlCycle _ => .controlCycle
  | dataVariableToVariable _ => .dataVariableToVariable

/-- The code of an issue. -/
def code (i : Issue) : String := i.rule.code

/-- The weight of an issue. -/
def severity (i : Issue) : Severity := i.rule.severity

/-- The ends of an edge, for messages. -/
def endsText (e : Edge) : String := e.source ++ " -> " ++ e.target

/-- A label in double quotes, for messages. -/
def labelText (n : Node) : String := "\"" ++ n.label ++ "\""

/-- What a node is called in a list of nodes: its label, or its name if it has none. -/
def caption (n : Node) : String := if n.label.isEmpty then n.id else n.label

/-- The text of an issue. -/
def message : Issue → String
  | graphEmpty => "Graph must contain at least one node."
  | entryMissing => "Graph has no Entry node."
  | entryMultiple entries =>
    "Found " ++ toString entries.length ++ " Entry nodes; only one Entry node allowed."
  | exitMissing => "Graph has no Exit node."
  | edgeMissingNode position e =>
    "Edge #" ++ toString position ++ " (" ++ e.id ++ ") references missing nodes."
  | edgeSelfLoop e => "Edge " ++ e.id ++ " creates a self-loop on " ++ e.source ++ "."
  | controlFromExit e source =>
    "Control edge " ++ endsText e ++ " cannot start from Exit node " ++ labelText source ++ "."
  | controlIntoEntry e target =>
    "Control edge " ++ endsText e ++ " cannot target Entry node " ++ labelText target ++ "."
  | dataTouchesEntry e => "Data edge " ++ endsText e ++ " cannot involve Entry nodes."
  | dataFromExit e => "Data edge " ++ endsText e ++ " cannot originate from Exit nodes."
  | noControlFlow => "Graph has no control-flow connections."
  | edgeDuplicate e => "Duplicate edge " ++ endsText e ++ " (" ++ e.flow.text ++ ")."
  | entryHasIncoming entry =>
    "Entry node " ++ labelText entry ++ " cannot have incoming control edges."
  | entryNoOutgoing entry => "Entry node " ++ labelText entry ++ " has no outgoing control edges."
  | exitHasOutgoing exit =>
    "Exit node " ++ labelText exit ++ " cannot have outgoing control edges."
  | exitNoIncoming exit => "Exit node " ++ labelText exit ++ " has no incoming control edges."
  | nodeUnreachable nodes => "Unreachable nodes: " ++ ", ".intercalate (nodes.map caption) ++ "."
  | controlCycle walk => "Control-flow cycle detected: " ++ " -> ".intercalate walk ++ "."
  | dataVariableToVariable e => "Data edge " ++ endsText e ++ " connects two Variable nodes."

/-- The names of the nodes an issue is about. -/
def nodes : Issue → List String
  | entryMultiple entries => entries.map (·.id)
  | edgeSelfLoop e => [e.source]
  | controlFromExit e _ => [e.source]
  | controlIntoEntry e _ => [e.target]
  | dataTouchesEntry e => [e.source, e.target]
  | dataFromExit e => [e.source]
  | entryHasIncoming n | entryNoOutgoing n | exitHasOutgoing n | exitNoIncoming n => [n.id]
  | nodeUnreachable nodes => nodes.map (·.id)
  | controlCycle walk => walk
  | dataVariableToVariable e => [e.source, e.target]
  | graphEmpty | entryMissing | exitMissing | edgeMissingNode _ _ | noControlFlow
  | edgeDuplicate _ => []

/-- The names of the edges an issue is about. -/
def edges : Issue → List String
  | edgeMissingNode _ e | edgeSelfLoop e | controlFromExit e _ | controlIntoEntry e _
  | dataTouchesEntry e | dataFromExit e | edgeDuplicate e | dataVariableToVariable e => [e.id]
  | graphEmpty | entryMissing | entryMultiple _ | exitMissing | noControlFlow
  | entryHasIncoming _ | entryNoOutgoing _ | exitHasOutgoing _ | exitNoIncoming _
  | nodeUnreachable _ | controlCycle _ => []

end Issue

end Blueprint
