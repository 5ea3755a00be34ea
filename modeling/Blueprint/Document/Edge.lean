import Blueprint.Diagram.Basic
import Blueprint.Document.Field

/-!
# Edge records

An edge record gives a name, two ends, and perhaps ports and a kind of flow. A record from an older
document may nest a second record, which becomes the edge's snapshot and stands in for ends that the
outer record leaves out.
-/

namespace Blueprint.Document

/-- The source that an edge record states. -/
def sourceOf (record : Fields) : Value := record.spelled ["sourceNode", "source"]

/-- The target that an edge record states. -/
def targetOf (record : Fields) : Value := record.spelled ["targetNode", "target"]

/-- Reads what an edge record says besides its name: its ends, as given, its ports and its kind of
flow. Ends that are not texts are the given fault. -/
def readLink (place : Place) (id : String) (source target : Value) (ends : Fault)
    (record : Fields) : Except Malformed Link :=
  match source, target with
  | .str source, .str target => do
    let sourcePort ← optionalText place "sourcePort" (record.spelled ["sourcePort"])
    let targetPort ← optionalText place "targetPort" (record.spelled ["targetPort"])
    let statedFlow ← optionalFlow place (record.get "kind")
    pure { id, source, target, sourcePort, targetPort, statedFlow }
  | _, _ => .error ⟨place, ends⟩

/-- Reads the record nested in an edge. Its name may be missing or of any sort, and is taken in plain
form. -/
def readSnapshot (edge : String) (v : Value) : Except Malformed Link := do
  let record ← asMap (.nestedEdge edge) v
  let id := ((record.get? "id").getD (.str "")).plain
  readLink (.edge edge) id (sourceOf record) (targetOf record) .nestedEndsMissing record

/-- The snapshot of an edge, if its record nests one. -/
def snapshotOf (edge : String) (record : Fields) : Except Malformed (Option Link) :=
  match record.spelled ["blueprintEdge"] with
  | .null => .ok none
  | nested => do
    let link ← readSnapshot edge nested
    pure (some link)

/-- An end of an edge: the one stated, or in its absence that of the snapshot. -/
def endOr (stated : Value) (fallback : Option String) : Value :=
  match stated, fallback with
  | .null, some id => .str id
  | v, _ => v

/-- Reads an edge record. -/
def readEdge (position : Nat) (v : Value) : Except Malformed Edge := do
  let record ← asMap (.edgeAt position) v
  let id ← requireId (.edgeAt position) record
  let snapshot ← snapshotOf id record
  let source := endOr (sourceOf record) (snapshot.map (·.source))
  let target := endOr (targetOf record) (snapshot.map (·.target))
  let link ← readLink (.edge id) id source target .endsMissing record
  pure { link with snapshot }

end Blueprint.Document
