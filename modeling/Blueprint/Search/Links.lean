/-!
# Links between points

The searches of this library run over points linked by an ordered table: each point has a row of
successors, in order and possibly with repetitions, and a point without a row has none.
-/

namespace Blueprint

/-- Points with their successors. -/
abbrev Links (α : Type) := List (α × List α)

namespace Links

variable {α : Type} [DecidableEq α]

/-- The table with one successor for each pair. Rows stand in the order in which their points first
occur on the left, and successors in the order of the pairs. -/
def ofPairs (pairs : List (α × α)) : Links α :=
  (pairs.map (·.1)).eraseDups.map fun x => (x, (pairs.filter (·.1 = x)).map (·.2))

/-- The successors of a point. -/
def next (links : Links α) (x : α) : List α := (links.lookup x).getD []

/-- One step from a point to one of its successors. -/
def Step (links : Links α) (x y : α) : Prop := y ∈ links.next x

/-- The points that a search from the given ones can meet, each once. -/
def points (links : Links α) (starts : List α) : List α :=
  (starts ++ links.flatMap (·.2)).eraseDups

/-- Taking a point off a list makes it shorter: every search goes on with fewer fresh points or with
fewer points to do. -/
theorem length_erase_lt {fresh : List α} {x : α} (h : x ∈ fresh) :
    (fresh.erase x).length < fresh.length := by
  rw [List.length_erase_of_mem h]
  have := List.length_pos_of_mem h
  omega

end Links

end Blueprint
