import Blueprint.Search.Links

/-!
# Breadth-first search

The points that can be reached from some starting points, in the order in which a search meets them
that looks at all successors of one point before it goes further.
-/

namespace Blueprint.Links

variable {α : Type} [DecidableEq α]

/-- Takes points off the front of a queue. A point that is still fresh is visited and its successors
join the queue at the end; any other point is dropped. -/
def visit (links : Links α) : (queue fresh : List α) → List α
  | [], _ => []
  | x :: queue, fresh =>
    if _h : x ∈ fresh then x :: visit links (queue ++ links.next x) (fresh.erase x)
    else visit links queue fresh
termination_by queue fresh => (fresh.length, queue.length)
decreasing_by
  · exact Prod.Lex.left _ _ (length_erase_lt _h)
  · exact Prod.Lex.right _ (by simp)

/-- The points reachable from the starting points, in breadth-first order. -/
def reach (links : Links α) (starts : List α) : List α :=
  links.visit starts (links.points starts)

end Blueprint.Links
