import Blueprint.Search.Links

/-!
# Finding a loop

A depth-first search that stops at the first step leading back to a point of its own path. The part
of the path from that point on, closed by the step, is the loop it reports.
-/

namespace Blueprint.Links

variable {α : Type} [DecidableEq α]

/-- The loop closed by a step to `x`, a point of the path. The path has its last point first. -/
def loopAt (x : α) (path : List α) : List α :=
  x :: (path.takeWhile (· ≠ x)).reverse ++ [x]

/-- Looks for a loop below each of the points `todo`, one after the other. `fresh` are the points
that are not on the path, and `done` those below which there is no loop; without a loop the answer
is what is done at the end. -/
def explore (links : Links α) : (todo fresh path done : List α) → Except (List α) (List α)
  | [], _, _, done => .ok done
  | x :: todo, fresh, path, done =>
    if x ∈ done then explore links todo fresh path done
    else if _h : x ∈ fresh then
      match explore links (links.next x) (fresh.erase x) (x :: path) done with
      | .error loop => .error loop
      | .ok done => explore links todo fresh path (x :: done)
    else .error (loopAt x path)
termination_by todo fresh => (fresh.length, todo.length)
decreasing_by
  · exact Prod.Lex.right _ (by simp)
  · exact Prod.Lex.left _ _ (length_erase_lt _h)
  · exact Prod.Lex.right _ (by simp)

/-- The first loop that a depth-first search from the starting points meets: a list of points, each
a successor of the one before it, that ends where it begins. -/
def loop? (links : Links α) (starts : List α) : Option (List α) :=
  match links.explore starts (links.points starts) [] [] with
  | .error loop => some loop
  | .ok _ => none

end Blueprint.Links
