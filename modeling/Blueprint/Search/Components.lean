import Blueprint.Search.Links

/-!
# Points on loops

A point lies on a loop if it can be reached from itself by one step or more. All such points are
found in one depth-first search that keeps, on a stack, the points whose component is still open. A
point closes its component when nothing found below it leads further down the stack than itself;
the points above it on the stack are then the points that it reaches and that reach it.
-/

namespace Blueprint.Links

variable {α : Type} [DecidableEq α]

/-- How far the search for components has come. -/
structure Progress (α : Type) where
  /-- The points of open components, the last one found first. -/
  stack : List α := []
  /-- The points of closed components. -/
  closed : List α := []
  /-- Those of the closed points that lie on a loop. -/
  looping : List α := []

/-- How many points lie below a point on the stack. -/
def Progress.height (s : Progress α) (x : α) : Nat :=
  (s.stack.dropWhile (· ≠ x)).tail.length

/-- Closes the component of `x`, the points of the stack from height `base` up. They lie on loops if
there are several of them, or if `x` is its own successor. -/
def Progress.close (s : Progress α) (links : Links α) (x : α) (base : Nat) : Progress α :=
  let component := s.stack.take (s.stack.length - base)
  { stack := s.stack.drop (s.stack.length - base)
    closed := component ++ s.closed
    looping := if 1 < component.length ∨ x ∈ links.next x then component ++ s.looping
      else s.looping }

/-- Searches below each of the points `todo`, one after the other. `fresh` are the points that are
not on the search's path, and `low` is the least height on the stack that was led to so far; the
least height led to in the end is returned with the progress made. -/
def scan (links : Links α) :
    (todo fresh : List α) → (low : Nat) → Progress α → Nat × Progress α
  | [], _, low, s => (low, s)
  | x :: todo, fresh, low, s =>
    if x ∈ s.closed then scan links todo fresh low s
    else if _h : x ∈ fresh ∧ x ∉ s.stack then
      let base := s.stack.length
      let below := scan links (links.next x) (fresh.erase x) base { s with stack := x :: s.stack }
      let s := if below.1 = base then below.2.close links x base else below.2
      scan links todo fresh (min low below.1) s
    else scan links todo fresh (min low (s.height x)) s
termination_by todo fresh => (fresh.length, todo.length)
decreasing_by
  · exact Prod.Lex.right _ (by simp)
  · exact Prod.Lex.left _ _ (length_erase_lt _h.1)
  · exact Prod.Lex.right _ (by simp)
  · exact Prod.Lex.right _ (by simp)

/-- The points on loops that can be reached from the starting points. -/
def looping (links : Links α) (starts : List α) : List α :=
  (links.scan starts (links.points starts) 0 {}).2.looping

end Blueprint.Links
