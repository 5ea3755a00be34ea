/-!
# Runs of code points

Properties of characters are given by tables of runs of code points, as of Unicode 14.0. The runs of
a table stand in order, each with its first and its last member.
-/

namespace Blueprint.Text

/-- Whether a code point belongs to one of some runs. Only the first run that does not end before it
can have it. -/
def covers (runs : List (Nat × Nat)) (n : Nat) : Bool :=
  match runs.find? (n ≤ ·.2) with
  | some run => run.1 ≤ n
  | none => false

end Blueprint.Text
