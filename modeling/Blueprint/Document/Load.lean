import Blueprint.Document.Fault

/-!
# Loading

Reading a document gives a result or a refusal and, either way, the warnings raised up to there.
-/

namespace Blueprint.Document

/-- The outcome of reading something: warnings in the order they were raised, and a result or a
refusal. -/
structure Load (α : Type) where
  /-- What was noticed on the way. -/
  warnings : List Warning
  /-- What was read. -/
  result : Except Malformed α

namespace Load

/-- A result without warnings. -/
protected def pure {α : Type} (a : α) : Load α := ⟨[], .ok a⟩

/-- Goes on with the result of a first part. A refusal ends the reading and keeps the warnings. -/
protected def bind {α β : Type} (x : Load α) (f : α → Load β) : Load β :=
  match x.result with
  | .ok a => ⟨x.warnings ++ (f a).warnings, (f a).result⟩
  | .error e => ⟨x.warnings, .error e⟩

instance : Monad Load where
  pure := Load.pure
  bind := Load.bind

/-- A part that raises no warnings. -/
def ofExcept {α : Type} (x : Except Malformed α) : Load α := ⟨[], x⟩

instance : MonadLift (Except Malformed) Load where
  monadLift := ofExcept

/-- Raises a warning. -/
def warn (w : Warning) : Load Unit := ⟨[w], .ok ()⟩

end Load

/-- Reads the members of a list one after the other, each with its position. -/
def readEach {m : Type → Type} [Monad m] {α β : Type} (read : Nat → α → m β) :
    (position : Nat) → List α → m (List β)
  | _, [] => pure []
  | position, a :: rest => do
    let b ← read position a
    let bs ← readEach read (position + 1) rest
    pure (b :: bs)

end Blueprint.Document
