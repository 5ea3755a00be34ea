import Blueprint.Text.Letters

/-!
# Letter case

A text is put into small letters character by character. Two characters do not just go by the
table: a capital sigma at the end of a word has a small letter of its own, and the dotted capital
`I` leaves its dot behind.
-/

namespace Blueprint.Text

/-- The run of a capital letter or title letter. Only the first run that does not end before it can
have it. -/
def capitalRun? (n : Nat) : Option CapitalRun :=
  (capitalRuns.find? (n ≤ ·.last)).filter (·.contains n)

/-- Whether a character is a title letter. -/
def isTitle (c : Char) : Bool := covers titleLetters c.toNat

/-- Whether a character is a capital letter. -/
def isCapital (c : Char) : Bool :=
  covers loneCapitals c.toNat || ((capitalRun? c.toNat).isSome && !isTitle c)

/-- Whether a character is a small letter. -/
def isSmall (c : Char) : Bool :=
  covers loneSmallLetters c.toNat || capitalRuns.any (·.containsSmall c.toNat)

/-- Whether a text is written in capitals: some letter in it is a capital, and none is a small or a
title letter. -/
def inCapitals (s : String) : Bool :=
  s.toList.any isCapital && !s.toList.any fun c => isSmall c || isTitle c

/-! ## Small letters -/

/-- The small letter of a capital; every other character is left as it is. -/
def toSmall (c : Char) : Char :=
  match capitalRun? c.toNat with
  | some run => Char.ofNat (run.smallOf c.toNat)
  | none => c

/-- The capital sigma. -/
def capitalSigma : Char := '\u03A3'

/-- The small sigma at the end of a word. -/
def finalSigma : Char := '\u03C2'

/-- The capital `I` with a dot. -/
def dottedCapital : Char := '\u0130'

/-- The dot that is left of it above a small `i`. -/
def dotAbove : Char := '\u0307'

/-- Whether a character is a letter with case. -/
def isCased (c : Char) : Bool := isCapital c || isSmall c || isTitle c

/-- Whether the first of some characters that is not passed over is a letter with case. -/
def meetsLetter (cs : List Char) : Bool :=
  (cs.find? fun c => !covers caseIgnorable c.toNat).any isCased

/-- A character in small letters. Of the characters `before` it the nearest one stands first. A sigma
ends a word if a letter stands before it and none after it. -/
def smallForm (before : List Char) (c : Char) (after : List Char) : List Char :=
  if c = capitalSigma ∧ meetsLetter before ∧ ¬ meetsLetter after then [finalSigma]
  else if c = dottedCapital then [toSmall c, dotAbove]
  else [toSmall c]

/-- Characters in small letters, with those before them. -/
def lowerChars : (before : List Char) → List Char → List Char
  | _, [] => []
  | before, c :: after => smallForm before c after ++ lowerChars (c :: before) after

/-- A text in small letters. -/
def lower (s : String) : String := String.ofList (lowerChars [] s.toList)

end Blueprint.Text
