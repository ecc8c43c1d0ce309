import MockGen.Pattern.Match

/-!
# The shape of a function declaration

A text with a word in it, and a parameter list in brackets.
-/

namespace MockGen.Header

open Pattern

def headChars : CharSet :=
  .word ∪ .blank ∪ .ofString "*(),[]"

def paramChars : CharSet :=
  .word ∪ .blank ∪ .ofString "*(),.[]+-/"

/-- A declaration: group 1 is the part in front of the parameter list, group 2 that list. -/
def signature : Pattern :=
  group 1 (starLazy headChars ++ one .word ++ starLazy headChars) ++ char '(' ++
    group 2 (stretch paramChars) ++ char ')'

def declaration : Pattern :=
  signature ++ place .lineEnd

end MockGen.Header
