import MockGen.Text.Ranges

/-!
# Character classes

Character classes used when headers are read: white space, word characters and decimal digits.  Each
class is spelled out on ASCII and looked up in a table beyond it.
-/

namespace MockGen.Text

/-- What holds of all characters of a text is decided on the text, and not on all characters. -/
instance (priority := high) decidableForallMem (p : Char → Prop) [DecidablePred p]
    (t : List Char) : Decidable (∀ c ∈ t, p c) :=
  List.decidableBAll p t

def inRanges (table : List (Nat × Nat)) (n : Nat) : Bool :=
  table.any fun range => range.1 ≤ n && n ≤ range.2

/-- White space: tab to carriage return, the four information separators, the space, and the
Unicode spaces beyond ASCII. -/
def isBlank (c : Char) : Bool :=
  if c.toNat < 128 then
    (9 ≤ c.toNat && c.toNat ≤ 13) || (28 ≤ c.toNat && c.toNat ≤ 32)
  else inRanges blankRanges c.toNat

def isDigit (c : Char) : Bool :=
  if c.toNat < 128 then 48 ≤ c.toNat && c.toNat ≤ 57
  else inRanges digitRanges c.toNat

def isWord (c : Char) : Bool :=
  if c.toNat < 128 then
    (48 ≤ c.toNat && c.toNat ≤ 57) || (65 ≤ c.toNat && c.toNat ≤ 90) ||
      (97 ≤ c.toNat && c.toNat ≤ 122) || c.toNat == 95
  else inRanges wordRanges c.toNat

def isPrintable (c : Char) : Bool :=
  if c.toNat < 128 then 32 ≤ c.toNat && c.toNat ≤ 126
  else inRanges wordRanges c.toNat || inRanges markRanges c.toNat || inRanges symbolRanges c.toNat

def digitValue (c : Char) : Nat :=
  if c.toNat < 128 then c.toNat - 48
  else match digitRanges.find? fun range => range.1 ≤ c.toNat && c.toNat ≤ range.2 with
    | some range => (c.toNat - range.1) % 10
    | none => 0

end MockGen.Text
