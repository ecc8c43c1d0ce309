import MockGen.Fault

/-!
# A place in the text of an option file, with its line and column
-/

namespace MockGen.Yaml

inductive Trouble where
  | malformed
  | tooDeep
  | scalar (fault : Fault)
  deriving Repr

def isBreak (c : Char) : Bool :=
  c == '\n' || c.toNat == 0x85 || c.toNat == 0x2028 || c.toNat == 0x2029

def isGap : Option Char → Bool
  | none => true
  | some c => c == ' ' || isBreak c

def isWideGap (c : Option Char) : Bool :=
  isGap c || c == some '\t'

def isLineEnd : Option Char → Bool
  | none => true
  | some c => isBreak c

structure Cursor where
  rest : List Char
  index : Nat := 0
  line : Nat := 0
  column : Nat := 0

namespace Cursor

def next? (c : Cursor) : Option Char :=
  c.rest.head?

def ahead? (c : Cursor) (n : Nat) : Option Char :=
  c.rest[n]?

def step (c : Cursor) : Cursor :=
  match c.rest with
  | [] => c
  | d :: rest =>
    if isBreak d then ⟨rest, c.index + 1, c.line + 1, 0⟩
    else ⟨rest, c.index + 1, c.line, if d.toNat == 0xFEFF then c.column else c.column + 1⟩

def advance : Nat → Cursor → Cursor
  | 0, c => c
  | n + 1, c => advance n c.step

def skip (p : Char → Bool) (c : Cursor) : Cursor :=
  c.advance (c.rest.takeWhile p).length

def skipSpaces (c : Cursor) : Cursor :=
  c.skip (· == ' ')

def skipComment (c : Cursor) : Cursor :=
  if c.next? == some '#' then c.skip (!isBreak ·) else c

/-- The line break that stands here, as it counts in a scalar, and the start of the next line. -/
def lineBreak? (c : Cursor) : Option (Char × Cursor) :=
  match c.next? with
  | none => none
  | some d =>
    if isBreak d then
      some (if d.toNat == 0x2028 || d.toNat == 0x2029 then d else '\n', c.step)
    else none

def hasMark (mark : List Char) (c : Cursor) : Bool :=
  c.rest.take 3 == mark && isWideGap (c.ahead? 3)

def atDocumentMark (c : Cursor) : Bool :=
  c.hasMark ['-', '-', '-'] || c.hasMark ['.', '.', '.']

def endLine? (c : Cursor) : Option Cursor :=
  let c := c.skipSpaces.skipComment
  if isLineEnd c.next? then some c.step else none

end Cursor

/-- The text of the line breaks between two lines of a scalar: a single line feed is a space. -/
def folded (first : Char) (further : List Char) : List Char :=
  if first != '\n' then first :: further
  else if further.isEmpty then [' ']
  else further

end MockGen.Yaml
