import MockGen.Text.Case

/-!
# Text patterns

Sets of characters, places in a text, and patterns built from them.
-/

namespace MockGen

inductive Folding where
  | exact
  | letters
  | asciiLetters
  deriving Repr, DecidableEq

namespace Folding

def key : Folding → Char → Char
  | exact, c => c
  | letters, c => Text.lowerLetter c
  | asciiLetters, c => c.toLower

def agree : Folding → Char → Char → Bool
  | letters, c, d => Text.isSameLetter c d
  | f, c, d => f.key c == f.key d

def variants : Folding → Char → List Char
  | exact, c => [c]
  | letters, c => Text.letterVariants c
  | asciiLetters, c => [c, c.toUpper]

end Folding

inductive CharSet where
  | any
  | single (c : Char)
  | range (first last : Char)
  | word
  | blank
  | digit
  | none
  | union (s t : CharSet)
  | compl (s : CharSet)
  | folded (f : Folding) (s : CharSet)
  | raised (s : CharSet)
  deriving Repr, DecidableEq

namespace CharSet

instance : Union CharSet := ⟨CharSet.union⟩

/-- Whether a set has the letter `c`, which is its own key, in some form.  Classes of characters do
not depend on the form. -/
def hasLetter (f : Folding) : CharSet → Char → Bool
  | any, _ => true
  | single d, c => f.agree d c
  | range first last, c =>
    (first ≤ c && c ≤ last) || (f.variants c).any fun d => first ≤ d && d ≤ last
  | word, c => Text.isWord c
  | blank, c => Text.isBlank c
  | digit, c => Text.isDigit c
  | none, _ => false
  | union s t, c => s.hasLetter f c || t.hasLetter f c
  | compl s, c => !s.hasLetter f c
  | folded g s, c => s.hasLetter g c
  | raised s, c => s.hasLetter .exact (Text.upperLetter c)

def mem : CharSet → Char → Bool
  | any, _ => true
  | single d, c => c == d
  | range first last, c => first ≤ c && c ≤ last
  | word, c => Text.isWord c
  | blank, c => Text.isBlank c
  | digit, c => Text.isDigit c
  | none, _ => false
  | union s t, c => s.mem c || t.mem c
  | compl s, c => !s.mem c
  | folded f s, c => s.hasLetter f (f.key c)
  | raised s, c => s.mem (Text.upperLetter c)

def ofString (s : String) : CharSet :=
  s.toList.foldr (fun c rest => union (single c) rest) none

def line : CharSet :=
  compl (single '\n')

end CharSet

/-- A condition on a place between two characters. -/
inductive Anchor where
  | textStart
  | lineStart
  | lineEnd
  | lastEnd
  | textEnd
  | wordEdge
  | notWordEdge
  | asciiWordEdge
  | notAsciiWordEdge
  deriving Repr, DecidableEq

/-- A pattern.  `span` and `many` try longer stretches first when they are greedy, and shorter ones
otherwise; `most` bounds the number of repetitions. -/
inductive Pattern where
  | empty
  | never
  | one (s : CharSet)
  | span (s : CharSet) (least : Nat) (most : Option Nat) (greedy : Bool)
  | seq (p q : Pattern)
  | alt (p q : Pattern)
  | many (p : Pattern) (least : Nat) (most : Option Nat) (greedy : Bool)
  | group (number : Nat) (p : Pattern)
  | same (number : Nat) (f : Folding)
  | place (a : Anchor)
  | ahead (p : Pattern) (wanted : Bool)
  | behind (width : Nat) (p : Pattern) (wanted : Bool)
  | once (p : Pattern)
  | possessive (p : Pattern) (least : Nat) (most : Option Nat)
  | given (number : Nat) (p q : Pattern)
  deriving Repr, DecidableEq

namespace Pattern

instance : Append Pattern := ⟨Pattern.seq⟩

instance : OrElse Pattern := ⟨fun p q => Pattern.alt p (q ())⟩

def char (c : Char) : Pattern :=
  one (.single c)

def text (s : String) : Pattern :=
  s.toList.foldr (fun c rest => seq (char c) rest) empty

def stretch (s : CharSet) : Pattern :=
  span s 0 none true

def stretch1 (s : CharSet) : Pattern :=
  span s 1 none true

def starLazy (s : CharSet) : Pattern :=
  span s 0 none false

def blanks : Pattern :=
  stretch .blank

def blanks1 : Pattern :=
  stretch1 .blank

def opt (p : Pattern) : Pattern :=
  many p 0 (some 1) true

def repeated1 (p : Pattern) : Pattern :=
  many p 1 none true

def oneOf : List String → Pattern
  | [] => never
  | [w] => text w
  | w :: next :: rest => alt (text w) (oneOf (next :: rest))

end Pattern

end MockGen
