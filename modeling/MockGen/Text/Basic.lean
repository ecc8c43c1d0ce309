import MockGen.Text.Class

/-!
# Texts as lists of characters

Trimming, words, splitting at a character, joining, and search and replacement of fixed parts.
-/

namespace MockGen.Text

def stripStart (t : List Char) : List Char :=
  t.dropWhile isBlank

def stripEnd (t : List Char) : List Char :=
  (t.reverse.dropWhile isBlank).reverse

def strip (t : List Char) : List Char :=
  stripEnd (stripStart t)

def dropTrailing (c : Char) (t : List Char) : List Char :=
  (t.reverse.dropWhile (· == c)).reverse

def wordsFrom (carry : List Char) : List Char → List (List Char)
  | [] => if carry.isEmpty then [] else [carry.reverse]
  | c :: rest =>
    if isBlank c then
      if carry.isEmpty then wordsFrom [] rest
      else carry.reverse :: wordsFrom [] rest
    else wordsFrom (c :: carry) rest

def words (t : List Char) : List (List Char) :=
  wordsFrom [] t

/-- The pieces between occurrences of `sep` when `carry` holds the open piece, last first. -/
def splitFrom (sep : Char) (carry : List Char) : List Char → List (List Char)
  | [] => [carry.reverse]
  | c :: rest =>
    if c == sep then carry.reverse :: splitFrom sep [] rest
    else splitFrom sep (c :: carry) rest

def splitAt (sep : Char) (t : List Char) : List (List Char) :=
  splitFrom sep [] t

def join (sep : List Char) : List (List Char) → List Char
  | [] => []
  | [piece] => piece
  | piece :: next :: rest => piece ++ sep ++ join sep (next :: rest)

def hasPart (part : List Char) : List Char → Bool
  | [] => part.isEmpty
  | c :: rest => part.isPrefixOf (c :: rest) || hasPart part rest

/-- Replaces the occurrences of `part`, leftmost first; `skip` characters still belong to the last
replaced occurrence. -/
def replaceFrom (part new : List Char) (skip : Nat) : List Char → List Char
  | [] => []
  | c :: rest =>
    match skip with
    | skip + 1 => replaceFrom part new skip rest
    | 0 =>
      if part.isPrefixOf (c :: rest) then new ++ replaceFrom part new (part.length - 1) rest
      else c :: replaceFrom part new 0 rest

def replace (part new t : List Char) : List Char :=
  replaceFrom part new 0 t

def replaceFirst (c : Char) (new : List Char) : List Char → List Char
  | [] => []
  | d :: rest => if d == c then new ++ rest else d :: replaceFirst c new rest

def distinct {α : Type} [BEq α] (xs : List α) : List α :=
  (xs.foldl (fun seen x => if seen.contains x then seen else x :: seen) []).reverse

end MockGen.Text
