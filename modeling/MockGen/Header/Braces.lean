import MockGen.Text.Basic

/-!
# Braces

Flattening nested groups, and counting the pairs of a function body.
-/

namespace MockGen.Header

/-- The number of characters up to and including the brace that closes a group, when `level` inner
groups are open and at most `limit` may be. -/
def groupLength? (limit : Nat) : (level : Nat) → List Char → Option Nat
  | _, [] => none
  | level, c :: rest =>
    if c == '\x7b' then
      if level < limit then (groupLength? limit (level + 1) rest).map (· + 1) else none
    else if c == '\x7d' then
      match level with
      | 0 => some 1
      | level + 1 => (groupLength? limit level rest).map (· + 1)
    else (groupLength? limit level rest).map (· + 1)

def flattenFrom (skip : Nat) : List Char → List Char
  | [] => []
  | c :: rest =>
    match skip with
    | skip + 1 => flattenFrom skip rest
    | 0 =>
      if c == '\x7b' then
        match groupLength? 2 0 rest with
        | some length => '\x7b' :: ' ' :: '\x7d' :: flattenFrom length rest
        | none => c :: flattenFrom 0 rest
      else c :: flattenFrom 0 rest

def flattenBraces (t : List Char) : List Char :=
  flattenFrom 0 t

/-- Counts opening braces until every brace is closed; `level` is the number of open ones, which
is negative after a brace that closes nothing. -/
def countPairsFrom (level : Int) (total : Nat) (opened : Bool) : List Char → Nat
  | [] => if level == 0 then total else 0
  | c :: rest =>
    let level := if c == '\x7b' then level + 1 else if c == '\x7d' then level - 1 else level
    let total := if c == '\x7b' then total + 1 else total
    let opened := opened || c == '\x7b'
    if opened && level == 0 then total else countPairsFrom level total opened rest

/-- The number of pairs of braces in the function body that starts at the first opening brace;
zero when it is not closed. -/
def countPairs (t : List Char) : Nat :=
  countPairsFrom 0 0 false t

end MockGen.Header
