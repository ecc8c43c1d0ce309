import MockGen.Pattern.Basic

/-!
# Matching

Alternatives are tried in order and the first one that lets the rest of the pattern succeed wins; a
search takes the leftmost place where the pattern matches.  A text is cut by a pattern into the
pieces that match and the pieces between them, and replacing, splitting and listing are functions of
those pieces.
-/

namespace MockGen

/-- A place in a text: what lies before it (nearest first), what follows, and its offset. -/
structure Cursor where
  before : List Char
  rest : List Char
  pos : Nat
  deriving Repr, DecidableEq

namespace Cursor

def start (t : List Char) : Cursor :=
  ⟨[], t, 0⟩

def next? (c : Cursor) : Option (Char × Cursor) :=
  match c.rest with
  | [] => none
  | d :: rest => some (d, ⟨d :: c.before, rest, c.pos + 1⟩)

def back? : Nat → Cursor → Option Cursor
  | 0, c => some c
  | n + 1, c =>
    match c.before with
    | [] => none
    | d :: before => back? n ⟨before, d :: c.rest, c.pos - 1⟩

def upTo (c d : Cursor) : List Char :=
  c.rest.take (d.pos - c.pos)

def atEdge (c : Cursor) (isWord : Char → Bool) : Bool :=
  c.before.head?.any isWord != c.rest.head?.any isWord

end Cursor

/-- Whether a place satisfies a condition.  An empty text has no place inside or outside of
words. -/
def Anchor.holds (a : Anchor) (c : Cursor) : Bool :=
  match a with
  | textStart => c.before.isEmpty
  | lineStart => c.before.isEmpty || c.before.head? == some '\n'
  | lineEnd => c.rest.isEmpty || c.rest.head? == some '\n'
  | lastEnd => c.rest.isEmpty || c.rest == ['\n']
  | textEnd => c.rest.isEmpty
  | wordEdge => c.atEdge Text.isWord
  | notWordEdge => !c.atEdge Text.isWord && !(c.before.isEmpty && c.rest.isEmpty)
  | asciiWordEdge => c.atEdge isAsciiWord
  | notAsciiWordEdge => !c.atEdge isAsciiWord && !(c.before.isEmpty && c.rest.isEmpty)
where
  isAsciiWord (d : Char) : Bool :=
    d.toNat < 128 && Text.isWord d

/-- How far a match has come: the place reached, and the groups remembered, latest first. -/
structure Progress where
  cursor : Cursor
  groups : List (Nat × Cursor × Cursor)
  deriving Repr, DecidableEq

namespace Progress

def group? (p : Progress) (number : Nat) : Option (List Char) :=
  (p.groups.lookup number).map fun (first, last) => first.upTo last

end Progress

namespace Pattern

/-- The places reached by reading characters of `s` from `c`, farthest first, in front of `seen`;
at most `most` characters are read. -/
def spanPlaces (s : CharSet) : (rest : List Char) → (before : List Char) → (pos : Nat) →
    (most : Option Nat) → (seen : List Cursor) → List Cursor
  | [], _, _, _, seen => seen
  | c :: rest, before, pos, most, seen =>
    if most != some 0 && s.mem c then
      spanPlaces s rest (c :: before) (pos + 1) (most.map (· - 1))
        (⟨c :: before, rest, pos + 1⟩ :: seen)
    else seen

/-- Tries the continuation after `least` characters of `s`, then after one more, and so on. -/
def spanLazy {β : Type} (s : CharSet) (k : Cursor → Option β) : (rest : List Char) →
    (before : List Char) → (pos : Nat) → (least : Nat) → (most : Option Nat) → Option β
  | [], before, pos, least, _ => if least == 0 then k ⟨before, [], pos⟩ else none
  | c :: rest, before, pos, least, most =>
    match (if least == 0 then k ⟨before, c :: rest, pos⟩ else none) with
    | some found => some found
    | none =>
      if most != some 0 && s.mem c then
        spanLazy s k rest (c :: before) (pos + 1) (least - 1) (most.map (· - 1))
      else none

/-- Repeats `step` at least `least` and at most `most` times.  A repetition that is not required
and reads nothing is the last one.  `fuel` bounds the number of repetitions. -/
def iterate {β : Type} (step : Progress → (Progress → Option β) → Option β) (greedy : Bool) :
    (fuel : Nat) → (least : Nat) → (most : Option Nat) → Progress → (Progress → Option β) → Option β
  | 0, _, _, p, k => k p
  | fuel + 1, least + 1, most, p, k =>
    step p fun q => iterate step greedy fuel least (most.map (· - 1)) q k
  | fuel + 1, 0, most, p, k =>
    if most == some 0 then k p
    else
      let more := fun (_ : Unit) => step p fun q =>
        if q.cursor.pos == p.cursor.pos then k q
        else iterate step greedy fuel 0 (most.map (· - 1)) q k
      if greedy then
        match more () with
        | some found => some found
        | none => k p
      else
        match k p with
        | some found => some found
        | none => more ()

/-- How often a pattern can be repeated in front of `rest`: beyond the required number, every
repetition but the last one reads something. -/
def repetitions (least : Nat) (most : Option Nat) (rest : List Char) : Nat :=
  match most with
  | some bound => max least bound
  | none => least + rest.length

/-- Repeats `step` at least `least` and at most `most` times, as often as it can, and never takes
back what a repetition read.  `fuel` bounds the number of repetitions. -/
def exhaust (step : Progress → Option Progress) :
    (fuel : Nat) → (least : Nat) → (most : Option Nat) → Progress → Option Progress
  | 0, _, _, p => some p
  | fuel + 1, least + 1, most, p =>
    match step p with
    | some q => exhaust step fuel least (most.map (· - 1)) q
    | none => none
  | fuel + 1, 0, most, p =>
    if most == some 0 then some p
    else
      match step p with
      | some q =>
        if q.cursor.pos == p.cursor.pos then some q
        else exhaust step fuel 0 (most.map (· - 1)) q
      | none => some p

def readText (f : Folding) : List Char → Cursor → Option Cursor
  | [], c => some c
  | d :: more, c =>
    match c.next? with
    | some (e, next) => if f.key d == f.key e then readText f more next else none
    | none => none

/-- Runs the pattern from a place and hands every way to match, in order of preference, to the
continuation until that accepts one. -/
def run {β : Type} : Pattern → Progress → (Progress → Option β) → Option β
  | empty, p, k => k p
  | never, _, _ => none
  | one s, p, k =>
    match p.cursor.next? with
    | some (c, next) => if s.mem c then k { p with cursor := next } else none
    | none => none
  | span s least most greedy, p, k =>
    let c := p.cursor
    if greedy then
      let places := spanPlaces s c.rest c.before c.pos most [c]
      (places.take (places.length - least)).findSome? fun place => k { p with cursor := place }
    else
      spanLazy s (fun place => k { p with cursor := place }) c.rest c.before c.pos least most
  | seq a b, p, k => run a p fun q => run b q k
  | alt a b, p, k =>
    match run a p k with
    | some found => some found
    | none => run b p k
  | many a least most greedy, p, k =>
    iterate (run a) greedy (repetitions least most p.cursor.rest + 1) least most p k
  | group number a, p, k =>
    run a p fun q => k { q with groups := (number, p.cursor, q.cursor) :: q.groups }
  | same number f, p, k =>
    match p.group? number with
    | some t =>
      match readText f t p.cursor with
      | some next => k { p with cursor := next }
      | none => none
    | none => none
  | place a, p, k => if a.holds p.cursor then k p else none
  | ahead a wanted, p, k =>
    match (run a p some : Option Progress) with
    | some q => if wanted then k { q with cursor := p.cursor } else none
    | none => if wanted then none else k p
  | behind width a wanted, p, k =>
    let reached : Option Progress :=
      match p.cursor.back? width with
      | some earlier =>
        run a { p with cursor := earlier } fun q =>
          if q.cursor.pos == p.cursor.pos then some q else none
      | none => none
    match reached with
    | some q => if wanted then k { q with cursor := p.cursor } else none
    | none => if wanted then none else k p
  | once a, p, k =>
    match (run a p some : Option Progress) with
    | some q => k q
    | none => none
  | possessive a least most, p, k =>
    let step := fun (q : Progress) => (run a q some : Option Progress)
    match exhaust step (repetitions least most p.cursor.rest + 1) least most p with
    | some q => k q
    | none => none
  | given number a b, p, k =>
    if (p.groups.lookup number).isSome then run a p k else run b p k

end Pattern

/-- A stretch of a text that a pattern matched. -/
structure Match where
  first : Cursor
  last : Cursor
  groups : List (Nat × Cursor × Cursor)
  deriving Repr, DecidableEq

namespace Match

def text (m : Match) : List Char :=
  m.first.upTo m.last

def group (m : Match) (number : Nat) : List Char :=
  match m.groups.lookup number with
  | some (first, last) => first.upTo last
  | none => []

def isEmpty (m : Match) : Bool :=
  m.first.pos == m.last.pos

def before (m : Match) : List Char :=
  m.first.before.reverse

def after (m : Match) : List Char :=
  m.last.rest

end Match

variable (p : Pattern)

inductive Piece where
  | kept (t : List Char)
  | hit (m : Match)
  deriving Repr, DecidableEq

namespace Pattern

/-- The preferred match that starts at this place; an empty one is passed over when `advance` is
set. -/
def matchHere? (advance : Bool) (c : Cursor) : Option Match :=
  p.run ⟨c, []⟩ fun q =>
    if advance && q.cursor.pos == c.pos then none else some ⟨c, q.cursor, q.groups⟩

/-- The leftmost match from a place on.  `advance` passes over an empty match at that very place. -/
def findFrom? (p : Pattern) : (advance : Bool) → (rest before : List Char) → (pos : Nat) →
    Option Match
  | advance, [], before, pos => p.matchHere? advance ⟨before, [], pos⟩
  | advance, c :: rest, before, pos =>
    match p.matchHere? advance ⟨before, c :: rest, pos⟩ with
    | some m => some m
    | none => findFrom? p false rest (c :: before) (pos + 1)

def matchStart? (t : List Char) : Option Match :=
  p.matchHere? false (Cursor.start t)

def find? (t : List Char) : Option Match :=
  p.findFrom? false t [] 0

def occursIn (t : List Char) : Bool :=
  (p.find? t).isSome

def piecesFrom (p : Pattern) : (fuel : Nat) → (advance : Bool) → Cursor → List Piece
  | 0, _, c => [.kept c.rest]
  | fuel + 1, advance, c =>
    match p.findFrom? advance c.rest c.before c.pos with
    | none => [.kept c.rest]
    | some m => .kept (c.upTo m.first) :: .hit m :: piecesFrom p fuel m.isEmpty m.last

/-- The text cut at the successive matches of `p`: kept pieces and matches by turns, a kept piece
at either end.  A text of `n` characters has room for `n` matches that read something and for
`n + 1` empty ones. -/
def pieces (t : List Char) : List Piece :=
  p.piecesFrom (2 * t.length + 2) false (Cursor.start t)

def allMatches (t : List Char) : List Match :=
  (p.pieces t).filterMap fun
    | .kept _ => none
    | .hit m => some m

def replaceBy (f : Match → List Char) (t : List Char) : List Char :=
  (p.pieces t).flatMap fun
    | .kept u => u
    | .hit m => f m

def replace (new : String) (t : List Char) : List Char :=
  p.replaceBy (fun _ => new.toList) t

def remove (t : List Char) : List Char :=
  p.replaceBy (fun _ => []) t

def split (t : List Char) : List (List Char) :=
  (p.pieces t).filterMap fun
    | .kept u => some u
    | .hit _ => none

end Pattern

end MockGen
