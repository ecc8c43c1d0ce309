import MockGen.Text.Digits

/-!
# Packed texts

A text is packed into one number, from which its bits are taken one by one: the better the text
before a bit foretells it, the less of the number it uses up.  The bits of a character lead to it in
a prefix code.
-/

namespace MockGen.Text

/-- A prefix code, which ends at a symbol after each sequence of bits that it knows. -/
inductive CodeTree where
  | leaf (symbol : Char)
  | node (zero one : CodeTree)

namespace CodeTree

/-- Puts the tree that a character begins in front of the trees that are read already: `^` joins the
first two of them. -/
def push (c : Char) : List CodeTree → List CodeTree
  | zero :: one :: rest => if c == '^' then node zero one :: rest else leaf c :: zero :: one :: rest
  | trees => leaf c :: trees

/-- The code that a text writes with `^` in front of the two parts of each node. -/
def ofText (t : List Char) : CodeTree :=
  (t.foldr push []).headD (leaf ' ')

end CodeTree

/-! ## Forecasts

Each context of a bit votes on it, and the chance of a one, as a share of 4096, is the logistic
function of a weighted sum of the votes, the mean of the sums with several rows of weights. -/

private def logistic : Array Nat := #[
  1, 2, 3, 6, 10, 16, 27, 45, 73, 120, 194, 310, 488, 747, 1101, 1546, 2047, 2549, 2994, 3348, 3607,
  3785, 3901, 3975, 4022, 4050, 4068, 4079, 4085, 4089, 4092, 4093, 4095]

def chanceOf (vote : Int) : Nat :=
  let x := (max (-2047) (min 2047 vote) + 2048).toNat
  (logistic.getD (x / 128) 0 * (128 - x % 128) +
    logistic.getD (x / 128 + 1) 0 * (x % 128) + 64) / 128

/-- The least vote for each chance. -/
def votes : Array Int :=
  (List.range 4095).foldl (fun votes (k : Nat) =>
    let vote : Int := k - 2047
    votes ++ Array.replicate (chanceOf vote + 1 - votes.size) vote) #[]

def cellCount : Nat := 16777213

/-- What came after the contexts so far.  A cell holds a chance, as a share of 65536, and how often
the context was met, up to five times. -/
structure Forecast where
  cells : Array Nat := .replicate cellCount (32768 * 8)
  weights : Array (List Int) := .replicate 421 (.replicate 14 10000)

def voteOf (cell : Nat) : Int :=
  if cell % 8 == 0 then 0 else votes.getD (cell / 128) 0

def adapt (bit : Bool) (cell : Nat) : Nat :=
  let chance := cell / 8
  let missing := if bit then 65535 - chance else chance
  let change := missing * 20 / (20 * (cell % 8) + 21)
  (if bit then chance + change else chance - change) * 8 + min (cell % 8 + 1) 5

/-! ## Contexts -/

def mix (h n : Nat) : Nat :=
  (h * 65599 + n + 1) % cellCount

/-- What the next character may depend on: the last five characters, the word that it goes on with
and the two before it, and the stem of the run, which a colon ends. -/
structure Context where
  last : List Char := .replicate 5 (Char.ofNat 0)
  word : Nat := 0
  length : Nat := 0
  previous : Nat := 0
  earlier : Nat := 0
  part : Nat := 0
  stem : Nat := 0

namespace Context

def mixes (h : Nat) : List Char → List Nat
  | [] => []
  | c :: rest => mix h c.toNat :: mixes (mix h c.toNat) rest

/-- Where it is noted what came last behind the word, and behind the last one, two and three
characters. -/
def keys (s : Context) : List Nat :=
  (s.word :: (mixes 0 s.last).take 3).zipIdx.map fun (h, i) => mix h i

/-- The contexts, given what came last behind the keys: up to three characters as one number. -/
def slots (s : Context) (followers : List Nat) : List Nat :=
  let before (h : Nat) : Nat := mix h (s.last.headD ' ').toNat
  let followers (i : Nat) : Nat := followers.getD i 0
  let contexts := [0, s.word, mix s.word s.previous, before (mix s.word s.earlier), before s.stem,
    before (mix s.word s.stem)] ++ mixes 0 s.last ++
    [before (followers 0), before (followers 1), mix (followers 2 % 256) (followers 3 % 256)]
  contexts.zipIdx.map fun (h, i) => mix h i

def rows (s : Context) : List Nat :=
  [100 + (s.last.headD ' ').toNat, 300 + s.stem % 100, 400 + min s.length 20]

def extend (s : Context) (c : Char) : Context :=
  let s := { s with last := c :: s.last.dropLast }
  let s :=
    if c.isAlphanum then { s with word := mix s.word c.toNat, length := s.length + 1 }
    else if s.word == 0 then s
    else { s with word := 0, length := 0, previous := s.word, earlier := s.previous }
  if c == ';' then { s with part := 0, stem := 0 }
  else if c == ':' then { s with part := 0, stem := s.part }
  else if c == ',' then { s with part := 0 }
  else { s with part := mix s.part c.toNat }

end Context

/-! ## Unpacking -/

/-- The number that is left of a packed text, and the digits that have yet to be added to it. -/
structure Unpacking extends Forecast where
  left : Nat
  digits : List Char

namespace Unpacking

def refill (left : Nat) : List Char → Nat × List Char
  | [] => (left, [])
  | c :: rest =>
    if left < 2 ^ 31 then refill (left * 86 + digit86 c) rest else (left, c :: rest)

/-- Takes a bit.  One more row of weights depends on how many of the contexts were met before. -/
def readBit (slots rows : List Nat) : Unpacking → Bool × Unpacking
  | ⟨⟨cells, weights⟩, left, digits⟩ =>
    let found := slots.map (cells.getD · 0)
    let votes := found.map voteOf
    let rows := found.countP (· % 8 != 0) :: rows
    let sums := rows.map fun row =>
      (List.zipWith (· * ·) (weights.getD row []) votes).foldl (· + ·) 0 / 65536
    let chance := chanceOf (sums.foldl (· + ·) 0 / sums.length)
    let share := left % 4096
    let bit := share < chance
    let left :=
      if bit then chance * (left / 4096) + share
      else (4096 - chance) * (left / 4096) + share - chance
    let weights := (rows.zip sums).foldl (fun weights (row, sum) =>
      let miss : Int := (if bit then 4096 else 0) - chanceOf sum
      weights.modify row
        (List.zipWith (fun vote weight => weight + vote * miss / 2048) votes)) weights
    let cells := (slots.zip found).foldl (fun cells (slot, cell) =>
      cells.setIfInBounds slot (adapt bit cell)) cells
    let (left, digits) := refill left digits
    (bit, ⟨⟨cells, weights⟩, left, digits⟩)

/-- Reads a character, `path` being a number for the bits on the way to the tree. -/
def readChar (slots rows : List Nat) : CodeTree → (path : Nat) → Unpacking → Char × Unpacking
  | .leaf c, _, s => (c, s)
  | .node zero one, path, s =>
    let (bit, s) := s.readBit (slots.map (mix · path)) rows
    if bit then readChar slots rows one (2 * path + 1) s else readChar slots rows zero (2 * path) s

def readChars (code : CodeTree) : (count : Nat) → Context → (followers : Array Nat) → Unpacking →
    Array Char → Array Char
  | 0, _, _, _, t => t
  | count + 1, context, followers, s, t =>
    let keys := context.keys
    let (c, s) := readChar (context.slots (keys.map (followers.getD · 0))) context.rows code 1 s
    let followers := keys.foldl (·.modify · fun f => (f * 256 + c.toNat) % 2 ^ 24) followers
    readChars code count (context.extend c) followers s (t.push c)

end Unpacking

/-- A packed text: the code of its characters, their number, and the digits of the number. -/
structure Packed where
  code : CodeTree
  count : Nat
  digits : List Char

def Packed.unpack (p : Packed) : List Char :=
  let (left, digits) := Unpacking.refill 0 p.digits
  (Unpacking.readChars p.code p.count {} (.replicate cellCount 0) { left, digits } #[]).toList

end MockGen.Text
