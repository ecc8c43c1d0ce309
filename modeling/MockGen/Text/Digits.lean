/-!
# Tables as texts

Numbers are written in digits to base 86.
-/

namespace MockGen.Text

/-- The digits begin at `$` and leave the backslash out. -/
def digit86 (c : Char) : Nat :=
  if c.toNat < 92 then c.toNat - 36 else c.toNat - 37

/-- A digit below 64 ends a number, and a higher one goes on with it. -/
def numbersFrom (n : Nat) : List Char → List Nat
  | [] => []
  | c :: rest =>
    let digit := digit86 c
    if digit < 64 then (n * 64 + digit) :: numbersFrom 0 rest
    else numbersFrom (n * 22 + (digit - 64)) rest

/-- The numbers in a text, which may stand on several lines. -/
def numbers (t : String) : List Nat :=
  numbersFrom 0 (t.toList.filter (' ' < ·))

/-- The numbers that a number holds from its lowest place on: octal digits, with a bit for each that
says whether its number goes on. -/
def heldFrom : (places n part : Nat) → List Nat
  | 0, _, _ => []
  | places + 1, n, part =>
    if n ≤ 1 then []
    else if n % 16 < 8 then (part * 8 + n % 16) :: heldFrom places (n / 16) 0
    else heldFrom places (n / 16) (part * 8 + n % 8)

/-- The numbers of a table as `decide` can read it. -/
def numbersIn (rows : List Nat) : List Nat :=
  rows.flatMap (heldFrom 100 · 0)

/-- The pieces of a list between its zeros. -/
def pieces (codes : List Nat) : List (List Nat) :=
  codes.foldr (fun code found =>
    if code = 0 then [] :: found else (code :: found.headD []) :: found.tail) [[]]

end MockGen.Text
