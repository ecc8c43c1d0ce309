import MockGen.Fault

/-!
# Formats with one place for a text

A place is a percent sign, flags, a width, a precision, an optional length mark and a letter that
says how the text is shown; two percent signs are one.
-/

namespace MockGen.Format

structure Spec where
  left : Bool := false
  width : Nat := 0
  precision : Option Nat := none
  conversion : Char
  deriving Repr, DecidableEq

private def valueOfDigits (digits : List Char) : Nat :=
  digits.foldl (fun n c => 10 * n + (c.toNat - '0'.toNat)) 0

def isDigit (c : Char) : Bool :=
  '0' ≤ c && c ≤ '9'

def isFlag (c : Char) : Bool :=
  c == '-' || c == '+' || c == ' ' || c == '#' || c == '0'

private def largestWidth : Nat :=
  9223372036854775807

private def largestPrecision : Nat :=
  2147483647

def readNumber (largest : Nat) (t : List Char) : Except Fault (Nat × List Char) :=
  let n := valueOfDigits (t.takeWhile isDigit)
  if n > largest then .error .malformedFormat else .ok (n, t.dropWhile isDigit)

def readPrecision : List Char → Except Fault (Option Nat × List Char)
  | '.' :: rest =>
    if rest.head? == some '*' then .error .wrongKind
    else do
      let (n, rest) ← readNumber largestPrecision rest
      return (some n, rest)
  | t => .ok (none, t)

def dropLengthMark : List Char → List Char
  | [] => []
  | c :: rest => if c == 'h' || c == 'l' || c == 'L' then rest else c :: rest

/-- Reads a place behind its percent sign.  Names and counts taken from the arguments do not fit a
text. -/
def readSpec (t : List Char) : Except Fault (Spec × List Char) := do
  if t.head? == some '(' then throw .wrongKind
  let left := (t.takeWhile isFlag).contains '-'
  let t := t.dropWhile isFlag
  if t.head? == some '*' then throw .wrongKind
  let (width, t) ← readNumber largestWidth t
  let (precision, t) ← readPrecision t
  match dropLengthMark t with
  | c :: rest => return ({ left, width, precision, conversion := c }, rest)
  | [] => throw .malformedFormat

def fitted (s : Spec) (t : List Char) : List Char :=
  let t := match s.precision with
    | some n => if s.conversion == 'c' then t else t.take n
    | none => t
  let gap := List.replicate (s.width - t.length) ' '
  if s.left then t ++ gap else gap ++ t

def shown (s : Spec) (arg : String) : Except Fault (List Char) :=
  let c := s.conversion
  if c == 's' then .ok (fitted s arg.toList)
  else if c == 'r' then .ok (fitted s (Value.quoted arg).toList)
  else if c == 'a' then .ok (fitted s (Value.quotedAscii arg).toList)
  else if c == 'c' then
    match arg.toList with
    | [d] => .ok (fitted s [d])
    | _ => .error .wrongKind
  else if "diuoxXeEfFgG".toList.contains c then .error .wrongKind
  else .error .malformedFormat

/-- Fills in the text; `used` says that it was filled in before.  It has to be used exactly once. -/
def expandFrom (arg : String) : (fuel : Nat) → (used : Bool) → List Char → Except Fault (List Char)
  | _, used, [] => if used then .ok [] else .error .wrongKind
  | 0, _, _ :: _ => .error .malformedFormat
  | fuel + 1, used, c :: rest => do
    if c != '%' then return c :: (← expandFrom arg fuel used rest)
    match rest with
    | '%' :: rest => return '%' :: (← expandFrom arg fuel used rest)
    | rest =>
      let (spec, rest) ← readSpec rest
      if used then throw .wrongKind
      return (← shown spec arg) ++ (← expandFrom arg fuel true rest)

def expand (format : Value) (arg : String) : Except Fault String :=
  match format with
  | .str s => (expandFrom arg s.toList.length false s.toList).map String.ofList
  | _ => .error .wrongKind

end MockGen.Format
