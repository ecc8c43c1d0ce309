/-!
# Double-precision numbers

A sign, a whole number of at most 53 bits and a power of two, beside the values that are not finite.
Decimals are rounded to the nearest of them, ties to even, and each is written with the fewest
digits that read back.
-/

namespace MockGen

inductive Double where
  | nan
  | infinite (negative : Bool)
  | finite (negative : Bool) (mantissa : Nat) (exponent : Int)
  deriving DecidableEq, Inhabited, Repr

namespace Double

def leastExponent : Int := -1074

def greatestExponent : Int := 971

private def mantissaEnd : Nat := Nat.pow 2 53

def roundedQuotient (num den : Nat) : Nat :=
  let quotient := num / den
  let twice := 2 * (num % den)
  if twice < den then quotient
  else if den < twice then quotient + 1
  else quotient + quotient % 2

private def inUnits (base num den : Nat) (exponent : Int) : Nat × Nat :=
  (num * Nat.pow base (-exponent).toNat, den * Nat.pow base exponent.toNat)

def ofRatio (negative : Bool) (num den : Nat) : Double :=
  if num == 0 then finite negative 0 leastExponent
  else
    let low := (num.log2 : Int) - den.log2 - 53
    let (n, d) := inUnits 2 num den low
    let exponent := max (if mantissaEnd ≤ n / d then low + 1 else low) leastExponent
    let (n, d) := inUnits 2 num den exponent
    let mantissa := roundedQuotient n d
    let (mantissa, exponent) :=
      if mantissa == mantissaEnd then (mantissa / 2, exponent + 1) else (mantissa, exponent)
    if greatestExponent < exponent then infinite negative
    else finite negative mantissa exponent

def ofDecimal (negative : Bool) (digits : Nat) (exponent : Int) : Double :=
  let size := ((Nat.toDigits 10 digits).length : Int) + exponent
  if digits == 0 || size < -330 then finite negative 0 leastExponent
  else if 320 < size then infinite negative
  else ofRatio negative (digits * Nat.pow 10 exponent.toNat) (Nat.pow 10 (-exponent).toNat)

def ratio? : Double → Option (Int × Nat)
  | finite negative mantissa exponent =>
    let n : Int := mantissa * Nat.pow 2 exponent.toNat
    some (if negative then -n else n, (-exponent).toNat)
  | _ => none

def same : Double → Double → Bool
  | finite n m e, finite n' m' e' => m == m' && e == e' && (n == n' || m == 0)
  | infinite n, infinite n' => n == n'
  | _, _ => false

def isInt (d : Double) (n : Int) : Bool :=
  match d.ratio? with
  | some (m, places) => m == n * Nat.pow 2 places
  | none => false

def isBelow (d : Double) (n : Int) : Bool :=
  match d, d.ratio? with
  | _, some (m, places) => m < n * Nat.pow 2 places
  | infinite negative, none => negative
  | _, none => false

def isAbove (d : Double) (n : Int) : Bool :=
  match d, d.ratio? with
  | _, some (m, places) => n * Nat.pow 2 places < m
  | infinite negative, none => !negative
  | _, none => false

def isZero : Double → Bool
  | finite _ mantissa _ => mantissa == 0
  | _ => false

/-! ## Arithmetic -/

private def ofScaled (n : Int) (places : Nat) : Double :=
  ofRatio (n < 0) n.natAbs (Nat.pow 2 places)

def ofInt (n : Int) : Double :=
  ofScaled n 0

def negate : Double → Double
  | nan => nan
  | infinite negative => infinite !negative
  | finite negative mantissa exponent => finite (!negative) mantissa exponent

def add (x y : Double) : Double :=
  match x.ratio?, y.ratio? with
  | some (m, p), some (n, q) => ofScaled (m * Nat.pow 2 q + n * Nat.pow 2 p) (p + q)
  | some _, none => y
  | _, _ => x

def mul (x y : Double) : Double :=
  match x.ratio?, y.ratio? with
  | some (m, p), some (n, q) => ofScaled (m * n) (p + q)
  | some _, none => y
  | _, _ => x

/-! ## Text -/

private def decimalOrder (num den : Nat) : Int :=
  let guess := ((num.log2 : Int) - den.log2) * 30103 / 100000
  let reaches := fun (order : Int) =>
    let (n, d) := inUnits 10 num den order
    d ≤ n
  if reaches (guess + 1) then guess + 1
  else if reaches guess then guess
  else if reaches (guess - 1) then guess - 1
  else guess - 2

private def nearestReading? (d : Double) (num den : Nat) (place : Int) : Option Nat :=
  let (n, unit) := inUnits 10 num den place
  let below := n / unit
  let reads := fun (digits : Nat) => ofDecimal false digits place == d
  match reads below, reads (below + 1) with
  | true, true => some (roundedQuotient n unit)
  | true, false => some below
  | false, true => some (below + 1)
  | false, false => none

/-- The fewest digits that read back as a positive number, and the place of the last one. -/
def shortest (mantissa : Nat) (exponent : Int) : Nat × Int :=
  let d := finite false mantissa exponent
  let num := mantissa * Nat.pow 2 exponent.toNat
  let den := Nat.pow 2 (-exponent).toNat
  let order := decimalOrder num den
  let tried := (List.range 17).findSome? fun (count : Nat) =>
    (nearestReading? d num den (order - count)).map fun digits => (digits, order - (count : Int))
  tried.getD (0, 0)

private def layout (digits : List Char) (point : Int) : List Char :=
  let count : Int := digits.length
  if point ≤ -4 || 16 < point then
    let power := point - 1
    let size := Nat.toDigits 10 power.natAbs
    let part := if digits.length == 1 then [] else '.' :: digits.drop 1
    digits.take 1 ++ part ++ 'e' :: (if power < 0 then '-' else '+') ::
      (List.replicate (2 - size.length) '0' ++ size)
  else if point ≤ 0 then '0' :: '.' :: List.replicate (-point).toNat '0' ++ digits
  else if count ≤ point then digits ++ List.replicate (point - count).toNat '0' ++ ['.', '0']
  else digits.take point.toNat ++ '.' :: digits.drop point.toNat

private def dropZeros (digits : List Char) : List Char :=
  (digits.reverse.dropWhile (· == '0')).reverse

/-- A number with the fewest digits that read back: positional from `0.0001` up to sixteen digits
before the point, with a power of ten otherwise. -/
def text : Double → String
  | nan => "nan"
  | infinite negative => if negative then "-inf" else "inf"
  | finite negative mantissa exponent =>
    let body :=
      if mantissa == 0 then ['0', '.', '0']
      else
        let (digits, place) := shortest mantissa exponent
        let digits := Nat.toDigits 10 digits
        layout (dropZeros digits) (digits.length + place)
    String.ofList (if negative then '-' :: body else body)

end Double

end MockGen
