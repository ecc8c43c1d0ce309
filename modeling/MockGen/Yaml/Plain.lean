import MockGen.Yaml.Moment

/-!
# What plain scalars stand for

Nothing, truth values, numbers, moments and texts.
-/

namespace MockGen.Yaml

/-- The kinds of scalars that a plain text or a tag may name. -/
inductive Kind where
  | null
  | bool
  | int
  | float
  | moment
  | str
  | merge
  | value
  deriving DecidableEq

private def isDigit (c : Char) : Bool :=
  '0' ≤ c && c ≤ '9'

private def isDigitOr_ (c : Char) : Bool :=
  isDigit c || c == '_'

private def withoutSign (t : List Char) : List Char :=
  match t with
  | '+' :: rest => rest
  | '-' :: rest => rest
  | _ => t

private def isSixtieth : List Char → Bool
  | [c] => isDigit c
  | [c, d] => '0' ≤ c && c ≤ '5' && isDigit d
  | _ => false

private def isWhole (t : List Char) : Bool :=
  match t with
  | [] => false
  | ['0'] => true
  | '0' :: 'b' :: digits => !digits.isEmpty && digits.all fun c => c == '0' || c == '1' || c == '_'
  | '0' :: 'x' :: digits => !digits.isEmpty && digits.all fun c => (hexValue? c).isSome || c == '_'
  | '0' :: digits => digits.all fun c => ('0' ≤ c && c ≤ '7') || c == '_'
  | c :: _ =>
    match Text.splitAt ':' t with
    | first :: sixtieths => isDigit c && first.all isDigitOr_ && sixtieths.all isSixtieth
    | [] => false

private def isPower : List Char → Bool
  | [] => true
  | c :: sign :: digits =>
    (c == 'e' || c == 'E') && (sign == '+' || sign == '-') && !digits.isEmpty && digits.all isDigit
  | _ => false

private def isFraction (t : List Char) : Bool :=
  let body := withoutSign t
  let whole := body.takeWhile (· != '.')
  match body.drop whole.length with
  | '.' :: part =>
    let digits := part.takeWhile isDigitOr_
    let power := part.drop digits.length
    match Text.splitAt ':' whole with
    | [[]] => body.length == t.length && digits.head?.any isDigit && isPower power
    | [first] => first.head?.any isDigit && first.all isDigitOr_ && isPower power
    | first :: sixtieths =>
      first.head?.any isDigit && first.all isDigitOr_ && sixtieths.all isSixtieth && power.isEmpty
    | [] => false
  | _ => false

def plainKind (t : List Char) : Kind :=
  let s := String.ofList t
  if ["", "~", "null", "Null", "NULL"].contains s then .null
  else if ["yes", "Yes", "YES", "no", "No", "NO", "true", "True", "TRUE", "false", "False", "FALSE",
      "on", "On", "ON", "off", "Off", "OFF"].contains s then .bool
  else if isWhole (withoutSign t) then .int
  else if isFraction t || [".inf", ".Inf", ".INF"].contains (String.ofList (withoutSign t)) ||
      [".nan", ".NaN", ".NAN"].contains s then .float
  else if s == "<<" then .merge
  else if s == "=" then .value
  else if (Moment.ofText? t).isSome then .moment
  else .str

/-! ## Values -/

private def numberFault {α : Type} : Except Trouble α :=
  .error (.scalar .malformedNumber)

private def wholeOf (base : Nat) (t : List Char) : Except Trouble Int :=
  let t := Text.strip t
  let body := withoutSign t
  match digits? base body with
  | some n =>
    if body.isEmpty || (base == 10 && 4300 < body.length) then numberFault
    else .ok (if t.head? == some '-' then -(n : Int) else n)
  | none => numberFault

private def sixtieths (parts : List Int) : Int :=
  parts.foldl (fun sum part => sum * 60 + part) 0

private def intOf (t : List Char) : Except Trouble Int := do
  let t := t.filter (· != '_')
  let body := withoutSign t
  let n ←
    match t, body with
    | [], _ => .error (.scalar .outOfRange)
    | _, [] => .error (.scalar .outOfRange)
    | _, '0' :: 'b' :: digits => wholeOf 2 digits
    | _, '0' :: 'x' :: digits => wholeOf 16 digits
    | _, '0' :: digits => if digits.isEmpty then pure 0 else wholeOf 8 body
    | _, body => sixtieths <$> (Text.splitAt ':' body).mapM (wholeOf 10)
  return if t.head? == some '-' then -n else n

private def decimalOf (t : List Char) : Except Trouble Double :=
  let t := Text.strip t
  let body := withoutSign t
  let negative := t.head? == some '-'
  let whole := body.takeWhile isDigit
  let (part, rest) := match body.drop whole.length with
    | '.' :: part => (part.takeWhile isDigit, part.dropWhile isDigit)
    | rest => ([], rest)
  let power : Except Trouble Int := match rest with
    | [] => .ok 0
    | 'e' :: digits => wholeOf 10 digits
    | _ => numberFault
  let word := String.ofList body
  if word == "inf" || word == "infinity" then .ok (.infinite negative)
  else if word == "nan" then .ok .nan
  else if whole.isEmpty && part.isEmpty then numberFault
  else
    match digits? 10 (whole ++ part), power with
    | some digits, .ok power => .ok (.ofDecimal negative digits (power - part.length))
    | _, _ => numberFault

private def floatOf (t : List Char) : Except Trouble Double := do
  let t := (t.filter (· != '_')).map Char.toLower
  let body := withoutSign t
  let x ←
    match String.ofList body with
    | "" => .error (.scalar .outOfRange)
    | ".inf" => pure (.infinite false)
    | ".nan" => return .nan
    | _ =>
      if body.contains ':' then do
        let parts ← (Text.splitAt ':' body).mapM decimalOf
        let (sum, _) := parts.reverse.foldl
          (fun (sum, base) part => (sum.add (part.mul (.ofInt base)), base * 60))
          (Double.ofInt 0, (1 : Int))
        pure sum
      else decimalOf body
  return if t.head? == some '-' then x.negate else x

private def truthOf (t : List Char) : Except Trouble Bool :=
  let word := String.ofList (t.map Char.toLower)
  if ["yes", "true", "on"].contains word then .ok true
  else if ["no", "false", "off"].contains word then .ok false
  else .error (.scalar .missingPart)

private def momentOf (t : List Char) : Except Trouble Value :=
  match Moment.ofText? t with
  | none => .error (.scalar .noOperation)
  | some m => if m.isReal then .ok (.moment m.text m.spelling) else numberFault

def scalarValue (kind : Kind) (t : List Char) : Except Trouble Value :=
  match kind with
  | .null => .ok .null
  | .bool => .bool <$> truthOf t
  | .int => .int <$> intOf t
  | .float => .double <$> floatOf t
  | .moment => momentOf t
  | .str => .ok (.str (String.ofList t))
  | .merge => .error .malformed
  | .value => .error .malformed

end MockGen.Yaml
