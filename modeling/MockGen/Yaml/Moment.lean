import MockGen.Yaml.Scalar

/-!
# Days and moments in option files

Their texts, and which of them there are.
-/

namespace MockGen.Yaml

structure Moment where
  year : Nat
  month : Nat
  day : Nat
  time : Option (Nat × Nat × Nat × Nat) := none
  offset : Option Int := none

namespace Moment

private def daysIn (year month : Nat) : Nat :=
  let isLeap := year % 4 == 0 && (year % 100 != 0 || year % 400 == 0)
  match month with
  | 2 => if isLeap then 29 else 28
  | 4 | 6 | 9 | 11 => 30
  | _ => 31

def isReal (m : Moment) : Bool :=
  1 ≤ m.year && 1 ≤ m.month && m.month ≤ 12 && 1 ≤ m.day && m.day ≤ daysIn m.year m.month &&
    m.time.all (fun (hour, minute, second, _) => hour < 24 && minute < 60 && second < 60) &&
    m.offset.all (fun minutes => minutes.natAbs < 24 * 60)

/-! ## Reading -/

private def isDigit (c : Char) : Bool :=
  '0' ≤ c && c ≤ '9'

private def number? (least most : Nat) (t : List Char) : Option (Nat × List Char) :=
  let digits := (t.takeWhile isDigit).take most
  if digits.length < least then none
  else (digits? 10 digits).map fun n => (n, t.drop digits.length)

private def after? (c : Char) (t : List Char) : Option (List Char) :=
  match t with
  | d :: rest => if d == c then some rest else none
  | [] => none

private def isBlank (c : Char) : Bool :=
  c == ' ' || c == '\t'

private def date? (t : List Char) : Option (Moment × List Char) := do
  let (year, t) ← number? 4 4 t
  let (month, t) ← number? 1 2 (← after? '-' t)
  let (day, t) ← number? 1 2 (← after? '-' t)
  return ({ year, month, day }, t)

private def offset? (t : List Char) : Option (Option Int) := do
  match t.dropWhile isBlank with
  | [] => if t.isEmpty then some none else none
  | ['Z'] => some (some 0)
  | sign :: t =>
    if sign == '+' || sign == '-' then
      let (hours, t) ← number? 1 2 t
      let minutes ← match t with
        | [] => some 0
        | _ => do
          let (minutes, t) ← number? 2 2 (← after? ':' t)
          if t.isEmpty then some minutes else none
      let size : Int := (hours * 60 + minutes : Nat)
      some (some (if sign == '-' then -size else size))
    else none

private def withTime? (m : Moment) (t : List Char) : Option Moment := do
  let start ← match t with
    | 'T' :: t => some t
    | 't' :: t => some t
    | c :: t => if isBlank c then some (t.dropWhile isBlank) else none
    | [] => none
  let (hour, t) ← number? 1 2 start
  let (minute, t) ← number? 2 2 (← after? ':' t)
  let (second, t) ← number? 2 2 (← after? ':' t)
  let (fraction, t) := match t with
    | '.' :: t => (t.takeWhile isDigit, t.dropWhile isDigit)
    | _ => ([], t)
  let millionths ← digits? 10 ((fraction ++ List.replicate 6 '0').take 6)
  return { m with time := some (hour, minute, second, millionths), offset := ← offset? t }

/-- The day or the moment that a text spells.  A day on its own has two digits for month and day. -/
def ofText? (t : List Char) : Option Moment := do
  let (m, rest) ← date? t
  if rest.isEmpty then
    if t.length == 10 then some m else none
  else withTime? m rest

/-! ## Texts -/

private def padded (width n : Nat) : String :=
  let digits := Nat.toDigits 10 n
  String.ofList (List.replicate (width - digits.length) '0' ++ digits)

private def clockText (minutes : Int) : String :=
  (if minutes < 0 then "-" else "+") ++ padded 2 (minutes.natAbs / 60) ++ ":" ++
    padded 2 (minutes.natAbs % 60)

def text (m : Moment) : String :=
  padded 4 m.year ++ "-" ++ padded 2 m.month ++ "-" ++ padded 2 m.day ++
    match m.time with
    | none => ""
    | some (hour, minute, second, millionths) =>
      " " ++ padded 2 hour ++ ":" ++ padded 2 minute ++ ":" ++ padded 2 second ++
        (if millionths == 0 then "" else "." ++ padded 6 millionths) ++
        (m.offset.map clockText).getD ""

private def clockSpelling (minutes : Int) : String :=
  if minutes == 0 then "datetime.timezone.utc"
  else
    let seconds := minutes * 60
    let inside :=
      if seconds < 0 then s!"days=-1, seconds={seconds + 86400}" else s!"seconds={seconds}"
    s!"datetime.timezone(datetime.timedelta({inside}))"

def spelling (m : Moment) : String :=
  let day := s!"{m.year}, {m.month}, {m.day}"
  match m.time with
  | none => s!"datetime.date({day})"
  | some (hour, minute, second, millionths) =>
    s!"datetime.datetime({day}, {hour}, {minute}" ++
      (if second == 0 && millionths == 0 then "" else s!", {second}") ++
      (if millionths == 0 then "" else s!", {millionths}") ++
      (match m.offset with
        | none => ")"
        | some minutes => s!", tzinfo={clockSpelling minutes})")

end Moment

end MockGen.Yaml
