import MockGen.Double
import MockGen.Text.Basic

/-!
# Values as option files and callers give them

Nothing, truth values, numbers, texts, lists and maps with their entries in order.
-/

namespace MockGen

inductive Value where
  | null
  | bool (b : Bool)
  | int (n : Int)
  | double (x : Double)
  | moment (shown spelled : String)
  | str (s : String)
  | list (items : List Value)
  | map (entries : List (Value × Value))
  deriving Inhabited, Repr

namespace Value

def truthy : Value → Bool
  | null => false
  | bool b => b
  | int n => n != 0
  | double x => !x.isZero
  | moment .. => true
  | str s => s != ""
  | list items => !items.isEmpty
  | map entries => !entries.isEmpty

def isBelow? (n : Int) : Value → Option Bool
  | bool b => some (decide ((if b then 1 else 0) < n))
  | int m => some (decide (m < n))
  | double x => some (x.isBelow n)
  | _ => none

def isAbove? (n : Int) : Value → Option Bool
  | bool b => some (decide (n < if b then 1 else 0))
  | int m => some (decide (n < m))
  | double x => some (x.isAbove n)
  | _ => none

def isAtLeast? (n : Int) : Value → Option Bool
  | bool b => some (decide (n ≤ if b then 1 else 0))
  | int m => some (decide (n ≤ m))
  | double x => some (x.isAbove n || x.isInt n)
  | _ => none

def int? : Value → Option Int
  | bool b => some (if b then 1 else 0)
  | int n => some n
  | _ => none

mutual

/-- Equality of values: numbers by their size, maps without regard to the order of entries. -/
def same : Value → Value → Bool
  | null, null => true
  | str s, str t => s == t
  | moment s _, moment t _ => s == t
  | list xs, list ys => sameItems xs ys
  | map xs, map ys => xs.length == ys.length && sameEntries xs ys
  | double x, double y => x.same y
  | double x, b => b.int?.any x.isInt
  | a, double y => a.int?.any y.isInt
  | a, b =>
    match a.int?, b.int? with
    | some m, some n => m == n
    | _, _ => false

private def sameItems : List Value → List Value → Bool
  | [], [] => true
  | x :: xs, y :: ys => same x y && sameItems xs ys
  | _, _ => false

private def sameEntries : List (Value × Value) → List (Value × Value) → Bool
  | [], _ => true
  | (k, v) :: xs, ys => ys.any (fun entry => same k entry.1 && same v entry.2) && sameEntries xs ys

end

instance : BEq Value := ⟨same⟩

def lookup (key : Value) (entries : List (Value × Value)) : Option Value :=
  (entries.find? fun entry => entry.1 == key).map Prod.snd

/-- The entries with `value` under `key`: in place when the key is there, at the end otherwise. -/
def insert (key value : Value) : List (Value × Value) → List (Value × Value)
  | [] => [(key, value)]
  | entry :: rest =>
    if entry.1 == key then (entry.1, value) :: rest else entry :: insert key value rest

def merge (base more : List (Value × Value)) : List (Value × Value) :=
  more.foldl (fun entries entry => insert entry.1 entry.2 entries) base

/-- A character inside a quoted text; those that are not `plain` are spelled by their number. -/
def quotedChar (plain : Char → Bool) (quote c : Char) : List Char :=
  let hex := fun (width : Nat) =>
    let digits := Nat.toDigits 16 c.toNat
    List.replicate (width - digits.length) '0' ++ digits
  if c == quote || c == '\\' then ['\\', c]
  else if c == '\n' then ['\\', 'n']
  else if c == '\r' then ['\\', 'r']
  else if c == '\t' then ['\\', 't']
  else if plain c then [c]
  else if c.toNat < 0x100 then '\\' :: 'x' :: hex 2
  else if c.toNat < 0x10000 then '\\' :: 'u' :: hex 4
  else '\\' :: 'U' :: hex 8

def quotedWith (plain : Char → Bool) (s : String) : String :=
  let t := s.toList
  let quote := if t.contains '\'' && !t.contains '"' then '"' else '\''
  String.ofList (quote :: t.flatMap (quotedChar plain quote) ++ [quote])

def quoted (s : String) : String :=
  quotedWith Text.isPrintable s

def quotedAscii (s : String) : String :=
  quotedWith (fun c => c.toNat < 128 && Text.isPrintable c) s

mutual

def inspect : Value → String
  | null => "None"
  | bool true => "True"
  | bool false => "False"
  | int n => toString n
  | double x => x.text
  | moment _ spelled => spelled
  | str s => quoted s
  | list items => "[" ++ inspectItems items ++ "]"
  | map entries => "\x7b" ++ inspectEntries entries ++ "\x7d"

private def inspectItems : List Value → String
  | [] => ""
  | [x] => inspect x
  | x :: y :: rest => inspect x ++ ", " ++ inspectItems (y :: rest)

private def inspectEntries : List (Value × Value) → String
  | [] => ""
  | [(k, v)] => inspect k ++ ": " ++ inspect v
  | (k, v) :: next :: rest =>
    inspect k ++ ": " ++ inspect v ++ ", " ++ inspectEntries (next :: rest)

end

def display : Value → String
  | str s => s
  | moment shown _ => shown
  | v => v.inspect

def record (entries : List (String × Value)) : Value :=
  map (entries.map fun (key, value) => (str key, value))

def texts (items : List String) : Value :=
  list (items.map str)

def ofText? : Option String → Value
  | some s => str s
  | none => null

def isList : Value → Bool
  | list _ => true
  | _ => false

def text? : Value → Option String
  | str s => some s
  | _ => none

end Value

end MockGen
