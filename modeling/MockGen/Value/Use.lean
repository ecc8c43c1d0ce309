import MockGen.Fault

/-!
# Using values

What can be done with values of any kind, and the fault when the kind does not allow it.
-/

namespace MockGen.Value

def asText : Value → Except Fault String
  | str s => .ok s
  | _ => .error .wrongKind

def actingText : Value → Except Fault String
  | str s => .ok s
  | _ => .error .noOperation

/-- The items of a value that is gone through one by one: the characters of a text, the keys of a
map. -/
def items : Value → Except Fault (List Value)
  | list items => .ok items
  | str s => .ok (s.toList.map fun c => str (String.ofList [c]))
  | map entries => .ok (entries.map Prod.fst)
  | _ => .error .wrongKind

def holds (part : String) : Value → Except Fault Bool
  | str s => .ok (Text.hasPart part.toList s.toList)
  | list items => .ok (items.any (· == str part))
  | map entries => .ok (entries.any (·.1 == str part))
  | _ => .error .wrongKind

def isKey : Value → Bool
  | list _ => false
  | map _ => false
  | _ => true

def keySet (values : List Value) : Except Fault (List Value) :=
  if values.all isKey then .ok (Text.distinct values) else .error .wrongKind

private def size? : Value → Option (Int × Nat)
  | bool b => some (if b then 1 else 0, 0)
  | int n => some (n, 0)
  | double x =>
    match x, x.ratio? with
    | _, some size => some size
    | .infinite negative, none =>
      let beyond : Int := Nat.pow 2 1100
      some (if negative then -beyond else beyond, 0)
    | _, none => some (0, 0)
  | _ => none

private def atMost (a b : Int × Nat) : Bool :=
  a.1 * Nat.pow 2 b.2 ≤ b.1 * Nat.pow 2 a.2

/-- Values in order: texts by their code points, numbers by their size.  Others have no order. -/
def sorted (values : List Value) : Except Fault (List Value) :=
  if values.length ≤ 1 then .ok values
  else if values.all (·.text?.isSome) then
    .ok (values.mergeSort fun a b => a.display ≤ b.display)
  else if values.all (size? · |>.isSome) then
    .ok (values.mergeSort fun a b => atMost ((size? a).getD (0, 0)) ((size? b).getD (0, 0)))
  else .error .wrongKind

end MockGen.Value
