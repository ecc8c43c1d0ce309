import MockGen.Yaml.Node
import MockGen.Yaml.Plain

/-!
# Option files

The values of the nodes of a document.  Main function: `parse`.  It stands for the reader of option
files that is in use; options are resolved from the value that it gives, whatever its notation.
-/

namespace MockGen.Yaml

private def standardTag? (tag : String) : Option String :=
  let start := "tag:yaml.org,2002:".toList
  if start.isPrefixOf tag.toList then some (String.ofList (tag.toList.drop start.length)) else none

private def taggedKind? (tag : String) : Option Kind :=
  match standardTag? tag with
  | some "null" => some .null
  | some "bool" => some .bool
  | some "int" => some .int
  | some "float" => some .float
  | some "timestamp" => some .moment
  | some "str" => some .str
  | some "merge" => some .merge
  | some "value" => some .value
  | _ => none

private def scalarKind? (tag : Option String) (plain : Bool) (t : List Char) : Option Kind :=
  match tag with
  | some tag => taggedKind? tag
  | none => some (if plain then plainKind t else .str)

private def kind? : Node → Option Kind
  | .scalar tag plain t => scalarKind? tag plain t
  | .list tag _ => tag.bind taggedKind?
  | .map tag _ => tag.bind taggedKind?

private def isTag (name : String) (tag : Option String) : Bool :=
  tag.all fun tag => standardTag? tag == some name

mutual

private def scalarText : Node → Except Trouble (List Char)
  | .scalar _ _ t => .ok t
  | .list _ _ => .error .malformed
  | .map _ entries => entryText entries

private def entryText : List (Node × Node) → Except Trouble (List Char)
  | [] => .error .malformed
  | (key, value) :: rest => if kind? key == some .value then scalarText value else entryText rest

end

mutual

def valueOf : Node → Except Trouble Value
  | .scalar tag plain t =>
    match scalarKind? tag plain t with
    | some kind => scalarValue kind t
    | none => .error .malformed
  | .list tag items => do
    if isTag "seq" tag then return .list (← valuesOf items)
    if tag.isSome && (isTag "omap" tag || isTag "pairs" tag) then return .list (← pairsOf items)
    .error .malformed
  | .map tag entries => do
    if isTag "map" tag then
      let (merged, own) ← entriesOf entries
      return .map (Value.merge [] (merged ++ own))
    match tag.bind taggedKind? with
    | some kind => scalarValue kind (← entryText entries)
    | none => .error .malformed

private def valuesOf : List Node → Except Trouble (List Value)
  | [] => .ok []
  | item :: rest => do return (← valueOf item) :: (← valuesOf rest)

private def pairsOf : List Node → Except Trouble (List Value)
  | [] => .ok []
  | .map _ [(key, value)] :: rest => do
    let pair := Value.list [← valueOf key, ← valueOf value]
    return pair :: (← pairsOf rest)
  | _ :: _ => .error .malformed

private def entriesOf : List (Node × Node) →
    Except Trouble (List (Value × Value) × List (Value × Value))
  | [] => .ok ([], [])
  | (key, value) :: rest => do
    match kind? key with
    | some .merge =>
      let merged ← mergedOf value
      let (further, own) ← entriesOf rest
      return (merged ++ further, own)
    | _ =>
      let entry := (← keyOf key, ← valueOf value)
      let (merged, own) ← entriesOf rest
      return (merged, entry :: own)

private def keyOf : Node → Except Trouble Value
  | .scalar tag plain t =>
    if scalarKind? tag plain t == some .value then .ok (.str (String.ofList t))
    else valueOf (.scalar tag plain t)
  | _ => .error .malformed

private def mergedOf : Node → Except Trouble (List (Value × Value))
  | .map _ entries => do
    let (merged, own) ← entriesOf entries
    return merged ++ own
  | .list _ items => mergedItems items
  | .scalar .. => .error .malformed

private def mergedItems : List Node → Except Trouble (List (Value × Value))
  | [] => .ok []
  | .map _ entries :: rest => do
    let (merged, own) ← entriesOf entries
    let further ← mergedItems rest
    return further ++ merged ++ own
  | _ :: _ => .error .malformed

end

private def isAllowed (c : Char) : Bool :=
  let n := c.toNat
  n == 9 || n == 10 || n == 13 || (32 ≤ n && n ≤ 126) || n == 0x85 || (0xA0 ≤ n && n ≤ 0xFFFD) ||
    0x10000 ≤ n

def parse (t : List Char) : Except Trouble Value :=
  if t.all isAllowed then do
    match ← Nodes.document (← tokens t) with
    | none => return .null
    | some node => valueOf node
  else .error .malformed

end MockGen.Yaml
