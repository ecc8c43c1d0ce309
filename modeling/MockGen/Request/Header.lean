import MockGen.HeaderReader

/-!
# Requests to a reader of headers

Requests to a reader of headers, with arguments of any kind.  A request uses its arguments one after
the other and stops at the first one that will not do.
-/

namespace MockGen

/-- A reader, and the project that its requests share. -/
structure HeaderWork where
  reader : HeaderReader
  project : Project
  deriving Repr

abbrev HeaderM := ExceptT Fault (StateT HeaderWork (StateM Workspace))

namespace HeaderWork

open Header

def ofOptions (moduleName : String) (given : Value) : Job HeaderWork := do
  let reader ← HeaderReader.ofOptions (← Options.resolve given)
  return { reader, project := { moduleName } }

def reading {α : Type} (read : Rules → ReadM α) : HeaderM α :=
  ExceptT.mk fun w => do
    let (outcome, reader, project) ← w.reader.run w.project read
    return (outcome, { reader, project })

def rules : HeaderM Rules := do
  return (← get).reader.rulesIn (← getThe Workspace)

private def typedefs : HeaderM Value := do
  return .texts (← get).project.typedefs

private def voids : HeaderM Value := do
  let reader := (← get).reader
  return .list (← Value.sorted (reader.strays.voids ++ reader.voids.map .str))

private def textOf (t : List Char) : Value :=
  .str (String.ofList t)

private def textsOf (lines : List (List Char)) : Value :=
  .list (lines.map textOf)

private def linesOf (v : Value) : Except Fault (List (List Char)) := do
  return (← (← v.items).mapM Value.asText).map String.toList

def parse (name source : Value) : HeaderM Value := do
  let name ← name.asText
  let source ← source.actingText
  ExceptT.mk fun w => do
    let (outcome, reader, _) ← w.reader.run w.project fun rules =>
      Header.parse rules name source.toList
    return (outcome.map recordOf, { w with reader })
where
  recordOf (p : Parsed) : Value :=
    .record [("includes", .null), ("functions", .list (p.functions.map Prototype.record)),
      ("typedefs", .texts p.typedefs), ("normalized_source", .str p.normalizedSource)]

def statements (source cpp : Value) : HeaderM Value := do
  let t := (← source.actingText).toList
  let lines ← reading fun rules => Header.statements rules t cpp.truthy
  return .record [("lines", textsOf lines), ("typedefs", ← typedefs), ("local_as_void", ← voids)]

def cleanArguments (list : Value) : HeaderM Value := do
  let t := (← list.actingText).toList
  let cleaned ← reading fun rules => do
    let (cleaned, state) := Header.cleanArguments rules t (← get)
    set state
    return cleaned
  return .record [("args", textOf cleaned), ("typedefs", ← typedefs)]

private def scopeOf (namespaces className : Value) :
    Except Fault (List String × Option String) := do
  let namespaces ← (← namespaces.items).mapM Value.asText
  if className.truthy then return (namespaces, some (← className.asText))
  else return (namespaces, none)

def prototype (declared namespaces className : Value) : HeaderM Value := do
  let t := (← declared.asText).toList
  let namespaces := match namespaces with
    | .null => .list []
    | given => given
  let p ← reading fun rules => prototypeUnder rules t (scopeOf namespaces className)
  return .record [("decl", p.recordUnder namespaces className), ("typedefs", ← typedefs)]

def state : HeaderM Value := do
  let rules ← rules
  let strays := (← get).reader.strays
  let sorted := fun (strays : List Value) (names : List String) => do
    return Value.list (← (Value.sorted (strays ++ names.map .str) : Except Fault _))
  return .record [
    ("c_strippables", rules.strippables),
    ("c_attributes", ← sorted strays.attributes ("const" :: rules.attributes)),
    ("c_attr_noconst", ← sorted strays.attributes rules.attributes),
    ("c_calling_conventions", ← sorted strays.callingConventions rules.callingConventions),
    ("treat_as_void", ← voids),
    ("local_as_void", ← voids),
    ("standards", ← sorted strays.standards rules.standards),
    ("array_size_type", ← sorted strays.arraySizeTypes rules.arraySizeTypes),
    ("typedefs", ← typedefs)]

def removeComments (source : Value) : HeaderM Value := do
  return textOf (Header.removeComments (← source.asText).toList)

def flattenBraces (source : Value) : HeaderM Value := do
  return textOf (Header.flattenBraces (← source.asText).toList)

def countPairs (source : Value) : HeaderM Value := do
  let braces := (← source.items).map fun item =>
    if item == .str "\x7b" then '\x7b' else if item == .str "\x7d" then '\x7d' else ' '
  return .int (Header.countPairs braces : Nat)

/-- Turns inline functions into declarations; the patterns are looked at before the text is. -/
def transformInlines (source : Value) : HeaderM Value := do
  let patterns := (← rules).inlinePatterns
  let _ ← Header.transformInlines patterns []
  return textOf (← Header.transformInlines patterns (← source.actingText).toList)

def staticFunctions (lines : Value) : HeaderM Value := do
  let found := Header.staticFunctions {} (← linesOf lines)
  return .list (found.map fun d => .list [textOf d.declaration, textsOf d.namespaces,
    .ofText? (d.className.map String.ofList)])

def declarations (name lines : Value) : HeaderM Value := do
  let lines ← linesOf lines
  return textsOf (← reading fun rules => Header.declarations rules name.display lines)

def typeAndName (declared : Value) : HeaderM Value := do
  let parsed ← Header.typeAndName (← rules) (← declared.asText).toList
  return .record ([
    ("ptr?", .bool parsed.isPtr), ("const?", .bool parsed.isConst),
    ("const_ptr?", .bool parsed.isConstPtr), ("name", .str parsed.name),
    ("modifier", .str parsed.modifier), ("type", .str parsed.type)] ++
    match parsed.callingConvention with
    | some convention => [("c_calling_convention", .str convention)]
    | none => [])

def arguments (list : Value) : HeaderM Value := do
  let args ← Header.arguments (← rules) (← list.actingText).toList
  return .list (args.map fun a => .record a.entries)

def isPointer (declared : Value) : HeaderM Value := do
  if ← declared.holds "*" then return .bool (Header.isPointer (← declared.asText).toList)
  else return .bool false

def isConstant (declared : Value) : HeaderM Value := do
  return .bool (Header.isConstant (← declared.asText).toList)

def qualifiers (declared : Value) : HeaderM Value := do
  let t := (← declared.asText).toList
  return .record [("ptr?", .bool (Header.isPointer t)), ("const?", .bool (Header.isConstant t)),
    ("const_ptr?", .bool (isConstantPointer t))]

def withNames (list : Value) : HeaderM Value := do
  return textOf (Header.withNames (← rules) (← list.asText).toList)

private def entriesOf : Value → Except Fault (List (String × Value))
  | .map entries => .ok (entries.map fun (key, value) => (key.display, value))
  | _ => .error .noOperation

private def allEntriesOf (v : Value) : Except Fault (List (List (String × Value))) := do
  (← v.items).mapM entriesOf

def inspectRecord (v : Value) : HeaderM Value := do
  return .str (MockGen.inspectRecord (← entriesOf v))

def inspectRecords (v : Value) : HeaderM Value := do
  return .str (MockGen.inspectRecords (← allEntriesOf v))

end HeaderWork

end MockGen
