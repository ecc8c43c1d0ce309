import MockGen.Header.Parameter
import MockGen.Header.Signature

/-!
# Reading one function declaration
-/

namespace MockGen.Header

open Pattern

def ellipsis : Pattern :=
  stretch wordOrBlank ++ text "..."

def furtherEllipsis : Pattern :=
  char ',' ++ stretch wordOrBlank ++ text "..."

/-- Splits an ellipsis off a parameter list.  The parameters in front of it are kept only when a
comma and one space separate them from it. -/
def splitVarArg (params : List Char) : Option String × List Char :=
  match ellipsis.find? params with
  | some m =>
    (some (String.ofList (Text.strip m.text)),
      if Text.hasPart ", ...".toList params then furtherEllipsis.remove params else "void".toList)
  | none => (none, params)

def scopedName (namespaces : List String) (className : Option String) (name : String) : String :=
  let scope := "_".intercalate namespaces
  let scope :=
    match className with
    | some c => if c == "" then scope else if scope == "" then c else s!"{scope}_{c}"
    | none => scope
  if scope == "" then name else s!"{scope}_{name}"

/-- What a function returns, given the type as written and the type names that mean `void`. -/
def returnedOf (voids : List String) (parsed : TypedName) : Returned :=
  let isVoid := voids.contains (String.ofList (Text.strip parsed.type.toList))
  let type := if isVoid then "void" else parsed.type
  { type := type, name := "cmock_to_return", str := s!"{type} cmock_to_return",
    isVoid := type == "void", isPtr := parsed.isPtr, isConst := parsed.isConst,
    isConstPtr := parsed.isConstPtr }

/-- Reads a function declaration in a scope, which is looked at once the declaration has turned out
to be one. -/
def prototypeUnder (r : Rules) (declared : List Char)
    (scope : Except Fault (List String × Option String)) : ReadM Prototype := do
  match declaration.matchStart? declared with
  | none => throw (.unreadableDeclaration (String.ofList declared))
  | some m =>
    let parsed ← typeAndName r (m.group 1)
    let (namespaces, className) ← scope
    let returned := returnedOf (← get).voids parsed
    let name := scopedName namespaces className parsed.name
    let (varArg, params) := splitVarArg (Text.strip (m.group 2))
    let (list, state) := cleanArguments r params (← get)
    set state
    let args ← arguments r list
    if returned.type == "" then
      throw (.incompletePrototype (String.ofList declared) parsed.modifier
        (inspectRecord returned.entries) name (inspectRecords (args.map Argument.entries)))
    return {
      name := name
      unscopedName := parsed.name
      namespaces := namespaces
      className := className
      modifier := parsed.modifier
      callingConvention := parsed.callingConvention
      returned := returned
      args := args
      argsString := String.ofList list
      argsCall := ", ".intercalate (args.map Argument.name)
      containsPtr := args.any Argument.isPtr
      varArg := varArg }

def prototype (r : Rules) (declared : List Char) (namespaces : List String)
    (className : Option String) : ReadM Prototype :=
  prototypeUnder r declared (.ok (namespaces, className))

end MockGen.Header
