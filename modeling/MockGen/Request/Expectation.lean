import MockGen.Expectation

/-!
# Requests for code around a call

Requests for code around an expected call, with functions and parameters described by values.
-/

namespace MockGen

/-- The type of a parameter with the `const` that reading the header took away.  A type to which
nothing is added stays as it is. -/
def typeWithConst (arg : Value) : Except Fault Value := do
  let a := ArgumentDraft.ofValue arg
  let type ← a.type
  if ← type.holds "*" then
    return if a.isConstPtr then .str (type.display ++ " const") else type
  else return if a.isConst then .str ("const " ++ type.display) else type

namespace Settings

variable (s : Settings)

/-- The settings of resolved options; without helpers, nothing is known of how types are
compared. -/
def ofResolved (o : Options) (helped : Bool) (voids : Value) : Job Settings := do
  let known ← if helped then some <$> Comparisons.ofOptions o else pure none
  return { ofOptions o known with voids }

def isPointerLikeValue (type : Value) : Except Fault Bool := do
  if ← type.holds "*" then return true
  let type ← type.asText
  if s.unmarkable.contains type then throw .wrongKind
  return s.starred.contains type

private def requireMarkable (args : List Argument) : Except Fault Unit :=
  if s.returnThruPtr && args.any (fun a =>
      !a.type.toList.contains '*' && s.unmarkable.contains a.type) then throw .wrongKind
  else return

def expectedOf (function arg : Value) : Except Fault Value := do
  let a := ArgumentDraft.ofValue arg
  let c ← ((Draft.ofValue function).withArg a).comparison s 0 a.fill
  let name := a.fill.name
  return .list [← a.type, ← a.name, .str (Code.callField ("Expected_" ++ name)),
    .str (Code.callField ("IgnoreArg_" ++ name)), .str c.assertion, .str c.access.text]

def baseOf (function inOrder : Value) : Value :=
  .str (Expectation.base s function.display inOrder.truthy)

def addArgOf (arg depth : Value) : Except Fault Value := do
  let a := ArgumentDraft.ofValue arg
  let text ← a.expected s depth.text?.isSome
  s.requireMarkable [a.fill]
  return .str text

def assignOf (dest arg : Value) : Except Fault Value := do
  return .str (← (ArgumentDraft.ofValue arg).assign s dest.display)

def loaderOf (function : Value) : Except Fault Value := do
  let d := Draft.ofValue function
  let text ← d.loader s
  if d.fill.argsString != "void" then s.requireMarkable d.fill.args
  return .str text

def loaderCallOf (function : Value) : Except Fault Value := do
  return .str (← (Draft.ofValue function).loaderCall s)

def verifyOf (function arg : Value) : Except Fault Value := do
  let a := ArgumentDraft.ofValue arg
  return .ofText? (← ((Draft.ofValue function).withArg a).verify? s 0 a.fill)

def verifyByOf (e : Expectation.Elements) (function arg : Value) :
    Except Fault Value := do
  let a := ArgumentDraft.ofValue arg
  return .str (← ((Draft.ofValue function).withArg a).verifyBy s e 0 a.fill)

end Settings

end MockGen
