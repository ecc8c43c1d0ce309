import MockGen.Expectation
import MockGen.Plugin.Basic

/-!
# What the plugins remember

For every expected call, and for every mocked function.
-/

namespace MockGen

def Settings.returnsThru (s : Settings) (a : Argument) : Bool :=
  s.isPointerLike a.type && !a.isConst

def Settings.outputs (s : Settings) (p : Prototype) : List Argument :=
  p.args.filter s.returnsThru

/-- The type of a pointer through which nothing is written: its first star stands behind
`const`. -/
def pointsToConst (type : String) : String :=
  String.ofList (Text.replaceFirst '*' " const*".toList type.toList)

namespace Plugin

open Code Expectation

def callFields (s : Settings) : Plugin → Prototype → String
  | expect, p =>
    let type := p.returned.type
    lines (
      only (!p.returned.isVoid) [s!"  {type} ReturnVal;"] ++
      only s.ordered ["  int CallOrder;"] ++
      p.args.map fun a => "  " ++ a.type ++ " Expected_" ++ a.name ++ ";")
  | expectAnyArgs, _ => lines ["  char ExpectAnyArgsBool;"]
  | exceptions, _ => lines ["  CEXCEPTION_T ExceptionToThrow;"]
  | array, p =>
    lines ((p.args.filter (·.isPtr)).map fun a => "  int Expected_" ++ a.name ++ "_Depth;")
  | returnThruPtr, p =>
    "\n".intercalate ((s.outputs p).map fun a =>
      let n := a.name
      let type := pointsToConst a.type
      lines [
        s!"  char ReturnThruPtr_{n}_Used;",
        s!"  {type} ReturnThruPtr_{n}_Val;",
        s!"  size_t ReturnThruPtr_{n}_Size;"])
  | ignoreArg, p => lines (p.args.map fun a => "  char IgnoreArg_" ++ a.name ++ ";")
  | ignore, _ => ""
  | ignoreStateless, _ => ""
  | callback, _ => ""

def functionFields : Plugin → Prototype → String
  | ignore, p => ignoreFields p
  | ignoreStateless, p => ignoreFields p
  | callback, p =>
    let f := p.name
    lines [
      s!"  char {f}_CallbackBool;",
      s!"  CMOCK_{f}_CALLBACK {f}_CallbackFunctionPointer;",
      s!"  int {f}_CallbackCalls;"]
  | expect, _ => ""
  | expectAnyArgs, _ => ""
  | exceptions, _ => ""
  | array, _ => ""
  | returnThruPtr, _ => ""
  | ignoreArg, _ => ""
where
  ignoreFields (p : Prototype) : String :=
    let f := p.name
    let type := p.returned.type
    lines ([s!"  char {f}_IgnoreBool;"] ++
      only (!p.returned.isVoid) [s!"  {type} {f}_FinalReturn;"])

/-! ## What is needed of a draft -/

def outputNeeds (s : Settings) (p : Prototype) (more : Nat → List Need) : List Need :=
  eachArgNeeds p fun a i =>
    .starred (.argType i) :: (if s.isPointerLike a.type then [.argFlags i] else []) ++
      if s.returnsThru a then .shown (.argName i) :: more i else []

def callFieldsNeeds (s : Settings) : Plugin → Prototype → List Need
  | expect, p =>
    [.returnVoid] ++ (if p.returned.isVoid then [] else [.shown .returnType]) ++
      eachArgNeeds p fun _ i => [.shown (.argType i), .shown (.argName i)]
  | array, p =>
    eachArgNeeds p fun a i => .argFlags i :: if a.isPtr then [.shown (.argName i)] else []
  | returnThruPtr, p => outputNeeds s p fun i => [.edited (.argType i)]
  | ignoreArg, p => eachArgNeeds p fun _ i => [.shown (.argName i)]
  | _, _ => []

def functionFieldsNeeds : Plugin → Prototype → List Need
  | ignore, p => ignoreNeeds p
  | ignoreStateless, p => ignoreNeeds p
  | callback, _ => [.shown .name]
  | _, _ => []
where
  ignoreNeeds (p : Prototype) : List Need :=
    [.returnVoid, .shown .name] ++ if p.returned.isVoid then [] else [.shown .returnType]

end Plugin

end MockGen
