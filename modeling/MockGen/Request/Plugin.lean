import MockGen.Plugin.Load
import MockGen.Request.Expectation

/-!
# Requests to plugins

Requests to plugins by the names of their members, with arguments of any kind.
-/

namespace MockGen

namespace Plugin

/-- A member of a plugin that can be asked for by name. -/
inductive Member where
  | hook (h : Hook)
  | checks
  | guardedChecks
  | callbackCall
  | constPointer
  | isVoid
  | datum
  deriving Repr, DecidableEq

namespace Member

def hooks : List (String × Hook) :=
  [("include_files", .includes), ("instance_typedefs", .callFields),
    ("instance_structure", .functionFields), ("mock_function_declarations", .declarations),
    ("mock_implementation_precheck", .precheck), ("mock_implementation", .implementation),
    ("mock_interfaces", .interfaces), ("mock_verify", .verify), ("mock_destroy", .destroy),
    ("mock_ignore", .ignoreAll)]

def data (plugin : Plugin) : List String :=
  ["utils", "priority"] ++
  (if plugin == ignoreArg then [] else ["config"]) ++
  (if plugin == expect || plugin == array then ["ptr_handling", "ordered", "unity_helper"]
    else []) ++
  if plugin == callback then ["include_count"] else []

def reserved : List String :=
  ["class", "delattr", "dict", "dir", "doc", "eq", "format", "ge", "getattribute", "getstate", "gt",
    "hash", "init", "init_subclass", "le", "lt", "module", "ne", "new", "reduce", "reduce_ex",
    "repr", "setattr", "sizeof", "str", "subclasshook", "weakref"]

def isReserved (name : String) : Bool :=
  reserved.any fun inner => name == "__" ++ inner ++ "__"

def extras : Plugin → List (String × Member)
  | expect => [("mock_implementation_always_check_args", checks),
      ("mock_implementation_might_check_args", guardedChecks)]
  | callback => [("generate_call", callbackCall)]
  | returnThruPtr => [("ptr_to_const", constPointer), ("void_pointer", isVoid)]
  | _ => []

def find? (plugin : Plugin) (name : String) : Option Member :=
  match (hooks.lookup name).filter (answers · plugin) with
  | some h => some (hook h)
  | none =>
    match (extras plugin).lookup name with
    | some member => some member
    | none => if (data plugin).contains name || isReserved name then some datum else none

end Member

private def knowsVoids (s : Settings) (d : Draft) : Bool :=
  (s.voids.holds "").isOk ||
    (s.outputs d.fill).all fun a =>
      a.type.toList.getLast? != some '*' || s.isVoid (String.ofList a.type.toList.dropLast)

def sayAt (s : Settings) (plugin : Plugin) (h : Hook) (function : Value) :
    Except Fault String := do
  let d := Draft.ofValue function
  let text ← plugin.textOn s d h
  if plugin == returnThruPtr && h == .declarations && !knowsVoids s d then throw .wrongKind
  return text

def ask (s : Settings) (plugin : Plugin) (member : Member) (args : List Value) :
    Except Fault Value := do
  match member, args with
  | .hook .includes, [] => return .str plugin.includes
  | .hook .includes, _ => throw .wrongKind
  | .hook h, [function] => return .str (← plugin.sayAt s h function)
  | .checks, [function] => return .str (← (Draft.ofValue function).verifyAll s)
  | .guardedChecks, [function] =>
    return .str (← checksOn { s with anyArgs := true } (Draft.ofValue function))
  | .callbackCall, [function] =>
    let d := Draft.ofValue function
    return .str (← d.render (callbackCallNeeds d.fill) (Plugin.callbackCall s))
  | .constPointer, [type] => return .str (pointsToConst (← type.actingText))
  | .isVoid, [type] =>
    let name ← type.actingText
    if s.isVoid name then return .bool true else return .bool (← s.voids.holds name)
  | _, _ => throw .wrongKind

end Plugin

namespace Plugins

def ofResolved (o : Options) (helped : Bool) (voids : Value) : Job Plugins := do
  load o (← Settings.ofResolved o helped voids)

def run (ps : Plugins) (name : Value) (args : List Value) : Except Fault Value := do
  let name ← name.asText
  let texts ← ps.loaded.mapM fun plugin =>
    match Plugin.Member.find? plugin name with
    | some member => do (← plugin.ask ps.settings member args).asText
    | none => return ""
  return .str (String.join texts)

def on (ps : Plugins) (object name : Value) (args : List Value) : Except Fault Value := do
  match ps.loaded.find? fun p => object == .str (Plugin.objectName p.name) with
  | none => throw .outOfRange
  | some plugin =>
    match Plugin.Member.find? plugin (← name.asText) with
    | some member => plugin.ask ps.settings member args
    | none => throw .noOperation

def camelize (name : Value) : Except Fault Value := do
  return .str (String.ofList (Plugin.camelize (← name.actingText).toList))

end Plugins

end MockGen
