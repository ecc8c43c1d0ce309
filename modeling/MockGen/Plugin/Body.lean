import MockGen.Plugin.Instance

/-!
# Bodies of mocked functions

What the plugins add to the body of a mocked function: before it looks for an expected call, and
after it found one.
-/

namespace MockGen.Plugin

open Code Expectation

def callbackCall (s : Settings) (p : Prototype) : String :=
  let callback := mockField p.name "CallbackFunctionPointer"
  let actuals := commas (p.args.map (·.name) ++
    only s.countsCalls [mockField p.name "CallbackCalls" ++ "++"])
  s!"{callback}({actuals})"

def leaveIgnored (s : Settings) (indent : String) (p : Prototype) : String :=
  let ignored := mockField p.name "IgnoreBool"
  let final := mockField p.name "FinalReturn"
  let result := callField "ReturnVal"
  lines [s!"  if ({ignored})", "  \x7b", "    UNITY_CLR_DETAILS();"] ++
  if p.returned.isVoid then lines ["    return;", "  \x7d"]
  else
    lines ["    if (cmock_call_instance == NULL)", s!"      return {final};"] ++
    indent ++ assign s final result p.returned.type p.returned.isPtr ++
    lines [s!"    return {result};", "  \x7d"]

def precheck (s : Settings) : Plugin → Prototype → String
  | ignore, p => leaveIgnored s "" p
  | ignoreStateless, p => leaveIgnored s "  " p
  | callback, p =>
    let added := mockField p.name "CallbackBool"
    let callback := mockField p.name "CallbackFunctionPointer"
    let type := p.returned.type
    let call := callbackCall s p
    lines (
      [s!"  if (!{added} &&",
        s!"      {callback} != NULL)",
        "  \x7b"] ++
      (if p.returned.isVoid then [s!"    {call};", "    UNITY_CLR_DETAILS();", "    return;"]
      else [
        s!"    {type} cmock_cb_ret = {call};",
        "    UNITY_CLR_DETAILS();",
        "    return cmock_cb_ret;"]) ++
      ["  \x7d"])
  | expect, _ => ""
  | expectAnyArgs, _ => ""
  | exceptions, _ => ""
  | array, _ => ""
  | returnThruPtr, _ => ""
  | ignoreArg, _ => ""

def copyOut (a : Argument) : List String :=
  let n := a.name
  let used := callField ("ReturnThruPtr_" ++ n ++ "_Used")
  let value := callField ("ReturnThruPtr_" ++ n ++ "_Val")
  let size := callField ("ReturnThruPtr_" ++ n ++ "_Size")
  [s!"  if ({used})",
    "  \x7b",
    s!"    UNITY_TEST_ASSERT_NOT_NULL({n}, cmock_line, CMockStringPtrIsNULL);",
    s!"    memcpy((void*){n}, (const void*){value}, ",
    s!"      {size});",
    "  \x7d"]

def action (s : Settings) : Plugin → Prototype → String
  | callback, p =>
    let callback := mockField p.name "CallbackFunctionPointer"
    let result := callField "ReturnVal"
    let call := callbackCall s p
    lines [
      s!"  if ({callback} != NULL)",
      "  \x7b",
      if p.returned.isVoid then s!"    {call};" else s!"    {result} = {call};",
      "  \x7d"]
  | exceptions, _ =>
    let thrown := callField "ExceptionToThrow"
    lines [
      s!"  if ({thrown} != CEXCEPTION_NONE)",
      "  \x7b",
      "    UNITY_CLR_DETAILS();",
      s!"    Throw({thrown});",
      "  \x7d"]
  | returnThruPtr, p => "\n".intercalate ((s.outputs p).flatMap copyOut)
  | expect, _ => ""
  | expectAnyArgs, _ => ""
  | ignore, _ => ""
  | ignoreStateless, _ => ""
  | array, _ => ""
  | ignoreArg, _ => ""

def guardCheck (s : Settings) (p : Prototype) (checks : String) : String :=
  if !s.anyArgs then checks
  else if p.args.isEmpty then ""
  else
    let anyArgs := callField "ExpectAnyArgsBool"
    lines [s!"  if (!{anyArgs})", "  \x7b"] ++ checks ++ lines ["  \x7d"]

def implementation (s : Settings) : Plugin → Prototype → Except Fault String
  | expect, p => return guardCheck s p (← verifyAll s p)
  | plugin, p => return action s plugin p

/-! ## What is needed of a draft -/

def callbackCallNeeds (p : Prototype) : List Need :=
  eachArgNeeds p (fun _ i => [.shown (.argName i)]) ++ [.shown .name] ++
    eachArgNeeds p fun _ i => [.text (.argName i)]

def precheckNeeds : Plugin → Prototype → List Need
  | ignore, p => leaveNeeds p
  | ignoreStateless, p => leaveNeeds p
  | callback, p =>
    [.shown .name, .returnVoid] ++ (if p.returned.isVoid then [] else [.shown .returnType]) ++
      callbackCallNeeds p
  | _, _ => []
where
  leaveNeeds (p : Prototype) : List Need :=
    [.shown .name, .returnVoid] ++
      if p.returned.isVoid || p.returned.isPtr then []
      else [.shown .returnType, .lookedUp .returnType]

def actionNeeds (s : Settings) : Plugin → Prototype → List Need
  | callback, p => [.shown .name, .returnVoid] ++ callbackCallNeeds p
  | returnThruPtr, p => outputNeeds s p fun _ => []
  | _, _ => []

end MockGen.Plugin
