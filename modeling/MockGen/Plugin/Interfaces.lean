import MockGen.Plugin.Declarations

/-!
# What the plugins define in the source of a mock

The functions that set up expectations.
-/

namespace MockGen.Plugin

open Code Expectation

def function (header body : String) : String :=
  lines [header, "\x7b"] ++ body ++ lines ["\x7d", ""]

def expectHeader (p : Prototype) : String :=
  let f := p.name
  let params := p.argsString
  let result := p.returned.str
  if p.returned.isVoid then
    if params == "void" then s!"void {f}_CMockExpect(UNITY_LINE_TYPE cmock_line)"
    else s!"void {f}_CMockExpect(UNITY_LINE_TYPE cmock_line, {params})"
  else if params == "void" then
    s!"void {f}_CMockExpectAndReturn(UNITY_LINE_TYPE cmock_line, {result})"
  else s!"void {f}_CMockExpectAndReturn(UNITY_LINE_TYPE cmock_line, {params}, {result})"

def expectInterfaces (s : Settings) (p : Prototype) : String :=
  function (expectHeader p) (
    base s p.name true ++ loaderCall s p ++
    if p.returned.isVoid then ""
    else assign s (callField "ReturnVal") p.returned.name p.returned.type p.returned.isPtr)

def storeResult : String :=
  let result := callField "ReturnVal"
  s!"  {result} = cmock_to_return;"

def anyArgsInterfaces (s : Settings) (p : Prototype) : String :=
  let f := p.name
  let result := p.returned.str
  if p.args.isEmpty then ""
  else
    let anyArgs := callField "ExpectAnyArgsBool"
    let header :=
      if p.returned.isVoid then s!"void {f}_CMockExpectAnyArgs(UNITY_LINE_TYPE cmock_line)"
      else s!"void {f}_CMockExpectAnyArgsAndReturn(UNITY_LINE_TYPE cmock_line, {result})"
    function header (
      base s f true ++
      lines (only (!p.returned.isVoid) [storeResult] ++ [s!"  {anyArgs} = (char)1;"]))

def ignoreInterfaces (s : Settings) (p : Prototype) : String :=
  let f := p.name
  let result := p.returned.str
  let chain := mockField f "CallInstance"
  let ignored := mockField f "IgnoreBool"
  let on := lines [s!"  {ignored} = (char)1;"]
  (if p.returned.isVoid then function s!"void {f}_CMockIgnore(void)" on
  else
    function s!"void {f}_CMockIgnoreAndReturn(UNITY_LINE_TYPE cmock_line, {result})" (
      base s f false ++ lines [storeResult] ++ on)) ++
  function s!"void {f}_CMockStopIgnore(void)" (lines (
    only (!p.returned.isVoid) [
      s!"  if({ignored})",
      s!"    {chain} = CMock_Guts_MemNext({chain});"] ++
    [s!"  {ignored} = (char)0;"]))

def ignoreStatelessInterfaces (p : Prototype) : String :=
  let f := p.name
  let result := p.returned.str
  let chain := mockField f "CallInstance"
  let ignored := mockField f "IgnoreBool"
  let final := mockField f "FinalReturn"
  (if p.returned.isVoid then
    function s!"void {f}_CMockIgnore(void)" (lines [s!"  {ignored} = (char)1;"])
  else
    function s!"void {f}_CMockIgnoreAndReturn({result})" (lines [
      s!"  {chain} = CMOCK_GUTS_NONE;",
      s!"  {final} = cmock_to_return;",
      s!"  {ignored} = (char)1;"])) ++
  function s!"void {f}_CMockStopIgnore(void)" (lines [s!"  {ignored} = (char)0;"])

def setCallback (s : Settings) (f action flag : String) : String :=
  let ignored := mockField f "IgnoreBool"
  let added := mockField f "CallbackBool"
  let callback := mockField f "CallbackFunctionPointer"
  function s!"void {f}_{action}(CMOCK_{f}_CALLBACK Callback)" (lines (
    only s.ignore [s!"  {ignored} = (char)0;"] ++
    [s!"  {added} = (char){flag};",
      s!"  {callback} = Callback;"]))

def exceptionInterfaces (s : Settings) (p : Prototype) : String :=
  let f := p.name
  let thrown := callField "ExceptionToThrow"
  let params := if p.argsString == "void" then "" else p.argsString ++ ", "
  let header := s!"void {f}_CMockExpectAndThrow(UNITY_LINE_TYPE cmock_line, {params}" ++
    "CEXCEPTION_T cmock_to_throw)"
  function header (
    base s f true ++ loaderCall s p ++
    lines [s!"  {thrown} = cmock_to_throw;"])

def arrayInterfaces (s : Settings) (p : Prototype) : String :=
  if !p.containsPtr then ""
  else
    let f := p.name
    let result := p.returned.str
    let params := commas (p.args.map Argument.withDepth)
    let actuals := commas (p.args.map Argument.callWithDepth)
    let header :=
      if p.returned.isVoid then
        s!"void {f}_CMockExpectWithArray(UNITY_LINE_TYPE cmock_line, {params})"
      else
        s!"void {f}_CMockExpectWithArrayAndReturn(UNITY_LINE_TYPE cmock_line, {params}, {result})"
    function header (
      base s f true ++
      lines (
        [s!"  CMockExpectParameters_{f}(cmock_call_instance, {actuals});"] ++
        only (!p.returned.isVoid) [storeResult]))

def lastInstance (f : String) : String :=
  let chain := mockField f "CallInstance"
  s!"  CMOCK_{f}_CALL_INSTANCE* cmock_call_instance = " ++
    s!"(CMOCK_{f}_CALL_INSTANCE*)CMock_Guts_GetAddressFor(" ++
    s!"CMock_Guts_MemEndOfChain({chain}));"

def outputInterface (f : String) (a : Argument) : String :=
  let n := a.name
  let used := callField ("ReturnThruPtr_" ++ n ++ "_Used")
  let value := callField ("ReturnThruPtr_" ++ n ++ "_Val")
  let size := callField ("ReturnThruPtr_" ++ n ++ "_Size")
  let type := pointsToConst a.type
  let header :=
    s!"void {f}_CMockReturnMemThruPtr_{n}(UNITY_LINE_TYPE cmock_line, {type} {n}, " ++
      "size_t cmock_size)"
  function header (lines [
    lastInstance f,
    "  UNITY_TEST_ASSERT_NOT_NULL(cmock_call_instance, cmock_line, CMockStringPtrPreExp);",
    s!"  {used} = 1;",
    s!"  {value} = {n};",
    s!"  {size} = cmock_size;"])

def ignoreArgInterface (f : String) (a : Argument) : String :=
  let n := a.name
  let ignored := callField ("IgnoreArg_" ++ n)
  function s!"void {f}_CMockIgnoreArg_{n}(UNITY_LINE_TYPE cmock_line)" (lines [
    lastInstance f,
    "  UNITY_TEST_ASSERT_NOT_NULL(cmock_call_instance, cmock_line, CMockStringIgnPreExp);",
    s!"  {ignored} = 1;"])

def interfaces (s : Settings) : Plugin → Prototype → String
  | expect, p => expectInterfaces s p
  | expectAnyArgs, p => anyArgsInterfaces s p
  | ignore, p => ignoreInterfaces s p
  | ignoreStateless, p => ignoreStatelessInterfaces p
  | callback, p => setCallback s p.name "AddCallback" "1" ++ setCallback s p.name "Stub" "0"
  | exceptions, p => exceptionInterfaces s p
  | array, p => arrayInterfaces s p
  | returnThruPtr, p => "\n".intercalate ((s.outputs p).map (outputInterface p.name))
  | ignoreArg, p => concat (p.args.map (ignoreArgInterface p.name))

/-! ## What is needed of a draft -/

def interfacesNeeds (s : Settings) : Plugin → Prototype → List Need
  | expect, p =>
    [.shown .name, .returnVoid, .shown .argsString] ++ resultNeeds p ++ loaderCallNeeds s p ++
      if p.returned.isVoid then []
      else assignNeeds p.returned.isPtr .returnType .returnName
  | expectAnyArgs, p => [.args] ++ if p.args.isEmpty then [] else resultNeeds p
  | ignore, p => resultNeeds p
  | ignoreStateless, p => resultNeeds p
  | callback, _ => [.shown .name]
  | exceptions, p => [.shown .argsString, .shown .name] ++ loaderCallNeeds s p
  | array, p =>
    [.flags] ++
      if !p.containsPtr then []
      else
        [.shown .name] ++ eachArgNeeds p (fun _ i => withDepthNeeds i) ++ callWithDepthNeeds p ++
          resultNeeds p
  | returnThruPtr, p => outputNeeds s p fun i => [.shown .name, .edited (.argType i)]
  | ignoreArg, p => .shown .name :: eachArgNeeds p fun _ i => [.shown (.argName i)]

end MockGen.Plugin
