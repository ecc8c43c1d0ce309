import MockGen.Plugin.Instance

/-!
# What the plugins declare in the header of a mock

The functions that set up expectations, and the macros through which tests call them.
-/

namespace MockGen

def Settings.isVoid (s : Settings) (type : String) : Bool :=
  Text.lower type.toList == "void".toList || (s.voids.holds type).toOption.getD false

namespace Plugin

open Code Expectation

variable (p : Prototype)

def refuse (f macroName params required : String) : String :=
  s!"#define {f}_{macroName}({params}) TEST_FAIL_MESSAGE(\"{f} requires {required}\");"

def expectDeclarations : String :=
  let f := p.name
  let call := p.argsCall
  let params := p.argsString
  let result := p.returned.str
  if p.args.isEmpty then
    if p.returned.isVoid then
      lines [
        refuse f "ExpectAndReturn" "cmock_retval" "_Expect (not AndReturn)",
        s!"#define {f}_Expect() {f}_CMockExpect(__LINE__)",
        s!"void {f}_CMockExpect(UNITY_LINE_TYPE cmock_line);"]
    else
      lines [
        refuse f "Expect" "" "_ExpectAndReturn",
        s!"#define {f}_ExpectAndReturn(cmock_retval) " ++
          s!"{f}_CMockExpectAndReturn(__LINE__, cmock_retval)",
        s!"void {f}_CMockExpectAndReturn(UNITY_LINE_TYPE cmock_line, {result});"]
  else if p.returned.isVoid then
    lines [
      refuse f "ExpectAndReturn" s!"{call}, cmock_retval" "_Expect (not AndReturn)",
      s!"#define {f}_Expect({call}) {f}_CMockExpect(__LINE__, {call})",
      s!"void {f}_CMockExpect(UNITY_LINE_TYPE cmock_line, {params});"]
  else
    lines [
      refuse f "Expect" call "_ExpectAndReturn",
      s!"#define {f}_ExpectAndReturn({call}, cmock_retval) " ++
        s!"{f}_CMockExpectAndReturn(__LINE__, {call}, cmock_retval)",
      s!"void {f}_CMockExpectAndReturn(UNITY_LINE_TYPE cmock_line, {params}, {result});"]

def anyArgsDeclarations : String :=
  let f := p.name
  let result := p.returned.str
  if p.args.isEmpty then ""
  else if p.returned.isVoid then
    lines ["",
      refuse f "ExpectAnyArgsAndReturn" "cmock_retval" "_ExpectAnyArgs (not AndReturn)",
      s!"#define {f}_ExpectAnyArgs() {f}_CMockExpectAnyArgs(__LINE__)",
      s!"void {f}_CMockExpectAnyArgs(UNITY_LINE_TYPE cmock_line);"]
  else
    lines ["",
      refuse f "ExpectAnyArgs" "" "_ExpectAnyArgsAndReturn",
      s!"#define {f}_ExpectAnyArgsAndReturn(cmock_retval) " ++
        s!"{f}_CMockExpectAnyArgsAndReturn(__LINE__, cmock_retval)",
      s!"void {f}_CMockExpectAnyArgsAndReturn(UNITY_LINE_TYPE cmock_line, {result});"]

def stopIgnore (f : String) : List String :=
  [s!"#define {f}_StopIgnore() {f}_CMockStopIgnore()",
    s!"void {f}_CMockStopIgnore(void);"]

def ignoreWithoutResult (f : String) : List String :=
  [refuse f "IgnoreAndReturn" "cmock_retval" "_Ignore (not AndReturn)",
    s!"#define {f}_Ignore() {f}_CMockIgnore()",
    s!"void {f}_CMockIgnore(void);"]

def ignoreDeclarations : String :=
  let f := p.name
  let result := p.returned.str
  lines (
    "" ::
    (if p.returned.isVoid then ignoreWithoutResult f
    else [
      refuse f "Ignore" "" "_IgnoreAndReturn",
      s!"#define {f}_IgnoreAndReturn(cmock_retval) " ++
        s!"{f}_CMockIgnoreAndReturn(__LINE__, cmock_retval)",
      s!"void {f}_CMockIgnoreAndReturn(UNITY_LINE_TYPE cmock_line, {result});"]) ++
    stopIgnore f)

def ignoreStatelessDeclarations : String :=
  let f := p.name
  let result := p.returned.str
  lines (
    (if p.returned.isVoid then ignoreWithoutResult f
    else [
      refuse f "Ignore" "" "_IgnoreAndReturn",
      s!"#define {f}_IgnoreAndReturn(cmock_retval) {f}_CMockIgnoreAndReturn(cmock_retval)",
      s!"void {f}_CMockIgnoreAndReturn({result});"]) ++
    stopIgnore f)

def callbackParameters (s : Settings) (p : Prototype) : String :=
  let params := p.argsString
  match p.args.isEmpty, s.countsCalls with
  | true, false => "void"
  | true, true => "int cmock_num_calls"
  | false, false => params
  | false, true => s!"{params}, int cmock_num_calls"

def callbackDeclarations (s : Settings) (p : Prototype) : String :=
  let f := p.name
  let type := p.returned.type
  let params := callbackParameters s p
  let action := if s.callbackAfterCheck then "AddCallback" else "Stub"
  lines [
    s!"typedef {type} (* CMOCK_{f}_CALLBACK)({params});",
    s!"void {f}_AddCallback(CMOCK_{f}_CALLBACK Callback);",
    s!"void {f}_Stub(CMOCK_{f}_CALLBACK Callback);",
    s!"#define {f}_StubWithCallback {f}_{action}"]

def exceptionDeclarations : String :=
  let f := p.name
  let call := p.argsCall
  let params := p.argsString
  if params == "void" then
    lines [
      s!"#define {f}_ExpectAndThrow(cmock_to_throw) " ++
        s!"{f}_CMockExpectAndThrow(__LINE__, cmock_to_throw)",
      s!"void {f}_CMockExpectAndThrow(UNITY_LINE_TYPE cmock_line, CEXCEPTION_T cmock_to_throw);"]
  else
    lines [
      s!"#define {f}_ExpectAndThrow({call}, cmock_to_throw) " ++
        s!"{f}_CMockExpectAndThrow(__LINE__, {call}, cmock_to_throw)",
      s!"void {f}_CMockExpectAndThrow(UNITY_LINE_TYPE cmock_line, {params}, " ++
        "CEXCEPTION_T cmock_to_throw);"]

def arrayDeclarations : String :=
  if !p.containsPtr then ""
  else
    let f := p.name
    let result := p.returned.str
    let formals := commas (p.args.map Argument.callWithDepth)
    let actuals := commas (p.args.map fun a =>
      if a.isPtr then a.name ++ ", (" ++ a.name ++ "_Depth)" else a.name)
    let params := commas (p.args.map Argument.withDepth)
    if p.returned.isVoid then
      lines [
        refuse f "ExpectWithArrayAndReturn" s!"{formals}, cmock_retval"
          "_ExpectWithArray (not AndReturn)",
        s!"#define {f}_ExpectWithArray({formals}) {f}_CMockExpectWithArray(__LINE__, {actuals})",
        s!"void {f}_CMockExpectWithArray(UNITY_LINE_TYPE cmock_line, {params});"]
    else
      lines [
        refuse f "ExpectWithArray" formals "_ExpectWithArrayAndReturn",
        s!"#define {f}_ExpectWithArrayAndReturn({formals}, cmock_retval) " ++
          s!"{f}_CMockExpectWithArrayAndReturn(__LINE__, {actuals}, cmock_retval)",
        s!"void {f}_CMockExpectWithArrayAndReturn(UNITY_LINE_TYPE cmock_line, {params}, {result});"]

def pointeeSize (s : Settings) (a : Argument) : String :=
  let pointee := String.ofList a.type.toList.dropLast
  let n := a.name
  if a.type.toList.getLast? == some '*' && !s.isVoid pointee then s!"sizeof({pointee})"
  else s!"sizeof(*{n})"

def outputDeclarations (s : Settings) (f : String) (a : Argument) : List String :=
  let n := a.name
  let size := pointeeSize s a
  let type := pointsToConst a.type
  [s!"#define {f}_ReturnThruPtr_{n}({n}) {f}_CMockReturnMemThruPtr_{n}(__LINE__, {n}, {size})",
    s!"#define {f}_ReturnArrayThruPtr_{n}({n}, cmock_len) " ++
      s!"{f}_CMockReturnMemThruPtr_{n}(__LINE__, {n}, (cmock_len * sizeof(*{n})))",
    s!"#define {f}_ReturnMemThruPtr_{n}({n}, cmock_size) " ++
      s!"{f}_CMockReturnMemThruPtr_{n}(__LINE__, {n}, (cmock_size))",
    s!"void {f}_CMockReturnMemThruPtr_{n}(UNITY_LINE_TYPE cmock_line, {type} {n}, " ++
      "size_t cmock_size);"]

def ignoreArgDeclarations (f : String) (a : Argument) : String :=
  let n := a.name
  lines ["",
    s!"#define {f}_IgnoreArg_{n}() {f}_CMockIgnoreArg_{n}(__LINE__)",
    s!"void {f}_CMockIgnoreArg_{n}(UNITY_LINE_TYPE cmock_line);"]

def declarations (s : Settings) : Plugin → Prototype → String
  | expect, p => expectDeclarations p
  | expectAnyArgs, p => anyArgsDeclarations p
  | ignore, p => ignoreDeclarations p
  | ignoreStateless, p => ignoreStatelessDeclarations p
  | callback, p => callbackDeclarations s p
  | exceptions, p => exceptionDeclarations p
  | array, p => arrayDeclarations p
  | returnThruPtr, p => "\n".intercalate ((s.outputs p).flatMap (outputDeclarations s p.name))
  | ignoreArg, p => concat (p.args.map (ignoreArgDeclarations p.name))

/-! ## What is needed of a draft -/

def resultNeeds : List Need :=
  [.returnVoid, .shown .name] ++ if p.returned.isVoid then [] else [.shown .returnStr]

def callWithDepthNeeds : List Need :=
  eachArgNeeds p (fun _ i => [.argFlags i, .shown (.argName i)]) ++
    eachArgNeeds p fun a i => if a.isPtr then [] else [.text (.argName i)]

def declarationsNeeds (s : Settings) : Plugin → Prototype → List Need
  | expect, p =>
    [.args] ++ resultNeeds p ++
      if p.args.isEmpty then [] else [.shown .argsCall, .shown .argsString]
  | expectAnyArgs, p => [.args] ++ if p.args.isEmpty then [] else resultNeeds p
  | ignore, p => resultNeeds p
  | ignoreStateless, p => resultNeeds p
  | callback, _ => [.shown .name, .shown .returnType, .args, .shown .argsString]
  | exceptions, p =>
    [.shown .argsString, .shown .name] ++
      if p.argsString == "void" then [] else [.shown .argsCall]
  | array, p =>
    [.flags] ++
      if !p.containsPtr then []
      else callWithDepthNeeds p ++ eachArgNeeds p (fun _ i => withDepthNeeds i) ++ resultNeeds p
  | returnThruPtr, p => outputNeeds s p fun i => [.shown .name, .edited (.argType i)]
  | ignoreArg, p => eachArgNeeds p fun _ i => [.shown .name, .shown (.argName i)]

end Plugin

end MockGen
