import MockGen.Mock.Declared

/-!
# The source of a mock
-/

namespace MockGen.Generator

open Code

variable (g : Generator)

def forAll (functions : List Draft) (chunk : Draft → Chunk) : Chunk := do
  return String.join (← functions.mapM chunk)

def firstIncludes : String :=
  lines (
    ["#include <string.h>", "#include <stdlib.h>"] ++
    only g.usesJumps ["#include <setjmp.h>"] ++
    ["#include \"cmock.h\""]) ++
  includeLines g.sourceIncludesBefore

def sourceIncludes (header : String) : String :=
  g.firstIncludes ++ lines [s!"#include \"{header}\""] ++ includeLines g.sourceIncludesAfter ++ "\n"

def ownHeader (n : Names) : Except Fault String := do
  match n.folder with
  | .null => return g.nameStart ++ (← n.file)
  | folder =>
    let file ← n.file
    return g.nameStart ++ Path.join (← folder.asText) file

def stringNames (d : Draft) : Except Fault (List Value) := do
  let name ← d.name
  return name :: (← (← (← d.args).all).mapM ArgumentDraft.name)

/-- Names in order, each once.  Texts stand by their code points; other names have to be of one
kind. -/
def sortedNames (names : List Value) : Except Fault (List String) := do
  if names.all (·.text?.isSome) then return Options.sortedSet (names.map Value.display)
  else return (← Value.sorted (← Value.keySet names)).map Value.display

def nameStrings (functions : List Draft) : Chunk := do
  let names ← sortedNames (← functions.mapM stringNames).flatten
  return lines (names.map fun name =>
    "static const char* CMockString_" ++ name ++ " = \"" ++ name ++ "\";") ++ "\n"

def sourceHead (header : String) (hasFunctions : Bool) : String :=
  lines (only hasFunctions ["/* AUTOGENERATED FILE. DO NOT EDIT. */"]) ++ g.sourceIncludes header

def callInstance (d : Draft) : List Chunk :=
  [d.render [.shown .name] fun p =>
      let f := p.name
      lines [s!"typedef struct _CMOCK_{f}_CALL_INSTANCE", "\x7b", "  UNITY_LINE_TYPE LineNumber;"],
    g.plugins.textOn .callFields d,
    d.render [.shown .name] fun p =>
      let f := p.name
      lines ["", s!"\x7d CMOCK_{f}_CALL_INSTANCE;", ""]]

def functionFields (d : Draft) : List Chunk :=
  [g.plugins.textOn .functionFields d,
    d.render [.shown .name] fun p =>
      let f := p.name
      lines [s!"  CMOCK_MEM_INDEX_TYPE {f}_CallInstance;"]]

def mockInstance (n : Names) (functions : List Draft) : List Chunk :=
  let name := n.cleanName
  [.ok (lines (
    [s!"static struct {name}Instance", "\x7b"] ++
    only functions.isEmpty ["  unsigned char placeHolder;"]))] ++
  functions.flatMap g.functionFields ++
  [.ok (lines ["\x7d Mock;", ""])]

def counters : String :=
  lines (
    only g.plugins.settings.ordered
      ["extern int GlobalExpectCount;", "extern int GlobalVerifyOrder;"] ++
    [""])

def verification (d : Draft) : Chunk := do
  let check ← g.plugins.textOn .verify d
  if check == "" then return ""
  d.render [.shown .name] fun p =>
    let chain := mockField p.name "CallInstance"
    lines [s!"  call_instance = {chain};"] ++ check

def verifyFunction (n : Names) (functions : List Draft) : List Chunk :=
  let name := n.cleanName
  [.ok (lines [s!"void {name}_Verify(void)", "\x7b"]),
    (forAll functions g.verification).map fun checks =>
      if checks == "" then ""
      else
        lines [
          "  UNITY_LINE_TYPE cmock_line = TEST_LINE_NUM;",
          "  CMOCK_MEM_INDEX_TYPE call_instance;"] ++ checks,
    .ok (lines ["\x7d", ""])]

def initFunction (n : Names) : String :=
  let name := n.cleanName
  lines [s!"void {name}_Init(void)", "\x7b", s!"  {name}_Destroy();", "\x7d", ""]

def destroyFunction (n : Names) (functions : List Draft) : List Chunk :=
  let name := n.cleanName
  [.ok (lines [
      s!"void {name}_Destroy(void)", "\x7b",
      "  CMock_Guts_MemFreeAll();",
      "  memset(&Mock, 0, sizeof(Mock));"]),
    forAll functions (g.plugins.textOn .destroy),
    if g.failsOnUnexpected then .ok "" else forAll functions (g.plugins.textOn .ignoreAll),
    .ok (lines (
      only g.plugins.settings.ordered ["  GlobalExpectCount = 0;", "  GlobalVerifyOrder = 0;"] ++
      ["\x7d", ""]))]

def resultType (p : Prototype) : String :=
  let type := if p.modifier == "" then p.returned.type else p.modifier ++ " " ++ p.returned.type
  match p.callingConvention with
  | some convention => type ++ " " ++ convention
  | none => type

def owner (p : Prototype) : String :=
  match p.className with
  | some name => if name == "" then "" else name ++ "::"
  | none => ""

def parameterText (p : Prototype) : String :=
  match p.varArg with
  | some more => p.argsString ++ ", " ++ more
  | none => p.argsString

def weakDeclaration (d : Draft) : List Chunk :=
  if g.weak == "" then []
  else
    let mark := g.weak
    [.ok (lines ["#if defined (__IAR_SYSTEMS_ICC__)"]),
      d.render [.shown .unscopedName] fun p =>
        let f := p.unscopedName
        let type := resultType p
        let params := parameterText p
        lines [
          s!"#pragma weak {f}",
          "#else",
          s!"{type} {f}({params}) {mark};",
          "#endif",
          ""]]

def bodyStart (p : Prototype) : String :=
  let f := p.name
  let chain := mockField f "CallInstance"
  lines [
    s!"  CMOCK_{f}_CALL_INSTANCE* cmock_call_instance;",
    s!"  UNITY_SET_DETAIL(CMockString_{f});",
    s!"  cmock_call_instance = (CMOCK_{f}_CALL_INSTANCE*)" ++
      s!"CMock_Guts_GetAddressFor({chain});",
    s!"  {chain} = CMock_Guts_MemNext({chain});"]

def callCheck : String :=
  let line := callField "LineNumber"
  let order := callField "CallOrder"
  lines (
    ["  UNITY_TEST_ASSERT_NOT_NULL(cmock_call_instance, cmock_line, CMockStringCalledMore);",
      s!"  cmock_line = {line};"] ++
    only g.plugins.settings.ordered [
      s!"  if ({order} > ++GlobalVerifyOrder)",
      "    UNITY_TEST_FAIL(cmock_line, CMockStringCalledEarly);",
      s!"  if ({order} < GlobalVerifyOrder)",
      "    UNITY_TEST_FAIL(cmock_line, CMockStringCalledLate);"])

/-- What the head of a mocked function needs.  A calling convention is added to a type, and more
parameters to a parameter list, which have to be texts then. -/
def headNeeds (p : Prototype) : List Need :=
  [.shown .modifier, .shown .returnType] ++
    (if p.modifier == "" && p.callingConvention.isSome then [.text .returnType] else []) ++
    [.shown .argsString] ++ (if p.varArg.isSome then [.text .argsString] else []) ++ [.namespaces]

def mockFunction (d : Draft) : List Chunk :=
  let inScopes := fun (text : Prototype → String) => d.render (headNeeds d.fill) text
  [inScopes fun p =>
    lines (p.namespaces.map fun scope => "namespace " ++ scope ++ " \x7b"),
    d.render [.className] fun _ => ""] ++
  weakDeclaration g d ++
  [d.render [.shown .unscopedName] fun p =>
      let owner := owner p
      let f := p.unscopedName
      let type := resultType p
      let params := parameterText p
      lines [
        s!"{type} {owner}{f}({params})",
        "\x7b",
        "  UNITY_LINE_TYPE cmock_line = TEST_LINE_NUM;"],
    d.render [.shown .name] bodyStart,
    g.plugins.textOn .precheck d,
    .ok (callCheck g),
    g.plugins.textOn .implementation d,
    .ok (lines ["  UNITY_CLR_DETAILS();"]),
    d.render [.returnVoid] fun p =>
      let result := callField "ReturnVal"
      lines (only (!p.returned.isVoid) [s!"  return {result};"] ++ ["\x7d"]),
    inScopes fun p => lines (p.namespaces.map fun _ => "\x7d"),
    .ok "\n"]

def services (n : Names) (functions : List Draft) : List Chunk :=
  [.ok (counters g)] ++ g.verifyFunction n functions ++ [.ok (initFunction n)] ++
    g.destroyFunction n functions

def interfaceFunctions (d : Draft) : List Chunk :=
  [d.loader g.plugins.settings, g.plugins.textOn .interfaces d]

def functionCode (d : Draft) : List Chunk :=
  g.mockFunction d ++ g.interfaceFunctions d

def sourceRest (n : Names) (functions : List Draft) : List Chunk :=
  [nameStrings functions] ++ functions.flatMap g.callInstance ++ g.mockInstance n functions ++
    g.services n functions ++ functions.flatMap g.functionCode

def sourceChunks (n : Names) (m : Material) : List Chunk :=
  let start : Except Fault (String × Listed Draft) := do
    let header ← g.ownHeader n
    return (header, ← m.functions)
  match start with
  | .error fault => [.error fault]
  | .ok (header, functions) =>
    .ok (g.sourceHead header !functions.items.isEmpty) ::
      match functions.all with
      | .error fault => [.error fault]
      | .ok functions => g.sourceRest n functions

end MockGen.Generator
