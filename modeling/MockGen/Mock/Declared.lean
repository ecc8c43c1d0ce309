import MockGen.Format
import MockGen.Mock.Basic

/-!
# The header of a mock
-/

namespace MockGen.Generator

open Code

def includeLines (files : List String) : String :=
  lines (files.map fun file => "#include " ++ file)

def mockedHeader (n : Names) : Except Fault String := do
  let file ← n.file
  if n.folder.truthy then return Path.join (← n.folder.asText) file else return file

def compilerTest : List String :=
  ["#if defined(__GNUC__) && !defined(__ICC) && !defined(__TMS470__)",
    "#if __GNUC__ > 4 || (__GNUC__ == 4 && (__GNUC_MINOR__ > 6 || " ++
      "(__GNUC_MINOR__ == 6 && __GNUC_PATCHLEVEL__ > 0)))"]

def warningsOff : String :=
  lines (
    ["", "/* Ignore the following warnings, since we are copying code */"] ++ compilerTest ++ [
    "#pragma GCC diagnostic push",
    "#endif",
    "#if !defined(__clang__)",
    "#pragma GCC diagnostic ignored \"-Wpragmas\"",
    "#endif",
    "#pragma GCC diagnostic ignored \"-Wunknown-pragmas\"",
    "#pragma GCC diagnostic ignored \"-Wduplicate-decl-specifier\"",
    "#endif",
    "",
    "#ifdef __cplusplus",
    "extern \"C\" \x7b",
    "#endif",
    ""])

def warningsOn : String :=
  lines (
    ["", "#ifdef __cplusplus", "\x7d", "#endif", ""] ++ compilerTest ++ [
    "#pragma GCC diagnostic pop",
    "#endif",
    "#endif",
    "",
    "#endif"])

def serviceCalls (n : Names) : String :=
  let name := n.cleanName
  lines [
    s!"void {name}_Init(void);",
    s!"void {name}_Destroy(void);",
    s!"void {name}_Verify(void);",
    ""]

def scopeOf (d : Draft) : Except Fault String := do
  d.require [.flags]
  match d.namespaces with
  | .ok namespaces => return "::".intercalate (← (← namespaces.all).mapM Value.asText)
  | .error _ => return ""

def functionDeclarations (g : Generator) (d : Draft) : List Chunk :=
  [do
      let scope ← scopeOf d
      return lines (only (scope != "") [s!"using namespace {scope};"]),
    g.plugins.textOn .declarations d]

def headerHead (g : Generator) (n : Names) (m : Material) (mocked : String) : List Chunk :=
  let name := String.ofList (Text.upper n.cleanName.toList)
  let framework := g.framework
  [.ok (lines [
      "/* AUTOGENERATED FILE. DO NOT EDIT. */",
      s!"#ifndef _{name}_H",
      s!"#define _{name}_H",
      "",
      s!"#include \"{framework}.h\""]),
    .ok (includeLines g.includesBefore),
    (Format.expand g.includeFormat mocked).map (· ++ "\n"),
    .ok (includeLines g.includesAfter),
    .ok g.plugins.includes,
    .ok warningsOff,
    .ok (serviceCalls n),
    .ok "\n",
    do return lines (← (← m.typedefs).all),
    .ok "\n\n"]

def headerChunks (g : Generator) (n : Names) (m : Material) : List Chunk :=
  match mockedHeader n with
  | .error fault => [.error fault]
  | .ok mocked =>
    g.headerHead n m mocked ++
    (match m.functions.bind Listed.all with
      | .ok functions => functions.flatMap g.functionDeclarations
      | .error fault => [.error fault]) ++
    [.ok warningsOn]

end MockGen.Generator
