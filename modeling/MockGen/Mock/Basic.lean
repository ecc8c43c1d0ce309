import MockGen.Output
import MockGen.Plugin.Load

/-!
# What mocks are made from

The options that shape the files of a mock, and the functions, types and text of the mocked header.
-/

namespace MockGen

/-- What was read from a header, of which parts may be missing. -/
structure Material where
  functions : Except Fault (Listed Draft) := .error .missingPart
  typedefs : Except Fault (Listed String) := .error .missingPart
  source : Except Fault String := .error .missingPart
  deriving Repr

namespace Material

def ofValue : Value → Material
  | .map entries =>
    let part := fun (key : String) =>
      match Value.lookup (.str key) entries with
      | some v => Except.ok v
      | none => .error Fault.missingPart
    { functions := (part "functions").map (Listed.ofValue {} .ofValue)
      typedefs := (part "typedefs").map (Listed.ofValue "" Value.display)
      source := do (← part "normalized_source").asText }
  | _ => { functions := .error .wrongKind, typedefs := .error .wrongKind,
           source := .error .wrongKind }

end Material

structure Generator where
  plugins : Plugins
  mockPath : Value
  nameStart : String
  nameEnd : String
  weak : String
  includesInlines : Bool
  framework : String
  failsOnUnexpected : Bool
  usesJumps : Bool
  subdir : Value
  includeFormat : Value
  includesBefore : List String
  includesAfter : List String
  sourceIncludesBefore : List String
  sourceIncludesAfter : List String
  deriving Repr

namespace Generator

/-- File names as they stand in an include line: in quotes unless they start with an angle
bracket. -/
def formatIncludes (items : List Value) : Except Fault (List String) :=
  items.mapM fun
    | .str s => .ok (if s.toList.head? == some '<' then s else "\"" ++ s ++ "\"")
    | _ => .error .noOperation

def items (o : Options) (key : String) : List Value :=
  match o.get key with
  | .list items => items
  | _ => []

def ofOptions (o : Options) (plugins : Plugins) : Except Fault Generator := do
  let before ← formatIncludes (items o ":includes" ++ items o ":includes_h_pre_orig_header")
  let after ← formatIncludes (items o ":includes_h_post_orig_header")
  let sourceBefore ← formatIncludes (items o ":includes_c_pre_header")
  let sourceAfter ← formatIncludes (items o ":includes_c_post_header")
  let weak := o.get ":weak"
  return {
    plugins := plugins
    mockPath := o.get ":mock_path"
    nameStart := (o.get ":mock_prefix").display
    nameEnd := (o.get ":mock_suffix").display
    weak := if weak.truthy then weak.display else ""
    includesInlines := o.get ":treat_inlines" == .str ":include"
    framework := (o.get ":framework").display
    failsOnUnexpected := o.flag ":fail_on_unexpected_calls"
    usesJumps := !o.flag ":exclude_setjmp_h"
    subdir := o.get ":subdir"
    includeFormat := o.get ":orig_header_include_fmt"
    includesBefore := before
    includesAfter := after
    sourceIncludesBefore := sourceBefore
    sourceIncludesAfter := sourceAfter }

def folder (g : Generator) (asked : Value) : Except Fault Value :=
  if g.subdir.truthy then
    if asked.truthy then
      match g.subdir, asked with
      | .str a, .str b => .ok (.str (Path.join a b))
      | _, _ => .error .wrongKind
    else .ok g.subdir
  else .ok asked

def identifier (t : List Char) : List Char :=
  t.map fun c => if "-/\\.,".toList.contains c || Text.isBlank c then '_' else c

structure Names where
  moduleName : Value
  extension : String
  mockName : String
  cleanName : String
  folder : Value
  deriving Repr

def Names.file (n : Names) : Except Fault String := do
  return (← n.moduleName.asText) ++ n.extension

def names (g : Generator) (moduleName : Value) (extension : String) (folder : Value) : Names :=
  let mockName := g.nameStart ++ moduleName.display ++ g.nameEnd
  { moduleName := moduleName
    extension := extension
    mockName := mockName
    cleanName := String.ofList (identifier mockName.toList)
    folder := folder }

/-- The units that clean names are looked for beside the program at `home` and in a directory of
the framework.  Only the program's own unit can be used: any other that is found cannot be
loaded. -/
def requireCleaner (home frameworkDir : String) : Job Unit := do
  let files ← Job.files
  let here := Path.enclosing home
  let framework := "/".intercalate (Path.normal frameworkDir)
  let places := [Path.join here "../../unity/auto/type_sanitizer",
    Path.join here "../vendor/unity/auto/type_sanitizer",
    Path.join framework "auto/type_sanitizer"]
  places.forM fun place =>
    match files.find place with
    | .ok _ => throw .noOperation
    | .error .pathTooLong => throw .pathTooLong
    | .error _ => pure ()
  throw .noSanitizer

end Generator

end MockGen
