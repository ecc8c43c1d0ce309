import MockGen.Workspace
import MockGen.Text.Case
import MockGen.Value.Use
import MockGen.Yaml

/-!
# Options

The defaults, the file or map that a caller gives, and how they are brought together.
It is not known where the working directory lies, so a relative path is never found below an
absolute one or the other way round.  What is included is a set; it is listed in sorted order, and
nothing should depend on that.
-/

namespace MockGen

/-- Resolved options.  `sharesStrippables` says that the caller named nothing to strip, so that the
default list of the workspace is used. -/
structure Options where
  entries : List (Value × Value)
  sharesStrippables : Bool
  deriving Repr

namespace Options

variable (o : Options)

def get (key : String) : Value :=
  (Value.lookup (.str key) o.entries).getD .null

def set (key : String) (value : Value) : Options :=
  { o with entries := Value.insert (.str key) value o.entries }

def flag (key : String) : Bool :=
  (o.get key).truthy

def defaultStrippables : List Value :=
  [.str "(?:__attribute__\\s*\\([ (]*.*?[ )]*\\)+)"]

def defaults (strippables : List Value) : List (Value × Value) :=
  let entries : List (String × Value) := [
    (":framework", .str "unity"),
    (":mock_path", .str "mocks"),
    (":mock_prefix", .str "Mock"),
    (":mock_suffix", .str ""),
    (":skeleton_path", .str ""),
    (":weak", .str ""),
    (":subdir", .null),
    (":plugins", .list []),
    (":strippables", .list strippables),
    (":attributes", Value.texts ["__ramfunc", "__irq", "__fiq", "register", "extern"]),
    (":c_calling_conventions", Value.texts ["__stdcall", "__cdecl", "__fastcall"]),
    (":enforce_strict_ordering", .bool false),
    (":fail_on_unexpected_calls", .bool true),
    (":unity_helper_path", .bool false),
    (":treat_as", .map []),
    (":treat_as_array", .map []),
    (":treat_as_void", .list []),
    (":memcmp_if_unknown", .bool true),
    (":when_no_prototypes", .str ":warn"),
    (":when_ptr", .str ":compare_data"),
    (":verbosity", .int 2),
    (":treat_externs", .str ":exclude"),
    (":treat_inlines", .str ":exclude"),
    (":callback_include_count", .bool true),
    (":callback_after_arg_check", .bool false),
    (":includes", .list []),
    (":includes_h_pre_orig_header", .list []),
    (":includes_h_post_orig_header", .list []),
    (":includes_c_pre_header", .list []),
    (":includes_c_post_header", .list []),
    (":orig_header_include_fmt", .str "#include \"%s\""),
    (":array_size_type", .list []),
    (":array_size_name", .str "size|len"),
    (":skeleton", .bool false),
    (":exclude_setjmp_h", .bool false),
    (":inline_function_patterns", Value.texts [
      "(static\\s+inline|inline\\s+static)\\s*",
      "(\\binline\\b)\\s*",
      "(?:static\\s*)?(?:__inline__)?__attribute__\\s*\\([ (]*always_inline[ )]*\\)",
      "static __inline__"])]
  entries.map fun (key, value) => (.str key, value)

def standardTreatAs : List (String × String) := [
  ("int", "INT"), ("char", "INT8"), ("short", "INT16"), ("long", "INT"),
  ("int8", "INT8"), ("int16", "INT16"), ("int32", "INT"),
  ("int8_t", "INT8"), ("int16_t", "INT16"), ("int32_t", "INT"),
  ("INT8_T", "INT8"), ("INT16_T", "INT16"), ("INT32_T", "INT"),
  ("bool", "INT"), ("bool_t", "INT"), ("BOOL", "INT"), ("BOOL_T", "INT"),
  ("unsigned int", "HEX32"), ("unsigned long", "HEX32"),
  ("uint32", "HEX32"), ("uint32_t", "HEX32"), ("UINT32", "HEX32"), ("UINT32_T", "HEX32"),
  ("void*", "HEX8_ARRAY"), ("void const*", "HEX8_ARRAY"), ("const void*", "HEX8_ARRAY"),
  ("unsigned short", "HEX16"),
  ("uint16", "HEX16"), ("uint16_t", "HEX16"), ("UINT16", "HEX16"), ("UINT16_T", "HEX16"),
  ("unsigned char", "HEX8"),
  ("uint8", "HEX8"), ("uint8_t", "HEX8"), ("UINT8", "HEX8"), ("UINT8_T", "HEX8"),
  ("char*", "STRING"), ("char const*", "STRING"), ("const char*", "STRING"),
  ("pCHAR", "STRING"), ("cstring", "STRING"), ("CSTRING", "STRING"),
  ("float", "FLOAT"), ("double", "FLOAT")]

def standardTreatAsEntries : List (Value × Value) :=
  standardTreatAs.map fun (type, kind) => (.str type, .str kind)

def load (file : String) : Job Value := do
  let text ← Job.readFile file
  match Yaml.parse text.toList with
  | .error .malformed => throw (.malformedYaml file)
  | .error .tooDeep => throw .tooDeep
  | .error (.scalar fault) => throw fault
  | .ok (.map entries) => return (Value.lookup (.str ":cmock") entries).getD (.map [])
  | .ok _ => throw .noOperation

def wantsWarnings : Except Fault Bool :=
  match (o.get ":verbosity").isAbove? 0 with
  | some b => .ok b
  | none => .error .wrongKind

def dropNonList (key : String) : Job Options := do
  let o := o.set key (.list [])
  if ← wantsWarnings o then Job.print s!"WARNING: '{key}' should be a list."
  return o

def requireLists : List String → Options → Job Options
  | [], o => return o
  | key :: rest, o => do
    let o ← if (o.get key).isList then pure o else dropNonList o key
    requireLists rest o

def requireListsIfGiven : List String → Options → Job Options
  | [], o => return o
  | key :: rest, o => do
    let fits := match o.get key with
      | .null => true
      | v => v.isList
    let o ← if fits then pure o else dropNonList o key
    requireListsIfGiven rest o

def insertSorted (s : String) : List String → List String
  | [] => [s]
  | t :: rest =>
    if s == t then t :: rest else if s < t then s :: t :: rest else t :: insertSorted s rest

def sortedSet (items : List String) : List String :=
  items.foldl (fun sorted s => insertSorted s sorted) []

def helperInclude (mockPath path : String) : String :=
  (Path.below? (Path.normal mockPath) (Path.normal path)).getD path

def includedSet (headers : List Value) (paths : List String) : Except Fault Value := do
  if headers.all (·.text?.isSome) then
    return Value.texts (sortedSet (headers.map Value.display ++ paths))
  else
    let different ← Value.keySet (headers ++ paths.map .str)
    return .list (different.mergeSort fun a b => a.display ≤ b.display)

def includeHelpers : Except Fault Options := do
  let paths ← (← (o.get ":unity_helper_path").items).mapM Value.asText
  let paths ← paths.mapM fun path => do
    return helperInclude (← (o.get ":mock_path").asText) path
  match o.get ":includes_c_post_header" with
  | .list headers => return o.set ":includes_c_post_header" (← includedSet headers paths)
  | _ => throw .wrongKind

def listHelpers : Options :=
  match o.get ":unity_helper_path" with
  | .str path => o.set ":unity_helper_path" (Value.texts [path])
  | _ => o

def addHelpers : Except Fault Options :=
  if o.flag ":unity_helper_path" then includeHelpers o else .ok o

def pluginName : Value → Except Fault String
  | .str s =>
    let name := Text.lower s.toList
    match name with
    | [] => .error .outOfRange
    | c :: _ => .ok (String.ofList (if c == ':' then name else ':' :: name))
  | _ => .error .noOperation

def isEntry : Value → Bool
  | .null => false
  | _ => true

def pluginNames (items : List Value) : Except Fault (List String) := do
  let given := items.filter isEntry
  if given.any (fun v => v.text?.isNone) then throw .noOperation
  given.mapM pluginName

def ownEntries (given : Value) : Job (List (Value × Value)) := do
  let own ←
    match given with
    | .null => pure (Value.map [])
    | .str file => load file
    | .map entries => pure (.map entries)
    | _ => throw .optionsKind
  match own with
  | .map entries => return entries
  | _ => throw .wrongKind

def overDefaults (strippables : List Value) (own : List (Value × Value)) : Options where
  entries := Value.merge (defaults strippables) own
  sharesStrippables := (Value.lookup (.str ":strippables") own).isNone

/-- The plugins in their usual spelling.  Calls that are not expected can only be let pass by the
plugin that ignores calls. -/
def namePlugins : Except Fault Options := do
  let plugins ← match o.get ":plugins" with
    | .list items => pluginNames items
    | _ => pure []
  let o := o.set ":plugins" (Value.texts plugins)
  if !plugins.contains ":ignore" && !o.flag ":fail_on_unexpected_calls" then throw .ignoreRequired
  return o

def completeTreatAs : Except Fault Options :=
  match o.get ":treat_as" with
  | .map entries => .ok (o.set ":treat_as" (.map (Value.merge standardTreatAsEntries entries)))
  | _ => .error .wrongKind

def resolve (given : Value) : Job Options := do
  let own ← ownEntries given
  let o := overDefaults (← getThe Workspace).strippables own
  let o ← requireLists [":plugins", ":attributes", ":treat_as_void"] o
  let o ← requireListsIfGiven [":includes", ":includes_h_pre_orig_header",
    ":includes_h_post_orig_header", ":includes_c_pre_header", ":includes_c_post_header"] o
  let o ← o.listHelpers.addHelpers
  let o ← o.namePlugins
  o.completeTreatAs

def plugins : List String :=
  match o.get ":plugins" with
  | .list items => items.filterMap Value.text?
  | _ => []

def hasPlugin (name : String) : Bool :=
  o.plugins.contains name

def treatAs : List (Value × Value) :=
  match o.get ":treat_as" with
  | .map entries => entries
  | _ => []

/-- The options that differ from the first defaults, with `:treat_as` reduced to what differs from
the standard map. -/
def changed : List (Value × Value) :=
  let pristine := defaults defaultStrippables
  let differing := o.entries.filter fun (key, value) =>
    !(key == .str ":treat_as") &&
      !(match Value.lookup key pristine with
        | some v => v == value
        | none => false)
  let treatAs := o.treatAs.filter fun (key, value) =>
    !(match Value.lookup key standardTreatAsEntries with
      | some v => v == value
      | none => false)
  differing ++ [(.str ":treat_as", .map treatAs)]

def helperText : Job (Option String) := do
  if !o.flag ":unity_helper_path" then return none
  let paths ← (o.get ":unity_helper_path").items
  let texts ← paths.mapM fun path => do return "\n" ++ (← Job.readFile (← path.asText))
  return some (String.join texts)

end Options

end MockGen
