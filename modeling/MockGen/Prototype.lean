import MockGen.Value

/-!
# Prototypes

Function prototypes as they are read from a header.
-/

namespace MockGen

/-- A parameter.  `isConst` speaks of the object that is designated directly, `isConstPtr` of the
pointer itself; a plain text pointer does not count as a pointer. -/
structure Argument where
  type : String
  name : String
  isPtr : Bool
  isConst : Bool
  isConstPtr : Bool
  isArrayData : Bool := false
  isArraySize : Bool := false
  deriving Repr, DecidableEq

structure Returned where
  type : String
  name : String
  str : String
  isVoid : Bool
  isPtr : Bool
  isConst : Bool
  isConstPtr : Bool
  deriving Repr, DecidableEq

structure Prototype where
  name : String
  unscopedName : String
  namespaces : List String
  className : Option String
  modifier : String
  callingConvention : Option String
  returned : Returned
  args : List Argument
  argsString : String
  argsCall : String
  containsPtr : Bool
  varArg : Option String
  deriving Repr, DecidableEq

/-- A record in one line: texts stand between backslashes, other values as they are shown. -/
def inspectRecord (entries : List (String × Value)) : String :=
  let pairs := entries.map fun (name, value) =>
    match value with
    | .str s => s!"{name} => \\{s}\\"
    | v => s!"{name} => {v.display}"
  "\x7b" ++ ", ".intercalate pairs ++ "\x7d"

def inspectRecords (records : List (List (String × Value))) : String :=
  match records.map inspectRecord with
  | [] => "[]"
  | [record] => s!"[{record}]"
  | several => "[\n    " ++ "\n    ".intercalate several ++ "\n  ]\n"

namespace Argument

def entries (a : Argument) : List (String × Value) :=
  [("ptr?", .bool a.isPtr), ("const?", .bool a.isConst), ("const_ptr?", .bool a.isConstPtr),
    ("name", .str a.name), ("type", .str a.type)] ++
  (if a.isArraySize then [("array_size?", .bool true)] else []) ++
  (if a.isArrayData then [("array_data?", .bool true)] else [])

end Argument

namespace Returned

def entries (r : Returned) : List (String × Value) :=
  [("type", .str r.type), ("name", .str r.name), ("str", .str r.str), ("void?", .bool r.isVoid),
    ("ptr?", .bool r.isPtr), ("const?", .bool r.isConst), ("const_ptr?", .bool r.isConstPtr)]

end Returned

namespace Prototype

def recordUnder (p : Prototype) (namespaces className : Value) : Value :=
  Value.record ([("name", .str p.name), ("unscoped_name", .str p.unscopedName),
    ("namespace", namespaces), ("class", className), ("modifier", .str p.modifier),
    ("return", .record p.returned.entries),
    ("args", .list (p.args.map fun a => .record a.entries)),
    ("args_string", .str p.argsString), ("args_call", .str p.argsCall),
    ("contains_ptr?", .bool p.containsPtr), ("var_arg", .ofText? p.varArg)] ++
    match p.callingConvention with
    | some convention => [("c_calling_convention", .str convention)]
    | none => [])

def record (p : Prototype) : Value :=
  p.recordUnder (.texts p.namespaces) (.ofText? p.className)

end Prototype

end MockGen
