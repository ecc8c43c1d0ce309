import MockGen.Plugin.Hook
import MockGen.Plugin.Units

/-!
# Loading the plugins that the options name

A plugin that cannot be loaded is reported, and the mock is not made.
-/

namespace MockGen.Plugin

def fileOf (name : String) : String :=
  Path.plain s!"cmock_generator_plugin_{name}.py"

/-- The unit that holds a plugin: the last step of its path, without the extension.  A file name
may not consist of its extension. -/
def unitOf (name : String) : String :=
  let file := Path.fileName (fileOf name)
  if file == ".py" then file else String.ofList (file.toList.take (file.toList.length - 3))

def unitExists (unit : String) : Bool :=
  (all.any fun p => unitOf p.name == unit) || isOtherUnit unit

/-- Why a unit cannot be found: the first step of a dotted name is looked for first, and only a
package has units inside. -/
def notFound (unit : String) : String :=
  match (Text.splitAt '.' unit.toList).map String.ofList with
  | first :: next :: _ =>
    let reason := "No module named " ++ Value.quoted (first ++ "." ++ next)
    if isPackage first then reason
    else if unitExists first then reason ++ "; " ++ Value.quoted first ++ " is not a package"
    else "No module named " ++ Value.quoted first
  | _ => "No module named " ++ Value.quoted unit

def fail {α : Type} (name reason : String) : Job α := do
  Job.print s!"ERROR: Unexpected error while loading plugin '{name}': {reason}"
  throw (.pluginFailed name (objectName name) (fileOf name))

def failUnknown {α : Type} (name : String) : Job α := do
  let unit := unitOf name
  let object := objectName name
  if unit.toList.head? == some '.' then
    fail name ("the 'package' argument is required to perform a relative import for " ++
      Value.quoted unit)
  else if !unitExists unit then
    let reason := notFound unit
    Job.print s!"ERROR: Failed to import module {unit}: {reason}"
    throw .unknownPlugin
  else
    Job.print (s!"ERROR: Class {object} not found in module {unit}: " ++
      s!"module '{unit}' has no attribute '{object}'")
    throw .noOperation

/-- Loads one plugin.  Checking arguments needs the comparisons, and throwing needs jumps. -/
def load (o : Options) (s : Settings) (name : String) : Job Plugin :=
  match ofName? name with
  | none => failUnknown name
  | some expect =>
    if s.comparisons.isNone then fail name "'unity_helper'" else return expect
  | some exceptions =>
    if o.flag ":exclude_setjmp_h" then
      fail name (Fault.exceptionsNeedJumps.message?.getD "")
    else return exceptions
  | some plugin => return plugin

/-- The plugins to load: the one for expected calls first, then those that the options name, each
once. -/
def wanted (o : Options) : List String :=
  (Text.distinct (":expect" :: o.plugins)).map fun name => String.ofList (name.toList.drop 1)

end MockGen.Plugin

namespace MockGen.Plugins

def load (o : Options) (s : Settings) : Job Plugins := do
  let plugins ← (Plugin.wanted o).mapM (Plugin.load o s)
  return ⟨s, Plugin.inOrder plugins⟩

def listing (ps : Plugins) : List (String × Nat) :=
  ps.loaded.map fun p => (Plugin.objectName p.name, p.priority)

end MockGen.Plugins
