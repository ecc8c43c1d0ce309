import MockGen.Session
import MockGen.Sample.Header
import MockGen.Sample.Options

/-!
# Making mocks and skeletons from sample headers

Nothing is written: the figures are the numbers of characters that would be.
-/

namespace MockGen.Workload

def mockSize (g : Generator) (name extension : String) (m : Material) (folder : Value) :
    Except Fault Nat := do
  let n := g.names (.str name) extension (← g.folder folder)
  Output.size ((← g.mockFiles n m).flatMap fun (_, chunks) => chunks)

def skeletonSize (g : Generator) (name : String) (m : Material) : Job Nat := do
  Output.size (← g.skeletonOver (.str name) m)

/-- What is read from a header in a session that starts with `options`, and its generator. -/
def materialOf (options : Value) (name text : String) : Job (Generator × Material) := do
  let s ← Session.start options
  s.use do return (s.generator, Session.material (← Session.read name text))

def inNamespaces (namespaces : List String) (m : Material) : Material :=
  let moved := fun (d : Draft) => { d with namespaces := .ok { items := namespaces.map .str } }
  { m with functions := m.functions.map fun listed => { listed with
      items := listed.items.modifyHead moved } }

def emptyMaterial : Material where
  functions := .ok { items := [] }
  typedefs := .ok { items := [] }
  source := .ok ""

def makeEverything (dir : String) (count : Nat) : Job Value := do
  let (g, m) ← materialOf (Sample.everything dir) "Device" (Sample.header count false)
  let m := inNamespaces ["outer", "inner", "deep"] m
  let inFolder ← mockSize g "Device" ".h" m (.str "drivers")
  let beside ← mockSize g "Device" ".h" m .null
  let empty ← mockSize g "Empty" ".h" emptyMaterial .null
  return .int (inFolder + beside + empty : Nat)

def makeOne (options : Value) (name : String) (count : Nat) : Job Value := do
  let (g, m) ← materialOf options name (Sample.header count false)
  return .int (← mockSize g name ".h" m .null)

def oldSkeleton : String :=
  "int attr_fn(int x)\n\x7b \x7d"

def makeSkeletons (dir : String) (count : Nat) : Job Value := do
  let (g, m) ← materialOf (Sample.stubs dir) "Skel" (Sample.header count false)
  return .int ((← skeletonSize g "Skel" m) + (← skeletonSize g "Fresh" m) : Nat)

def hooks : List Hook :=
  [.callFields, .functionFields, .declarations, .precheck, .implementation, .interfaces, .verify,
    .destroy, .ignoreAll]

def hookSize (ps : Plugins) (functions : List Prototype) : Except Fault Nat := do
  let texts ← functions.mapM fun p => hooks.mapM fun hook => ps.text hook p
  return (Code.concat texts.flatten ++ ps.includes).length

def loadPlugins (options : Value) : Job Plugins := do
  let o ← Options.resolve options
  Plugins.load o (Settings.ofOptions o (some (← Comparisons.ofOptions o)))

/-- Loads the plugins `count` times and lets them speak about four functions; then looks for one
that does not exist. -/
def loadOften (dir : String) (count : Nat) : Job Value := do
  let s ← Session.start (Sample.everything dir)
  let parsed ← s.use (Session.read "Device" (Sample.header 1 false))
  let total ← (List.range count).foldlM
    (fun total _ => do
      return total + (← hookSize (← loadPlugins (Sample.everything dir)) parsed.functions)) 0
  let missing := Sample.options [(":plugins", Value.texts [":does_not_exist"])]
  let unknown ← tryCatch (do return (← loadPlugins missing).loaded.length) fun _ =>
    return (Plugin.camelize "a_b_c".toList).length
  return .int (total + unknown : Nat)

end MockGen.Workload
