import MockGen.HeaderReader
import MockGen.Mock.Files

/-!
# Sessions

Making mocks and skeletons from header files.  A session reads one header after the other with the
same reader.
-/

namespace MockGen

structure Session where
  reader : HeaderReader
  generator : Generator
  silent : Bool

abbrev SessionM := ExceptT Fault (StateT Session (StateM Workspace))

namespace Session

def start (given : Value) : Job Session := do
  let o ← Options.resolve given
  let settings := Settings.ofOptions o (some (← Comparisons.ofOptions o))
  let plugins ← Plugins.load o settings
  let reader ← HeaderReader.ofOptions o
  let generator ← Generator.ofOptions o plugins
  match (o.get ":verbosity").isBelow? 2 with
  | some silent => return { reader, generator, silent }
  | none => throw .wrongKind

def job {α : Type} (j : Job α) : SessionM α :=
  ExceptT.mk fun s => do return (← j.run, s)

def read (name : String) (text : String) : SessionM Header.Parsed :=
  ExceptT.mk fun s => do
    let (outcome, reader, _) ← s.reader.run { moduleName := name } fun rules =>
      Header.parse rules name text.toList
    return (outcome, { s with reader := reader })

def material (p : Header.Parsed) : Material where
  functions := .ok { items := p.functions.map .of }
  typedefs := .ok { items := p.typedefs }
  source := .ok p.normalizedSource

def openHeader (verb path : String) : SessionM (String × String × Material) := do
  let (name, extension) := Path.splitExtension (Path.fileName path)
  if !(← get).silent then job (Job.print s!"Creating {verb} for {name}...")
  let text ← job (Job.readFile path)
  return (name, extension, material (← read name text))

def generateMock (path : String) (folder : Value) : SessionM Unit := do
  let (name, extension, m) ← openHeader "mock" path
  job ((← get).generator.createMock (.str name) m (.str extension) folder)

def generateSkeleton (path : String) : SessionM Unit := do
  let (name, _, m) ← openHeader "skeleton" path
  job ((← get).generator.createSkeleton (.str name) m)

def setupMocks (paths : List String) (folder : Value) : SessionM Unit :=
  paths.forM fun path => generateMock path folder

def setupSkeletons (paths : List String) : SessionM Unit :=
  paths.forM generateSkeleton

def use {α : Type} (s : Session) (work : SessionM α) : Job α :=
  ExceptT.mk do
    let (outcome, _) ← work.run s
    return outcome

end Session

end MockGen
