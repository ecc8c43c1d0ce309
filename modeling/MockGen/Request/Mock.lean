import MockGen.Mock.Files
import MockGen.Request.Plugin

/-!
# Requests for files

Requests for the files of mocks, and for files in general, with arguments of any kind.
-/

namespace MockGen

namespace Generator

/-- Sets up a generator.  A program at `home` looks for the unit that cleans names, which is found
only beside this program itself. -/
def ofValue (given : Value) (helped : Bool) (voids home frameworkDir : Value) : Job Generator := do
  let o ← Options.resolve given
  let g ← ofOptions o (← Plugins.ofResolved o helped voids)
  match home.text? with
  | some home => requireCleaner home (frameworkDir.text?.getD "")
  | none => pure ()
  return g

def createMockOf (g : Generator) (moduleName parsed extension folder : Value) : Job Unit :=
  g.createMock moduleName (.ofValue parsed) extension folder

def createSkeletonOf (g : Generator) (moduleName parsed : Value) : Job Unit :=
  g.createSkeleton moduleName (.ofValue parsed)

def includesOf (files : Value) : Except Fault Value := do
  return .texts (← formatIncludes (← files.items))

def identifierOf (name : Value) : Except Fault Value := do
  return .str (String.ofList (identifier (← name.asText).toList))

end Generator

namespace Output

/-- Writes a file in a directory.  The directory is made before the name of the file is looked
at. -/
def createOf (top name chunks below : Value) : Job Unit := do
  let chunks ← chunksOf chunks
  let dir ← directory top below
  Job.makeDirs dir
  write (Path.join dir (← name.asText)) chunks

def appendOf (places name chunks below : Value) : Job Unit := do
  let chunks ← chunksOf chunks
  let top ← match places with
    | .map entries =>
      match Value.lookup (.str "skeleton_path") entries with
      | some top => pure top
      | none => throw .missingPart
    | _ => throw .wrongKind
  let dir ← directory top below
  Job.makeDirs dir
  append top (← name.asText) chunks below

def replaceOf (target source : Value) : Job Unit := do
  let target ← target.asText
  match source with
  | .str source => replace target source
  | _ =>
    discardOld target
    throw .wrongKind

end Output

end MockGen
