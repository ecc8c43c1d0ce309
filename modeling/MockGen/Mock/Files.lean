import MockGen.Mock.Skeleton

/-!
# The files of a mock

Making the files of a mock, and of a skeleton.
-/

namespace MockGen.Generator

/-- The files of a mock with their names: the mocked header where it is written too, the header of
the mock, and its source. -/
def mockFiles (g : Generator) (n : Names) (m : Material) :
    Except Fault (List (String × List Chunk)) := do
  let inlines ← if g.includesInlines then pure [(← n.file, [m.source])] else pure []
  return inlines ++
    [(n.mockName ++ n.extension, g.headerChunks n m), (n.mockName ++ ".c", g.sourceChunks n m)]

def headerExtension (asked : Value) : Except Fault String :=
  if asked.truthy then asked.asText else .ok ".h"

def createMock (g : Generator) (moduleName : Value) (m : Material) (extension asked : Value) :
    Job Unit := do
  let folder ← g.folder asked
  Output.makeSubdir g.mockPath folder
  let extension ← headerExtension extension
  let n := g.names moduleName extension folder
  (← g.mockFiles n m).forM fun (name, chunks) => Output.create g.mockPath name chunks folder

def skeletonPath (g : Generator) (moduleName : Value) : Except Fault String := do
  let top := g.mockPath.display
  let name := moduleName.display
  if g.subdir.truthy then return top ++ "/" ++ (← g.subdir.asText) ++ "/" ++ name ++ ".c"
  else return top ++ "/" ++ name ++ ".c"

def skeletonOver (g : Generator) (moduleName : Value) (m : Material) : Job (List Chunk) := do
  let path ← g.skeletonPath moduleName
  let existing ← if (← Job.files).exists? path then Job.readFile path else pure ""
  return g.skeletonChunks moduleName existing m

def createSkeleton (g : Generator) (moduleName : Value) (m : Material) : Job Unit := do
  let chunks ← g.skeletonOver moduleName m
  Output.create g.mockPath (moduleName.display ++ ".c") chunks g.subdir

end MockGen.Generator
