import MockGen.Session

/-!
# Requests to sessions

Requests to sessions and option readers, with arguments of any kind.
-/

namespace MockGen

namespace Session

def generateMockOf (path folder : Value) : SessionM Unit := do
  generateMock (← path.asText) folder

def generateSkeletonOf (path : Value) : SessionM Unit := do
  generateSkeleton (← path.asText)

private def filesOf : Value → List Value
  | .list files => files
  | file => [file]

def setupMocksOf (files folder : Value) : SessionM Unit :=
  (filesOf files).forM fun path => generateMockOf path folder

def setupSkeletonsOf (files : Value) : SessionM Unit :=
  (filesOf files).forM generateSkeletonOf

end Session

/-- The options that an option file gives.  A number that could name an open file names none. -/
def Options.loadValue (file : Value) : Job Value := do
  match file with
  | .str path => load path
  | .bool _ => throw .refused
  | .int n =>
    if n < 0 then throw .malformedPath
    else if n < Nat.pow 2 31 then throw .refused
    else throw .wrongKind
  | _ => throw .wrongKind

def Comparisons.findValue (c : Comparisons) (type : Value) : Except Fault Comparison := do
  c.find (← type.asText)

end MockGen
