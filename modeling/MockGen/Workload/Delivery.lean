import MockGen.Workload.Generation

/-!
# Making mocks and skeletons from header files, and writing files beside them
-/

namespace MockGen.Workload

def functionsPerHeader : Nat :=
  220

def headerPath (dir : String) (i : Nat) : String :=
  Path.join dir s!"hdr{i}.h"

def mockOf (path : String) : SessionM Nat := do
  let (name, extension, m) ← Session.openHeader "mock" path
  mockSize (← get).generator name extension m .null

def skeletonOf (path : String) : SessionM Nat := do
  let (name, _, m) ← Session.openHeader "skeleton" path
  Session.job (skeletonSize (← get).generator name m)

/-- Writes files that are new, changed, or the same as before, adds to others, and moves one.  Gives
the size of the one that was moved. -/
def writeAround (dir : String) : Job Nat := do
  let disk := Value.str (Path.join dir "disk")
  let skeletons := Value.str (Path.join dir "skel")
  Output.makeSubdir disk (.str "sub")
  Output.create disk "a.c" [.ok "same"] (.str "sub")
  Output.create disk "a.c" [.ok "same"] (.str "sub")
  Output.create disk "a.c" [.ok "first"] .null
  Output.create disk "a.c" [.ok "changed"] .null
  Output.append skeletons "ap.c" [.ok "x"] (.str "sub")
  Output.append skeletons "ap.c" [.ok "y"] .null
  let source := Path.join dir "scratch.src"
  let target := Path.join dir "scratch.dst"
  Job.update fun t => t.write source (.text "data")
  Output.replace target source
  return (← Job.readFile target).length

def refusals (attempts : List (Job Unit)) : Job Nat := do
  let outcomes ← attempts.mapM fun attempt =>
    tryCatch (do
      attempt
      return false) fun _ => return true
  return outcomes.countP id

/-- Makes the mocks of `count` header files twice and their skeletons once, and writes files beside
them.  Gives the number of writes that are refused because there is nothing to write, and the
number of characters made. -/
def deliver (dir : String) (count : Nat) : Job Value := do
  let paths := (List.range count).map (headerPath dir)
  let s ← Session.start (Sample.talkative dir)
  let sizes ← s.use do
    let mocks ← (paths ++ paths).mapM mockOf
    return mocks ++ (← paths.mapM skeletonOf)
  let moved ← writeAround dir
  let top := Value.str dir
  let refused ← refusals [
    do Output.create top "x" (← Output.chunksOf .null) .null,
    do Output.append top "x" (← Output.chunksOf .null) .null]
  return .list [.int refused, .int (sizes.foldl (· + ·) moved : Nat)]

end MockGen.Workload
