import MockGen.Workload.Configuration
import MockGen.Workload.Delivery
import MockGen.Workload.Reading

/-!
# Workloads

Every stage of making mocks, run on sample headers of a chosen size.  A workload first writes the
files it needs below a directory, and can then be run any number of times.
-/

namespace MockGen

inductive Workload where
  | reading
  | everything
  | smart
  | slim
  | skeletons
  | configurations
  | loading
  | delivery
  deriving Repr, DecidableEq

namespace Workload

private def place (path text : String) : Job Unit := do
  Job.makeDirs (Path.parent path)
  Job.update fun t => t.write path (.text text)

private def placeHelper (dir : String) : Job Unit :=
  place (Path.join dir "unity_helper.h") Sample.helperText

/-- Writes the files that a workload needs.  Of the options to resolve there has to be a first
one. -/
def prepare (dir : String) (count : Nat) : Workload → Job Unit
  | reading => return
  | everything | smart | slim | loading => placeHelper dir
  | skeletons => do
    placeHelper dir
    place (Path.join dir "mocks/Skel.c") oldSkeleton
  | configurations => do
    place (Path.join dir "uh.h") Sample.helperText
    place (Path.join dir "mocks/uh2.h") Sample.helperText
    place (Path.join dir "cfg.yml")
      (Code.lines [":cmock:", "  :plugins:", "    - :ignore", "  :mock_prefix: M_"])
    place (Path.join dir "bad.yml") (Code.lines [":cmock:", "  - [unclosed"])
    if count == 0 then throw .outOfRange
  | delivery => do
    placeHelper dir
    (List.range count).forM fun i =>
      place (headerPath dir i) (Sample.plainHeader functionsPerHeader)

def run (dir : String) (count : Nat) : Workload → Job Value
  | reading => readHeaders count
  | everything => makeEverything dir count
  | smart => makeOne (Sample.smart dir) "Smart" count
  | slim => makeOne (Sample.slim dir) "Plain" count
  | skeletons => makeSkeletons dir count
  | configurations => resolveAll dir count
  | loading => loadOften dir count
  | delivery => deliver dir count

end Workload

end MockGen
