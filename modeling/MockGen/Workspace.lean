import MockGen.FileTree

/-!
# Where mocks are made

The files, what was printed, and the default list of things to strip, which readers of headers share
and extend.
-/

namespace MockGen

structure Workspace where
  files : FileTree := {}
  console : String := ""
  strippables : List Value
  deriving Repr

abbrev Job := ExceptT Fault (StateM Workspace)

namespace Job

def print (line : String) : Job Unit :=
  modify fun w => { w with console := w.console ++ line ++ "\n" }

def files : Job FileTree := do
  return (← get).files

def readFile (path : String) : Job String := do
  (← files).read path

def update (change : FileTree → Except Fault FileTree) : Job Unit := do
  let t ← change (← files)
  modify fun w => { w with files := t }

def attempt (change : FileTree → FileTree × Except Fault Unit) : Job Unit := do
  let (t, outcome) := change (← files)
  modify fun w => { w with files := t }
  outcome

def makeDirs (path : String) : Job Unit :=
  attempt fun t => t.makeDirs path

end Job

end MockGen
