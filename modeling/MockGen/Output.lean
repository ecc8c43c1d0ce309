import MockGen.Workspace

/-!
# Writing files in chunks

A file is first written under a name of its own and then takes the place of the old one, so that a
fault while it is written leaves the old file as it was.  Whether a file says the same already is
decided by what the two files hold: neither time stamps nor the outcome of an earlier comparison
play a part.
-/

namespace MockGen

abbrev Chunk := Except Fault String

namespace Output

def collect (written : String) : List Chunk → String × Except Fault Unit
  | [] => (written, .ok ())
  | .ok text :: rest => collect (written ++ text) rest
  | .error fault :: _ => (written, .error fault)

def size : List Chunk → Except Fault Nat
  | [] => .ok 0
  | chunk :: rest => do return (← chunk).length + (← size rest)

def chunksOf : Value → Except Fault (List Chunk)
  | .list items => .ok (items.map fun
      | .str text => .ok text
      | _ => .error .wrongKind)
  | _ => .error .notWritable

def pathOf : Value → Except Fault String
  | .str path => .ok path
  | _ => .error .wrongKind

def directory (top below : Value) : Except Fault String := do
  if below.truthy then return Path.join (← pathOf top) (← pathOf below) else pathOf top

def makeSubdir (top below : Value) : Job Unit := do
  Job.makeDirs (← pathOf top)
  if below.truthy then Job.makeDirs (← directory top below)

def draftName (path : String) : String :=
  path ++ ".new"

def isUnchanged (t : FileTree) (path : String) : Bool :=
  t.exists? path && t.sameFiles (draftName path) path

/-- Discards the draft of a file where it says the same, and else puts it in place of the file. -/
def settle (path : String) : Job Unit := do
  if isUnchanged (← Job.files) path then Job.update fun t => t.remove (draftName path)
  else Job.attempt fun t => t.move (draftName path) path

def write (path : String) (chunks : List Chunk) : Job Unit := do
  let (text, outcome) := collect "" chunks
  Job.update fun t => t.write (draftName path) (.text text)
  outcome
  settle path

def create (top : Value) (name : String) (chunks : List Chunk) (below : Value) : Job Unit := do
  let dir ← directory top below
  Job.makeDirs dir
  write (Path.join dir name) chunks

def append (top : Value) (name : String) (chunks : List Chunk) (below : Value) : Job Unit := do
  let dir ← directory top below
  Job.makeDirs dir
  let path := Path.join dir name
  let (text, outcome) := collect "" chunks
  Job.update fun t =>
    match t.get path with
    | .ok old => t.write path (old.append text)
    | .error _ => t.write path (.text text)
  outcome

def discardOld (path : String) : Job Unit :=
  Job.update fun t =>
    match t.remove path with
    | .error .fileNotFound => .ok t
    | outcome => outcome

/-- Replaces a file by another one.  The old file goes first, whether or not there is a new one. -/
def replace (target source : String) : Job Unit := do
  discardOld target
  Job.attempt fun t => t.move source target

end Output

end MockGen
