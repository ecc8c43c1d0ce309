import MockGen.CommandLine

/-!
# The command line

The files below the working directory, and those that the arguments name, are read before anything
is done; what was changed is written at the end.
-/

namespace MockGen.Main

def pathOf (p : Place) : String :=
  "/".intercalate p

def add (t : FileTree) (path : String) (bytes : ByteArray) : FileTree :=
  let parent := Path.parent path
  let t := if parent == "" then t else (t.makeDirs parent).1
  (t.write path (.ofBytes bytes.toList)).toOption.getD t

partial def scan (above : Place) (t : FileTree) (entry : IO.FS.DirEntry) : IO FileTree := do
  let place := above ++ [entry.fileName]
  try
    if ← entry.path.isDir then
      (← entry.path.readDir).foldlM (scan place) { t with dirs := t.dirs ++ [place] }
    else return add t (pathOf place) (← IO.FS.readBinFile entry.path)
  catch _ => return t

def addNamed (t : FileTree) (path : String) : IO FileTree := do
  if t.exists? path then return t
  try return add t path (← IO.FS.readBinFile path)
  catch _ => return t

def gather (args : List String) : IO FileTree := do
  let below ← (← (← IO.currentDir).readDir).foldlM (scan []) {}
  args.foldlM addNamed below

def store (before after : FileTree) : IO Unit := do
  for p in after.dirs do
    if !before.isDir p then IO.FS.createDirAll (pathOf p)
  for (p, c) in after.files do
    if before.content? p != some c then
      match c with
      | .text s => IO.FS.writeFile (pathOf p) s
      | .bytes b => IO.FS.writeBinFile (pathOf p) ⟨b.toArray⟩
  for (p, _) in before.files do
    if !after.isFile p then IO.FS.removeFile (pathOf p)

def perform (args : List String) : IO UInt32 := do
  let files ← gather args
  let (outcome, left) := (CommandLine.run args).run.run
    { files := files, strippables := Options.defaultStrippables }
  IO.print left.console
  store files left.files
  match outcome with
  | .ok status => return status.toUInt32
  | .error fault =>
    IO.eprintln ((fault.message?).getD "The options or the headers cannot be used.")
    return 1

end MockGen.Main

def main (args : List String) : IO UInt32 :=
  MockGen.Main.perform args
