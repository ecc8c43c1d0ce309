import MockGen.Fault
import MockGen.Path
import MockGen.Text.Encoding

/-!
# A tree of files and directories

Every operation is a function of the tree.  It has no time stamps, permissions or links, and all
relative paths start at one place, the working directory.
-/

namespace MockGen

/-- What a file holds: text, or bytes that are no text. -/
inductive Content where
  | text (s : String)
  | bytes (b : List UInt8)
  deriving Repr, DecidableEq

namespace Content

def ofBytes (b : List UInt8) : Content :=
  match String.fromUTF8? ⟨b.toArray⟩ with
  | some s => .text s
  | none => .bytes b

def read : Content → Except Fault String
  | text s => .ok (String.ofList (Text.unifyLineEnds s.toList))
  | bytes _ => .error .notText

def append (added : String) : Content → Content
  | text s => .text (s ++ added)
  | bytes b => .ofBytes (b ++ added.toUTF8.data.toList)

end Content

abbrev Place := List String

structure FileTree where
  files : List (Place × Content) := []
  dirs : List Place := []
  deriving Repr, DecidableEq

namespace FileTree

variable (t : FileTree)

def content? (p : Place) : Option Content :=
  t.files.lookup p

def isFile (p : Place) : Bool :=
  (t.content? p).isSome

def isDir (p : Place) : Bool :=
  p.all (fun step => step == ".." || Path.isRoot step) || t.dirs.contains p

def isThere (p : Place) : Bool :=
  t.isFile p || t.isDir p

def isFilled (p : Place) : Bool :=
  let below := fun (q : Place) => p.isPrefixOf q && q != p
  t.dirs.any below || t.files.any (below ·.1)

/-! ## Paths -/

def longestStep : Nat := 255

def pathLimit : Nat := 4096

def descend (t : FileTree) (start : Place) : List String → Except Fault Place
  | [] => .ok start
  | step :: rest =>
    if step == "." then descend t start rest
    else if step == ".." then descend t (Path.up start) rest
    else if longestStep < step.utf8ByteSize then .error .pathTooLong
    else
      let next := start ++ [step]
      if t.isDir next then descend t next rest
      else .error (if t.isFile next then .notDirectory else .fileNotFound)

structure Spot where
  place : Place
  isDotted : Bool := false
  isSlashed : Bool := false
  deriving Repr, DecidableEq

def isMalformed (path : String) : Bool :=
  path.toList.contains (Char.ofNat 0)

/-- The place from which a path is walked; any number of slashes in front means one root. -/
def start (path : String) : Place :=
  if Path.isRoot path then ["/"] else []

/-- Where a path leads in the tree; nothing has to be there, but the directory around it. -/
def locate (path : String) : Except Fault Spot :=
  if isMalformed path then .error .malformedPath
  else if path == "" then .error .fileNotFound
  else if pathLimit ≤ path.utf8ByteSize then .error .pathTooLong
  else
    let steps := (Path.steps path).filter (· != "")
    match steps.getLast? with
    | none => .ok { place := start path, isDotted := true }
    | some last => do
      let dir ← t.descend (start path) steps.dropLast
      if last == "." then return { place := dir, isDotted := true }
      if last == ".." then return { place := Path.up dir, isDotted := true }
      if longestStep < last.utf8ByteSize then throw .pathTooLong
      return { place := dir ++ [last], isSlashed := path.toList.getLast? == some '/' }

def find (path : String) : Except Fault Place := do
  let spot ← t.locate path
  if t.isDir spot.place then return spot.place
  if !t.isFile spot.place then throw .fileNotFound
  if spot.isSlashed then throw .notDirectory
  return spot.place

def exists? (path : String) : Bool :=
  (t.find path).isOk

def hasDir (path : String) : Bool :=
  match t.find path with
  | .ok p => t.isDir p
  | .error _ => false

def areSame (a b : String) : Bool :=
  match t.find a, t.find b with
  | .ok p, .ok q => p == q
  | _, _ => false

/-! ## Files -/

def get (path : String) : Except Fault Content := do
  match t.content? (← t.find path) with
  | some c => .ok c
  | none => .error .isDirectory

def read (path : String) : Except Fault String := do
  (← t.get path).read

def put (p : Place) (c : Content) : FileTree :=
  if t.isFile p then
    { t with files := t.files.map fun entry => if entry.1 == p then (p, c) else entry }
  else { t with files := t.files ++ [(p, c)] }

def drop (p : Place) : FileTree :=
  { t with files := t.files.filter (·.1 != p) }

def write (path : String) (c : Content) : Except Fault FileTree := do
  let spot ← t.locate path
  if spot.isDotted || spot.isSlashed || t.isDir spot.place then throw .isDirectory
  return t.put spot.place c

def remove (path : String) : Except Fault FileTree := do
  let spot ← t.locate path
  if spot.isDotted || t.isDir spot.place then throw .isDirectory
  if !t.isFile spot.place then throw .fileNotFound
  if spot.isSlashed then throw .notDirectory
  return t.drop spot.place

/-! ## Directories -/

def makeDir (path : String) : Except Fault FileTree := do
  let spot ← t.locate path
  if spot.isDotted || t.isThere spot.place then throw .fileExists
  return { t with dirs := t.dirs ++ [spot.place] }

/-- The directory around a path and the last step of it, which a slash at its end does not hide. -/
def splitLast (path : String) : String × String :=
  if Path.fileName path == "" then
    let outer := Path.parent path
    (Path.parent outer, Path.fileName outer)
  else (Path.parent path, Path.fileName path)

def makeLastDir (anew : Bool) (t : FileTree) (path : String) : FileTree × Except Fault Unit :=
  match t.makeDir path with
  | .ok t => (t, .ok ())
  | .error fault => (t, if !anew && t.hasDir path then .ok () else .error fault)

def overlookExisting : Except Fault Unit → Except Fault Unit
  | .error .fileExists => .ok ()
  | outcome => outcome

/-- Makes a directory, and the missing ones around it first.  Those made before a fault stay.  With
`anew`, the directory itself must not be there yet. -/
def makeDirsIn (anew : Bool) : (fuel : Nat) → FileTree → String → FileTree × Except Fault Unit
  | 0, t, _ => (t, .error .refused)
  | fuel + 1, t, path =>
    let (outer, last) := splitLast path
    let isDeep := outer != "" && last != "" && !t.exists? outer
    let (t, made) := if isDeep then makeDirsIn anew fuel t outer else (t, .ok ())
    match overlookExisting made with
    | .error fault => (t, .error fault)
    | .ok _ => if isDeep && last == "." then (t, .ok ()) else makeLastDir anew t path

def makeDirs (path : String) : FileTree × Except Fault Unit :=
  makeDirsIn false (path.length + 1) t path

/-! ## Moving -/

def carry (p q : Place) : FileTree :=
  let carried := fun (r : Place) => if p.isPrefixOf r then q ++ r.drop p.length else r
  { files := t.files.map fun (r, c) => (carried r, c)
    dirs := (t.dirs.filter (· != q)).map carried }

/-- Gives a file or a directory another name.  A file may replace a file, and a directory an empty
one. -/
def rename (source target : String) : Except Fault FileTree := do
  if isMalformed source || isMalformed target then throw .malformedPath
  let old ← t.locate source
  let new ← t.locate target
  if old.isDotted || new.isDotted then throw .refused
  let p := old.place
  let q := new.place
  match t.content? p with
  | some c =>
    if old.isSlashed || new.isSlashed then throw .notDirectory
    if t.isDir q then throw .isDirectory
    if p == q then return t
    return (t.drop p).put q c
  | none =>
    if !t.isDir p then throw .fileNotFound
    if p == q then return t
    if p.isPrefixOf q || t.isFilled q then throw .refused
    if t.isFile q then throw .notDirectory
    return t.carry p q

def copyAway (source target : String) : Except Fault FileTree := do
  let target :=
    if t.hasDir target then Path.join target (Path.fileName source) else target
  if t.areSame source target then throw .sameFile
  let c ← t.get source
  let copied ← match t.write target c with
    | .error .isDirectory => throw (if t.exists? target then .isDirectory else .fileNotFound)
    | outcome => outcome
  copied.remove source

/-- Copies a directory, makes the directories around it, and removes the old one.  Of a directory
that its path does not name only the contents go. -/
def copyTreeAway (source target : String) : FileTree × Except Fault Unit :=
  match makeDirsIn true (target.length + 1) t target with
  | (t, .error fault) => (t, .error fault)
  | (t, .ok _) =>
    match t.locate source, t.find target with
    | .ok spot, .ok q =>
      let carried := t.carry spot.place q
      if spot.isDotted then
        ({ carried with dirs := carried.dirs ++ [spot.place] }, .error .refused)
      else (carried, .ok ())
    | _, _ => (t, .error .refused)

/-- Moves a file or a directory to a place or into a directory, where nothing is replaced.  What
cannot get another name is copied. -/
def move (source target : String) : FileTree × Except Fault Unit :=
  let base := Path.fileName (String.ofList (Text.dropTrailing '/' source.toList))
  let same := t.hasDir target && t.areSame source target
  let inside := t.hasDir target && !same
  let goal := if inside then Path.join target base else target
  if isMalformed source then (t, .error .malformedPath)
  else if inside && t.exists? goal then (t, .error .destinationTaken)
  else
    match t.rename source goal with
    | .ok moved => (moved, .ok ())
    | .error .malformedPath => (t, .error .malformedPath)
    | .error fault =>
      if same then (t, .error fault)
      else if t.hasDir source then
        if (Path.normal source).isPrefixOf (Path.normal target) then (t, .error .destinationTaken)
        else t.copyTreeAway source goal
      else
        match t.copyAway source goal with
        | .ok moved => (moved, .ok ())
        | .error fault => (t, .error fault)

def sameFiles (a b : String) : Bool :=
  match t.get a, t.get b with
  | .ok c, .ok d => c == d
  | _, _ => false

end FileTree

end MockGen
