import MockGen.Session
import MockGen.Version

/-!
# The command line
-/

namespace MockGen.CommandLine

structure Arguments where
  options : Option String := none
  skeleton : Bool := false
  version : Bool := false
  strippables : Option String := none
  files : List String := []
  deriving Repr, DecidableEq

inductive Switch where
  | help
  | options
  | skeleton
  | version
  | strippables
  deriving Repr, DecidableEq

namespace Switch

def spellings : List (String × Switch) :=
  [("-h", help), ("--help", help), ("-o", options), ("--options", options),
    ("--skeleton", skeleton), ("--version", version), ("--strippables", strippables)]

def takesValue : Switch → Bool
  | options => true
  | strippables => true
  | _ => false

end Switch

inductive Word where
  | plain (text : String)
  | mark
  /-- A switch with a value written in the same argument.  Behind a `short` switch the value stands
  without an equals sign. -/
  | switch (s : Switch) (short : Bool) (value : Option String)
  | unknown (text : String)
  deriving Repr, DecidableEq

private def cutAtEquals (t : List Char) : String × Option String :=
  let name := t.takeWhile (· != '=')
  match t.drop name.length with
  | _ :: value => (String.ofList name, some (String.ofList value))
  | [] => (String.ofList name, none)

private def candidates (text : String) : List Word :=
  let t := text.toList
  if t.take 2 == ['-', '-'] then
    let (start, value) := cutAtEquals t
    (Switch.spellings.filter fun (name, _) => start.toList.isPrefixOf name.toList).map
      fun (_, s) => .switch s false value
  else
    let short := String.ofList (t.take 2)
    (Switch.spellings.filter fun (name, _) => name == short).map
      fun (_, s) => .switch s true (some (String.ofList (t.drop 2)))

private def isNegative (t : List Char) : Bool :=
  match t with
  | '-' :: rest =>
    let rest := if rest.getLast? == some '\n' then rest.dropLast else rest
    let whole := rest.takeWhile Text.isDigit
    match rest.drop whole.length with
    | [] => !whole.isEmpty
    | '.' :: part => !part.isEmpty && part.all Text.isDigit
    | _ => false
  | _ => false

def classify (text : String) : Option Word :=
  let t := text.toList
  if t.head? != some '-' || t.length == 1 then some (.plain text)
  else
    match Switch.spellings.lookup text with
    | some s => some (.switch s (t.length == 2) none)
    | none =>
      let (name, value) := cutAtEquals t
      match value, Switch.spellings.lookup name with
      | some value, some s => some (.switch s false (some value))
      | _, _ =>
        match candidates text with
        | [word] => some word
        | _ :: _ :: _ => none
        | [] =>
          if isNegative t || t.contains ' ' then some (.plain text) else some (.unknown text)

def classifyAll : List String → Option (List Word)
  | [] => some []
  | text :: rest =>
    if text == "--" then some (.mark :: rest.map .plain)
    else do return (← classify text) :: (← classifyAll rest)

inductive Request where
  | run (a : Arguments)
  | help
  | misuse
  deriving Repr, DecidableEq

structure Progress where
  arguments : Arguments := {}
  hasFiles : Bool := false
  excess : Bool := false
  deriving Repr, DecidableEq

inductive Next where
  | anything
  | files
  | value (switches : List Switch)
  deriving Repr, DecidableEq

private def setSwitch (value : String) (a : Arguments) : Switch → Option Arguments
  | .help => none
  | .options => some { a with options := some value }
  | .skeleton => some { a with skeleton := true }
  | .version => some { a with version := true }
  | .strippables => some { a with strippables := some value }

private def setAll (value : String) (switches : List Switch) (p : Progress) : Option Progress := do
  let a ← switches.foldlM (setSwitch value) p.arguments
  return { p with arguments := a }

private def plainTexts : List Word → List String
  | .plain text :: rest => text :: plainTexts rest
  | .mark :: rest => plainTexts rest
  | _ => []

/-- A switch in short form may be followed by further ones in the same argument: the switches in
order, and the value of the last one, which may stand behind an equals sign.  The first character
that is no switch ends them.  A dash there, or a value that has no use, is an error. -/
private def bundle (s : Switch) : List Char → Option (List Switch × Option String)
  | [] => some ([s], none)
  | c :: rest =>
    if s.takesValue then
      some ([s], some (String.ofList (if c == '=' then rest else c :: rest)))
    else if c == '-' || c == '=' then none
    else
      match Switch.spellings.lookup (String.ofList ['-', c]) with
      | some next => do
        let (more, value) ← bundle next rest
        return (s :: more, value)
      | none => some ([s], none)

private def switchesOf (s : Switch) (short : Bool) (value : Option String) :
    Option (List Switch × Option String) :=
  match value with
  | none => some ([s], none)
  | some v =>
    if s.takesValue then some ([s], some v)
    else if short && v != "" then bundle s v.toList
    else none

private def awaitsValue (switches : List Switch) : Bool :=
  switches.getLast?.any Switch.takesValue

def readWords : Next → Progress → List Word → Request
  | .value _, _, [] => .misuse
  | _, p, [] => if p.excess then .misuse else .run p.arguments
  | .value switches, p, word :: rest =>
    match word with
    | .plain value =>
      match setAll value switches p with
      | some p => readWords .anything p rest
      | none => .help
    | _ => .misuse
  | next, p, word :: rest =>
    match word with
    | .unknown _ => readWords .anything { p with excess := true } rest
    | .switch s short value =>
      match switchesOf s short value with
      | none => .misuse
      | some (switches, none) =>
        if awaitsValue switches then readWords (.value switches) p rest
        else
          match setAll "" switches p with
          | some p => readWords .anything p rest
          | none => .help
      | some (switches, some value) =>
        match setAll value switches p with
        | some p => readWords .anything p rest
        | none => .help
    | word =>
      if next == .files then readWords .files p rest
      else if p.hasFiles then readWords .files { p with excess := true } rest
      else
        let files := plainTexts (word :: rest)
        readWords .files
          { p with hasFiles := true, arguments := { p.arguments with files := files } } rest

def request (argv : List String) : Request :=
  match classifyAll argv with
  | some words => readWords .anything {} words
  | none => .misuse

def helpText : String :=
  Code.lines [
    "usage: cmock.py [-h] [-o OPTIONS] [--skeleton] [--version]",
    "                [--strippables STRIPPABLES]",
    "                [files ...]",
    "",
    "CMock - Automatic Mock Generation for C",
    "",
    "positional arguments:",
    "  files                 Files to mock",
    "",
    "options:",
    "  -h, --help            show this help message and exit",
    "  -o OPTIONS, --options OPTIONS",
    "                        Options file",
    "  --skeleton            Generate skeletons",
    "  --version             Show version",
    "  --strippables STRIPPABLES",
    "                        Strippables"]

def Arguments.shown (a : Arguments) : String :=
  let text := fun (s : Option String) => ((s.map Value.str).getD .null).inspect
  let flag := fun (b : Bool) => (Value.bool b).inspect
  let files := (Value.texts a.files).inspect
  "Namespace(options=" ++ text a.options ++ ", skeleton=" ++ flag a.skeleton ++
    ", version=" ++ flag a.version ++ ", strippables=" ++ text a.strippables ++
    ", files=" ++ files ++ ")"

private def pairOf : Value → Except Fault (Value × Value)
  | .list [key, value] => if key.isKey then .ok (key, value) else .error .wrongKind
  | .list _ => .error .wrongLength
  | .str s =>
    match s.toList with
    | [a, b] => .ok (.str (String.ofList [a]), .str (String.ofList [b]))
    | _ => .error .wrongLength
  | .map [(key, _), (value, _)] => .ok (key, value)
  | .map _ => .error .wrongLength
  | _ => .error .wrongKind

def entriesOf : Value → Except Fault (List (Value × Value))
  | .map entries => .ok entries
  | .list items => items.mapM pairOf
  | .str s => s.toList.mapM fun c => pairOf (.str (String.ofList [c]))
  | _ => .error .wrongKind

private def withLast (value : Value) : Value → Except Fault Value
  | .list items => .ok (.list (items ++ [value]))
  | _ => .error .noOperation

private def position (length : Nat) (n : Int) : Except Fault Nat :=
  let i := if n < 0 then n + length else n
  if 0 ≤ i && i < length then .ok i.toNat else .error .outOfRange

/-- Adds a value to the list under a key, which is made if it is missing.  The key of a list is a
position, where a list is made unless the number is an item. -/
def addToList (options : Value) (key value : Value) : Except Fault Value := do
  match options with
  | .map entries =>
    if !key.isKey then throw .wrongKind
    let list ← withLast value ((Value.lookup key entries).getD (.list []))
    return .map (Value.insert key list entries)
  | .list items =>
    match key.int? with
    | none => throw .wrongKind
    | some n =>
      let i ← position items.length n
      let old := if items.contains key then (items[i]?).getD .null else .list []
      return .list (items.set i (← withLast value old))
  | _ => throw .wrongKind

def optionsOf (a : Arguments) : Job Value := do
  let entries ← match a.options with
    | some file => if file == "" then pure [] else do entriesOf (← Options.load file)
    | none => pure []
  let entries := Value.merge [] entries
  let entries :=
    if a.skeleton then Value.insert (.str ":skeleton") (.bool true) entries else entries
  match a.strippables with
  | some word =>
    if word == "" then return .map entries
    else addToList (.map entries) (.str "strippables") (.str word)
  | none => return .map entries

def make (a : Arguments) : Job Unit := do
  let options ← optionsOf a
  let session ← Session.start options
  let skeleton := match options with
    | .map entries => ((Value.lookup (.str ":skeleton") entries).getD .null).truthy
    | _ => false
  session.use
    (if skeleton then Session.setupSkeletons a.files else Session.setupMocks a.files .null)

def run (argv : List String) : Job Nat := do
  match request argv with
  | .misuse => return 2
  | .help =>
    modify fun w => { w with console := w.console ++ helpText }
    return 0
  | .run a =>
    Job.print a.shown
    if a.version then Job.print Version.current else make a
    return 0

def printVersion : Job Nat := do
  Job.print s!"CMock Version: {Version.current}"
  return 0

end MockGen.CommandLine
