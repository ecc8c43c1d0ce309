import MockGen.Text.Basic

/-!
# Paths as text

Joining, file names, extensions, and the place a path names.
-/

namespace MockGen.Path

def join (a b : String) : String :=
  if b.toList.head? == some '/' then b
  else if a == "" || a.toList.getLast? == some '/' then a ++ b
  else a ++ "/" ++ b

def fileName (path : String) : String :=
  String.ofList (path.toList.reverse.takeWhile (· != '/')).reverse

def parent (path : String) : String :=
  let before := (path.toList.reverse.dropWhile (· != '/')).reverse
  let trimmed := Text.dropTrailing '/' before
  String.ofList (if trimmed.isEmpty then before else trimmed)

def splitExtension (name : String) : String × String :=
  let t := name.toList
  let lead := t.takeWhile (· == '.')
  let body := t.drop lead.length
  if body.contains '.' then
    let extension := (body.reverse.takeWhile (· != '.')).reverse
    let stem := body.take (body.length - extension.length - 1)
    (String.ofList (lead ++ stem), String.ofList ('.' :: extension))
  else (name, "")

def steps (path : String) : List String :=
  (Text.splitAt '/' path.toList).map String.ofList

def root? (path : String) : Option String :=
  match path.toList.takeWhile (· == '/') with
  | [] => none
  | [_, _] => some "//"
  | _ => some "/"

def isRoot (step : String) : Bool :=
  step.toList.head? == some '/'

/-- A path without the steps that lead nowhere: the empty ones, and those that stay in place. -/
def plain (path : String) : String :=
  let leading := (steps path).filter fun step => step != "" && step != "."
  (root? path).getD "" ++ "/".intercalate leading

def enclosing (path : String) : String :=
  parent (plain path)

def up (place : List String) : List String :=
  match place.getLast? with
  | none => [".."]
  | some ".." => place ++ [".."]
  | some step => if isRoot step then place else place.dropLast

def follow (place : List String) (step : String) : List String :=
  if step == "" || step == "." then place
  else if step == ".." then up place
  else place ++ [step]

def origin (path : String) : List String :=
  (root? path).toList

def normal (path : String) : List String :=
  (steps path).foldl follow (origin path)

def below? (base place : List String) : Option String :=
  if base.isPrefixOf place then
    let rest := place.drop base.length
    if rest.head?.any (fun step => step == ".." || isRoot step) then none
    else some (if rest.isEmpty then "." else "/".intercalate rest)
  else none

end MockGen.Path
