import MockGen.Prototype
import MockGen.Header.Lines

/-!
# Parameter lists

Bringing them into one form, naming what has no name, and taking them apart into types, names and
qualifiers.
-/

namespace MockGen.Header

open Pattern

def lastStar : Pattern :=
  char '*' ++ ahead (stretch .line ++ char '*') false

def startOrBlank : Pattern :=
  place .textStart <|> one .blank

def blankOrEnd : Pattern :=
  one .blank <|> place .lastEnd

def charPointer : Pattern :=
  startOrBlank ++ opt (text "const" ++ blanks1) ++ text "char" ++ opt (blanks1 ++ text "const") ++
    blanks ++ lastStar

def constBeforeStar : Pattern :=
  (place .textStart <|> one .blank <|> char '*') ++ text "const" ++
    opt (one .blank ++ stretch (.word ∪ .blank)) ++ lastStar

def constWord : Pattern :=
  startOrBlank ++ text "const" ++ blankOrEnd

def constAfterStar : Pattern :=
  lastStar ++ blanks ++ text "const" ++ blankOrEnd

def isPointer (t : List Char) : Bool :=
  t.contains '*' && !charPointer.occursIn t

/-- Whether the object designated directly is constant: for a pointer, `const` in front of its last
star; otherwise the word anywhere. -/
def isConstant (t : List Char) : Bool :=
  if t.contains '*' then constBeforeStar.occursIn t else constWord.occursIn t

def isConstantPointer (t : List Char) : Bool :=
  constAfterStar.occursIn t

/-- A declaration taken apart into qualifiers, attributes, type and name. -/
structure TypedName where
  isPtr : Bool
  isConst : Bool
  isConstPtr : Bool
  name : String
  callingConvention : Option String
  modifier : String
  type : String
  deriving Repr, DecidableEq

def starAfterWord : Pattern :=
  group 1 (one .word) ++ char '*'

def starBeforeWord : Pattern :=
  char '*' ++ group 1 (one .word)

def blanksBeforeStar : Pattern :=
  blanks1 ++ char '*'

def separateStars (t : List Char) : List Char :=
  starBeforeWord.replaceBy (fun m => '*' :: ' ' :: m.group 1)
    (starAfterWord.replaceBy (fun m => m.group 1 ++ [' ', '*']) t)

/-- The words of a declaration in front of its name, by what they are. -/
structure SortedWords where
  attributes : List String := []
  callingConvention : Option String := none
  types : List String := []

def SortedWords.add (attributes conventions : List String) (s : SortedWords) (word : String) :
    SortedWords :=
  if attributes.contains word then { s with attributes := s.attributes ++ [word] }
  else if conventions.contains word then { s with callingConvention := some word }
  else { s with types := s.types ++ [word] }

def eraseLastConst (words : List String) : List String :=
  (words.reverse.erase "const").reverse

/-- Takes a declaration apart.  For pointers, `const` belongs to the type unless it follows the
last star. -/
def typeAndName (r : Rules) (declaration : List Char) : Except Fault TypedName :=
  let t := separateStars declaration
  let words := (Text.words t).map String.ofList
  match words.getLast? with
  | none => .error .outOfRange
  | some name =>
    let attributes := if t.contains '*' then r.attributes else "const" :: r.attributes
    let sorted := words.dropLast.foldl (SortedWords.add attributes r.callingConventions) {}
    let isConstPtr := isConstantPointer t
    let modifiers := if isConstPtr then sorted.attributes ++ ["const"] else sorted.attributes
    let types := if isConstPtr then eraseLastConst sorted.types else sorted.types
    .ok {
      isPtr := isPointer t
      isConst := isConstant t
      isConstPtr := isConstPtr
      name := name
      callingConvention := sorted.callingConvention
      modifier := " ".intercalate modifiers
      type := String.ofList (blanksBeforeStar.replace "*" (" ".intercalate types).toList) }

def elementType? (r : Rules) (type : String) : Except Fault (Option String) :=
  match r.arrayTypes with
  | none => .error .noOperation
  | some types =>
    match types.lookup type with
    | some "" => .ok none
    | found => .ok found

def argument (r : Rules) (item : List Char) : Except Fault Argument := do
  let parsed ← typeAndName r item
  match ← elementType? r parsed.type with
  | some element =>
    if parsed.isPtr then return plain parsed
    else
      let type := s!"{element}*"
      return { plain parsed with
        type := if parsed.isConst then s!"const {type}" else type, isPtr := true }
  | none => return plain parsed
where
  plain (parsed : TypedName) : Argument :=
    { type := parsed.type, name := parsed.name, isPtr := parsed.isPtr, isConst := parsed.isConst,
      isConstPtr := parsed.isConstPtr }

def argumentsOf (r : Rules) : List (List Char) → Except Fault (List Argument × Bool)
  | [] => .ok ([], true)
  | item :: rest =>
    let item := Text.strip item
    if item == "void".toList || item == "...".toList then .ok ([], false)
    else do
      let a ← argument r item
      let (more, complete) ← argumentsOf r rest
      return (a :: more, complete)

def isSizeParameter (r : Rules) (a : Argument) : Except Fault Bool := do
  let p ← readPattern r.arraySizeName
  return p.occursIn a.name.toList && r.arraySizeTypes.contains a.type

/-- Marks pointers that are followed by a number of elements, together with that number.  `isSize`
says that the first parameter is such a number. -/
def markArrays (r : Rules) (isSize : Bool) : List Argument → Except Fault (List Argument)
  | [] => .ok []
  | a :: rest => do
    let isData ←
      match rest.head? with
      | some next => if a.isPtr then isSizeParameter r next else pure false
      | none => pure false
    let more ← markArrays r isData rest
    return { a with isArrayData := isData, isArraySize := isSize } :: more

def arguments (r : Rules) (list : List Char) : Except Fault (List Argument) := do
  let (args, complete) ← argumentsOf r (Text.splitAt ',' list)
  if complete then markArrays r false args else return args

def bracketed : Pattern :=
  group 1 (stretch1 .word) ++
    repeated1 (blanks ++ char '[' ++ stretch (.compl (.ofString "[]")) ++ char ']')

/-- A function pointer parameter: groups 1 to 4 are what it returns, words in front of the star,
its name, and its parameters. -/
def pointerParameter : Pattern :=
  group 1 (stretch1 typeText) ++ stretch1 (.single '(') ++ group 2 (stretch wordOrBlank) ++
    char '*' ++ stretch (.single '*' ∪ .blank) ++ group 3 (stretch wordOrBlank) ++ blanks ++
    stretch1 (.single ')') ++ blanks ++ char '(' ++ group 4 (stretch typeList) ++ blanks ++
    stretch (.single ')')

/-- A function parameter: groups 1 to 3 are what it returns, its name, and its parameters. -/
def functionParameter : Pattern :=
  group 1 (stretch1 typeText) ++ blanks1 ++ group 2 (stretch1 .word) ++ blanks ++ char '(' ++
    group 3 (stretch typeList) ++ blanks ++ stretch (.single ')')

/-- How a function pointer parameter is written with a type of its own.  A `const` next to the name
stays in front of it, and a missing name is made up. -/
def pointerUse (returned extra name params : List Char) (functype : String) (unnamed : Nat) :
    PointerUse × Bool :=
  let returned := String.ofList (Text.strip returned)
  let extra := Text.strip extra
  let extra := String.ofList (if extra.isEmpty then [] else extra ++ [' '])
  let params := String.ofList (Text.strip params)
  let name := Text.strip name
  let isConst := Text.hasPart "const".toList name
  let name := if isConst then Text.strip (Text.replace "const".toList [] name) else name
  let qualifier := if isConst then "const " else ""
  let nameless := name.isEmpty
  let name := if nameless then s!"cmock_arg{unnamed + 1}" else String.ofList name
  (⟨s!"typedef {returned}({extra}*{functype})({params});", s!"{functype} {qualifier}{name}"⟩,
    nameless)

def comma : Pattern :=
  blanks ++ char ',' ++ blanks

def typeWords : List String :=
  ["struct", "union", "enum", "const", "const*"]

def isUnnamed (standards : List String) (item : List Char) : Bool :=
  let parts := ((Text.words item).map String.ofList).filter (!typeWords.contains ·)
  match parts.getLast? with
  | none => true
  | some last => parts.length < 2 || last.toList.getLast? == some '*' || standards.contains last

def nameUnnamed (standards : List String) : (position : Nat) → List (List Char) → List (List Char)
  | _, [] => []
  | position, item :: rest =>
    let item :=
      if isUnnamed standards item then item ++ s!" cmock_arg{position}".toList else item
    item :: nameUnnamed standards (position + 1) rest

def withNames (r : Rules) (list : List Char) : List Char :=
  Text.join [',', ' '] (nameUnnamed r.standards 1 (comma.split list))

/-- Brings a parameter list into one form: arrays become pointers, stars stand with the type,
function pointers get types of their own, and every parameter has a name. -/
def cleanArguments (r : Rules) (list : List Char) (s : Reading) : List Char × Reading :=
  if s.voids.contains (String.ofList (Text.strip list)) || list.isEmpty then
    ("void".toList, s)
  else
    let t := bracketed.replaceBy (fun m => '*' :: m.group 1) list
    let t := blanksBeforeStar.replace "*" t
    let t := starBeforeWord.replaceBy (fun m => '*' :: ' ' :: m.group 1) t
    let (t, project, unnamed) :=
      declarePointers
        (fun functype unnamed m =>
          pointerUse (m.group 1) (m.group 2) (m.group 3) (m.group 4) functype unnamed)
        (pointerParameter.pieces t) s.project 0
    let (t, project, _) :=
      declarePointers
        (fun functype unnamed m =>
          pointerUse (m.group 1) [] (m.group 2) (m.group 3) functype unnamed)
        (functionParameter.pieces t) project unnamed
    (withNames r t, { s with project := project })

end MockGen.Header
