import MockGen.Header.Signature
import MockGen.Text.Basic

/-!
# Static functions in scopes

Public static functions of C++ classes and namespaces.
-/

namespace MockGen.Header

open Pattern

/-- A static function with the scopes it stands in. -/
structure ScopedDeclaration where
  declaration : List Char
  namespaces : List (List Char)
  className : Option (List Char)
  deriving Repr, DecidableEq

/-- A statement without white space at its ends; a class of white space that stands spelled out in
it becomes a space. -/
def trimmed (t : List Char) : List Char :=
  Text.replace "\\s+".toList [' '] (Text.strip t)

/-- An opening brace, with the name of its scope in front if it has one, or a closing brace. -/
def scopeMark : Pattern :=
  (opt (place .wordEdge ++ oneOf ["namespace", "class"] ++ blanks1 ++ stretch1 (.compl .blank) ++
    blanks) ++ char '\x7b') <|> char '\x7d'

def staticWord : Pattern :=
  place .wordEdge ++ text "static" ++ place .wordEdge

def upToStatic : Pattern :=
  place .textStart ++ stretch .line ++ text "static"

/-- Open scopes, outermost first, and whether members are public at this point. -/
structure ScopeState where
  scopes : List (List Char) := []
  isPublic : Bool := false

def ScopeState.pass (s : ScopeState) (mark : List Char) : ScopeState :=
  if mark == ['\x7d'] && !s.scopes.isEmpty then { s with scopes := s.scopes.dropLast }
  else
    let token := trimmed mark
    let isPublic := if "class".toList.isPrefixOf token then false else s.isPublic
    let isPublic := if "namespace".toList.isPrefixOf token then true else isPublic
    { scopes := s.scopes ++ [token], isPublic := isPublic }

def ScopeState.label (s : ScopeState) (line : List Char) : ScopeState :=
  let isPublic := s.isPublic || Text.hasPart "public:".toList line
  let hidden := Text.hasPart "private:".toList line || Text.hasPart "protected:".toList line
  { s with isPublic := isPublic && !hidden }

def ScopeState.split (s : ScopeState) : List (List Char) × Option (List Char) :=
  let named := s.scopes.filter (· != ['\x7b'])
  match named.getLast? with
  | some last =>
    if "class ".toList.isPrefixOf last then (named.dropLast, some (referenced last))
    else (named, none)
  | none => (named, none)
where
  referenced (token : List Char) : List Char :=
    Text.replace "class (\\S+) \x7b".toList "\\1".toList token

def staticFunctions : ScopeState → List (List Char) → List ScopedDeclaration
  | _, [] => []
  | s, line :: rest =>
    let s := ((scopeMark.allMatches line).map Match.text).foldl ScopeState.pass s
    let s := s.label line
    if s.isPublic && staticWord.occursIn line then
      let declared := upToStatic.remove line
      if declaration.occursIn declared then
        let (namespaces, className) := s.split
        ⟨trimmed declared, namespaces, className⟩ :: staticFunctions s rest
      else staticFunctions s rest
    else staticFunctions s rest

end MockGen.Header
