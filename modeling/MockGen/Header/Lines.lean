import MockGen.Text.Encoding
import MockGen.Pattern.Reader
import MockGen.Header.Project
import MockGen.Header.Rules
import MockGen.Header.Comments
import MockGen.Header.Braces
import MockGen.Value.Use

/-!
# From the text of a header to its statements

Everything that is no function declaration is taken out pass by pass, white space is brought into
one form, and the rest is cut at the semicolons.
-/

namespace MockGen.Header

open Pattern

def wordOrBlank : CharSet :=
  .word ∪ .blank

def typeText : CharSet :=
  .word ∪ .blank ∪ .single '*'

def typeList : CharSet :=
  typeText ∪ .single ','

def voidTypedef : Pattern :=
  text "typedef" ++ blanks1 ++ opt (char '(' ++ blanks) ++ text "void" ++
    opt (blanks ++ char ')') ++ blanks1 ++ group 1 (stretch1 .word) ++ blanks ++ char ';'

def continuation : Pattern :=
  blanks ++ char '\\' ++ blanks

def assemblerSection : Pattern :=
  place .textStart ++ blanks ++ char '#' ++ blanks ++ text "pragma" ++ blanks1 ++ text "asm" ++
    blanks1 ++ starLazy .any ++ char '#' ++ blanks ++ text "pragma" ++ blanks1 ++ text "endasm"

def attributeTag : Pattern :=
  text "__attribute" ++ opt (text "__") ++ blanks ++ char '(' ++ stretch1 (.single '(') ++
    stretch .line ++ char ')' ++ stretch1 (.single ')')

def linkageBlock : Pattern :=
  text "extern" ++ blanks1 ++ text "\"C\"" ++ blanks ++ char '\x7b'

def directive : Pattern :=
  place .lineStart ++ blanks ++ char '#' ++ stretch .line

def forwardStruct : Pattern :=
  place .lineStart ++ stretch wordOrBlank ++ text "struct" ++
    stretch1 (.compl (.ofString ";\x7b\x7d()")) ++ char ';'

def bracedDefinition : Pattern :=
  place .lineStart ++ stretch wordOrBlank ++ oneOf ["enum", "union", "struct", "typedef"] ++
    stretch wordOrBlank ++ char '\x7b' ++ stretch1 (.compl (.single '\x7d')) ++ char '\x7d' ++
    stretch typeList ++ char ';'

/-- One of some words between two characters that belong to no word; groups 1 and 2 are those. -/
def loneWord (words : List String) : Pattern :=
  group 1 (one (.compl .word)) ++ oneOf words ++ group 2 (one (.compl .word))

def dropLoneWords (words : List String) (t : List Char) : List Char :=
  (loneWord words).replaceBy (fun m => m.group 1 ++ m.group 2) t

def defaultValue : Pattern :=
  blanks ++ char '=' ++ blanks ++
    stretch1 (.ofString "\"'_." ∪ .range 'a' 'z' ∪ .range 'A' 'Z' ∪ .range '0' '9') ++ blanks

def typedefStatement : Pattern :=
  place .lineStart ++ opt (stretch wordOrBlank ++ one (.compl .word)) ++ text "typedef" ++
    one (.compl .word) ++ stretch (.compl (.single ';'))

def bracketBeforeWord : Pattern :=
  char ')' ++ group 1 (one .word)

def pointerVariable : Pattern :=
  stretch1 .word ++ blanks ++ char '(' ++ blanks ++ char '*' ++ blanks ++ stretch1 .word ++
    blanks ++ char ')' ++ blanks ++ char '(' ++ stretch (.compl (.single ')')) ++ char ')' ++
    blanks ++ char ';'

/-- A function that returns a function pointer: groups 1 to 4 are what the returned function
returns, the name, the parameters, and the parameters of the returned function. -/
def pointerResult : Pattern :=
  group 1 (stretch1 typeText) ++ stretch (.single '(') ++ char '(' ++ blanks ++ char '*' ++
    group 2 (stretch1 typeText) ++ blanks ++ char '(' ++ group 3 (stretch typeList) ++ text "))" ++
    blanks ++ char '(' ++ group 4 (stretch typeList) ++ char ')' ++ stretch (.single ')')

def emptyBody : Pattern :=
  text "\x7b \x7d"

def functionBody : Pattern :=
  char '(' ++ stretch (.compl (.single ')')) ++ char ')' ++ blanks ++ char '\x7b' ++
    stretch (.compl (.single '\x7d')) ++ char '\x7d'

def lineLead : Pattern :=
  place .lineStart ++ blanks1

def lineTail : Pattern :=
  blanks1 ++ place .lineEnd

def aroundOpening : Pattern :=
  blanks ++ char '(' ++ blanks

def aroundClosing : Pattern :=
  blanks ++ char ')' ++ blanks

def statementEnd : Pattern :=
  blanks ++ char ';' ++ blanks

def pointerArray : Pattern :=
  stretch1 typeText ++ stretch1 (.single '(') ++ blanks ++ char '*' ++
    stretch (.single '*' ∪ .blank) ++ stretch1 wordOrBlank ++
    repeated1 (char '[' ++ stretch wordOrBlank ++ char ']' ++ blanks) ++
    stretch1 (.single ')') ++ blanks ++ char '(' ++ stretch typeList ++ blanks ++ char ')'

def leadingWord (word : String) : Pattern :=
  (place .textStart <|> blanks1) ++ text word ++ blanks1

def patternOf (t : List Char) : Except Fault Pattern :=
  match Pattern.ofText t with
  | .ok p => .ok p
  | .error .malformed => .error .malformedPattern
  | .error .tooManyRepetitions => .error .tooManyRepetitions
  | .error .contradictoryFlags => .error .contradictoryFlags
  | .error .tooDeep => .error .tooDeep

def readPattern (v : Value) : Except Fault Pattern := do
  patternOf (← v.asText).toList

def removeAll : List Value → List Char → Except Fault (List Char)
  | [], t => .ok t
  | v :: rest, t => do
    let p ← readPattern v
    removeAll rest (p.remove t)

def strippableText (v : Value) : Except Fault (List Char) := do
  let texts ← (← v.items).mapM Value.asText
  return "(^|\\W+)(?:".toList ++ Text.join ['|'] (texts.map String.toList) ++
    ")(?=$|\\W+)".toList

def strip (v : Value) (t : List Char) : Except Fault (List Char) :=
  if v.truthy then do
    let p ← patternOf (← strippableText v)
    return p.replaceBy (fun m => m.group 1) t
  else .ok t

/-- How a function that returns a function pointer is written with a type for that pointer. -/
def pointerResultUse (functype : String) (_ : Nat) (m : Match) : PointerUse × Bool :=
  let returned := String.ofList (Text.strip (m.group 1))
  let name := String.ofList (Text.strip (m.group 2))
  let params := String.ofList (m.group 3)
  let inner := String.ofList (m.group 4)
  (⟨s!"typedef {returned}(*{functype})({inner});", s!"{functype} {name}({params});"⟩, false)

def dropDefinitions (cpp : Bool) (t : List Char) : List Char :=
  let t := continuation.replace " " t
  let t := removeComments t
  let t := assemblerSection.remove t
  let t := attributeTag.remove t
  let t := linkageBlock.remove t
  let t := directive.remove t
  let t := forwardStruct.remove t
  let t := bracedDefinition.remove t
  let t := dropLoneWords ["register", "auto", "restrict"] t
  let t := if cpp then t else dropLoneWords ["static"] t
  let t := defaultValue.remove t
  let t := typedefStatement.remove t
  bracketBeforeWord.replaceBy (fun m => ')' :: ' ' :: m.group 1) t

/-- Brings white space into one form: none at the ends of lines or next to brackets, single spaces
elsewhere. -/
def tidy (t : List Char) : List Char :=
  let t := lineLead.remove t
  let t := lineTail.remove t
  let t := aroundOpening.replace "(" t
  let t := aroundClosing.replace ")" t
  blanks1.replace " " t

def keepsLine (r : Rules) (line : List Char) : Bool :=
  !(Text.strip line).isEmpty && !pointerArray.occursIn line &&
    (r.includeExterns || !(leadingWord "extern").occursIn line) &&
    (r.includeInlines || !(leadingWord "inline").occursIn line)

def voidNames (source : List Char) : List String :=
  Text.distinct ((voidTypedef.allMatches (Text.clean source)).map fun m =>
    String.ofList (m.group 1))

/-- The text of a header without what is no declaration, before function pointer results are given
types. -/
def reduced (r : Rules) (source : List Char) (cpp : Bool) : Except Fault (List Char) := do
  let t := Text.clean source
  let t ← if r.includeInlines then do removeAll (← r.inlinePatterns.items) t else pure t
  let t ← strip r.strippables (dropDefinitions cpp t)
  return pointerVariable.replace ";" t

def statementsOf (r : Rules) (cpp : Bool) (t : List Char) : List (List Char) :=
  let t := if cpp then t else flattenBraces t
  let t := if r.includeInlines then emptyBody.replace ";" t else t
  let t := functionBody.replace ";" t
  let lines := statementEnd.split (tidy t)
  let lines := if cpp then lines else Text.distinct lines
  lines.filter (keepsLine r)

/-- The statements of a header that may be function declarations.  C++ headers keep `static` and
the structure of their braces, and their repeated statements. -/
def statements (r : Rules) (source : List Char) (cpp : Bool) : ReadM (List (List Char)) := do
  modify fun s => { s with voids := s.voids ++ voidNames source }
  let t ← reduced r source cpp
  let s ← get
  let (t, project, _) := declarePointers pointerResultUse (pointerResult.pieces t) s.project 0
  set { s with project := project }
  return statementsOf r cpp t

end MockGen.Header
