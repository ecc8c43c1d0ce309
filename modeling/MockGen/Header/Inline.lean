import MockGen.Header.Lines
import MockGen.Header.Signature

/-!
# Turning inline functions into plain declarations

Where a pattern for inline functions matches, the keyword is dropped and a function body becomes a
semicolon; macros that spell the keyword are taken out, and other uses are left alone.
-/

namespace MockGen.Header

open Pattern

def inlinePattern (v : Value) : Except Fault Pattern := do
  let _ ← readPattern v
  patternOf ("\\b".toList ++ (← v.asText).toList ++ " *\\b".toList)

def lineJoin : Pattern :=
  blanks ++ char '\\' ++ (char '\n' <|> blanks)

def innermostBody : Pattern :=
  blanks ++ char '\x7b' ++ stretch (.compl (.ofString "\x7b\x7d")) ++ char '\x7d'

def declarationAhead : Pattern :=
  signature ++ blanks ++ char ';'

def definitionAhead : Pattern :=
  signature ++ blanks ++ char '\x7b'

def beforeDefine? (t : List Char) : Option (List Char) :=
  let stripped := t.reverse.dropWhile Text.isBlank
  let define := "#define".toList.reverse
  if define.isPrefixOf stripped then some (stripped.drop define.length).reverse else none

def afterLine (t : List Char) : List Char :=
  (t.dropWhile (· != '\n')).drop 1

def dropBodies : (times : Nat) → List Char → List Char
  | 0, t => t
  | times + 1, t => dropBodies times (innermostBody.replace ";" t)

/-- The outcome of looking for one inline function. -/
inductive InlineStep where
  | stop (source : List Char)
  | next (done source : List Char)
  deriving Repr, DecidableEq

/-- Looks for the next inline function in `source`; `done` is the text dealt with, and `found`
says whether there was a match before. -/
def inlineStep (p : Pattern) (found : Bool) (done source : List Char) : InlineStep :=
  match p.find? source with
  | none => .stop (if found then done ++ source else source)
  | some m =>
    match beforeDefine? m.before with
    | some earlier => .next (done ++ earlier) (afterLine m.after)
    | none =>
      if (declarationAhead.matchStart? m.after).isSome then .next (done ++ m.before) m.after
      else if (definitionAhead.matchStart? m.after).isSome then
        match countPairs m.after with
        | 0 => .stop source
        | pairs => .next (done ++ m.before) (dropBodies pairs m.after)
      else .next (done ++ m.before ++ m.text) m.after

/-- Repeats the step; every step that goes on reads something, so `fuel` beyond the length of the
text is never used up by a pattern that matches no empty text. -/
def inlineLoop (p : Pattern) : (fuel : Nat) → (found : Bool) → (done source : List Char) → List Char
  | 0, _, done, source => done ++ source
  | fuel + 1, found, done, source =>
    match inlineStep p found done source with
    | .stop t => t
    | .next done source => inlineLoop p fuel true done source

def plainFunctions (p : Pattern) (t : List Char) : List Char :=
  inlineLoop p (t.length + 1) false [] t

def transformInlines (patterns : Value) (source : List Char) : Except Fault (List Char) := do
  let compiled ← (← patterns.items).mapM inlinePattern
  let t := removeComments (Text.clean source)
  let t := lineJoin.replace " " t
  return compiled.foldl (fun t p => plainFunctions p t) t

end MockGen.Header
