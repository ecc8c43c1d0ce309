import MockGen.Header.Declaration
import MockGen.Header.Inline
import MockGen.Header.Scope

/-!
# Reading a whole header
-/

namespace MockGen.Header

open Pattern

/-- What a header declares, and its text with plain declarations for inline functions. -/
structure Parsed where
  functions : List Prototype
  typedefs : List String
  normalizedSource : String
  deriving Repr, DecidableEq

def atLeastOne (v : Value) : Except Fault Bool :=
  match v.isAtLeast? 1 with
  | some b => .ok b
  | none => .error .wrongKind

def selected (lines : List (List Char)) : List (List Char) :=
  (lines.filter declaration.occursIn).map trimmed

/-- The statements that look like declarations.  Finding none is noted or refused, as the rules
say. -/
def declarations (r : Rules) (header : String) (lines : List (List Char)) :
    ReadM (List (List Char)) := do
  let found := selected lines
  if found.isEmpty then
    if r.whenNoPrototypes == .str "error" then throw (.noPrototypes header)
    else if r.whenNoPrototypes == .str "warn" then
      if ← atLeastOne r.verbosity then
        modify fun s => { s with
          notes := s.notes ++ [s!"WARNING: No function prototypes found by CMock in {header}"] }
  return found

def addPrototype (known : List Prototype) (p : Prototype) : List Prototype :=
  if known.any (·.name == p.name) then known else known ++ [p]

def prototypes (r : Rules) : List (List Char) → List Prototype → ReadM (List Prototype)
  | [], known => return known
  | declared :: rest, known => do
    let p ← prototype r declared [] none
    prototypes r rest (addPrototype known p)

def identifierOf (name : List Char) : List Char :=
  name.filter Text.isWord

/-- Reads a header.  Static functions of C++ scopes cannot be mocked: their presence is an error
that shows after the plain declarations were read. -/
def parse (r : Rules) (name : String) (source : List Char) : ReadM Parsed := do
  modify fun s => { s with
    project := { moduleName := String.ofList (identifierOf name.toList) } }
  let lines ← statements r source false
  let found ← declarations r name lines
  let members := staticFunctions {} (← statements r source true)
  let functions ← prototypes r found []
  if !members.isEmpty then throw .wrongKind
  let normalized ←
    if r.includeInlines then transformInlines r.inlinePatterns source else pure []
  return {
    functions := functions
    typedefs := (← get).project.typedefs
    normalizedSource := String.ofList normalized }

end MockGen.Header
