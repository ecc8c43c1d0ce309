import MockGen.Fault
import MockGen.Pattern.Match

/-!
# What reading a header leaves behind

The type definitions invented for function pointers, the type names that mean `void`, and the notes
printed on the way.
-/

namespace MockGen

/-- A module being mocked, with the type definitions made for its function pointers. -/
structure Project where
  moduleName : String
  typedefs : List String := []
  deriving Repr, DecidableEq

namespace Project

def nextName (p : Project) : String :=
  s!"cmock_{p.moduleName}_func_ptr{p.typedefs.length + 1}"

def declare (p : Project) (typedef : String) : Project :=
  { p with typedefs := p.typedefs ++ [typedef] }

end Project

structure Reading where
  project : Project
  voids : List String
  notes : List String := []
  deriving Repr, DecidableEq

abbrev ReadM := ExceptT Fault (StateM Reading)

namespace Header

/-- A function pointer type found in a text: the definition to add, and what to write instead. -/
structure PointerUse where
  typedef : String
  text : String

/-- Replaces the matches by uses of new function pointer types.  `use` is given the name of the
type, how many pointers without a name of their own came before, and the match; it also says
whether this one has no name. -/
def declarePointers (use : String → Nat → Match → PointerUse × Bool) :
    List Piece → Project → Nat → List Char × Project × Nat
  | [], project, unnamed => ([], project, unnamed)
  | .kept t :: rest, project, unnamed =>
    let (u, project, unnamed) := declarePointers use rest project unnamed
    (t ++ u, project, unnamed)
  | .hit m :: rest, project, unnamed =>
    let (made, nameless) := use project.nextName unnamed m
    let (u, project, unnamed) :=
      declarePointers use rest (project.declare made.typedef)
        (if nameless then unnamed + 1 else unnamed)
    (made.text.toList ++ u, project, unnamed)

end Header

end MockGen
