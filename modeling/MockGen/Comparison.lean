import MockGen.Options
import MockGen.Header.Comments
import MockGen.Pattern.Match

/-!
# How values of a type are compared

The assertion to use, and whether the value, its address or what it points to is handed to it.  The
known assertions come from the options and from helper files that define assertions of their own.
-/

namespace MockGen

inductive Access where
  | direct
  | pointee
  | address
  deriving Repr, DecidableEq

namespace Access

def text : Access → String
  | direct => ""
  | pointee => "*"
  | address => "&"

end Access

structure Comparison where
  assertion : String
  access : Access
  deriving Repr, DecidableEq

/-- The known assertions by type, and what is done with the other types. -/
structure Comparisons where
  table : List (String × String)
  fallback : String
  comparesMemory : Bool
  deriving Repr, DecidableEq

namespace Comparisons

/-- The table with `assertion` for `type`: in place when the type is there, at the end otherwise. -/
def put (type assertion : String) : List (String × String) → List (String × String)
  | [] => [(type, assertion)]
  | entry :: rest =>
    if entry.1 == type then (type, assertion) :: rest else entry :: put type assertion rest

def update (table more : List (String × String)) : List (String × String) :=
  more.foldl (fun table entry => put entry.1 entry.2 table) table

def joined (t : List Char) : List Char :=
  t.map fun c => if c == ' ' then '_' else c

/-- The entries for one type: a starred kind compares the type as an array; any other kind compares
it directly, and pointers to it as arrays. -/
def entriesFor (type : String) (kind : Value) (table : List (String × String)) :
    Except Fault (List (String × String)) := do
  let key := String.ofList (joined type.toList)
  if ← kind.holds "*" then
    let plain := String.ofList ((← kind.actingText).toList.filter (· != '*'))
    return put key s!"UNITY_TEST_ASSERT_EQUAL_{plain}_ARRAY" table
  else
    let shown := kind.display
    return put (key ++ "*") s!"UNITY_TEST_ASSERT_EQUAL_{shown}_ARRAY"
      (put key s!"UNITY_TEST_ASSERT_EQUAL_{shown}" table)

def addEntry (table : List (String × String)) (entry : Value × Value) :
    Except Fault (List (String × String)) :=
  match entry.1 with
  | .str s => entriesFor s entry.2 table
  | key => .error (.treatAsKey key)

def ofTreatAs (entries : List (Value × Value)) : Except Fault (List (String × String)) :=
  entries.foldlM addEntry []

def parameter : Pattern :=
  .blanks ++ .stretch1 .word ++ .blanks

def moreParameters : Nat → Pattern
  | 0 => .empty
  | n + 1 => .char ',' ++ parameter ++ moreParameters n

/-- A definition of an assertion with `n + 1` parameters.  Its name is the first group; the second
is what follows the common part of the name and ends in `ending`. -/
def definition (ending : String) (n : Nat) : Pattern :=
  .place .lineStart ++ .blanks ++ .text "#define" ++ .blanks1 ++
    .group 1 (.text "UNITY_TEST_ASSERT_EQUAL_" ++ .group 2 (.stretch1 .word ++ .text ending)) ++
    .blanks ++ .char '(' ++ parameter ++ moreParameters n ++ .char ')'

def definitions (ending : String) (n : Nat) (t : List Char) :
    List (List Char × List Char) :=
  ((definition ending n).allMatches t).map fun m => (m.group 1, m.group 2)

/-- The assertions that a helper file defines: with four parameters for values, and with five
parameters and a name in `_ARRAY` for arrays. -/
def ofHelperText (source : List Char) : List (String × String) :=
  let t := Header.dropBlocks false 0 (Header.dropLineComments false source)
  let values := (definitions "" 3 t).filter fun (name, _) => !Text.hasPart "_ARRAY".toList name
  let arrays := (definitions "_ARRAY" 4 t).map fun (name, type) =>
    (name, Text.replace "_ARRAY".toList ['*'] type)
  (values ++ arrays).foldl
    (fun table (name, type) => put (String.ofList type) (String.ofList name) table) []

def ofHelperFiles (o : Options) : Job (List (String × String)) := do
  match ← o.helperText with
  | some source => return ofHelperText source.toList
  | none => return []

def ofOptions (o : Options) : Job Comparisons := do
  let named ← ofTreatAs o.treatAs
  let defined ← ofHelperFiles o
  return {
    table := update named defined
    fallback :=
      if o.hasPlugin ":array" then "UNITY_TEST_ASSERT_EQUAL_MEMORY_ARRAY"
      else "UNITY_TEST_ASSERT_EQUAL_MEMORY"
    comparesMemory := o.flag ":memcmp_if_unknown" }

def changed (c : Comparisons) : List (String × String) :=
  let standard := (ofTreatAs Options.standardTreatAsEntries).toOption.getD []
  c.table.filter fun (type, assertion) => standard.lookup type != some assertion

/-- What follows `const` is kept from its first character that is not white space on; the result
is that character and how far it reaches.  At the end of the text nothing is kept; in front of
nothing but white space, its first character is. -/
def afterConst (t : List Char) : List Char × Nat :=
  match t with
  | [] => ([], 0)
  | ['\n'] => ([], 0)
  | c :: _ =>
    let gap := (t.takeWhile Text.isBlank).length
    match t.drop gap with
    | d :: _ => ([d], gap + 1)
    | [] => ([c], 1)

/-- `const` here, after white space that may follow one other character: what is kept of it, and
its length. -/
def constHere? (t : List Char) : Option (List Char × Nat) :=
  let word := "const".toList
  let reading := fun (kept : List Char) (t : List Char) =>
    let gap := (t.takeWhile Text.isBlank).length
    let t := t.drop gap
    if word.isPrefixOf t then
      let (more, reach) := afterConst (t.drop word.length)
      some (kept ++ more, kept.length + gap + word.length + reach)
    else none
  match t with
  | [] => none
  | c :: rest =>
    if Text.isBlank c then reading [] t
    else
      match reading [c] rest with
      | some found => some found
      | none => reading [] t

/-- Takes `const` out of a type together with the white space around it; `skip` characters still
belong to the last one found. -/
def dropConst (skip : Nat) : List Char → List Char
  | [] => []
  | c :: rest =>
    match skip with
    | skip + 1 => dropConst skip rest
    | 0 =>
      match constHere? (c :: rest) with
      | some (kept, length) => kept ++ dropConst (length - 1) rest
      | none => c :: dropConst 0 rest

def lookupForm (type : List Char) : List Char :=
  joined (Text.strip (dropConst 0 type))

def functionPointer : Pattern :=
  .text "cmock_" ++ .stretch1 .word ++ .text "_ptr" ++ .stretch1 .digit

/-- How values of a type are compared: as the table says, or the type that it points to, or that
points to it; pointers to functions by their address; and all else by its memory. -/
def find (c : Comparisons) (type : String) : Except Fault Comparison :=
  let form := lookupForm type.toList
  let starred := form.getLast? == some '*'
  let other := if starred then Text.dropTrailing '*' form else form ++ ['*']
  match c.table.lookup (String.ofList form), c.table.lookup (String.ofList other) with
  | some assertion, _ => .ok ⟨assertion, .direct⟩
  | none, some assertion => .ok ⟨assertion, if starred then .pointee else .address⟩
  | none, none =>
    if functionPointer.occursIn type.toList then .ok ⟨"UNITY_TEST_ASSERT_EQUAL_PTR", .direct⟩
    else if !c.comparesMemory then .error (.untestableType type)
    else .ok ⟨c.fallback, if starred then .direct else .address⟩

end Comparisons

end MockGen
