import MockGen.Code
import MockGen.Draft
import MockGen.Settings

/-!
# Code around an expected call

Setting one up, loading its arguments, and checking the arguments of an actual call against it.
-/

namespace MockGen

namespace Argument

/-- The type of a parameter with the `const` that reading the header took away: of the pointer
itself behind the type, of a value in front of it. -/
def typeWithConst (a : Argument) : String :=
  if a.type.toList.contains '*' then if a.isConstPtr then a.type ++ " const" else a.type
  else if a.isConst then "const " ++ a.type
  else a.type

def withDepth (a : Argument) : String :=
  let declared := a.typeWithConst ++ " " ++ a.name
  if a.isPtr then declared ++ ", int " ++ a.name ++ "_Depth" else declared

def callWithDepth (a : Argument) : String :=
  if a.isPtr then a.name ++ ", " ++ a.name ++ "_Depth" else a.name

end Argument

variable (s : Settings)

namespace Expectation

open Code

def base (f : String) (inOrder : Bool) : String :=
  let chain := mockField f "CallInstance"
  let ignored := mockField f "IgnoreBool"
  let line := callField "LineNumber"
  let order := callField "CallOrder"
  let thrown := callField "ExceptionToThrow"
  let anyArgs := callField "ExpectAnyArgsBool"
  lines ([
    s!"  CMOCK_MEM_INDEX_TYPE cmock_guts_index = " ++
      s!"CMock_Guts_MemNew(sizeof(CMOCK_{f}_CALL_INSTANCE));",
    s!"  CMOCK_{f}_CALL_INSTANCE* cmock_call_instance = " ++
      s!"(CMOCK_{f}_CALL_INSTANCE*)CMock_Guts_GetAddressFor(cmock_guts_index);",
    "  UNITY_TEST_ASSERT_NOT_NULL(cmock_call_instance, cmock_line, CMockStringOutOfMemory);",
    "  memset(cmock_call_instance, 0, sizeof(*cmock_call_instance));",
    s!"  {chain} = CMock_Guts_MemChain({chain}, cmock_guts_index);"] ++
    only (s.ignore || s.ignoreStateless) [s!"  {ignored} = (char)0;"] ++
    [s!"  {line} = cmock_line;"] ++
    only (s.ordered && inOrder) [s!"  {order} = ++GlobalExpectCount;"] ++
    only s.exceptions [s!"  {thrown} = CEXCEPTION_NONE;"] ++
    only s.anyArgs [s!"  {anyArgs} = (char)0;"])

/-- Stores a value: by assignment when it is a pointer or of a known type, else byte by byte. -/
def assign (dest name type : String) (isPtr : Bool) : String :=
  if isPtr || s.known.contains type then lines [s!"  {dest} = {name};"]
  else
    lines [
      s!"  memcpy((void*)(&{dest}), (void*)(&{name}),",
      s!"         sizeof({type}[sizeof({name}) == sizeof({type}) ? 1 : -1])); " ++
        "/* add \x7barg['type']\x7d to :treat_as_array if this causes an error */"]

/-- Stores the expected value of a parameter, with the count of elements if there is one. -/
def addArg (a : Argument) (counted : Bool) : String :=
  let n := a.name
  let count := callField ("Expected_" ++ n ++ "_Depth")
  let ignored := callField ("IgnoreArg_" ++ n)
  let used := callField ("ReturnThruPtr_" ++ n ++ "_Used")
  assign s (callField ("Expected_" ++ n)) n a.type a.isPtr ++
  lines (
    only (s.arrays && counted) [s!"  {count} = {n}_Depth;"] ++
    only s.ignoreArg [s!"  {ignored} = 0;"] ++
    only (s.returnThruPtr && s.isPointerLike a.type && !a.isConst) [s!"  {used} = 0;"])

def loaderParameters (p : Prototype) : String :=
  if s.arrays then commas (p.args.map Argument.withDepth) else p.argsString

def loader (p : Prototype) : String :=
  if p.argsString == "void" then ""
  else
    let f := p.name
    let header := s!"void CMockExpectParameters_{f}(CMOCK_{f}_CALL_INSTANCE* " ++
      "cmock_call_instance, " ++ loaderParameters s p ++ ")"
    lines [header ++ ";", header, "\x7b"] ++
      concat (p.args.map fun a => addArg s a (s.arrays && a.isPtr)) ++
      lines ["\x7d", ""]

def loaderActual (a : Argument) : String :=
  let n := a.name
  if s.arrays && a.isPtr && !a.isArrayData then n ++ ", 1"
  else if s.arrays && a.isArraySize then n ++ ", " ++ n
  else n

def loaderCall (p : Prototype) : String :=
  if p.argsString == "void" then ""
  else
    let actuals := commas (p.args.map (loaderActual s))
    let f := p.name
    lines [s!"  CMockExpectParameters_{f}(cmock_call_instance, {actuals});"]

/-- How the elements behind a pointer are checked. -/
inductive Elements where
  | single
  | counted
  | smart
  deriving Repr, DecidableEq

def depth (e : Elements) (a : Argument) : String :=
  if e != .single && a.isPtr then callField ("Expected_" ++ a.name ++ "_Depth") else "1"

/-- The check behind a pointer: against nothing when nothing was expected, as pointers when no
elements were expected, and otherwise by `check`. -/
def nullGuarded (e : Elements) (a : Argument) (expected asserted actual check : String) :
    List String :=
  let count := depth e a
  [s!"    if ({expected} == NULL)",
    s!"      \x7b UNITY_TEST_ASSERT_NULL({asserted}, cmock_line, CMockStringExpNULL); \x7d"] ++
  only (e == .smart && a.isPtr) [
    s!"    else if ({count} == 0)",
    s!"      \x7b UNITY_TEST_ASSERT_EQUAL_PTR({expected}, {actual}, cmock_line, " ++
      "CMockStringMismatch); \x7d"] ++
  ["    else", s!"      \x7b {check} \x7d"]

def sameMemory (expected actual size : String) : String :=
  s!"UNITY_TEST_ASSERT_EQUAL_MEMORY((void*)({expected}), (void*)({actual}), " ++
    s!"sizeof({size}), cmock_line, CMockStringMismatch);"

def sameMemories (expected actual size count : String) : String :=
  s!"UNITY_TEST_ASSERT_EQUAL_MEMORY_ARRAY((void*)({expected}), " ++
    s!"(void*)({actual}), sizeof({size}), {count}, cmock_line, CMockStringMismatch);"

def sameElements (assertion expected actual count : String) : String :=
  s!"{assertion}({expected}, {actual}, {count}, cmock_line, CMockStringMismatch);"

def sameValues (assertion expected actual : String) : String :=
  s!"{assertion}({expected}, {actual}, cmock_line, CMockStringMismatch);"

def compared (e : Elements) (c : Comparison) (a : Argument) : List String :=
  let expected := c.access.text ++ callField ("Expected_" ++ a.name)
  let actual := c.access.text ++ a.name
  let count := depth e a
  let size := String.ofList (Text.dropTrailing '*' a.type.toList)
  let memory := sameMemory expected actual size
  let memories := sameMemories expected actual size count
  let elements := sameElements c.assertion expected actual count
  if c.assertion == "UNITY_TEST_ASSERT_EQUAL_MEMORY" then ["    " ++ memory]
  else if c.assertion == "UNITY_TEST_ASSERT_EQUAL_MEMORY_ARRAY" then
    if c.access == .address then ["    " ++ if e == .smart then memories else memory]
    else
      nullGuarded e a expected (if e == .smart then a.name else actual) actual
        (if e == .single then memory else memories)
  else if Text.hasPart "_ARRAY".toList c.assertion.toList then
    if c.access == .address then ["    " ++ elements]
    else nullGuarded e a expected actual actual elements
  else ["    " ++ sameValues c.assertion expected actual]

def checked (e : Elements) (f : String) (a : Argument) (c : Comparison) : String :=
  let n := a.name
  let ignored := callField ("IgnoreArg_" ++ n)
  lines (
    only s.ignoreArg [s!"  if (!{ignored})"] ++
    ["  \x7b", s!"    UNITY_SET_DETAILS(CMockString_{f},CMockString_{n});"] ++
    compared e c a ++
    ["  \x7d"])

/-- How elements are checked under the settings; nothing when arrays are checked and the way of
comparing pointers is not known. -/
def elements? : Except Fault (Option Elements) :=
  if s.arrays then
    match s.pointers with
    | .smart => .ok (some .smart)
    | .data => .ok (some .counted)
    | .pointers => .error .arrayComparesPointers
    | .always => .ok none
    | .unknown => .ok none
  else .ok (some .single)

def verifyBy (e : Elements) (f : String) (a : Argument) : Except Fault String := do
  return checked s e f a (← s.comparison a)

/-- Checks a parameter; there is no check when the way of comparing pointers is not known. -/
def verify? (f : String) (a : Argument) : Except Fault (Option String) := do
  match ← elements? s with
  | some e => return some (← verifyBy s e f a)
  | none => return none

def verify (f : String) (a : Argument) : Except Fault String := do
  match ← verify? s f a with
  | some text => return text
  | none => throw .wrongKind

def verifyAll (p : Prototype) : Except Fault String := do
  return concat (← p.args.mapM (verify s p.name))

/-! ## What is needed of a draft -/

def assignNeeds (isPtr : Bool) (ofType ofName : Part) : List Need :=
  (if isPtr then [] else [.shown ofType, .lookedUp ofType]) ++ [.shown ofName]

def addArgNeeds (a : Argument) (i : Nat) : List Need :=
  [.shown (.argName i), .argFlags i] ++ assignNeeds a.isPtr (.argType i) (.argName i) ++
    if s.returnThruPtr then [.starred (.argType i)] else []

def withDepthNeeds (i : Nat) : List Need :=
  [.argFlags i, .shown (.argType i), .searched (.argType i), .shown (.argName i)]

def eachArgNeeds (p : Prototype) (needs : Argument → Nat → List Need) : List Need :=
  .eachArg :: p.args.zipIdx.flatMap fun (a, i) => needs a i

def loaderNeeds (p : Prototype) : List Need :=
  .shown .argsString ::
    if p.argsString == "void" then []
    else if s.arrays then
      eachArgNeeds p (fun _ i => withDepthNeeds i) ++ [.shown .name] ++
        eachArgNeeds p (addArgNeeds s)
    else .shown .name :: eachArgNeeds p (addArgNeeds s)

def isHandedBare (a : Argument) : Bool :=
  !s.arrays || (!(a.isPtr && !a.isArrayData) && !a.isArraySize)

def loaderCallNeeds (p : Prototype) : List Need :=
  .shown .argsString ::
    if p.argsString == "void" then []
    else
      eachArgNeeds p (fun _ i =>
        (if s.arrays then [.argFlags i] else []) ++ [.shown (.argName i)]) ++
      [.shown .name] ++
      eachArgNeeds p fun a i => if isHandedBare s a then [.text (.argName i)] else []

def comparisonNeeds (a : Argument) (i : Nat) : List Need :=
  [.shown (.argType i), .shown (.argName i), .argFlags i] ++
  (if a.isPtr then [.searched (.argType i)] else []) ++
    if a.isPtr && (Text.hasPart ['*', '*'] a.type.toList || s.pointers == .always) then []
    else if s.comparisons.isSome then [.text (.argType i)]
    else []

end Expectation

namespace Draft

def render (d : Draft) (needs : List Need) (text : Prototype → String) : Except Fault String := do
  d.require needs
  return text d.fill

@[simp] theorem render_of (p : Prototype) (needs : List Need) (text : Prototype → String) :
    (of p).render needs text = .ok (text p) := by
  simp [render, bind, Except.bind, pure, Except.pure]

def withArg (d : Draft) (a : ArgumentDraft) : Draft :=
  { d with args := .ok { items := [a] } }

def loader (d : Draft) : Except Fault String :=
  d.render (Expectation.loaderNeeds s d.fill) (Expectation.loader s)

def loaderCall (d : Draft) : Except Fault String :=
  d.render (Expectation.loaderCallNeeds s d.fill) (Expectation.loaderCall s)

def comparison (d : Draft) (i : Nat) (a : Argument) : Except Fault Comparison := do
  d.require (Expectation.comparisonNeeds s a i)
  s.comparison a

/-- The check of the parameter with number `i`, in a given way: the comparison is looked for before
the name of the function is used. -/
def verifyBy (e : Expectation.Elements) (d : Draft) (i : Nat) (a : Argument) :
    Except Fault String := do
  let c ← d.comparison s i a
  d.require [.shown .name]
  return Expectation.checked s e d.fill.name a c

def verify? (d : Draft) (i : Nat) (a : Argument) :
    Except Fault (Option String) := do
  match ← Expectation.elements? s with
  | some e => return some (← d.verifyBy s e i a)
  | none => return none

def verifyAll (d : Draft) : Except Fault String := do
  d.require [.eachArg]
  let checks ← d.fill.args.zipIdx.mapM fun (a, i) => do
    match ← d.verify? s i a with
    | some text => return text
    | none => throw .wrongKind
  return Code.concat checks

@[simp] theorem verify?_of (p : Prototype) (i : Nat) (a : Argument) :
    (of p).verify? s i a = Expectation.verify? s p.name a := by
  simp [verify?, Expectation.verify?, verifyBy, Expectation.verifyBy, comparison, bind, Except.bind]

theorem verifyAll_of (p : Prototype) :
    (of p).verifyAll s = Expectation.verifyAll s p := by
  simp only [verifyAll, Expectation.verifyAll, require_of, fill_of, verify?_of]
  rw [← List.zipIdx_map_fst 0 p.args, List.mapM_map]
  simp [Expectation.verify, bind, Except.bind, Function.comp_def]

end Draft

namespace ArgumentDraft

def render (a : ArgumentDraft) (needs : List Need) (text : Argument → String) :
    Except Fault String :=
  (({} : Draft).withArg a).render needs fun _ => text a.fill

def assign (dest : String) (a : ArgumentDraft) : Except Fault String :=
  a.render (.argFlags 0 :: Expectation.assignNeeds a.isPtr (.argType 0) (.argName 0)) fun a =>
    Expectation.assign s dest a.name a.type a.isPtr

def expected (a : ArgumentDraft) (counted : Bool) : Except Fault String :=
  a.render (Expectation.addArgNeeds s a.fill 0) fun a => Expectation.addArg s a counted

end ArgumentDraft

end MockGen
