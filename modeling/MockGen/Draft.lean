import MockGen.Prototype
import MockGen.Value.Use

/-!
# Drafts of prototypes

Prototypes that are put together by hand, of which parts may be missing or of any kind.  What is
wrong with a part matters only when a fragment of generated text uses it.
-/

namespace MockGen

/-- A part of a prototype that is shown in generated text; parameters are counted from zero. -/
inductive Part where
  | name
  | unscopedName
  | modifier
  | returnType
  | returnName
  | returnStr
  | argType (i : Nat)
  | argName (i : Nat)
  | argsString
  | argsCall
  deriving Repr, DecidableEq

/-- What a fragment of generated text asks of a prototype. -/
inductive Need where
  | shown (p : Part)
  | text (p : Part)
  | edited (p : Part)
  | searched (p : Part)
  | lookedUp (p : Part)
  | starred (p : Part)
  | namespaces
  | className
  | args
  | eachArg
  | returnVoid
  | flags
  | argFlags (i : Nat)
  deriving Repr, DecidableEq

/-- A list in a record.  Of what is no list it is only known whether it counts as given. -/
structure Listed (α : Type) where
  items : List α
  isList : Bool := true
  deriving Repr

namespace Listed

def ofValue {α : Type} (placeholder : α) (read : Value → α) (v : Value) : Listed α :=
  match v.items with
  | .ok items => { items := items.map read }
  | .error _ => { items := if v.truthy then [placeholder] else [], isList := false }

def all {α : Type} (l : Listed α) : Except Fault (List α) :=
  if l.isList then .ok l.items else .error .wrongKind

@[simp] theorem all_mk {α : Type} (items : List α) : (Listed.mk items true).all = .ok items := rfl

theorem all_eq_ok {α : Type} {l : Listed α} {items : List α} (h : l.all = .ok items) :
    l.items = items := by
  unfold all at h
  split at h
  · exact Except.ok.inj h
  · cases h

end Listed

structure ArgumentDraft where
  type : Except Fault Value := .error .missingPart
  name : Except Fault Value := .error .missingPart
  flags : Except Fault Unit := .ok ()
  isPtr : Bool := false
  isConst : Bool := false
  isConstPtr : Bool := false
  isArrayData : Bool := false
  isArraySize : Bool := false
  deriving Repr

structure ReturnedDraft where
  type : Except Fault Value := .error .missingPart
  name : Except Fault Value := .error .missingPart
  str : Except Fault Value := .error .missingPart
  isVoid : Except Fault Bool := .error .missingPart
  isPtr : Bool := false
  isConst : Bool := false
  isConstPtr : Bool := false
  deriving Repr

structure Draft where
  name : Except Fault Value := .error .missingPart
  unscopedName : Except Fault Value := .error .missingPart
  namespaces : Except Fault (Listed Value) := .error .missingPart
  className : Except Fault Value := .error .missingPart
  modifier : Except Fault Value := .error .missingPart
  callingConvention : Option Value := none
  returned : ReturnedDraft := {}
  args : Except Fault (Listed ArgumentDraft) := .error .missingPart
  argsString : Except Fault Value := .error .missingPart
  argsCall : Except Fault Value := .error .missingPart
  flags : Except Fault Unit := .ok ()
  containsPtr : Bool := false
  varArg : Option Value := none
  deriving Repr

private def shownPart (v : Except Fault Value) : String :=
  match v with
  | .ok v => v.display
  | .error _ => ""

private def entry (record : Value) (key : String) : Except Fault Value :=
  match record with
  | .map entries =>
    match Value.lookup (.str key) entries with
    | some v => .ok v
    | none => .error .missingPart
  | _ => .error .wrongKind

private def optionalPart (record : Value) (key : String) : Option Value :=
  match entry record key with
  | .ok .null => none
  | found => found.toOption

private def flagIn (record : Value) (key : String) : Bool :=
  ((optionalPart record key).getD .null).truthy

private def flagsOf : Value → Except Fault Unit
  | .map _ => .ok ()
  | _ => .error .noOperation

namespace ArgumentDraft

def of (a : Argument) : ArgumentDraft where
  type := .ok (.str a.type)
  name := .ok (.str a.name)
  isPtr := a.isPtr
  isConst := a.isConst
  isConstPtr := a.isConstPtr
  isArrayData := a.isArrayData
  isArraySize := a.isArraySize

def ofValue (v : Value) : ArgumentDraft where
  type := entry v "type"
  name := entry v "name"
  flags := flagsOf v
  isPtr := flagIn v "ptr?"
  isConst := flagIn v "const?"
  isConstPtr := flagIn v "const_ptr?"
  isArrayData := flagIn v "array_data?"
  isArraySize := flagIn v "array_size?"

def fill (d : ArgumentDraft) : Argument where
  type := shownPart d.type
  name := shownPart d.name
  isPtr := d.isPtr
  isConst := d.isConst
  isConstPtr := d.isConstPtr
  isArrayData := d.isArrayData
  isArraySize := d.isArraySize

@[simp] theorem fill_of (a : Argument) : (of a).fill = a := rfl

end ArgumentDraft

namespace ReturnedDraft

def of (r : Returned) : ReturnedDraft where
  type := .ok (.str r.type)
  name := .ok (.str r.name)
  str := .ok (.str r.str)
  isVoid := .ok r.isVoid
  isPtr := r.isPtr
  isConst := r.isConst
  isConstPtr := r.isConstPtr

def ofValue (v : Value) : ReturnedDraft where
  type := entry v "type"
  name := entry v "name"
  str := entry v "str"
  isVoid := (entry v "void?").map Value.truthy
  isPtr := flagIn v "ptr?"
  isConst := flagIn v "const?"
  isConstPtr := flagIn v "const_ptr?"

def missing (fault : Fault) : ReturnedDraft where
  type := .error fault
  name := .error fault
  str := .error fault
  isVoid := .error fault

def fill (d : ReturnedDraft) : Returned where
  type := shownPart d.type
  name := shownPart d.name
  str := shownPart d.str
  isVoid := d.isVoid.toOption.getD false
  isPtr := d.isPtr
  isConst := d.isConst
  isConstPtr := d.isConstPtr

@[simp] theorem fill_of (r : Returned) : (of r).fill = r := rfl

end ReturnedDraft

namespace Draft

def of (p : Prototype) : Draft where
  name := .ok (.str p.name)
  unscopedName := .ok (.str p.unscopedName)
  namespaces := .ok { items := p.namespaces.map .str }
  className := .ok ((p.className.map .str).getD .null)
  modifier := .ok (.str p.modifier)
  callingConvention := p.callingConvention.map .str
  returned := .of p.returned
  args := .ok { items := p.args.map .of }
  argsString := .ok (.str p.argsString)
  argsCall := .ok (.str p.argsCall)
  containsPtr := p.containsPtr
  varArg := p.varArg.map .str

def ofValue (v : Value) : Draft where
  name := entry v "name"
  unscopedName := entry v "unscoped_name"
  namespaces := (entry v "namespace").map (Listed.ofValue .null id)
  className := entry v "class"
  modifier := entry v "modifier"
  callingConvention := optionalPart v "c_calling_convention"
  returned :=
    match entry v "return" with
    | .ok r => .ofValue r
    | .error fault => .missing fault
  args := (entry v "args").map (Listed.ofValue {} .ofValue)
  argsString := entry v "args_string"
  argsCall := entry v "args_call"
  flags := flagsOf v
  containsPtr := flagIn v "contains_ptr?"
  varArg := optionalPart v "var_arg"

private def itemsOf {α : Type} : Except Fault (Listed α) → List α
  | .ok l => l.items
  | .error _ => []

def argDrafts (d : Draft) : List ArgumentDraft :=
  itemsOf d.args

private def classOf : Value → Option String
  | .str s => some s
  | v => if v.truthy then some v.display else none

def fill (d : Draft) : Prototype where
  name := shownPart d.name
  unscopedName := shownPart d.unscopedName
  namespaces := (itemsOf d.namespaces).map Value.display
  className := d.className.toOption.bind classOf
  modifier :=
    match d.modifier with
    | .ok v => if v.truthy then v.display else ""
    | .error _ => ""
  callingConvention := d.callingConvention.map Value.display
  returned := d.returned.fill
  args := d.argDrafts.map ArgumentDraft.fill
  argsString := shownPart d.argsString
  argsCall := shownPart d.argsCall
  containsPtr := d.containsPtr
  varArg := d.varArg.map Value.display

def part (d : Draft) : Part → Except Fault Value
  | .name => d.name
  | .unscopedName => d.unscopedName
  | .modifier => d.modifier
  | .returnType => d.returned.type
  | .returnName => d.returned.name
  | .returnStr => d.returned.str
  | .argType i => ((d.argDrafts[i]?).map ArgumentDraft.type).getD (.ok (.str ""))
  | .argName i => ((d.argDrafts[i]?).map ArgumentDraft.name).getD (.ok (.str ""))
  | .argsString => d.argsString
  | .argsCall => d.argsCall

def meet (d : Draft) : Need → Except Fault Unit
  | .shown p => do let _ ← d.part p
  | .text p => do let _ ← (← d.part p).asText
  | .edited p => do let _ ← (← d.part p).actingText
  | .searched p => do let _ ← (← d.part p).holds ""
  | .lookedUp p => do if (← d.part p).isKey then return else throw .wrongKind
  | .starred p => do
    let v ← d.part p
    if (← v.holds "*") || v.isKey then return else throw .wrongKind
  | .namespaces => do let _ ← (← d.namespaces).all
  | .className => do let _ ← d.className
  | .args => do let _ ← d.args
  | .eachArg => do let _ ← (← d.args).all
  | .returnVoid => do let _ ← d.returned.isVoid
  | .flags => d.flags
  | .argFlags i => ((d.argDrafts[i]?).map ArgumentDraft.flags).getD (.ok ())

def require (d : Draft) (needs : List Need) : Except Fault Unit :=
  needs.forM d.meet

private theorem classOf_str (c : Option String) :
    classOf ((c.map Value.str).getD .null) = c := by
  cases c <;> rfl

@[simp] theorem argDrafts_of (p : Prototype) : (of p).argDrafts = p.args.map .of := rfl

@[simp] theorem fill_of (p : Prototype) : (of p).fill = p := by
  cases p with
  | mk name unscopedName namespaces className modifier convention returned args =>
    have hclass := classOf_str className
    by_cases hmod : modifier = "" <;>
      simp [of, fill, shownPart, itemsOf, Function.comp_def, Value.display, Except.toOption,
        Value.truthy, argDrafts, hclass, hmod]

theorem part_of (p : Prototype) (part : Part) : ∃ s, (of p).part part = .ok (.str s) := by
  cases part with
  | argType i =>
    cases h : p.args[i]? <;> simp [Draft.part, h, ArgumentDraft.of]
  | argName i =>
    cases h : p.args[i]? <;> simp [Draft.part, h, ArgumentDraft.of]
  | _ => exact ⟨_, rfl⟩

@[simp] theorem meet_of (p : Prototype) (need : Need) : (of p).meet need = .ok () := by
  cases need with
  | namespaces => rfl
  | className => rfl
  | args => rfl
  | eachArg => rfl
  | returnVoid => rfl
  | flags => rfl
  | argFlags i => cases h : p.args[i]? <;> simp [meet, h, ArgumentDraft.of]
  | _ part =>
    obtain ⟨s, hs⟩ := part_of p part
    simp [meet, hs, Value.asText, Value.actingText, Value.holds, Value.isKey, bind, Except.bind,
      pure, Except.pure]

@[simp] theorem require_of (p : Prototype) (needs : List Need) :
    (of p).require needs = .ok () := by
  induction needs with
  | nil => rfl
  | cons need rest ih =>
    simp only [require, List.forM_eq_forM, List.forM_cons, meet_of] at ih ⊢
    exact ih

end Draft

end MockGen
