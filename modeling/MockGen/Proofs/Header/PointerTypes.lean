import MockGen.Proofs.Pattern.Captures
import MockGen.Proofs.Header.Selection

/-!
# The types invented for function pointers

They are numbered by their place in the list of type definitions, whatever reads use the list one
after the other, and a text in which function pointers were replaced uses only types that the list
defines.
-/

namespace MockGen.Header

open Pattern Text List

/-! ## The name that a definition declares -/

/-- The text defines the name as a pointer to a function: behind what the function returns, a
bracket holds the name after a star, and the parameters follow. -/
def Defines (typedef name : String) : Prop :=
  ∃ returned extra params : List Char, '(' ∉ returned ∧ '(' ∉ extra ∧ '*' ∉ extra ∧
    '(' ∉ params ∧ typedef.toList = "typedef ".toList ++ returned ++ '(' ::
      (extra ++ '*' :: (name.toList ++ ')' :: '(' :: (params ++ [')', ';'])))

theorem dropWhile_ne_append_cons {c : Char} {x : List Char} (hx : c ∉ x) (y : List Char) :
    (x ++ c :: y).dropWhile (· != c) = c :: y := by
  have hall : ∀ d ∈ x, (d != c) = true := by
    intro d hd
    rw [bne_iff_ne]
    rintro rfl
    exact hx hd
  rw [dropWhile_append_of_pos hall, dropWhile_cons_of_neg (by simp)]

/-- What stands behind the first star in the first bracket, up to the end of that bracket in front
of the last one. -/
def typeName (typedef : List Char) : List Char :=
  let inner := ((typedef.dropWhile (· != '(')).dropWhile (· != '*')).drop 1
  ((inner.reverse.dropWhile (· != '(')).drop 2).reverse

theorem Defines.typeName_eq {typedef name : String} (h : Defines typedef name) :
    typeName typedef.toList = name.toList := by
  obtain ⟨returned, extra, params, hreturned, -, hextra, hparams, htext⟩ := h
  have hopening : '(' ∉ "typedef ".toList ++ returned := by simp [hreturned]
  have hstar : '*' ∉ '(' :: extra := by simp [hextra]
  have hback : (name.toList ++ ')' :: '(' :: (params ++ [')', ';'])).reverse =
      (';' :: ')' :: params.reverse) ++ '(' :: ')' :: name.toList.reverse := by
    simp
  have hlast : '(' ∉ ';' :: ')' :: params.reverse := by simp [hparams]
  rw [typeName, htext, dropWhile_ne_append_cons hopening, ← cons_append,
    dropWhile_ne_append_cons hstar, drop_one, tail_cons, hback,
    dropWhile_ne_append_cons hlast]
  exact reverse_reverse _

theorem Defines.unique {typedef name other : String} (h : Defines typedef name)
    (hother : Defines typedef other) : name = other := by
  rw [String.ext_iff, ← h.typeName_eq, hother.typeName_eq]

/-! ## Passes -/

/-- The definition declares the type, and what is written instead of the match starts with it. -/
def Names (use : String → Nat → Match → PointerUse × Bool) (m : Match) : Prop :=
  ∀ type unnamed, Defines (use type unnamed m).1.typedef type ∧
    type.toList ++ [' '] <+: (use type unnamed m).1.text.toList

theorem defines_typedef {returned extra params : List Char} (hreturned : '(' ∉ returned)
    (hextra : '(' ∉ extra ∧ '*' ∉ extra) (hparams : '(' ∉ params) (type : String) :
    Defines (s!"typedef {String.ofList returned}({String.ofList extra}*{type})" ++
      s!"({String.ofList params});") type := by
  refine ⟨returned, extra, params, hreturned, hextra.1, hextra.2, hparams, ?_⟩
  simp [toString]

theorem isPrefix_use (type rest : String) :
    type.toList ++ [' '] <+: (s!"{type} " ++ rest).toList := by
  simp [toString]

theorem names_pointerResultUse {t : List Char} {m : Match} (h : m ∈ pointerResult.allMatches t) :
    Names pointerResultUse m := by
  intro type unnamed
  have hreturned : '(' ∉ Text.strip (m.group 1) :=
    mt strip_subset (notMem_group (by decide) (by decide) h)
  have hparams : '(' ∉ m.group 4 := notMem_group (by decide) (by decide) h
  have hdefines := defines_typedef hreturned ⟨not_mem_nil, not_mem_nil⟩ hparams type
  have hstart := isPrefix_use type
    s!"{String.ofList (Text.strip (m.group 2))}({String.ofList (m.group 3)});"
  delta pointerResultUse
  simp only [String.append_assoc] at hdefines hstart ⊢
  exact ⟨hdefines, hstart⟩

theorem names_pointerUse {returned extra name params : List Char} (hreturned : '(' ∉ returned)
    (hextra : '(' ∉ extra ∧ '*' ∉ extra) (hparams : '(' ∉ params) (type : String)
    (unnamed : Nat) :
    Defines (pointerUse returned extra name params type unnamed).1.typedef type ∧
      type.toList ++ [' '] <+:
        (pointerUse returned extra name params type unnamed).1.text.toList := by
  have hwords : ∀ {c : Char}, c ∉ extra → c ≠ ' ' →
      c ∉ (if (Text.strip extra).isEmpty then [] else Text.strip extra ++ [' ']) := by
    intro c hc hblank
    split
    · exact not_mem_nil
    · rw [mem_append, not_or, mem_singleton]
      exact ⟨mt strip_subset hc, hblank⟩
  have hdefines := defines_typedef (mt strip_subset hreturned)
    ⟨hwords hextra.1 (by decide), hwords hextra.2 (by decide)⟩ (mt strip_subset hparams) type
  delta pointerUse
  simp only [String.append_assoc] at hdefines ⊢
  refine ⟨hdefines, ?_⟩
  rw [← String.append_assoc]
  exact isPrefix_use type _

end MockGen.Header

namespace MockGen.Project

open Header List

/-! ## Numbered definitions -/

def HasType (p : Project) (type : String) : Prop :=
  ∃ typedef ∈ p.typedefs, Defines typedef type

/-- The name of the pointer type at a place in the list. -/
def typeAt (p : Project) (k : Nat) : String :=
  s!"cmock_{p.moduleName}_func_ptr{k + 1}"

theorem typeAt_inj {p : Project} {i j : Nat} (h : p.typeAt i = p.typeAt j) : i = j := by
  have hrepr : Nat.repr (i + 1) = Nat.repr (j + 1) := String.append_right_inj _ |>.mp h
  have hdigits : Nat.toDigits 10 (i + 1) = Nat.toDigits 10 (j + 1) := by
    rw [Nat.repr_eq_ofList_toDigits, Nat.repr_eq_ofList_toDigits] at hrepr
    exact String.ofList_injective hrepr
  have hsucc := congrArg (Nat.ofDigitChars 10 · 0) hdigits
  rw [Nat.ofDigitChars_ten_toDigits, Nat.ofDigitChars_ten_toDigits] at hsucc
  exact Nat.succ.inj hsucc

/-- Each definition declares the type with its number. -/
def Numbered (p : Project) : Prop :=
  ∀ k (hk : k < p.typedefs.length), Defines p.typedefs[k] (p.typeAt k)

/-- The later project has what the earlier one had, in front of what was added, and its definitions
are numbered if those of the earlier one were. -/
structure Extends (p q : Project) : Prop where
  moduleName : q.moduleName = p.moduleName
  isPrefix : p.typedefs <+: q.typedefs
  numbered : p.Numbered → q.Numbered

namespace Extends

variable {p q s : Project}

theorem refl (p : Project) : p.Extends p :=
  ⟨rfl, prefix_rfl, id⟩

theorem trans (hpq : p.Extends q) (hqs : q.Extends s) : p.Extends s :=
  ⟨hqs.moduleName.trans hpq.moduleName, hpq.isPrefix.trans hqs.isPrefix,
    hqs.numbered ∘ hpq.numbered⟩

theorem hasType (h : p.Extends q) {type : String} (htype : p.HasType type) : q.HasType type := by
  obtain ⟨typedef, hmem, hdefines⟩ := htype
  exact ⟨typedef, h.isPrefix.subset hmem, hdefines⟩

end Extends

theorem extends_declare {p : Project} {typedef : String} (h : Defines typedef p.nextName) :
    p.Extends (p.declare typedef) := by
  refine ⟨rfl, prefix_append _ _, fun hp k hk => ?_⟩
  rw [declare, length_append, length_singleton] at hk
  by_cases hlast : k < p.typedefs.length
  · have hsame : (p.declare typedef).typedefs[k] = p.typedefs[k] :=
      getElem_append_left hlast
    rw [hsame]
    exact hp k hlast
  · obtain rfl : k = p.typedefs.length := by omega
    have hnew : (p.declare typedef).typedefs[p.typedefs.length] = typedef := by
      simp [declare]
    rw [hnew]
    exact h

end MockGen.Project

namespace MockGen.Header

open Pattern Project List

/-- The text is what the pieces make when a use of a known type stands for each match. -/
inductive Rewritten (use : String → Nat → Match → PointerUse × Bool) (known : String → Prop) :
    List Piece → List Char → Prop
  | nil : Rewritten use known [] []
  | kept (t : List Char) {rest : List Piece} {u : List Char} :
    Rewritten use known rest u → Rewritten use known (.kept t :: rest) (t ++ u)
  | hit {m : Match} {type : String} (unnamed : Nat) {rest : List Piece} {u : List Char} :
    known type → type.toList ++ [' '] <+: (use type unnamed m).1.text.toList →
      Rewritten use known rest u →
        Rewritten use known (.hit m :: rest) ((use type unnamed m).1.text.toList ++ u)

variable {use : String → Nat → Match → PointerUse × Bool} {pieces : List Piece}

theorem Rewritten.mono {known more : String → Prop} (hmore : ∀ type, known type → more type)
    {t : List Char} (h : Rewritten use known pieces t) : Rewritten use more pieces t := by
  induction h with
  | nil => exact .nil
  | kept t _ ih => exact .kept t ih
  | hit unnamed hknown hstart _ ih => exact .hit unnamed (hmore _ hknown) hstart ih

/-- One pass over a text: each match is given the next type, which is defined before the next match
is looked at. -/
theorem declarePointers_extends (h : ∀ m, .hit m ∈ pieces → Names use m) (p : Project)
    (unnamed : Nat) :
    p.Extends (declarePointers use pieces p unnamed).2.1 ∧
      Rewritten use (declarePointers use pieces p unnamed).2.1.HasType pieces
        (declarePointers use pieces p unnamed).1 := by
  induction pieces generalizing p unnamed with
  | nil => exact ⟨.refl p, .nil⟩
  | cons piece rest ih =>
    have hrest := ih fun m hm => h m (mem_cons_of_mem _ hm)
    cases piece with
    | kept t =>
      obtain ⟨hextends, htext⟩ := hrest p unnamed
      exact ⟨hextends, .kept t htext⟩
    | hit m =>
      obtain ⟨hdefines, hstart⟩ := h m mem_cons_self p.nextName unnamed
      obtain ⟨hextends, htext⟩ := hrest (p.declare (use p.nextName unnamed m).1.typedef)
        (if (use p.nextName unnamed m).2 then unnamed + 1 else unnamed)
      have hknown : (p.declare (use p.nextName unnamed m).1.typedef).HasType p.nextName :=
        ⟨_, mem_append_right _ (mem_singleton_self _), hdefines⟩
      exact ⟨(extends_declare hdefines).trans hextends,
        .hit unnamed (hextends.hasType hknown) hstart htext⟩

/-! ## Reading -/

/-- One pass over a text that replaces function pointers. -/
structure Pass where
  use : String → Nat → Match → PointerUse × Bool
  pieces : List Piece
  project : Project
  unnamed : Nat := 0

variable {x : Pass}

namespace Pass

def text (x : Pass) : List Char :=
  (declarePointers x.use x.pieces x.project x.unnamed).1

def after (x : Pass) : Project :=
  (declarePointers x.use x.pieces x.project x.unnamed).2.1

/-- How many pointers without a name there were up to its end. -/
def unnamedAfter (x : Pass) : Nat :=
  (declarePointers x.use x.pieces x.project x.unnamed).2.2

end Pass

/-- The pass of reading statements: functions that return function pointers. -/
def resultPass (t : List Char) (p : Project) : Pass where
  use := pointerResultUse
  pieces := pointerResult.pieces t
  project := p

/-- The passes of cleaning a parameter list: function pointers, then functions. -/
def parameterPass (t : List Char) (p : Project) : Pass where
  use type unnamed m := pointerUse (m.group 1) (m.group 2) (m.group 3) (m.group 4) type unnamed
  pieces := pointerParameter.pieces t
  project := p

@[inherit_doc parameterPass]
def functionPass (x : Pass) : Pass where
  use type unnamed m := pointerUse (m.group 1) [] (m.group 2) (m.group 3) type unnamed
  pieces := functionParameter.pieces x.text
  project := x.after
  unnamed := x.unnamedAfter

/-- The parameter list before function pointers are looked for. -/
def starred (list : List Char) : List Char :=
  starBeforeWord.replaceBy (fun m => '*' :: ' ' :: m.group 1)
    (blanksBeforeStar.replace "*" (bracketed.replaceBy (fun m => '*' :: m.group 1) list))

/-- The passes of cleaning a parameter list, none if the list means `void`. -/
def listPasses (voids : List String) (list : List Char) (p : Project) : List Pass :=
  if voids.contains (String.ofList (Text.strip list)) || list.isEmpty then []
  else [parameterPass (starred list) p, functionPass (parameterPass (starred list) p)]

theorem cleanArguments_eq (r : Rules) (list : List Char) (s : Reading) :
    cleanArguments r list s =
      if s.voids.contains (String.ofList (Text.strip list)) || list.isEmpty then
        ("void".toList, s)
      else
        let x := functionPass (parameterPass (starred list) s.project)
        (withNames r x.text, { s with project := x.after }) := by
  rw [cleanArguments]
  split
  · rfl
  · simp only [functionPass, parameterPass, Pass.text, Pass.after, Pass.unnamedAfter, starred]

namespace Pass

/-- The pass gives names to the types that it defines. -/
def Sound (x : Pass) : Prop :=
  ∀ m, .hit m ∈ x.pieces → Names x.use m

theorem sound_resultPass (t : List Char) (p : Project) : (resultPass t p).Sound := fun _ hm =>
  names_pointerResultUse (mem_allMatches.mpr hm)

theorem sound_parameterPass (t : List Char) (p : Project) : (parameterPass t p).Sound := by
  intro m hm type unnamed
  have hmatch : m ∈ pointerParameter.allMatches t := mem_allMatches.mpr hm
  exact names_pointerUse (notMem_group (by decide) (by decide) hmatch)
    ⟨notMem_group (by decide) (by decide) hmatch, notMem_group (by decide) (by decide) hmatch⟩
    (notMem_group (by decide) (by decide) hmatch) type unnamed

theorem sound_functionPass (x : Pass) : (functionPass x).Sound := by
  intro m hm type unnamed
  have hmatch : m ∈ functionParameter.allMatches x.text := mem_allMatches.mpr hm
  exact names_pointerUse (notMem_group (by decide) (by decide) hmatch)
    ⟨not_mem_nil, not_mem_nil⟩ (notMem_group (by decide) (by decide) hmatch) type unnamed

theorem Sound.extends (h : x.Sound) : x.project.Extends x.after :=
  (declarePointers_extends h x.project x.unnamed).1

theorem Sound.rewritten (h : x.Sound) : Rewritten x.use x.after.HasType x.pieces x.text :=
  (declarePointers_extends h x.project x.unnamed).2

end Pass

/-- Passes one after the other, the first one on a project. -/
inductive Chain : Project → List Pass → Project → Prop
  | nil (p : Project) : Chain p [] p
  | cons {x : Pass} {rest : List Pass} {q : Project} : x.Sound → Chain x.after rest q →
    Chain x.project (x :: rest) q

theorem Chain.extends {p q : Project} {passes : List Pass} (h : Chain p passes q) :
    p.Extends q := by
  induction h with
  | nil p => exact .refl p
  | cons hx _ ih => exact hx.extends.trans ih

theorem Chain.rewritten {p q : Project} {passes : List Pass} (h : Chain p passes q)
    (hx : x ∈ passes) : Rewritten x.use q.HasType x.pieces x.text := by
  induction h with
  | nil p => cases hx
  | cons hsound hrest ih =>
    rcases mem_cons.mp hx with rfl | hx
    · exact hsound.rewritten.mono fun _ => hrest.extends.hasType
    · exact ih hx

end MockGen.Header

namespace MockGen.Project

open Header List

/-- What reads with a project and adds to its type definitions: under some rules and with some
names for `void`. -/
inductive Call where
  | statements (r : Rules) (voids : List String) (source : List Char) (cpp : Bool)
  | cleanArguments (r : Rules) (voids : List String) (list : List Char)
  | prototype (r : Rules) (voids : List String) (declared : List Char)
    (scope : Except Fault (List String × Option String))

/-- The project after a call, whether it succeeds or fails. -/
def after (p : Project) : Call → Project
  | .statements r voids source cpp =>
    ((Header.statements r source cpp).run { project := p, voids }).2.project
  | .cleanArguments r voids list =>
    (Header.cleanArguments r list { project := p, voids }).2.project
  | .prototype r voids declared scope =>
    ((prototypeUnder r declared scope).run { project := p, voids }).2.project

def passes (p : Project) : Call → List Pass
  | .statements r _ source cpp =>
    match reduced r source cpp with
    | .error _ => []
    | .ok t => [resultPass t p]
  | .cleanArguments _ voids list => listPasses voids list p
  | .prototype r voids declared scope =>
    match declaration.matchStart? declared with
    | none => []
    | some m =>
      match typeAndName r (m.group 1), scope with
      | .ok _, .ok _ => listPasses voids (splitVarArg (Text.strip (m.group 2))).2 p
      | _, _ => []

theorem chain_listPasses (r : Rules) (list : List Char) (s : Reading) :
    Chain s.project (listPasses s.voids list s.project)
      (Header.cleanArguments r list s).2.project := by
  rw [cleanArguments_eq, listPasses]
  split
  · exact .nil _
  · have hfirst := Pass.sound_parameterPass (starred list) s.project
    have hsecond := Pass.sound_functionPass (parameterPass (starred list) s.project)
    generalize hx : parameterPass (starred list) s.project = x at hfirst hsecond
    have hproject : x.project = s.project := by rw [← hx]; rfl
    dsimp only
    rw [← hproject]
    exact .cons hfirst (.cons hsecond (.nil (functionPass x).after))

theorem chain_passes (p : Project) (c : Call) : Chain p (p.passes c) (p.after c) := by
  cases c with
  | statements r voids source cpp =>
    rw [passes, after, statements_run]
    cases reduced r source cpp with
    | error e => exact .nil p
    | ok t => exact .cons (Pass.sound_resultPass t p) (.nil _)
  | cleanArguments r voids list => exact chain_listPasses r list { project := p, voids }
  | prototype r voids declared scope =>
    rw [passes, after, prototypeUnder_run]
    cases declaration.matchStart? declared with
    | none => exact .nil p
    | some m =>
      dsimp only
      cases typeAndName r (m.group 1) with
      | error e => exact .nil p
      | ok parsed =>
        cases scope with
        | error e => exact .nil p
        | ok scope =>
          have hchain := chain_listPasses r (splitVarArg (Text.strip (m.group 2))).2
            { project := p, voids }
          dsimp only at hchain ⊢
          split
          · exact hchain
          · split
            · exact hchain
            · exact hchain

/-- The project after calls, one after the other. -/
def afterAll (p : Project) (calls : List Call) : Project :=
  calls.foldl after p

theorem extends_afterAll (p : Project) (calls : List Call) : p.Extends (p.afterAll calls) := by
  induction calls generalizing p with
  | nil => exact .refl p
  | cons c rest ih => exact (p.chain_passes c).extends.trans (ih (p.after c))

theorem afterAll_append (p : Project) (before later : List Call) :
    p.afterAll (before ++ later) = (p.afterAll before).afterAll later :=
  foldl_append

/-- Whatever is read with a project, one call after the other: its type definitions only grow at
the end, each of them declares the type with its number and no other, so that no two declare the
same, and wherever a pass wrote a type into its text, that type is defined. -/
theorem typedefs_numbered (moduleName : String) (calls : List Call) :
    let start : Project := { moduleName }
    (∀ before later, calls = before ++ later →
      (start.afterAll before).typedefs <+: (start.afterAll calls).typedefs) ∧
    (∀ k (hk : k < (start.afterAll calls).typedefs.length) (type : String),
      Defines (start.afterAll calls).typedefs[k] type ↔
        type = s!"cmock_{moduleName}_func_ptr{k + 1}") ∧
    (start.afterAll calls).typedefs.Pairwise (fun a b => ∀ type, Defines a type → ¬Defines b type) ∧
    ∀ before c later, calls = before ++ c :: later → ∀ x ∈ (start.afterAll before).passes c,
      Rewritten x.use (start.afterAll calls).HasType x.pieces x.text := by
  intro start
  have hextends := start.extends_afterAll calls
  have hnumbered : (start.afterAll calls).Numbered := hextends.numbered fun k hk => nomatch hk
  have hdefines : ∀ k (hk : k < (start.afterAll calls).typedefs.length) (type : String),
      Defines (start.afterAll calls).typedefs[k] type ↔ type = start.typeAt k := by
    intro k hk type
    have hk' := hnumbered k hk
    rw [typeAt, hextends.moduleName] at hk'
    exact ⟨fun h => h.unique hk', fun h => h ▸ hk'⟩
  refine ⟨?_, hdefines, ?_, ?_⟩
  · rintro before later rfl
    rw [afterAll_append]
    exact ((start.afterAll before).extends_afterAll later).isPrefix
  · rw [pairwise_iff_getElem]
    intro i j hi hj hij type hdefi hdefj
    have := typeAt_inj (((hdefines i hi type).mp hdefi).symm.trans ((hdefines j hj type).mp hdefj))
    omega
  · rintro before c later rfl x hx
    rw [afterAll_append]
    exact ((start.afterAll before).chain_passes c).rewritten hx |>.mono fun _ =>
      (((start.afterAll before).after c).extends_afterAll later).hasType

/-- Two parameters in two notations, and a declaration that cannot be read. -/
theorem typedefs_numbered_two_pointers :
    let calls := [
      .cleanArguments Rules.standard ["void"] "int (*open)(char *name), long read(int)".toList,
      .prototype Rules.standard ["void"] "?".toList (.ok ([], none))]
    let p := afterAll { moduleName := "tank" } calls
    p.typedefs = ["typedef int(*cmock_tank_func_ptr1)(char* name);",
        "typedef long(*cmock_tank_func_ptr2)(int);"] ∧
      p.typedefs.Pairwise (fun a b => ∀ type, Defines a type → ¬Defines b type) :=
  ⟨by decide +kernel, (typedefs_numbered "tank" _).2.2.1⟩

end MockGen.Project
