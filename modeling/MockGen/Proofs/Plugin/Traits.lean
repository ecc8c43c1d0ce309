import MockGen.Plugin.Hook
import MockGen.Proofs.Outcome
import MockGen.Proofs.Text.Traits

/-!
# Reading what plugins write for a function

It is put together from the texts of a prototype, from references to fields of a call instance and
of the mock, and from the names of assertions; a field is referred to only if a loaded plugin
declares it, or if every function has it.
-/

namespace MockGen

open Code Trait List Outcome Bool

/-- The texts of a prototype may stand in code. -/
structure Prototype.Fits (R : Trait) (p : Prototype) : Prop where
  name : R.Takes .name p.name
  argName : ∀ a ∈ p.args, R.Takes .name a.name
  argType : ∀ a ∈ p.args, R.Takes .text a.type
  constType : ∀ a ∈ p.args, R.Takes .text (pointsToConst a.type)
  bareType : ∀ a ∈ p.args, R.Takes .text (String.ofList (Text.dropTrailing '*' a.type.toList))
  unscopedName : R.Takes .text p.unscopedName
  namespaces : ∀ t ∈ p.namespaces, R.Takes .text t
  className : ∀ t ∈ p.className, R.Takes .text t
  modifier : R.Takes .text p.modifier
  callingConvention : ∀ t ∈ p.callingConvention, R.Takes .text t
  returnedType : R.Takes .text p.returned.type
  returnedName : R.Takes .text p.returned.name
  returnedStr : R.Takes .text p.returned.str
  argsString : R.Takes .text p.argsString
  varArg : ∀ t ∈ p.varArg, R.Takes .text t

/-- Whether code that follows the settings counts on the fields of a plugin. -/
def Settings.countsOn (s : Settings) : Plugin → Bool
  | .expect => true
  | .expectAnyArgs => s.anyArgs
  | .ignore => s.ignore
  | .ignoreStateless => s.ignoreStateless
  | .callback => false
  | .exceptions => s.exceptions
  | .array => s.arrays
  | .returnThruPtr => s.returnThruPtr
  | .ignoreArg => s.ignoreArg

/-- The fields of a call instance that plugins may refer to. -/
structure CoversCall (R : Trait) (s : Settings) (plugins : List Plugin) (p : Prototype) :
    Prop where
  line : R.Takes .text (callField "LineNumber")
  result : p.returned.isVoid = false → R.Takes .text (callField "ReturnVal")
  order : s.ordered = true → R.Takes .text (callField "CallOrder")
  thrown : .exceptions ∈ plugins → R.Takes .text (callField "ExceptionToThrow")
  anyArgs : .expectAnyArgs ∈ plugins → R.Takes .text (callField "ExpectAnyArgsBool")
  expected : ∀ a ∈ p.args, R.Takes .text (callField ("Expected_" ++ a.name))
  depth : .array ∈ plugins → ∀ a ∈ p.args, a.isPtr = true →
    R.Takes .text (callField ("Expected_" ++ (a.name ++ "_Depth")))
  output : .returnThruPtr ∈ plugins → ∀ a ∈ s.outputs p, ∀ part ∈ ["_Used", "_Val", "_Size"],
    R.Takes .text (callField ("ReturnThruPtr_" ++ (a.name ++ part)))
  ignoredArg : .ignoreArg ∈ plugins → ∀ a ∈ p.args,
    R.Takes .text (callField ("IgnoreArg_" ++ a.name))

/-- The fields of the mock that plugins may refer to for a function. -/
structure CoversMock (R : Trait) (plugins : List Plugin) (p : Prototype) : Prop where
  chain : R.Takes .text (mockField p.name "CallInstance")
  ignored : .ignore ∈ plugins ∨ .ignoreStateless ∈ plugins →
    R.Takes .text (mockField p.name "IgnoreBool")
  final : .ignore ∈ plugins ∨ .ignoreStateless ∈ plugins → p.returned.isVoid = false →
    R.Takes .text (mockField p.name "FinalReturn")
  callback : .callback ∈ plugins →
    ∀ part ∈ ["CallbackBool", "CallbackFunctionPointer", "CallbackCalls"],
      R.Takes .text (mockField p.name part)

/-- The fields that the code for a function may refer to. -/
structure Covers (R : Trait) (s : Settings) (plugins : List Plugin) (p : Prototype) : Prop extends
    CoversCall R s plugins p, CoversMock R plugins p where
  loaded : ∀ plugin, s.countsOn plugin = true → plugin ∈ plugins

-- Whole lines are read when their fixed texts are checked.
set_option maxRecDepth 8000

variable {t : String}

theorem Plugin.mem_all (plugin : Plugin) : plugin ∈ all := by
  cases plugin <;> decide

variable {R : Trait} {s : Settings} {plugins : List Plugin} {p : Prototype} {a : Argument}

/-! ## Parameters -/

namespace Argument

theorem takes_typeWithConst (htype : R.Takes .text a.type) : R.Takes .text a.typeWithConst := by
  unfold typeWithConst
  refine .ite (.ite (takes ?_) htype) (.ite (takes ?_) htype)
  all_goals
    simp only [flat_lines]
    apply_rules [fixed, last]
    all_goals exact ⟨rfl⟩

theorem takes_withDepth (htype : R.Takes .text a.type) (hname : R.Takes .name a.name) :
    R.Takes .text a.withDepth := by
  have hdeclared := takes_typeWithConst htype
  unfold withDepth
  refine .ite (takes ?_) (takes ?_)
  all_goals
    simp only [flat_lines]
    apply_rules [fixed, last]
    all_goals exact ⟨rfl⟩

theorem takes_callWithDepth (hname : R.Takes .name a.name) : R.Takes .text a.callWithDepth := by
  unfold callWithDepth
  refine .ite (takes ?_) hname.ofName
  simp only [flat_lines]
  apply_rules [fixed, last]
  all_goals exact ⟨rfl⟩

end Argument

namespace Expectation

theorem takes_loaderActual (hname : R.Takes .name a.name) : R.Takes .text (loaderActual s a) := by
  unfold loaderActual
  refine .ite (takes ?_) (.ite (takes ?_) hname.ofName)
  all_goals
    simp only [flat_lines]
    apply_rules [fixed, last]
    all_goals exact ⟨rfl⟩

theorem takes_loaderParameters (hp : p.Fits R) : R.Takes .text (loaderParameters s p) :=
  .ite (.commas_map fun a ha => a.takes_withDepth (hp.argType a ha) (hp.argName a ha)) hp.argsString

/-! ## Setting up an expected call -/

theorem closes_assign {dest name type : String} (hdest : R.Takes .text dest)
    (hname : R.Takes .text name) (htype : R.Takes .text type) (isPtr : Bool) :
    R.Closes .start (assign s dest name type isPtr) := by
  unfold assign
  simp only [toString_text, flat_lines]
  split
  all_goals
    apply_rules [fixed, last]
    exact ⟨rfl⟩

theorem closes_loaderCall (hp : p.Fits R) : R.Closes .start (loaderCall s p) := by
  have hname := hp.name
  have hactuals : R.Takes .text (commas (p.args.map (loaderActual s))) :=
    .commas_map fun a ha => takes_loaderActual (hp.argName a ha)
  unfold loaderCall
  simp only [toString_text, flat_lines]
  split
  · exact R.empty
  · apply_rules [fixed, last]
    all_goals exact ⟨rfl⟩

theorem takes_same {assertion expected actual size count : String}
    (hassertion : R.Takes .text assertion) (hexpected : R.Takes .text expected)
    (hactual : R.Takes .text actual) (hsize : R.Takes .text size) (hcount : R.Takes .text count) :
    R.Takes .text (sameMemory expected actual size) ∧
      R.Takes .text (sameMemories expected actual size count) ∧
      R.Takes .text (sameElements assertion expected actual count) ∧
      R.Takes .text (sameValues assertion expected actual) := by
  unfold sameMemory sameMemories sameElements sameValues
  refine ⟨takes ?_, takes ?_, takes ?_, takes ?_⟩
  all_goals
    simp only [toString_text, flat_lines]
    apply_rules [fixed, last]
    exact ⟨rfl⟩

theorem takes_access (c : Access) (ht : R.Takes .text t) : R.Takes .text (c.text ++ t) := by
  apply takes
  cases c
  all_goals
    simp only [flat_lines, Access.text]
    apply_rules [fixed, last]
    exact ⟨rfl⟩

theorem closes_indented (ht : R.Takes .text t) : R.Closes .start (lines ["    " ++ t]) := by
  simp only [flat_lines]
  apply_rules [fixed, last]
  exact ⟨rfl⟩

theorem verify_eq_ok {f : String} (h : verify s f a = .ok t) :
    ∃ e c, elements? s = .ok (some e) ∧ s.comparison a = .ok c ∧ t = checked s e f a c := by
  obtain ⟨check, hcheck, h⟩ := bind_eq_ok.mp h
  obtain ⟨e, he, hcheck⟩ := bind_eq_ok.mp hcheck
  cases e with
  | none =>
    cases hcheck
    cases h
  | some e =>
    obtain ⟨text, hby, hpure⟩ := bind_eq_ok.mp hcheck
    cases hpure
    cases h
    obtain ⟨c, hc, hpure⟩ := bind_eq_ok.mp hby
    exact ⟨e, c, he, hc, (Except.ok.inj hpure).symm⟩

theorem arrays_of_elements? {e : Elements} (he : elements? s = .ok (some e)) (hne : e ≠ .single) :
    s.arrays = true := by
  unfold elements? at he
  split at he
  case isTrue harrays => exact harrays
  case isFalse =>
    cases he
    exact absurd rfl hne

section

variable (hp : p.Fits R) (h : Covers R s plugins p)

include hp h

theorem closes_base (inOrder : Bool) : R.Closes .start (base s p.name inOrder) := by
  have hname := hp.name
  have hchain := h.chain
  unfold base
  simp only [toString_text, String.append_assoc]
  refine .lines_append (.lines_append (.lines_append (.lines_append (.lines_append ?_
    (.only fun hflag => .line (.around (h.ignored ((or_eq_true _ _ ▸ hflag).imp
      (h.loaded .ignore) (h.loaded .ignoreStateless))) ⟨rfl⟩))) (.line (.around h.line ⟨rfl⟩)))
    (.only fun hflag => .line (.around (h.order (and_eq_true _ _ ▸ hflag).1) ⟨rfl⟩)))
    (.only fun hflag => .line (.around (h.thrown (h.loaded .exceptions hflag)) ⟨rfl⟩)))
    (.only fun hflag => .line (.around (h.anyArgs (h.loaded .expectAnyArgs hflag)) ⟨rfl⟩))
  simp only [flat_lines]
  apply_rules [fixed, last]
  all_goals exact ⟨rfl⟩

theorem closes_addArg (ha : a ∈ p.args) :
    R.Closes .start (addArg s a (s.arrays && a.isPtr)) := by
  have hname := hp.argName a ha
  unfold addArg
  simp only [toString_text, String.append_assoc]
  refine .append (closes_assign (h.expected a ha) hname.ofName (hp.argType a ha) _)
    (.lines_append (.lines_append (.only fun hflag => ?_) (.only fun hflag => ?_))
      (.only fun hflag => ?_))
  · simp only [and_eq_true] at hflag
    have hdepth := h.depth (h.loaded .array hflag.1) a ha hflag.2.2
    simp only [flat_lines]
    apply_rules [fixed, last]
    all_goals exact ⟨rfl⟩
  · exact .line (.around (h.ignoredArg (h.loaded .ignoreArg hflag) a ha) ⟨rfl⟩)
  · simp only [and_eq_true] at hflag
    have houtput : a ∈ s.outputs p :=
      mem_filter.mpr ⟨ha, by simp [Settings.returnsThru, hflag]⟩
    exact .line (.around (h.output (h.loaded .returnThruPtr hflag.1.1) a houtput "_Used" (by simp))
      ⟨rfl⟩)

theorem closes_loader : R.Closes .start (loader s p) := by
  have hname := hp.name
  have hparams := takes_loaderParameters (s := s) hp
  have hstored : R.Keeps (concat (p.args.map fun a => addArg s a (s.arrays && a.isPtr))) :=
    .ofCloses (.concat (forall_mem_map.mpr fun a ha => closes_addArg hp h ha))
  unfold loader
  simp only [toString_text, flat_lines]
  split
  · exact R.empty
  · apply_rules [fixed, last]
    all_goals exact ⟨rfl⟩

/-! ## The check of a parameter -/

section

variable {e : Elements} (he : e ≠ .single → s.arrays = true) (ha : a ∈ p.args)

include he ha

omit hp in
theorem takes_depth : R.Takes .text (depth e a) := by
  unfold depth
  split
  case isTrue hflag =>
    simp only [and_eq_true, bne_iff_ne] at hflag
    rw [String.append_assoc]
    exact h.depth (h.loaded .array (he hflag.1)) a ha hflag.2
  case isFalse => exact .ofList ⟨rfl⟩

omit hp in
theorem closes_nullGuarded {expected asserted actual check : String}
    (hexpected : R.Takes .text expected) (hasserted : R.Takes .text asserted)
    (hactual : R.Takes .text actual) (hcheck : R.Takes .text check) :
    R.Closes .start (lines (nullGuarded e a expected asserted actual check)) := by
  have hdepth := takes_depth h he ha
  unfold nullGuarded
  simp only [toString_text]
  refine .lines_append (.lines_append ?_ (.only fun hflag => ?_)) ?_
  all_goals
    simp only [flat_lines]
    apply_rules [fixed, last]
    all_goals exact ⟨rfl⟩

theorem closes_compared {c : Comparison} (hc : R.Takes .text c.assertion) :
    R.Closes .start (lines (compared e c a)) := by
  have hname := (hp.argName a ha).ofName
  have hactual := takes_access c.access hname
  have hexpected := takes_access c.access (h.expected a ha)
  obtain ⟨hmemory, hmemories, helements, hvalues⟩ := takes_same hc hexpected hactual
    (hp.bareType a ha) (takes_depth h he ha)
  unfold compared
  dsimp only
  split
  · exact closes_indented hmemory
  · split
    · split
      · exact closes_indented (.ite hmemories hmemory)
      · exact closes_nullGuarded h he ha hexpected (.ite hname hactual) hactual
          (.ite hmemory hmemories)
    · split
      · split
        · exact closes_indented helements
        · exact closes_nullGuarded h he ha hexpected hactual hactual helements
      · exact closes_indented hvalues

theorem closes_checked {c : Comparison} (hc : R.Takes .text c.assertion) :
    R.Closes .start (checked s e p.name a c) := by
  have hf := hp.name
  have hname := hp.argName a ha
  have hcompared := Keeps.ofCloses (closes_compared hp h he ha hc)
  unfold checked
  rw [lines_append, lines_append, lines_append, String.append_assoc, String.append_assoc]
  refine .append (.only fun hflag => ?_) ?_
  · simp only [toString_text, String.append_assoc]
    exact .line (.around (h.ignoredArg (h.loaded .ignoreArg hflag) a ha) ⟨rfl⟩)
  · simp only [toString_text, lines_cons, lines_nil, String.append_assoc]
    apply_rules [fixed, last]
    all_goals exact ⟨rfl⟩

end

theorem closes_verifyAll (hs : ∀ a c, s.comparison a = .ok c → R.Takes .text c.assertion)
    (ht : verifyAll s p = .ok t) : R.Closes .start t := by
  obtain ⟨checks, hchecks, hpure⟩ := bind_eq_ok.mp ht
  cases hpure
  refine .concat fun u hu => ?_
  obtain ⟨a, ha, hverify⟩ := (mem_mapM_iff hchecks).mp hu
  obtain ⟨e, c, he, hc, rfl⟩ := verify_eq_ok hverify
  exact closes_checked hp h (arrays_of_elements? he) ha (hs a c hc)

end

end Expectation

namespace Plugin

open Expectation

variable {plugin : Plugin}

theorem closes_function {header body : String} (hheader : R.Takes .text header)
    (hbody : R.Closes .start body) : R.Closes .start (function header body) := by
  replace hbody := Keeps.ofCloses hbody
  unfold function
  simp only [flat_lines]
  apply_rules [fixed, last]
  all_goals exact ⟨rfl⟩

section

variable (hp : p.Fits R)

include hp

theorem takes_expectHeader : R.Takes .text (expectHeader p) := by
  have hname := hp.name
  have hparams := hp.argsString
  have hresult := hp.returnedStr
  unfold expectHeader
  simp only [toString_text]
  refine .ite (.ite ?_ ?_) (.ite ?_ ?_)
  all_goals
    apply takes
    simp only [flat_lines]
    apply_rules [fixed, last]
    exact ⟨rfl⟩

variable (h : Covers R s plugins p)

include h

/-! ## Plugins one by one -/

omit hp in
theorem closes_storeResult (hvoid : p.returned.isVoid = false) :
    R.Closes .start (lines [storeResult]) := by
  unfold storeResult
  simp only [toString_text, String.append_assoc]
  exact .line (.around (h.result hvoid) ⟨rfl⟩)

theorem closes_expectInterfaces : R.Closes .start (expectInterfaces s p) := by
  unfold expectInterfaces
  refine closes_function (takes_expectHeader hp) (.append (.append (closes_base hp h true)
    (closes_loaderCall hp)) ?_)
  split
  case isTrue => exact R.empty
  case isFalse hvoid =>
    exact closes_assign (h.result (eq_false_iff.mpr hvoid)) hp.returnedName
      hp.returnedType _

theorem closes_anyArgsInterfaces (hmem : .expectAnyArgs ∈ plugins) :
    R.Closes .start (anyArgsInterfaces s p) := by
  have hname := hp.name
  have hresult := hp.returnedStr
  unfold anyArgsInterfaces
  simp only [toString_text, String.append_assoc]
  split
  · exact R.empty
  · refine closes_function (.ite (takes ?_) (takes ?_)) (.append (closes_base hp h true)
      (.lines_append (.only fun hvoid => closes_storeResult h (by simpa using hvoid))
        (.line (.around (h.anyArgs hmem) ⟨rfl⟩))))
    all_goals
      simp only [flat_lines]
      apply_rules [fixed, last]
      exact ⟨rfl⟩

theorem closes_ignoreInterfaces (hmem : .ignore ∈ plugins) :
    R.Closes .start (ignoreInterfaces s p) := by
  have hname := hp.name
  have hresult := hp.returnedStr
  have hchain := h.chain
  have hignored := h.ignored (.inl hmem)
  have hon : R.Closes .start (lines ["  " ++ (mockField p.name "IgnoreBool" ++ " = (char)1;")]) :=
    .line (.around hignored ⟨rfl⟩)
  unfold ignoreInterfaces
  simp only [toString_text, String.append_assoc]
  refine .append ?_ (closes_function (.around hname ⟨rfl⟩) (.lines_append (.only fun _ => ?_)
    (.line (.around hignored ⟨rfl⟩))))
  · split
    case isTrue => exact closes_function (.around hname ⟨rfl⟩) hon
    case isFalse hvoid =>
      refine closes_function (takes ?_) (.append (closes_base hp h false)
        (.append (closes_storeResult h (eq_false_iff.mpr hvoid)) hon))
      simp only [flat_lines]
      apply_rules [fixed, last]
      exact ⟨rfl⟩
  · simp only [flat_lines]
    apply_rules [fixed, last]
    exact ⟨rfl⟩

theorem closes_ignoreStatelessInterfaces (hmem : .ignoreStateless ∈ plugins) :
    R.Closes .start (ignoreStatelessInterfaces p) := by
  have hname := hp.name
  have hresult := hp.returnedStr
  have hchain := h.chain
  have hignored := h.ignored (.inr hmem)
  unfold ignoreStatelessInterfaces
  simp only [toString_text, String.append_assoc]
  refine .append ?_ (closes_function (.around hname ⟨rfl⟩) (.line (.around hignored ⟨rfl⟩)))
  split
  case isTrue => exact closes_function (.around hname ⟨rfl⟩) (.line (.around hignored ⟨rfl⟩))
  case isFalse hvoid =>
    have hfinal := h.final (.inr hmem) (eq_false_iff.mpr hvoid)
    refine closes_function (takes ?_) ?_
    all_goals
      simp only [flat_lines]
      apply_rules [fixed, last]
      exact ⟨rfl⟩

theorem closes_setCallback (hmem : .callback ∈ plugins) :
    ∀ x ∈ [("AddCallback", "1"), ("Stub", "0")],
      R.Closes .start (setCallback s p.name x.1 x.2) := by
  have hname := hp.name
  have hadded := h.callback hmem "CallbackBool" (by simp)
  have hcallback := h.callback hmem "CallbackFunctionPointer" (by simp)
  have hoff : R.Closes .start (lines (only s.ignore
      ["  " ++ (mockField p.name "IgnoreBool" ++ " = (char)0;")])) :=
    .only fun hignore => .line (.around (h.ignored (.inl (h.loaded .ignore hignore))) ⟨rfl⟩)
  rw [forall_mem_cons, forall_mem_singleton]
  unfold setCallback
  simp only [toString_text, String.append_assoc]
  refine ⟨closes_function (takes ?_) (.lines_append hoff ?_),
    closes_function (takes ?_) (.lines_append hoff ?_)⟩
  all_goals
    clear hoff
    simp only [flat_lines]
    apply_rules [fixed, last]
    exact ⟨rfl⟩

theorem closes_exceptionInterfaces (hmem : .exceptions ∈ plugins) :
    R.Closes .start (exceptionInterfaces s p) := by
  have hname := hp.name
  have hparams := hp.argsString
  unfold exceptionInterfaces
  simp only [toString_text, String.append_assoc]
  refine closes_function (takes ?_) (.append (closes_base hp h true) (.append (closes_loaderCall hp)
    (.line (.around (h.thrown hmem) ⟨rfl⟩))))
  split
  all_goals
    simp only [flat_lines]
    apply_rules [fixed, last]
    exact ⟨rfl⟩

theorem closes_arrayInterfaces : R.Closes .start (arrayInterfaces s p) := by
  have hname := hp.name
  have hresult := hp.returnedStr
  have hparams : R.Takes .text (commas (p.args.map Argument.withDepth)) :=
    .commas_map fun a ha => a.takes_withDepth (hp.argType a ha) (hp.argName a ha)
  have hactuals : R.Takes .text (commas (p.args.map Argument.callWithDepth)) :=
    .commas_map fun a ha => a.takes_callWithDepth (hp.argName a ha)
  unfold arrayInterfaces
  simp only [toString_text, String.append_assoc]
  split
  · exact R.empty
  · refine closes_function (.ite (takes ?_) (takes ?_)) (.append (closes_base hp h true)
      (.lines_append ?_ (.only fun hvoid => closes_storeResult h (by simpa using hvoid))))
    all_goals
      simp only [flat_lines]
      apply_rules [fixed, last]
      exact ⟨rfl⟩

theorem takes_lastInstance : R.Takes .text (lastInstance p.name) := by
  have hname := hp.name
  have hchain := h.chain
  unfold lastInstance
  apply takes
  simp only [toString_text, flat_lines]
  apply_rules [fixed, last]
  exact ⟨rfl⟩

theorem closes_outputInterface (hmem : .returnThruPtr ∈ plugins) (ha : a ∈ s.outputs p) :
    R.Closes .start (outputInterface p.name a) := by
  have harg := mem_of_mem_filter ha
  have hf := hp.name
  have hname := hp.argName a harg
  have htype := hp.constType a harg
  have hused := h.output hmem a ha "_Used" (by simp)
  have hvalue := h.output hmem a ha "_Val" (by simp)
  have hsize := h.output hmem a ha "_Size" (by simp)
  have hlast := takes_lastInstance hp h
  unfold outputInterface
  simp only [toString_text]
  generalize pointsToConst a.type = type at htype ⊢
  refine closes_function (takes ?_) ?_
  all_goals
    simp only [flat_lines]
    apply_rules [fixed, last]
    exact ⟨rfl⟩

theorem closes_ignoreArgInterface (hmem : .ignoreArg ∈ plugins) (ha : a ∈ p.args) :
    R.Closes .start (ignoreArgInterface p.name a) := by
  have hf := hp.name
  have hname := hp.argName a ha
  have hignored := h.ignoredArg hmem a ha
  have hlast := takes_lastInstance hp h
  unfold ignoreArgInterface
  simp only [toString_text]
  refine closes_function (takes ?_) ?_
  all_goals
    simp only [flat_lines]
    apply_rules [fixed, last]
    exact ⟨rfl⟩

theorem closes_interfaces (hmem : plugin ∈ plugins) : R.Closes .start (interfaces s plugin p) := by
  cases plugin with
  | expect => exact closes_expectInterfaces hp h
  | expectAnyArgs => exact closes_anyArgsInterfaces hp h hmem
  | ignore => exact closes_ignoreInterfaces hp h hmem
  | ignoreStateless => exact closes_ignoreStatelessInterfaces hp h hmem
  | callback =>
    have hset := closes_setCallback hp h hmem
    exact .append (hset ("AddCallback", "1") (by simp)) (hset ("Stub", "0") (by simp))
  | exceptions => exact closes_exceptionInterfaces hp h hmem
  | array => exact closes_arrayInterfaces hp h
  | returnThruPtr =>
    exact .intercalate (forall_mem_map.mpr fun a ha => closes_outputInterface hp h hmem ha)
  | ignoreArg =>
    exact .concat (forall_mem_map.mpr fun a ha => closes_ignoreArgInterface hp h hmem ha)

/-! ## The body of a mocked function -/

theorem takes_callbackCall (hmem : .callback ∈ plugins) : R.Takes .text (callbackCall s p) := by
  have hcallback := h.callback hmem "CallbackFunctionPointer" (by simp)
  have hcalls := h.callback hmem "CallbackCalls" (by simp)
  have hactuals : R.Takes .text (commas (p.args.map (·.name) ++
      only s.countsCalls [mockField p.name "CallbackCalls" ++ "++"])) := by
    refine .commas (forall_mem_append.mpr ⟨forall_mem_map.mpr fun a ha =>
      (hp.argName a ha).ofName, forall_mem_only.mpr fun _ => forall_mem_singleton.mpr ?_⟩)
    exact takes (by
      rw [String.append_assoc]
      exact hcalls (R.fixed (last ⟨rfl⟩)))
  unfold callbackCall
  apply takes
  simp only [toString_text, flat_lines]
  apply_rules [fixed, last]
  exact ⟨rfl⟩

theorem closes_leaveIgnored (hmem : .ignore ∈ plugins ∨ .ignoreStateless ∈ plugins)
    {indent : String} (hindent : R.Closes .start indent) :
    R.Closes .start (leaveIgnored s indent p) := by
  have hignored := h.ignored hmem
  replace hindent := Keeps.ofCloses hindent
  unfold leaveIgnored
  simp only [toString_text]
  split
  case isTrue =>
    simp only [flat_lines]
    apply_rules [fixed, last]
    exact ⟨rfl⟩
  case isFalse hvoid =>
    have hfinal := h.final hmem (eq_false_iff.mpr hvoid)
    have hresult := h.result (eq_false_iff.mpr hvoid)
    have hassign := Keeps.ofCloses
      (closes_assign (s := s) hfinal hresult hp.returnedType p.returned.isPtr)
    simp only [flat_lines]
    apply_rules [fixed, last] <;> exact ⟨rfl⟩

theorem closes_precheck (hmem : plugin ∈ plugins) : R.Closes .start (precheck s plugin p) := by
  cases plugin with
  | ignore => exact closes_leaveIgnored hp h (.inl hmem) R.empty
  | ignoreStateless => exact closes_leaveIgnored hp h (.inr hmem) (last ⟨rfl⟩)
  | callback =>
    have htype := hp.returnedType
    have hcall := takes_callbackCall hp h hmem
    have hadded := h.callback hmem "CallbackBool" (by simp)
    have hcallback := h.callback hmem "CallbackFunctionPointer" (by simp)
    rw [precheck]
    simp only [toString_text]
    split
    all_goals
      simp only [flat_lines]
      apply_rules [fixed, last]
      exact ⟨rfl⟩
  | _ => exact R.empty

theorem closes_copyOut (hmem : .returnThruPtr ∈ plugins) (ha : a ∈ s.outputs p) :
    R.Closes .start ("\n".intercalate (copyOut a)) := by
  have hname := hp.argName a (mem_of_mem_filter ha)
  have hused := h.output hmem a ha "_Used" (by simp)
  have hvalue := h.output hmem a ha "_Val" (by simp)
  have hsize := h.output hmem a ha "_Size" (by simp)
  unfold copyOut
  simp only [toString_text, String.intercalate_cons_cons, String.intercalate_singleton, flat_lines]
  apply_rules [fixed, last]
  exact ⟨rfl⟩

theorem closes_action (hmem : plugin ∈ plugins) : R.Closes .start (action s plugin p) := by
  cases plugin with
  | callback =>
    have hcall := takes_callbackCall hp h hmem
    have hcallback := h.callback hmem "CallbackFunctionPointer" (by simp)
    rw [action]
    simp only [toString_text]
    split
    case isTrue =>
      simp only [flat_lines]
      apply_rules [fixed, last]
      exact ⟨rfl⟩
    case isFalse hvoid =>
      have hresult := h.result (eq_false_iff.mpr hvoid)
      simp only [flat_lines]
      apply_rules [fixed, last]
      exact ⟨rfl⟩
  | exceptions =>
    have hthrown := h.thrown hmem
    rw [action]
    simp only [toString_text, flat_lines]
    apply_rules [fixed, last]
    exact ⟨rfl⟩
  | returnThruPtr =>
    rw [action, intercalate_flatMap (f := copyOut) fun a => cons_ne_nil _ _]
    exact .intercalate (forall_mem_map.mpr fun a ha => closes_copyOut hp h hmem ha)
  | _ => exact R.empty

omit hp in
theorem closes_guardCheck {checks : String} (hchecks : R.Closes .start checks) :
    R.Closes .start (guardCheck s p checks) := by
  unfold guardCheck
  split
  case isTrue => exact hchecks
  case isFalse hany =>
    have hflag : s.anyArgs = true := by simpa using hany
    have hany := h.anyArgs (h.loaded .expectAnyArgs hflag)
    replace hchecks := Keeps.ofCloses hchecks
    split
    · exact R.empty
    · simp only [toString_text, flat_lines]
      apply_rules [fixed, last] <;> exact ⟨rfl⟩

theorem closes_implementation (hs : ∀ a c, s.comparison a = .ok c → R.Takes .text c.assertion)
    (hmem : plugin ∈ plugins) (ht : implementation s plugin p = .ok t) : R.Closes .start t := by
  cases plugin with
  | expect =>
    obtain ⟨checks, hchecks, hpure⟩ := bind_eq_ok.mp ht
    cases hpure
    exact closes_guardCheck h (closes_verifyAll hp h hs hchecks)
  | _ =>
    cases ht
    exact closes_action hp h hmem

end

/-! ## Fields -/

section

variable (hp : p.Fits R)

include hp

theorem closes_callFields (s : Settings) (plugin : Plugin) :
    R.Closes .start (callFields s plugin p) := by
  have htype := hp.returnedType
  cases plugin with
  | expect =>
    rw [callFields]
    simp only [toString_text, String.append_assoc]
    refine .lines_append (.lines_append (.only fun _ => .line (.around htype ⟨rfl⟩))
      (.only fun _ => .line (.ofList ⟨rfl⟩))) (.lines_map fun a ha => ?_)
    have hname := hp.argName a ha
    have htype := hp.argType a ha
    simp only [flat_lines]
    apply_rules [fixed, last]
    exact ⟨rfl⟩
  | expectAnyArgs => exact .line (.ofList ⟨rfl⟩)
  | exceptions => exact .line (.ofList ⟨rfl⟩)
  | array =>
    refine .lines_map fun a ha => .line ?_
    rw [String.append_assoc]
    exact .around (hp.argName a (mem_of_mem_filter ha)) ⟨rfl⟩
  | returnThruPtr =>
    refine .intercalate (forall_mem_map.mpr fun a ha => ?_)
    have harg := mem_of_mem_filter ha
    have hname := hp.argName a harg
    have htype := hp.constType a harg
    generalize pointsToConst a.type = type at htype ⊢
    simp only [toString_text, flat_lines]
    apply_rules [fixed, last]
    exact ⟨rfl⟩
  | ignoreArg =>
    refine .lines_map fun a ha => .line ?_
    rw [String.append_assoc]
    exact .around (hp.argName a ha) ⟨rfl⟩
  | _ => exact R.empty

theorem closes_functionFields (plugin : Plugin) : R.Closes .start (functionFields plugin p) := by
  have hname := hp.name
  have htype := hp.returnedType
  have hignore : R.Closes .start (functionFields.ignoreFields p) := by
    unfold functionFields.ignoreFields
    simp only [toString_text]
    refine .lines_append ?_ (.only fun _ => ?_)
    all_goals
      simp only [flat_lines]
      apply_rules [fixed, last]
      exact ⟨rfl⟩
  cases plugin with
  | ignore => exact hignore
  | ignoreStateless => exact hignore
  | callback =>
    rw [functionFields]
    simp only [toString_text, flat_lines]
    apply_rules [fixed, last]
    exact ⟨rfl⟩
  | _ => exact R.empty

end

/-! ## The functions that serve all tests -/

section

variable (h : CoversMock R plugins p)

include h

theorem closes_verify (hname : R.Takes .name p.name) (hmem : plugin ∈ plugins) :
    R.Closes .start (verify plugin p) := by
  have hforget : .ignore ∈ plugins ∨ .ignoreStateless ∈ plugins →
      R.Closes .start (verify.forgetIgnored p) := by
    intro hmem
    have hignored := h.ignored hmem
    unfold verify.forgetIgnored
    simp only [toString_text, flat_lines]
    apply_rules [fixed, last]
    exact ⟨rfl⟩
  cases plugin with
  | expect =>
    rw [verify]
    simp only [toString_text, flat_lines]
    apply_rules [fixed, last]
    exact ⟨rfl⟩
  | ignore => exact hforget (.inl hmem)
  | ignoreStateless => exact hforget (.inr hmem)
  | callback =>
    have hcallback := h.callback hmem "CallbackFunctionPointer" (by simp)
    rw [verify]
    simp only [toString_text, flat_lines]
    apply_rules [fixed, last]
    exact ⟨rfl⟩
  | _ => exact R.empty

theorem closes_ignoreFromStart (hmem : plugin ∈ plugins) :
    R.Closes .start (ignoreFromStart plugin p) := by
  cases plugin with
  | ignore =>
    rw [ignoreFromStart]
    simp only [toString_text, String.append_assoc]
    exact .line (.around (h.ignored (.inl hmem)) ⟨rfl⟩)
  | ignoreStateless =>
    rw [ignoreFromStart]
    simp only [toString_text, String.append_assoc]
    exact .line (.around (h.ignored (.inr hmem)) ⟨rfl⟩)
  | _ => exact R.empty

end

end Plugin

end MockGen
