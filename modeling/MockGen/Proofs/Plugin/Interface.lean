import MockGen.Proofs.Options
import MockGen.Proofs.Plugin.Functions
import MockGen.Proofs.Plugin.Hook
import MockGen.Proofs.Plugin.Order
import MockGen.Proofs.Plugin.Texts
import MockGen.Sample.Prototype

/-!
# Functions that plugins declare and define

The functions that plugins declare are those that they define.  Every plugin by itself declares and
defines the same functions, in the same order.  The declarations for values returned through
pointers do not end their last line, but what is asked behind them begins with a line end.
-/

namespace MockGen

open Code String ReadM SilentLines Argument

/-! ## Bodies -/

theorem lacks_callField {name : String} (hname : Lacks '\n' name) : Lacks '\n' (callField name) :=
  .callField (by decide) hname

theorem lacks_mockField {f name : String} (hf : Lacks '\n' f) (hname : Lacks '\n' name) :
    Lacks '\n' (mockField f name) :=
  .mockField (by decide) hf hname

namespace Expectation

variable {s : Settings} {f name type : String} {p : Prototype}

theorem silentText_base (hf : Lacks '\n' f) (inOrder : Bool) :
    SilentText (base s f inOrder) := by
  unfold base
  simp only [toString_text]
  refine .lines (.append (.append (.append (.append (.append ?_ (.only ?_)) ?_) (.only ?_))
    (.only ?_)) (.only ?_))
  all_goals
    apply_rules [cons, nil, Silent.append, Lacks.append, lacks_callField,
      lacks_mockField] <;> exact .fixed rfl

theorem silentText_assign {dest : String} (hdest : Lacks '\n' dest) (hname : Lacks '\n' name)
    (htype : Lacks '\n' type) (isPtr : Bool) : SilentText (assign s dest name type isPtr) := by
  unfold assign
  simp only [toString_text]
  split
  all_goals
    refine .lines ?_
    apply_rules [cons, nil, Silent.append, Lacks.append] <;>
      exact .fixed rfl

theorem silentText_loaderCall (hp : p.Lacks '\n') : SilentText (loaderCall s p) := by
  unfold loaderCall
  split
  · exact .lines .nil
  · have hactuals : Lacks '\n' (commas (p.args.map (loaderActual s))) :=
      .commas_map (by decide) fun a ha => lacks_loaderActual (by decide) (hp.argName a ha)
    have hname := hp.name
    refine .lines ?_
    simp only [toString_text]
    apply_rules [cons, nil, Silent.append, Lacks.append] <;>
      exact .fixed rfl

end Expectation

/-! ## Plugins one by one -/

namespace Plugin

open Expectation

variable {s : Settings} {p : Prototype} {f body : String} {a : Argument} {plugins : List Plugin}

theorem silent_refuse {kind required : List Char} {params : String} (hf : Lacks '\n' f)
    (hfixed : '\n' ∉ kind ++ required) (hparams : Lacks '\n' params) :
    Silent (refuse f (String.ofList kind) params (String.ofList required)) := by
  have hkind := Lacks.ofSubset hfixed (List.subset_append_left ..)
  have hrequired := Lacks.ofSubset hfixed (List.subset_append_right ..)
  unfold refuse
  simp only [toString_text]
  apply_rules [Silent.append, Lacks.append] <;> exact .fixed rfl

theorem silentText_expect (hp : p.Lacks '\n') :
    SilentText (base s p.name true ++ loaderCall s p ++
      if p.returned.isVoid then ""
      else assign s (callField "ReturnVal") p.returned.name p.returned.type
        p.returned.isPtr) := by
  refine ((silentText_base hp.name true).append (silentText_loaderCall hp)).append ?_
  split
  · exact .lines .nil
  · exact silentText_assign (lacks_callField (.fixed rfl)) hp.returnedName hp.returnedType _

theorem silent_storeResult : Silent storeResult := by
  unfold storeResult
  simp only [toString_text]
  apply_rules [Silent.append, lacks_callField] <;> exact .fixed rfl

theorem agree_expect (hp : p.Lacks '\n') (hargs : p.args = [] ↔ p.argsString = "void") :
    Agree (expectDeclarations p) (expectInterfaces s p) := by
  have hname := hp.name
  have hcall := hp.argsCall
  have hparams := hp.argsString
  have hresult := hp.returnedStr
  suffices h : ∀ body, SilentText body →
      Agree (expectDeclarations p) (function (expectHeader p) body) from h _ (silentText_expect hp)
  intro body hbody
  unfold expectDeclarations expectHeader
  -- declarations ask for the parameters, definitions for the text of the parameter list
  by_cases hempty : p.args = []
  · simp only [hempty, hargs.mp hempty, List.isEmpty_nil, beq_self_eq_true, if_true, toString_text]
    split
    all_goals
      refine .skip (silent_refuse hname (by decide) (.fixed rfl))
        (.skip ?_ (.function (.append (.ofList _) _) ?_ hbody))
      all_goals apply_rules [Silent.append, Lacks.append] <;> exact .fixed rfl
  · have hnot : (p.argsString == "void") = false :=
      beq_eq_false_iff_ne.mpr fun h => hempty (hargs.mpr h)
    have hsome : p.args.isEmpty = false := by simpa using hempty
    simp only [hsome, hnot, Bool.false_eq_true, if_false, toString_text]
    split
    all_goals
      refine .skip (silent_refuse hname (by decide) ?_)
        (.skip ?_ (.function (.append (.ofList _) _) ?_ hbody))
      all_goals apply_rules [Silent.append, Lacks.append] <;> exact .fixed rfl

theorem agree_anyArgs (hp : p.Lacks '\n') :
    Agree (anyArgsDeclarations p) (anyArgsInterfaces s p) := by
  have hname := hp.name
  have hresult := hp.returnedStr
  have hbase := silentText_base (s := s) hname true
  have hmark : SilentText (lines (only (!p.returned.isVoid) [storeResult] ++
      ["  " ++ callField "ExpectAnyArgsBool" ++ " = (char)1;"])) := by
    refine .lines (.append (.only (.cons silent_storeResult .nil)) (.cons ?_ .nil))
    apply_rules [Silent.append, lacks_callField] <;> exact .fixed rfl
  unfold anyArgsDeclarations anyArgsInterfaces
  simp only [toString_text]
  split
  · exact .empty
  · split
    all_goals
      refine .blank (.skip (silent_refuse hname (by decide) (.fixed rfl))
        (.skip ?_ (.function (.append (.ofList _) _) ?_ (hbase.append hmark))))
      all_goals apply_rules [Silent.append, Lacks.append] <;> exact .fixed rfl

theorem agree_ignoreWithoutResult (hf : Lacks '\n' f) (hbody : SilentText body) :
    Agree (lines (ignoreWithoutResult f)) (function s!"void {f}_CMockIgnore(void)" body) := by
  unfold ignoreWithoutResult
  simp only [toString_text]
  refine .skip (silent_refuse hf (by decide) (.fixed rfl))
    (.skip ?_ (.function (.append (.ofList _) _) ?_ hbody))
  all_goals apply_rules [Silent.append, Lacks.append] <;> exact .fixed rfl

theorem agree_stopIgnore (hf : Lacks '\n' f) (hbody : SilentText body) :
    Agree (lines (stopIgnore f)) (function s!"void {f}_CMockStopIgnore(void)" body) := by
  unfold stopIgnore
  simp only [toString_text]
  refine .skip ?_ (.function (.append (.ofList _) _) ?_ hbody)
  all_goals apply_rules [Silent.append, Lacks.append] <;> exact .fixed rfl

theorem agree_ignore (hp : p.Lacks '\n') : Agree (ignoreDeclarations p) (ignoreInterfaces s p) := by
  have hname := hp.name
  have hresult := hp.returnedStr
  have hbase := silentText_base (s := s) hname false
  have hon : SilentText (lines ["  " ++ mockField p.name "IgnoreBool" ++ " = (char)1;"]) := by
    refine .lines (.cons ?_ .nil)
    apply_rules [Silent.append, lacks_mockField] <;> exact .fixed rfl
  have hoff : SilentText (lines (
      only (!p.returned.isVoid) [
        "  if(" ++ mockField p.name "IgnoreBool" ++ ")",
        "    " ++ mockField p.name "CallInstance" ++ " = CMock_Guts_MemNext(" ++
          mockField p.name "CallInstance" ++ ");"] ++
      ["  " ++ mockField p.name "IgnoreBool" ++ " = (char)0;"])) := by
    refine .lines (.append (.only ?_) ?_)
    all_goals
      apply_rules [cons, nil, Silent.append, lacks_mockField] <;>
        exact .fixed rfl
  have hstop := agree_stopIgnore hname hoff
  unfold ignoreDeclarations ignoreInterfaces
  dsimp only
  rw [lines_append]
  refine .append (.blank ?_) hstop
  split
  · exact agree_ignoreWithoutResult hname hon
  · have hstore : SilentText (lines [storeResult]) := .lines (.cons silent_storeResult .nil)
    simp only [toString_text] at hon ⊢
    refine .skip (silent_refuse hname (by decide) (.fixed rfl))
      (.skip ?_ (.function (.append (.ofList _) _) ?_ ((hbase.append hstore).append hon)))
    all_goals apply_rules [Silent.append, Lacks.append] <;> exact .fixed rfl

theorem agree_ignoreStateless (hp : p.Lacks '\n') :
    Agree (ignoreStatelessDeclarations p) (ignoreStatelessInterfaces p) := by
  have hname := hp.name
  have hresult := hp.returnedStr
  have hoff : SilentText (lines ["  " ++ mockField p.name "IgnoreBool" ++ " = (char)0;"]) := by
    refine .lines (.cons ?_ .nil)
    apply_rules [Silent.append, lacks_mockField] <;> exact .fixed rfl
  have hstop := agree_stopIgnore hname hoff
  unfold ignoreStatelessDeclarations ignoreStatelessInterfaces
  dsimp only
  rw [lines_append]
  refine .append ?_ hstop
  split
  · refine agree_ignoreWithoutResult hname (.lines (.cons ?_ .nil))
    simp only [toString_text]
    apply_rules [Silent.append, lacks_mockField] <;> exact .fixed rfl
  · simp only [toString_text]
    refine .skip (silent_refuse hname (by decide) (.fixed rfl))
      (.skip ?_ (.function (.append (.ofList _) _) ?_ (.lines ?_)))
    all_goals
      apply_rules [cons, nil, Silent.append, Lacks.append,
        lacks_mockField] <;> exact .fixed rfl

theorem agree_setCallback {action flag line t : String} {ls : List String} (hf : Lacks '\n' f)
    (haction : Lacks '\n' action) (hflag : Lacks '\n' flag)
    (hline : Closed s!"void {f}_{action}(CMOCK_{f}_CALLBACK Callback)" line)
    (h : Agree (lines ls) t) : Agree (lines (line :: ls)) (setCallback s f action flag ++ t) := by
  unfold setCallback
  simp only [toString_text] at hline ⊢
  refine .define hline ?_ (.lines (.append (.only ?_) ?_)) h
  all_goals
    apply_rules [cons, nil, Silent.append, Lacks.append, lacks_callField,
      lacks_mockField] <;> exact .fixed rfl

theorem agree_callback (hp : p.Lacks '\n') :
    Agree (callbackDeclarations s p)
      (setCallback s p.name "AddCallback" "1" ++ setCallback s p.name "Stub" "0") := by
  have hname := hp.name
  have htype := hp.returnedType
  have hparams := lacks_callbackParameters (s := s) (by decide) hp.argsString
  have haction : Lacks '\n' (if s.callbackAfterCheck then "AddCallback" else "Stub") := by
    split <;> exact .fixed rfl
  unfold callbackDeclarations
  rw [← append_empty (s := setCallback s p.name "Stub" "0")]
  simp only [toString_text]
  refine .skip ?_ (agree_setCallback hname (.fixed rfl) (.fixed rfl) ⟨?_⟩
    (agree_setCallback hname (.fixed rfl) (.fixed rfl) ⟨?_⟩ (.skip ?_ .nil)))
  · apply_rules [Silent.append, Lacks.append] <;> exact .fixed rfl
  · simp [← toList_inj]
  · simp [← toList_inj]
  · apply_rules [Silent.append, Lacks.append] <;> exact .fixed rfl

theorem agree_exceptions (hp : p.Lacks '\n') :
    Agree (exceptionDeclarations p) (exceptionInterfaces s p) := by
  have hname := hp.name
  have hcall := hp.argsCall
  have hparams := hp.argsString
  have hthrow : SilentText (lines
      ["  " ++ callField "ExceptionToThrow" ++ " = cmock_to_throw;"]) := by
    refine .lines (.cons ?_ .nil)
    apply_rules [Silent.append, lacks_callField] <;> exact .fixed rfl
  have hbody := ((silentText_base (s := s) hname true).append
    (silentText_loaderCall (s := s) hp)).append hthrow
  unfold exceptionDeclarations exceptionInterfaces
  simp only [toString_text]
  split
  all_goals
    refine .skip ?_ (.function ⟨by simp [← toList_inj]⟩ ?_ hbody)
    all_goals apply_rules [Silent.append, Lacks.append] <;> exact .fixed rfl

theorem agree_array (hp : p.Lacks '\n') : Agree (arrayDeclarations p) (arrayInterfaces s p) := by
  have hname := hp.name
  have hresult := hp.returnedStr
  have hparams : Lacks '\n' (commas (p.args.map withDepth)) :=
    .commas_map (by decide) fun a ha =>
      lacks_withDepth (by decide) (hp.argType a ha) (hp.argName a ha)
  have hformals : Lacks '\n' (commas (p.args.map callWithDepth)) :=
    .commas_map (by decide) fun a ha => lacks_callWithDepth (by decide) (hp.argName a ha)
  have hactuals := lacks_arrayActuals (by decide) hp.argName
  have hbody : SilentText (base s p.name true ++ lines (
      [s!"  CMockExpectParameters_{p.name}(cmock_call_instance, {
        commas (p.args.map Argument.callWithDepth)});"] ++
      only (!p.returned.isVoid) [storeResult])) := by
    simp only [toString_text]
    refine .append (silentText_base hname true) (.lines (.append (.cons ?_ .nil)
      (.only (.cons silent_storeResult .nil))))
    apply_rules [Silent.append, Lacks.append] <;> exact .fixed rfl
  unfold arrayDeclarations arrayInterfaces
  simp only [toString_text] at hbody ⊢
  generalize commas (p.args.map withDepth) = params,
    commas (p.args.map callWithDepth) = formals, commas (p.args.map _) = actuals at *
  split
  · exact .empty
  · split
    all_goals
      refine .skip (silent_refuse hname (by decide) ?_)
        (.skip ?_ (.function (.append (.ofList _) _) ?_ hbody))
      all_goals apply_rules [Silent.append, Lacks.append] <;> exact .fixed rfl

theorem silent_lastInstance (hf : Lacks '\n' f) : Silent (lastInstance f) := by
  unfold lastInstance
  simp only [toString_text]
  apply_rules [Silent.append, Lacks.append, lacks_mockField] <;> exact .fixed rfl

theorem agree_output (hf : Lacks '\n' f) (htype : Lacks '\n' a.type) (hname : Lacks '\n' a.name) :
    Agree (lines (outputDeclarations s f a)) (outputInterface f a) := by
  have hlast := silent_lastInstance hf
  have hconst := lacks_pointsToConst (by decide) htype
  have hsize := lacks_pointeeSize (s := s) (by decide) htype hname
  unfold outputDeclarations outputInterface
  simp only [toString_text]
  generalize lastInstance f = last, pointsToConst a.type = type, pointeeSize s a = size at *
  refine .skip ?_ (.skip ?_ (.skip ?_ (.function (.append (.ofList _) _) ?_ (.lines ?_))))
  all_goals
    apply_rules [cons, nil, Silent.append, Lacks.append, lacks_callField,
      lacks_mockField] <;> exact .fixed rfl

theorem agree_ignoreArg (hf : Lacks '\n' f) (hname : Lacks '\n' a.name) :
    Agree (ignoreArgDeclarations f a) (ignoreArgInterface f a) := by
  have hlast := silent_lastInstance hf
  unfold ignoreArgDeclarations ignoreArgInterface
  simp only [toString_text]
  refine .blank (.skip ?_ (.function (.append (.ofList _) _) ?_ (.lines ?_)))
  all_goals
    apply_rules [cons, nil, Silent.append, Lacks.append, lacks_callField,
      lacks_mockField] <;> exact .fixed rfl

theorem agree (hp : p.Lacks '\n') (hargs : p.args = [] ↔ p.argsString = "void") {plugin : Plugin}
    (h : plugin ≠ returnThruPtr) : Agree (declarations s plugin p) (interfaces s plugin p) := by
  cases plugin with
  | expect => exact agree_expect hp hargs
  | expectAnyArgs => exact agree_anyArgs hp
  | ignore => exact agree_ignore hp
  | ignoreStateless => exact agree_ignoreStateless hp
  | callback => exact agree_callback hp
  | exceptions => exact agree_exceptions hp
  | array => exact agree_array hp
  | returnThruPtr => exact absurd rfl h
  | ignoreArg => exact .concat_map fun a ha => agree_ignoreArg hp.name (hp.argName a ha)

/-! ## All plugins together -/

theorem eq_ignoreArg {q : Plugin} (hne : returnThruPtr ≠ q)
    (hle : returnThruPtr.priority ≤ q.priority) : q = ignoreArg := by
  revert hne hle
  cases q <;> decide

theorem breaks_ignoreArg : Breaks (declarations s ignoreArg p).toList :=
  .concat_map fun _ _ => .lines _

theorem agree_outputs (hp : p.Lacks '\n') :
    Agree (lines ((s.outputs p).flatMap (outputDeclarations s p.name)))
      (interfaces s returnThruPtr p) :=
  .intercalate_map fun a ha =>
    have ha := List.mem_of_mem_filter ha
    agree_output hp.name (hp.argType a ha) (hp.argName a ha)

theorem prototypesIn_eq_headersIn (hp : p.Lacks '\n')
    (hargs : p.args = [] ↔ p.argsString = "void")
    (h : plugins.Pairwise fun p q => p ≠ q ∧ p.priority ≤ q.priority) :
    prototypesIn (concat (plugins.map (declarations s · p))).toList =
      headersIn (concat (plugins.map (interfaces s · p))).toList := by
  induction plugins with
  | nil => rfl
  | cons plugin rest ih =>
    obtain ⟨hfirst, hrest⟩ := List.pairwise_cons.mp h
    rw [List.map_cons, List.map_cons, concat_cons, concat_cons, toList_append,
      toList_append]
    by_cases hplugin : plugin = returnThruPtr
    · subst hplugin
      have hbreaks : Breaks (concat (rest.map (declarations s · p))).toList :=
        .concat_map fun q hq => by
          rw [eq_ignoreArg (hfirst q hq).1 (hfirst q hq).2]
          exact breaks_ignoreArg
      obtain ⟨functions, hfunctions⟩ := agree_outputs (s := s) hp
      rw [(hfunctions _).2, ← ih hrest, ← (hfunctions _).1]
      exact prototypesIn_intercalate _ hbreaks
    · obtain ⟨functions, hfunctions⟩ := agree (s := s) hp hargs hplugin
      rw [(hfunctions _).1, (hfunctions _).2, ih hrest]

theorem lacks_expectHeader (hp : p.Lacks '\n') : Lacks '\n' (expectHeader p) := by
  have hname := hp.name
  have hparams := hp.argsString
  have hresult := hp.returnedStr
  unfold expectHeader
  simp only [toString_text]
  split <;> split
  all_goals apply_rules [Lacks.append] <;> exact .fixed rfl

theorem signature?_expectHeader (p : Prototype) : signature? (expectHeader p).toList ≠ none := by
  have hsome : ∀ t u : String, '(' ∈ t.toList →
      signature? ("void " ++ p.name ++ t ++ u ++ ")").toList ≠ none := by
    intro t u ht
    have hmem : '(' ∈ (p.name ++ t ++ u).toList := by simp [ht]
    simpa using signature?_ne_none hmem
  unfold expectHeader
  simp only [toString_text]
  split
  · split
    · simpa using hsome "_CMockExpect(UNITY_LINE_TYPE cmock_line" "" (by decide)
    · exact hsome _ _ (by decide)
  · split
    · exact hsome _ _ (by decide)
    · simpa [append_assoc] using
        hsome "_CMockExpectAndReturn(UNITY_LINE_TYPE cmock_line, "
          (p.argsString ++ ", " ++ p.returned.str) (by decide)

theorem exists_headersIn_interfaces (hp : p.Lacks '\n')
    (hargs : p.args = [] ↔ p.argsString = "void") (plugin : Plugin) :
    ∃ functions, ∀ rest, headersIn ((interfaces s plugin p).toList ++ rest) =
      functions ++ headersIn rest := by
  by_cases hplugin : plugin = returnThruPtr
  · obtain ⟨functions, hfunctions⟩ := agree_outputs (s := s) hp
    exact ⟨functions, fun rest => hplugin ▸ (hfunctions rest).2⟩
  · obtain ⟨functions, hfunctions⟩ := agree (s := s) hp hargs hplugin
    exact ⟨functions, fun rest => (hfunctions rest).2⟩

theorem headersIn_ne_nil (hp : p.Lacks '\n') (hargs : p.args = [] ↔ p.argsString = "void")
    (hexpect : expect ∈ plugins) :
    headersIn (concat (plugins.map (interfaces s · p))).toList ≠ [] := by
  induction plugins with
  | nil => cases hexpect
  | cons plugin rest ih =>
    rw [List.map_cons, concat_cons, toList_append]
    rcases List.mem_cons.mp hexpect with rfl | hexpect
    · obtain ⟨function, hfunction⟩ := Option.ne_none_iff_exists'.mp (signature?_expectHeader p)
      unfold interfaces expectInterfaces
      rw [headersIn_function (lacks_expectHeader hp) (silentText_expect hp), hfunction]
      exact List.cons_ne_nil _ _
    · obtain ⟨functions, hfunctions⟩ := exists_headersIn_interfaces (s := s) hp hargs plugin
      rw [hfunctions]
      exact List.append_ne_nil_of_right_ne_nil _ (ih hexpect)

end Plugin

namespace Plugins

/-- The functions that the plugins declare are those that they define, whatever plugins the options
name and in whatever spelling; there is at least one. -/
theorem declared_eq_defined {given voids f : Value} {helped : Bool} {w w₁ w₂ : Workspace}
    {o : Options} {ps : Plugins} {declared defined : String}
    (hresolve : (Options.resolve given).run w = (.ok o, w₁))
    (hload : (ofResolved o helped voids).run w₁ = (.ok ps, w₂))
    (hlines : (Draft.ofValue f).fill.Lacks '\n')
    (hargs : (Draft.ofValue f).fill.args = [] ↔ (Draft.ofValue f).fill.argsString = "void")
    (hdeclared : ps.run (.str "mock_function_declarations") [f] = .ok (.str declared))
    (hdefined : ps.run (.str "mock_interfaces") [f] = .ok (.str defined)) :
    prototypesIn declared.toList = headersIn defined.toList ∧ headersIn defined.toList ≠ [] := by
  obtain ⟨s, u, -, hload⟩ := run_bind_eq_ok.mp hload
  have horder := pairwise_of_load (fun n hn => Options.exists_of_mem_plugins hresolve hn) hload
  have hexpect : Plugin.expect ∈ ps.loaded :=
    (mem_loaded (fun n hn => Options.exists_of_mem_plugins hresolve hn) hload).mpr (.inl rfl)
  rw [eq_concat_of_textOn (fun _ => rfl) (textOn_of_run rfl (fun _ => rfl) hdeclared),
    eq_concat_of_textOn (fun _ => rfl) (textOn_of_run rfl (fun _ => rfl) hdefined)]
  exact ⟨Plugin.prototypesIn_eq_headersIn hlines hargs horder,
    Plugin.headersIn_ne_nil hlines hargs hexpect⟩

theorem declared_eq_defined_filling :
    let given := Value.record [(":plugins",
      .texts ["Ignore", "array", ":return_thru_ptr", "ignore_arg"])]
    let f := Sample.filling.record
    ∃ o ps w w' declared defined,
      (Options.resolve given).run { strippables := [] } = (.ok o, w) ∧
      (ofResolved o true (.list [])).run w = (.ok ps, w') ∧
      ps.run (.str "mock_function_declarations") [f] = .ok (.str declared) ∧
      ps.run (.str "mock_interfaces") [f] = .ok (.str defined) ∧
      prototypesIn declared.toList = headersIn defined.toList ∧ headersIn defined.toList ≠ [] := by
  intro given f
  obtain ⟨_, _, h⟩ := Job.exists_run_eq_ok (w := { strippables := [] }) (x := do
    let o ← Options.resolve given
    let ps ← ofResolved o true (.list [])
    let declared ← (ps.run (.str "mock_function_declarations") [f] : Except Fault Value)
    let defined ← (ps.run (.str "mock_interfaces") [f] : Except Fault Value)
    return (declared, defined)) (by decide +kernel)
  obtain ⟨o, w, hresolve, h⟩ := run_bind_eq_ok.mp h
  obtain ⟨ps, w', hload, h⟩ := run_bind_eq_ok.mp h
  obtain ⟨v, _, hdeclared, h⟩ := run_bind_eq_ok.mp h
  obtain ⟨u, _, hdefined, -⟩ := run_bind_eq_ok.mp h
  rw [run_lift] at hdeclared hdefined
  obtain ⟨declared, rfl⟩ := exists_of_run (Prod.mk.inj hdeclared).1
  obtain ⟨defined, rfl⟩ := exists_of_run (Prod.mk.inj hdefined).1
  exact ⟨o, ps, w, w', declared, defined, hresolve, hload, (Prod.mk.inj hdeclared).1,
    (Prod.mk.inj hdefined).1, declared_eq_defined hresolve hload (by decide +kernel)
      (by decide +kernel) (Prod.mk.inj hdeclared).1 (Prod.mk.inj hdefined).1⟩

end Plugins

end MockGen
