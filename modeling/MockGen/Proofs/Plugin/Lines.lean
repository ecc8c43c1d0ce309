import MockGen.Proofs.Plugin.Interface
import MockGen.Proofs.Text.Directives

/-!
# The lines of what plugins declare

All declarations are whole lines with number signs at their starts, except that those for values
returned through pointers leave their last line open; where nothing follows that begins with a line
end, all plugins together leave it open.
-/

namespace MockGen

open Code
open List hiding concat concat_cons

namespace Plugin

open Lacks Argument

variable {s : Settings} {p : Prototype} {f : String} {a : Argument} {plugin : Plugin}

/-! ## Plugins one by one -/

theorem led_refuse {kind required : List Char} {params : String} (hf : Lacks '#' f)
    (hfixed : '#' ∉ kind ++ required) (hparams : Lacks '#' params) :
    Led (refuse f (String.ofList kind) params (String.ofList required)) := by
  have hkind := ofSubset hfixed (subset_append_left ..)
  have hrequired := ofSubset hfixed (subset_append_right ..)
  unfold refuse
  simp only [toString_text]
  apply_rules [Led.append, append] <;> exact .fixed rfl

theorem directive_refuse (f macroName params required : String) :
    Directive (refuse f macroName params required).toList := by
  unfold refuse
  simp only [toString_text]
  apply_rules [Directive.append_text, Directive.define]

theorem whole_expect (hp : p.Lacks '#') : Whole (expectDeclarations p) := by
  have hname := hp.name
  have hcall := hp.argsCall
  have hparams := hp.argsString
  have hresult := hp.returnedStr
  unfold expectDeclarations
  simp only [toString_text]
  split <;> split
  iterate 2
    refine .cons (led_refuse hname (by decide) (.fixed rfl)) ?_
    apply_rules [Whole.cons, Whole.nil, Led.append, append] <;> exact .fixed rfl
  all_goals
    refine .cons (led_refuse hname (by decide) ?_) ?_ <;>
      apply_rules [Whole.cons, Whole.nil, Led.append, append] <;> exact .fixed rfl

theorem directive_expect (p : Prototype) : Directive (expectDeclarations p).toList := by
  unfold expectDeclarations
  split <;> split
  all_goals exact (directive_refuse ..).append_text.append_text

theorem whole_anyArgs (hp : p.Lacks '#') : Whole (anyArgsDeclarations p) := by
  have hname := hp.name
  have hresult := hp.returnedStr
  unfold anyArgsDeclarations
  simp only [toString_text]
  split
  · exact .empty
  · split
    all_goals
      refine .cons (.fixed rfl) (.cons (led_refuse hname (by decide) (.fixed rfl)) ?_)
      apply_rules [Whole.cons, Whole.nil, Led.append, append] <;> exact .fixed rfl

theorem head?_anyArgs (h : p.args.isEmpty = false) :
    (anyArgsDeclarations p).toList.head? = some '\n' := by
  unfold anyArgsDeclarations
  rw [h, if_neg Bool.false_ne_true]
  split <;> simp

theorem whole_stopIgnore (hf : Lacks '#' f) : Whole (lines (stopIgnore f)) := by
  unfold stopIgnore
  simp only [toString_text]
  apply_rules [Whole.cons, Whole.nil, Led.append, append] <;> exact .fixed rfl

theorem whole_ignoreWithoutResult (hf : Lacks '#' f) : Whole (lines (ignoreWithoutResult f)) := by
  unfold ignoreWithoutResult
  simp only [toString_text]
  refine .cons (led_refuse hf (by decide) (.fixed rfl)) ?_
  apply_rules [Whole.cons, Whole.nil, Led.append, append] <;> exact .fixed rfl

theorem whole_ignore (hp : p.Lacks '#') : Whole (ignoreDeclarations p) := by
  have hname := hp.name
  have hresult := hp.returnedStr
  unfold ignoreDeclarations
  dsimp only
  rw [lines_append]
  refine .append (.cons (.fixed rfl) ?_) (whole_stopIgnore hname)
  split
  · exact whole_ignoreWithoutResult hname
  · simp only [toString_text]
    refine .cons (led_refuse hname (by decide) (.fixed rfl)) ?_
    apply_rules [Whole.cons, Whole.nil, Led.append, append] <;> exact .fixed rfl

theorem head?_ignore (p : Prototype) : (ignoreDeclarations p).toList.head? = some '\n' := by
  simp [ignoreDeclarations]

theorem whole_ignoreStateless (hp : p.Lacks '#') : Whole (ignoreStatelessDeclarations p) := by
  have hname := hp.name
  have hresult := hp.returnedStr
  unfold ignoreStatelessDeclarations
  dsimp only
  rw [lines_append]
  refine .append ?_ (whole_stopIgnore hname)
  split
  · exact whole_ignoreWithoutResult hname
  · simp only [toString_text]
    refine .cons (led_refuse hname (by decide) (.fixed rfl)) ?_
    apply_rules [Whole.cons, Whole.nil, Led.append, append] <;> exact .fixed rfl

theorem directive_ignoreStateless (p : Prototype) :
    Directive (ignoreStatelessDeclarations p).toList := by
  unfold ignoreStatelessDeclarations
  dsimp only
  rw [lines_append]
  split
  all_goals exact (directive_refuse ..).append_text.append_text.append_text

theorem whole_callback (hp : p.Lacks '#') : Whole (callbackDeclarations s p) := by
  have hname := hp.name
  have htype := hp.returnedType
  have hparams := lacks_callbackParameters (s := s) (by decide) hp.argsString
  have haction : Lacks '#' (if s.callbackAfterCheck then "AddCallback" else "Stub") := by
    split <;> exact .fixed rfl
  unfold callbackDeclarations
  simp only [toString_text]
  apply_rules [Whole.cons, Whole.nil, Led.append, append] <;> exact .fixed rfl

theorem whole_exceptions (hp : p.Lacks '#') : Whole (exceptionDeclarations p) := by
  have hname := hp.name
  have hcall := hp.argsCall
  have hparams := hp.argsString
  unfold exceptionDeclarations
  simp only [toString_text]
  split
  all_goals apply_rules [Whole.cons, Whole.nil, Led.append, append] <;> exact .fixed rfl

theorem whole_array (hp : p.Lacks '#') : Whole (arrayDeclarations p) := by
  have hname := hp.name
  have hresult := hp.returnedStr
  have hparams : Lacks '#' (commas (p.args.map withDepth)) :=
    .commas_map (by decide) fun a ha =>
      lacks_withDepth (by decide) (hp.argType a ha) (hp.argName a ha)
  have hformals : Lacks '#' (commas (p.args.map callWithDepth)) :=
    .commas_map (by decide) fun a ha => lacks_callWithDepth (by decide) (hp.argName a ha)
  have hactuals := lacks_arrayActuals (by decide) hp.argName
  unfold arrayDeclarations
  simp only [toString_text]
  generalize commas (p.args.map withDepth) = params,
    commas (p.args.map callWithDepth) = formals, commas (p.args.map _) = actuals at *
  split
  · exact .empty
  · split
    all_goals
      refine .cons (led_refuse hname (by decide) ?_) ?_ <;>
        apply_rules [Whole.cons, Whole.nil, Led.append, append] <;> exact .fixed rfl

theorem whole_ignoreArg (hf : Lacks '#' f) (hname : Lacks '#' a.name) :
    Whole (ignoreArgDeclarations f a) := by
  unfold ignoreArgDeclarations
  simp only [toString_text]
  apply_rules [Whole.cons, Whole.nil, Led.append, append] <;> exact .fixed rfl

theorem whole (hp : p.Lacks '#') (h : plugin ≠ returnThruPtr) :
    Whole (declarations s plugin p) := by
  cases plugin with
  | expect => exact whole_expect hp
  | expectAnyArgs => exact whole_anyArgs hp
  | ignore => exact whole_ignore hp
  | ignoreStateless => exact whole_ignoreStateless hp
  | callback => exact whole_callback hp
  | exceptions => exact whole_exceptions hp
  | array => exact whole_array hp
  | returnThruPtr => exact absurd rfl h
  | ignoreArg => exact .concat_map fun a ha => whole_ignoreArg hp.name (hp.argName a ha)

/-! ## Values returned through pointers -/

theorem whole_outputDeclarations (hf : Lacks '#' f) (htype : Lacks '#' a.type)
    (hname : Lacks '#' a.name) : Whole (lines (outputDeclarations s f a)) := by
  have hconst := lacks_pointsToConst (by decide) htype
  have hsize := lacks_pointeeSize (s := s) (by decide) htype hname
  unfold outputDeclarations
  simp only [toString_text]
  generalize pointsToConst a.type = type, pointeeSize s a = size at *
  refine .cons ?_ (.cons ?_ (.cons ?_ (.cons ?_ .nil)))
  all_goals apply_rules [Led.append, append] <;> exact .fixed rfl

theorem exists_outputDeclarations (s : Settings) (f : String) (a : Argument) :
    ∃ ls l, outputDeclarations s f a = ls ++ [l] ∧ l.toList.getLast? = some ';' := by
  refine ⟨[_, _, _], _, rfl, ?_⟩
  rw [String.toList_append, getLast?_append]
  rfl

theorem led_outputs (hp : p.Lacks '#') : Led (declarations s returnThruPtr p) := by
  have hwhole : Whole (lines ((s.outputs p).flatMap (outputDeclarations s p.name))) := by
    rw [lines_flatMap]
    refine .concat_map fun a ha => ?_
    have ha := mem_of_mem_filter ha
    exact whole_outputDeclarations hp.name (hp.argType a ha) (hp.argName a ha)
  rw [declarations]
  cases hlines : (s.outputs p).flatMap (outputDeclarations s p.name) with
  | nil => exact .fixed rfl
  | cons l ls =>
    rw [hlines, lines_eq_intercalate (cons_ne_nil l ls)] at hwhole
    exact hwhole.toLed.of_append

theorem getLast?_outputs (h : s.outputs p ≠ []) :
    (declarations s returnThruPtr p).toList.getLast? = some ';' := by
  rw [declarations]
  rcases eq_nil_or_concat' (s.outputs p) with hnil | ⟨front, a, hconcat⟩
  · exact absurd hnil h
  · obtain ⟨ls, l, hlines, hlast⟩ := exists_outputDeclarations s p.name a
    rw [hconcat, flatMap_append, flatMap_singleton, hlines, ← append_assoc,
      intercalate_concat, String.toList_append, getLast?_append, hlast, Option.some_or]

theorem ignoreArg_ne_nil (h : s.outputs p ≠ []) : (declarations s ignoreArg p).toList ≠ [] := by
  obtain ⟨a, ha⟩ := exists_mem_of_ne_nil _ h
  refine concat_ne_nil (mem_of_mem_filter ha) ?_
  simp [ignoreArgDeclarations]

/-! ## All plugins together -/

/-- Whether plugins in the order in which they are asked begin with a directive. -/
def startsDirective (plugins : List Plugin) (p : Prototype) : Bool :=
  match plugins.head? with
  | some ignore => false
  | some expectAnyArgs => p.args.isEmpty
  | _ => true

section

variable {plugins : List Plugin} (h : plugins.Pairwise fun p q => p ≠ q ∧ p.priority ≤ q.priority)

include h

theorem led_concat (hp : p.Lacks '#') : Led (concat (plugins.map (declarations s · p))) := by
  induction plugins with
  | nil => exact .fixed rfl
  | cons plugin rest ih =>
    obtain ⟨hfirst, hrest⟩ := pairwise_cons.mp h
    by_cases hplugin : plugin = returnThruPtr
    · subst hplugin
      refine (led_outputs hp).append_of (ih hrest)
        (.inr (Breaks.head_ne (.concat_map ?_) (by decide)))
      intro q hq
      rw [eq_ignoreArg (hfirst q hq).1 (hfirst q hq).2]
      exact breaks_ignoreArg
    · exact (whole hp hplugin).append_led (ih hrest)

theorem getLast?_concat_of_open (hthru : returnThruPtr ∈ plugins) (hignore : ignoreArg ∉ plugins)
    (houtputs : s.outputs p ≠ []) :
    (concat (plugins.map (declarations s · p))).toList.getLast? = some ';' := by
  induction plugins with
  | nil => cases hthru
  | cons plugin rest ih =>
    obtain ⟨hfirst, hrest⟩ := pairwise_cons.mp h
    obtain ⟨-, hignored⟩ := ne_and_not_mem_of_not_mem_cons hignore
    rw [map_cons, concat_cons, String.toList_append, getLast?_append]
    rcases mem_cons.mp hthru with rfl | hthru
    · have hnone : rest = [] := eq_nil_iff_forall_not_mem.mpr fun q hq =>
        hignored (eq_ignoreArg (hfirst q hq).1 (hfirst q hq).2 ▸ hq)
      subst hnone
      exact getLast?_outputs houtputs
    · rw [ih hrest hthru hignored, Option.some_or]

theorem ended_concat (hp : p.Lacks '#')
    (hclosed : returnThruPtr ∈ plugins → s.outputs p ≠ [] → ignoreArg ∈ plugins) :
    Ended (concat (plugins.map (declarations s · p))).toList := by
  induction plugins with
  | nil => exact .inl rfl
  | cons plugin rest ih =>
    obtain ⟨hfirst, hrest⟩ := pairwise_cons.mp h
    rw [map_cons, concat_cons, String.toList_append]
    by_cases hplugin : plugin = returnThruPtr
    · subst hplugin
      have hlater : ∀ q ∈ rest, q = ignoreArg := fun q hq =>
        eq_ignoreArg (hfirst q hq).1 (hfirst q hq).2
      have hwhole : Whole (concat (rest.map (declarations s · p))) :=
        .concat_map fun q hq => whole hp (by rw [hlater q hq]; decide)
      by_cases houtputs : s.outputs p = []
      · have hempty : declarations s returnThruPtr p = "" := by
          rw [declarations, houtputs]
          rfl
        rw [hempty]
        exact hwhole.last
      · have hmem : ignoreArg ∈ rest := by
          simpa using hclosed mem_cons_self houtputs
        rcases hwhole.last with hnone | hlast
        · exact absurd hnone (concat_ne_nil hmem (ignoreArg_ne_nil houtputs))
        · exact .append_last _ hlast
    · refine (whole hp hplugin).last.append (ih hrest fun hthru houtputs => ?_)
      have hmem := hclosed (mem_cons_of_mem _ hthru) houtputs
      refine (mem_cons.mp hmem).resolve_left fun heq => ?_
      subst heq
      exact absurd (hfirst _ hthru).2 (by decide)

variable (hexpect : expect ∈ plugins)

include hexpect

theorem priority_le_of_head (hhead : plugins.head? = some plugin) :
    plugin.priority ≤ expect.priority := by
  obtain ⟨rest, rfl⟩ := head?_eq_some_iff.mp hhead
  rcases mem_cons.mp hexpect with rfl | hexpect
  · exact le_rfl
  · exact ((pairwise_cons.mp h).1 _ hexpect).2

theorem directive_concat_of_le (hhead : plugins.head? = some plugin)
    (hlow : expectAnyArgs.priority < plugin.priority) :
    Directive (concat (plugins.map (declarations s · p))).toList := by
  have hle := priority_le_of_head h hexpect hhead
  obtain ⟨rest, rfl⟩ := head?_eq_some_iff.mp hhead
  obtain rfl : plugin = expect := by
    revert hlow hle
    cases plugin <;> decide
  exact (directive_expect p).append_text

theorem directive_concat (hstart : startsDirective plugins p = true) :
    Directive (concat (plugins.map (declarations s · p))).toList := by
  cases plugins with
  | nil => cases hexpect
  | cons plugin rest =>
    have hle := priority_le_of_head h hexpect rfl
    cases plugin with
    | ignore => cases hstart
    | ignoreStateless => exact (directive_ignoreStateless p).append_text
    | expect => exact (directive_expect p).append_text
    | expectAnyArgs =>
      obtain ⟨hfirst, hrest⟩ := pairwise_cons.mp h
      have hempty : anyArgsDeclarations p = "" := if_pos hstart
      have hexpect : expect ∈ rest := by simpa using hexpect
      obtain ⟨q, hq⟩ := Option.ne_none_iff_exists'.mp
        (mt head?_eq_none_iff.mp (ne_nil_of_mem hexpect))
      have hlow : expectAnyArgs.priority < q.priority := by
        obtain ⟨hne, hle⟩ := hfirst q (mem_of_mem_head? hq)
        revert hne hle
        cases q <;> decide
      rw [map_cons, concat_cons, declarations, hempty, String.empty_append]
      exact directive_concat_of_le hrest hexpect hq hlow
    | _ => exact absurd hle (by decide)

omit h in
theorem head?_concat_ne (hstart : startsDirective plugins p = false) :
    (concat (plugins.map (declarations s · p))).toList.head? ≠ some '#' := by
  cases plugins with
  | nil => cases hexpect
  | cons plugin rest =>
    rw [map_cons, concat_cons, String.toList_append, head?_append]
    cases plugin with
    | ignore => simp [declarations, head?_ignore]
    | expectAnyArgs => simp [declarations, head?_anyArgs hstart]
    | _ => cases hstart

end

end Plugin

end MockGen
