import MockGen.Proofs.Plugin.Hook
import MockGen.Proofs.Plugin.Traits

/-!
# Brackets in what plugins add to a mock

If the texts of a prototype are well nested, then so are those that plugins write for it and all
that they declare.
-/

namespace MockGen

open Code Trait List

variable {s : Settings} {p : Prototype} {f name : String} {a : Argument}

/-! ## Texts and fields -/

theorem Code.Nested.callField (h : Nested name) : Nested (callField name) := by
  apply Nested.of_behind
  rw [behind_callField, h.behind_eq]

theorem Code.Nested.mockField (hf : Nested f) (h : Nested name) : Nested (mockField f name) := by
  apply Nested.of_behind
  rw [behind_mockField, hf.behind_eq, h.behind_eq]

theorem nested_pointsToConst {type : String} (h : Nested type) : Nested (pointsToConst type) := by
  refine h.of_brackets_eq ?_
  rw [pointsToConst, String.toList_ofList]
  exact Text.brackets_replaceFirst (by decide) (by decide) _

namespace Prototype.Nested

variable (hp : p.Nested)

include hp

theorem fits : p.Fits .brackets where
  name := brackets_takes hp.name _
  argName a ha := brackets_takes (hp.argName a ha) _
  argType a ha := brackets_takes (hp.argType a ha) _
  constType a ha := brackets_takes (nested_pointsToConst (hp.argType a ha)) _
  bareType a ha := by
    refine brackets_takes ((hp.argType a ha).of_brackets_eq ?_) _
    rw [String.toList_ofList]
    exact Text.brackets_dropTrailing (by decide) _
  unscopedName := brackets_takes hp.unscopedName _
  namespaces t ht := brackets_takes (hp.namespaces t ht) _
  className t ht := brackets_takes (hp.className t ht) _
  modifier := brackets_takes hp.modifier _
  callingConvention t ht := brackets_takes (hp.callingConvention t ht) _
  returnedType := brackets_takes hp.returnedType _
  returnedName := brackets_takes hp.returnedName _
  returnedStr := brackets_takes hp.returnedStr _
  argsString := brackets_takes hp.argsString _
  varArg t ht := brackets_takes (hp.varArg t ht) _

theorem covers (s : Settings) : Covers .brackets s Plugin.all p where
  line := brackets_takes (.callField (by decide)) _
  result _ := brackets_takes (.callField (by decide)) _
  order _ := brackets_takes (.callField (by decide)) _
  thrown _ := brackets_takes (.callField (by decide)) _
  anyArgs _ := brackets_takes (.callField (by decide)) _
  expected a ha := brackets_takes (.callField (.append (by decide) (hp.argName a ha))) _
  depth _ a ha _ := brackets_takes (.callField (.append (by decide)
    ((hp.argName a ha).append (by decide)))) _
  output _ a ha part hpart := by
    have hnested : ∀ part ∈ ["_Used", "_Val", "_Size"], Code.Nested part := by decide
    exact brackets_takes (.callField (.append (by decide)
      ((hp.argName a (mem_of_mem_filter ha)).append (hnested part hpart)))) _
  ignoredArg _ a ha := brackets_takes (.callField (.append (by decide) (hp.argName a ha))) _
  chain := brackets_takes (.mockField hp.name (by decide)) _
  ignored _ := brackets_takes (.mockField hp.name (by decide)) _
  final _ _ := brackets_takes (.mockField hp.name (by decide)) _
  callback _ part hpart := by
    have hnested : ∀ part ∈ ["CallbackBool", "CallbackFunctionPointer", "CallbackCalls"],
        Code.Nested part := by decide
    exact brackets_takes (.mockField hp.name (hnested part hpart)) _
  loaded plugin _ := plugin.mem_all

end Prototype.Nested

namespace Plugin

theorem nested_pointeeSize (htype : Nested a.type) (hname : Nested a.name) :
    Nested (pointeeSize s a) := by
  unfold pointeeSize
  dsimp only
  split
  case isTrue h =>
    obtain ⟨hlast, -⟩ := Bool.and_eq_true_iff.mp h
    have hpointee : Nested (String.ofList a.type.toList.dropLast) := by
      obtain ⟨front, hfront⟩ := getLast?_eq_some_iff.mp (beq_iff_eq.mp hlast)
      refine htype.of_brackets_eq ?_
      rw [String.toList_ofList, hfront, dropLast_concat, Text.brackets_append]
      exact (append_nil _).symm
    apply Nested.of_behind
    simp -index only [toString_text, behind_parts, hpointee.behind_eq]
    rfl
  case isFalse =>
    apply Nested.of_behind
    simp -index only [toString_text, behind_parts, hname.behind_eq]
    rfl

theorem nested_arrayActuals {args : List Argument} (hname : ∀ a ∈ args, Nested a.name) :
    Nested (commas (args.map fun a =>
      if a.isPtr then a.name ++ ", (" ++ a.name ++ "_Depth)" else a.name)) := by
  refine .commas_map fun a ha => ?_
  split
  · apply Nested.of_behind
    simp -index only [behind_parts, (hname a ha).behind_eq]
    rfl
  · exact hname a ha

/-! ## Declarations -/

theorem nested_expectDeclarations (hp : p.Nested) : Nested (expectDeclarations p) := by
  unfold expectDeclarations refuse
  split <;> split
  all_goals
    apply Nested.of_behind
    simp -index only [toString_text, behind_parts, hp.behind_eq]
    rfl

theorem nested_anyArgsDeclarations (hp : p.Nested) : Nested (anyArgsDeclarations p) := by
  unfold anyArgsDeclarations refuse
  split
  · exact .empty
  · split
    all_goals
      apply Nested.of_behind
      simp -index only [toString_text, behind_parts, hp.behind_eq]
      rfl

theorem nested_stopIgnore (hf : Nested f) : Nested (lines (stopIgnore f)) := by
  unfold stopIgnore
  apply Nested.of_behind
  simp -index only [toString_text, behind_parts, hf.behind_eq]
  rfl

theorem nested_ignoreWithoutResult (hf : Nested f) : Nested (lines (ignoreWithoutResult f)) := by
  unfold ignoreWithoutResult refuse
  apply Nested.of_behind
  simp -index only [toString_text, behind_parts, hf.behind_eq]
  rfl

theorem nested_ignoreDeclarations (hp : p.Nested) : Nested (ignoreDeclarations p) := by
  have hstop := nested_stopIgnore hp.name
  have hwithout := nested_ignoreWithoutResult hp.name
  unfold ignoreDeclarations refuse
  split
  all_goals
    apply Nested.of_behind
    simp -index only [toString_text, behind_parts, cons_append, hp.behind_eq, hstop.behind_eq,
      hwithout.behind_eq]
    rfl

theorem nested_ignoreStatelessDeclarations (hp : p.Nested) :
    Nested (ignoreStatelessDeclarations p) := by
  have hstop := nested_stopIgnore hp.name
  unfold ignoreStatelessDeclarations refuse
  split
  · rw [lines_append]
    exact (nested_ignoreWithoutResult hp.name).append hstop
  · apply Nested.of_behind
    simp -index only [toString_text, behind_parts, hp.behind_eq, hstop.behind_eq]
    rfl

theorem nested_callbackParameters (hp : p.Nested) : Nested (callbackParameters s p) := by
  unfold callbackParameters
  split
  · decide
  · decide
  · exact hp.argsString
  · exact hp.argsString.append (by decide)

theorem nested_callbackDeclarations (hp : p.Nested) : Nested (callbackDeclarations s p) := by
  have hparams := nested_callbackParameters (s := s) hp
  have haction : Nested (if s.callbackAfterCheck then "AddCallback" else "Stub") := by
    split <;> decide
  unfold callbackDeclarations
  apply Nested.of_behind
  simp -index only [toString_text, behind_parts, hp.behind_eq, hparams.behind_eq,
    haction.behind_eq]
  rfl

theorem nested_exceptionDeclarations (hp : p.Nested) : Nested (exceptionDeclarations p) := by
  unfold exceptionDeclarations
  dsimp only
  split
  all_goals
    apply Nested.of_behind
    simp -index only [toString_text, behind_parts, hp.behind_eq]
    rfl

theorem nested_arrayDeclarations (hp : p.Nested) : Nested (arrayDeclarations p) := by
  have hformals : Nested (commas (p.args.map Argument.callWithDepth)) :=
    .commas_map fun a ha => nested_of_takes (a.takes_callWithDepth (hp.fits.argName a ha))
  have hparams : Nested (commas (p.args.map Argument.withDepth)) :=
    .commas_map fun a ha => nested_of_takes
      (a.takes_withDepth (hp.fits.argType a ha) (hp.fits.argName a ha))
  have hactuals := nested_arrayActuals hp.argName
  unfold arrayDeclarations refuse
  split
  · exact .empty
  · split
    all_goals
      apply Nested.of_behind
      simp -index only [toString_text, behind_parts, hp.behind_eq, hformals.behind_eq,
        hparams.behind_eq, hactuals.behind_eq]
      rfl

theorem nested_outputDeclarations (hf : Nested f) (htype : Nested a.type) (hname : Nested a.name) :
    ∀ t ∈ outputDeclarations s f a, Nested t := by
  have hsize := nested_pointeeSize (s := s) htype hname
  have hpointer := nested_pointsToConst htype
  unfold outputDeclarations
  simp only [forall_mem_cons]
  refine ⟨?_, ?_, ?_, ?_, forall_mem_nil _⟩
  all_goals
    apply Nested.of_behind
    simp -index only [toString_text, behind_parts, hf.behind_eq, hname.behind_eq, hsize.behind_eq,
      hpointer.behind_eq]
    rfl

theorem nested_ignoreArgDeclarations (hf : Nested f) (hname : Nested a.name) :
    Nested (ignoreArgDeclarations f a) := by
  unfold ignoreArgDeclarations
  apply Nested.of_behind
  simp -index only [toString_text, behind_parts, hf.behind_eq, hname.behind_eq]
  rfl

theorem nested_declarations (hp : p.Nested) (plugin : Plugin) :
    Nested (plugin.declarations s p) := by
  cases plugin with
  | expect => exact nested_expectDeclarations hp
  | expectAnyArgs => exact nested_anyArgsDeclarations hp
  | ignore => exact nested_ignoreDeclarations hp
  | ignoreStateless => exact nested_ignoreStatelessDeclarations hp
  | callback => exact nested_callbackDeclarations hp
  | exceptions => exact nested_exceptionDeclarations hp
  | array => exact nested_arrayDeclarations hp
  | returnThruPtr =>
    refine .intercalate (by decide) fun t ht => ?_
    obtain ⟨a, ha, ht⟩ := mem_flatMap.mp ht
    have ha := mem_of_mem_filter ha
    exact nested_outputDeclarations hp.name (hp.argType a ha) (hp.argName a ha) t ht
  | ignoreArg =>
    exact .concat (forall_mem_map.mpr fun a ha =>
      nested_ignoreArgDeclarations hp.name (hp.argName a ha))

theorem nested_includes (plugin : Plugin) : Nested plugin.includes := by
  cases plugin with
  | exceptions => exact .lines (forall_mem_singleton.mpr (by decide))
  | _ => exact .empty

end Plugin

theorem Plugins.nested_declarations {ps : Plugins} {d : Draft} {t : String} (hp : d.fill.Nested)
    (h : ps.textOn .declarations d = .ok t) : Nested t := by
  rw [eq_concat_of_textOn (fun _ => rfl) h]
  exact .concat (forall_mem_map.mpr fun plugin _ => plugin.nested_declarations hp)

end MockGen
