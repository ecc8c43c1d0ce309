import MockGen.Plugin.Declarations
import MockGen.Proofs.Text.Lacks

/-!
# Texts of parameters

The texts that plugins make of parameters: what a parameter lacks, its texts lack.
-/

namespace MockGen

open Code List Lacks

variable {c : Char} {a : Argument} {s : Settings}

namespace Argument

theorem lacks_typeWithConst (hc : c ∉ " const".toList) (htype : Lacks c a.type) :
    Lacks c a.typeWithConst := by
  unfold typeWithConst
  split
  · split
    · exact htype.append (.ofSubset hc (by decide))
    · exact htype
  · split
    · exact .append (.ofSubset hc (by decide)) htype
    · exact htype

theorem lacks_withDepth (hc : c ∉ " const,i_Deph".toList) (htype : Lacks c a.type)
    (hname : Lacks c a.name) : Lacks c a.withDepth := by
  have htyped := lacks_typeWithConst (a := a) (fun h => hc (by simp at h ⊢; tauto)) htype
  unfold withDepth
  dsimp only
  split
  · apply_rules [append] <;> exact .ofSubset hc (by decide)
  · exact (htyped.append (.ofSubset hc (by decide))).append hname

theorem lacks_callWithDepth (hc : c ∉ ", _Depth".toList) (hname : Lacks c a.name) :
    Lacks c a.callWithDepth := by
  unfold callWithDepth
  split
  · apply_rules [append] <;> exact .ofSubset hc (by decide)
  · exact hname

end Argument

theorem lacks_pointsToConst {type : String} (hc : c ∉ " const*".toList) (htype : Lacks c type) :
    Lacks c (pointsToConst type) := by
  have key : ∀ t : List Char, c ∉ t → c ∉ Text.replaceFirst '*' " const*".toList t := by
    intro t
    induction t with
    | nil => exact fun h => h
    | cons d t ih =>
      intro h
      obtain ⟨hd, ht⟩ := ne_and_not_mem_of_not_mem_cons h
      unfold Text.replaceFirst
      split
      · exact fun hmem => (mem_append.mp hmem).elim hc ht
      · exact fun hmem => (mem_cons.mp hmem).elim hd (ih ht)
  exact .ofList (key _ htype.notMem)

theorem lacks_dropTrailing {t : String} (d : Char) (h : Lacks c t) :
    Lacks c (String.ofList (Text.dropTrailing d t.toList)) := by
  refine .ofList fun hmem => h.notMem ?_
  have hmem := (dropWhile_sublist _).mem (mem_reverse.mp hmem)
  exact mem_reverse.mp hmem

namespace Expectation

theorem lacks_loaderActual (hc : c ∉ ", 1".toList) (hname : Lacks c a.name) :
    Lacks c (loaderActual s a) := by
  unfold loaderActual
  split
  · exact hname.append (.ofSubset hc (by decide))
  · split
    · exact (hname.append (.ofSubset hc (by decide))).append hname
    · exact hname

end Expectation

namespace Plugin

theorem lacks_arrayActuals {args : List Argument} (hc : c ∉ ", (_Depth)".toList)
    (hname : ∀ a ∈ args, Lacks c a.name) :
    Lacks c (commas (args.map fun a =>
      if a.isPtr then a.name ++ ", (" ++ a.name ++ "_Depth)" else a.name)) := by
  refine .commas_map (fun h => hc (by simp at h ⊢; tauto)) fun a ha => ?_
  have hname := hname a ha
  split
  · apply_rules [append] <;> exact .ofSubset hc (by decide)
  · exact hname

theorem lacks_pointeeSize (hc : c ∉ "sizeof(*)".toList) (htype : Lacks c a.type)
    (hname : Lacks c a.name) : Lacks c (pointeeSize s a) := by
  have hpointee : Lacks c (String.ofList a.type.toList.dropLast) :=
    .ofList fun h => htype.notMem ((dropLast_sublist _).mem h)
  unfold pointeeSize
  simp only [toString_text]
  split
  · apply_rules [append] <;> exact .ofSubset hc (by decide)
  · apply_rules [append] <;> exact .ofSubset hc (by decide)

theorem lacks_callbackParameters {p : Prototype} (hc : c ∉ "void, it cmock_num_calls".toList)
    (hparams : Lacks c p.argsString) : Lacks c (callbackParameters s p) := by
  unfold callbackParameters
  simp only [toString_text]
  split
  · exact .ofSubset hc (by decide)
  · exact .ofSubset hc (by decide)
  · exact hparams
  · exact hparams.append (.ofSubset hc (by decide))

end Plugin

end MockGen
