import MockGen.Code
import MockGen.Prototype
import MockGen.Proofs.Text.Words
import Mathlib.Tactic.MkIffOfInductiveProp

/-!
# Texts without a character

Texts in which a character does not occur, and how such texts are put together.  Generated code is
made of fixed texts, of which this is checked, and of the texts of a prototype.
-/

namespace MockGen

namespace Code

structure Lacks (c : Char) (t : String) : Prop where
  notMem : c ∉ t.toList

instance (c : Char) (t : String) : Decidable (Lacks c t) :=
  decidable_of_iff (c ∉ t.toList) ⟨.mk, Lacks.notMem⟩

namespace Lacks

variable {c : Char} {t u : String}

theorem ofList {l : List Char} (h : c ∉ l) : Lacks c (String.ofList l) := by
  constructor
  simpa using h

theorem fixed {l : List Char} (h : l.contains c = false) : Lacks c (String.ofList l) :=
  ofList (by simpa using h)

theorem ofSubset {l m : List Char} (hc : c ∉ l) (h : m ⊆ l) : Lacks c (String.ofList m) :=
  ofList fun hm => hc (h hm)

theorem append (ht : Lacks c t) (hu : Lacks c u) : Lacks c (t ++ u) := by
  constructor
  simp [ht.notMem, hu.notMem]

theorem intercalate {sep : String} {items : List String} (hsep : Lacks c sep)
    (h : ∀ t ∈ items, Lacks c t) : Lacks c (sep.intercalate items) := by
  constructor
  rw [String.toList_intercalate]
  intro hmem
  rcases Text.mem_or_mem_of_mem_intercalate hmem with hmem | ⟨t, ht, hmem⟩
  · exact hsep.notMem hmem
  · obtain ⟨u, hu, rfl⟩ := List.mem_map.mp ht
    exact (h u hu).notMem hmem

theorem commas_map {α : Type} {l : List α} {f : α → String} (hc : c ∉ [',', ' '])
    (h : ∀ a ∈ l, Lacks c (f a)) : Lacks c (commas (l.map f)) := by
  refine intercalate (ofList hc) fun t ht => ?_
  obtain ⟨a, ha, rfl⟩ := List.mem_map.mp ht
  exact h a ha

theorem callField {name : String} (hc : c ∉ "cmock_call_instance->".toList)
    (hname : Lacks c name) : Lacks c (callField name) := by
  unfold Code.callField
  exact (ofList hc).append hname

theorem mockField {f name : String} (hc : c ∉ "Mock._".toList) (hf : Lacks c f)
    (hname : Lacks c name) : Lacks c (mockField f name) := by
  unfold Code.mockField
  exact (((ofSubset hc (by decide)).append hf).append (ofSubset hc (by decide))).append hname

end Lacks

theorem concat_ne_nil {α : Type} {l : List α} {f : α → String} {a : α} (ha : a ∈ l)
    (h : (f a).toList ≠ []) : (concat (l.map f)).toList ≠ [] := by
  induction l with
  | nil => cases ha
  | cons b l ih =>
    rw [List.map_cons, concat_cons, String.toList_append]
    rcases List.mem_cons.mp ha with rfl | ha
    · exact List.append_ne_nil_of_left_ne_nil h _
    · exact List.append_ne_nil_of_right_ne_nil _ (ih ha)

@[simp] theorem toString_text (t : String) : toString t = t := rfl

end Code

/-- No text of the prototype has the character `c`. -/
@[mk_iff]
structure Prototype.Lacks (c : Char) (p : Prototype) : Prop where
  name : Code.Lacks c p.name
  unscopedName : Code.Lacks c p.unscopedName
  namespaces : ∀ t ∈ p.namespaces, Code.Lacks c t
  className : ∀ t ∈ p.className, Code.Lacks c t
  modifier : Code.Lacks c p.modifier
  callingConvention : ∀ t ∈ p.callingConvention, Code.Lacks c t
  returnedType : Code.Lacks c p.returned.type
  returnedName : Code.Lacks c p.returned.name
  returnedStr : Code.Lacks c p.returned.str
  argType : ∀ a ∈ p.args, Code.Lacks c a.type
  argName : ∀ a ∈ p.args, Code.Lacks c a.name
  argsString : Code.Lacks c p.argsString
  argsCall : Code.Lacks c p.argsCall
  varArg : ∀ t ∈ p.varArg, Code.Lacks c t

instance (c : Char) (p : Prototype) : Decidable (p.Lacks c) :=
  decidable_of_iff _ (Prototype.lacks_iff c p).symm

end MockGen
