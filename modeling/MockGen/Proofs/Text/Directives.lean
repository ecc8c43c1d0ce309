import MockGen.Proofs.Text.Lacks
import Mathlib.Data.List.Infix

/-!
# Directives at the starts of lines

A text in which every number sign leads a line has no directive inside a line, and such texts can be
put together wherever the first one ends its last line.
-/

namespace MockGen.Code

open List String

def directives : List (List Char) :=
  ["#define", "#include", "#if", "#ifdef", "#ifndef", "#pragma", "#endif"].map String.toList

def Directive (t : List Char) : Prop :=
  ∃ word ∈ directives, word <+: t

/-- Every directive stands at the start of the text or directly behind a line end. -/
def Aligned (t : List Char) : Prop :=
  ∀ a b, t = a ++ b → Directive b → a = [] ∨ a.getLast? = some '\n'

/-- A text that ends its last line, if there is any text. -/
def Ended (t : List Char) : Prop :=
  t = [] ∨ t.getLast? = some '\n'

/-- Every number sign stands at the start of the text or directly behind a line end. -/
structure Led (t : String) : Prop where
  ended : ∀ a b, t.toList = a ++ '#' :: b → Ended a

namespace Directive

variable {t u : List Char}

theorem append (h : Directive t) : Directive (t ++ u) := by
  obtain ⟨word, hword, hprefix⟩ := h
  exact ⟨word, hword, hprefix.trans (prefix_append t u)⟩

theorem define : Directive "#define ".toList :=
  ⟨"#define".toList, mem_cons_self, by decide⟩

theorem append_text {t u : String} (h : Directive t.toList) : Directive (t ++ u).toList := by
  rw [toList_append]
  exact h.append

theorem exists_cons (h : Directive t) : ∃ u, t = '#' :: u := by
  have hhead : ∀ word ∈ directives, word.head? = some '#' := by decide
  obtain ⟨word, hword, rest, rfl⟩ := h
  obtain ⟨tail, rfl⟩ := head?_eq_some_iff.mp (hhead word hword)
  exact ⟨tail ++ rest, cons_append⟩

theorem ne_nil (h : Directive t) : t ≠ [] := by
  obtain ⟨u, rfl⟩ := h.exists_cons
  exact cons_ne_nil _ _

theorem of_append (ht : t.getLast? = some '\n') (h : Directive (t ++ u)) : Directive t := by
  have hline : ∀ word ∈ directives, '\n' ∉ word := by decide
  obtain ⟨word, hword, hprefix⟩ := h
  rcases List.prefix_or_prefix_of_prefix hprefix (prefix_append t u) with hshort | hlong
  · exact ⟨word, hword, hshort⟩
  · exact absurd (hlong.mem (mem_of_getLast? ht)) (hline word hword)

end Directive

namespace Ended

variable {t u : List Char}

theorem append_last (t : List Char) (hu : u.getLast? = some '\n') : Ended (t ++ u) :=
  .inr (by rw [getLast?_append, hu, Option.some_or])

theorem append (ht : Ended t) (hu : Ended u) : Ended (t ++ u) := by
  rcases hu with rfl | hu
  · rwa [append_nil]
  · exact append_last t hu

end Ended

namespace Led

variable {t u : String}

theorem of_tail (h : '#' ∉ t.toList.tail) : Led t := by
  constructor
  rintro (_ | ⟨c, a⟩) b ht
  · exact .inl rfl
  · exact absurd (by simp [ht]) h

theorem fixed {l : List Char} (h : l.tail.contains '#' = false) : Led (String.ofList l) :=
  of_tail (by simpa using h)

theorem append_of (ht : Led t) (hu : Led u) (h : Ended t.toList ∨ u.toList.head? ≠ some '#') :
    Led (t ++ u) := by
  constructor
  intro a b hab
  rw [toList_append] at hab
  rcases List.append_eq_append_iff.mp hab with ⟨x, rfl, hx⟩ | ⟨x, hx, hb⟩
  · have hxend := hu.ended x b hx
    rcases h with h | h
    · exact h.append hxend
    · rcases hxend with rfl | hxend
      · rw [hx] at h
        exact absurd rfl h
      · exact .append_last _ hxend
  · cases x with
    | nil =>
      rw [append_nil] at hx
      rw [nil_append] at hb
      rcases h with h | h
      · exact hx ▸ h
      · rw [← hb] at h
        exact absurd rfl h
    | cons c x =>
      rw [cons_append] at hb
      obtain ⟨rfl, -⟩ := List.cons.inj hb
      exact ht.ended a x hx

theorem of_append (h : Led (t ++ u)) : Led t := by
  constructor
  intro a b hab
  exact h.ended a (b ++ u.toList) (by rw [toList_append, hab]; simp)

theorem of_lacks (h : Lacks '#' t) : Led t :=
  ⟨fun a b hab => absurd (by simp [hab]) h.notMem⟩

theorem append (ht : Led t) (hu : Lacks '#' u) : Led (t ++ u) :=
  ht.append_of (of_lacks hu) (.inr fun hhead => hu.notMem (mem_of_mem_head? hhead))

end Led

/-! ## Whole lines -/

/-- Whole lines in which number signs stand only at the start. -/
structure Whole (t : String) : Prop extends Led t where
  last : Ended t.toList

namespace Whole

variable {t u : String}

theorem empty : Whole "" :=
  ⟨.fixed rfl, .inl rfl⟩

theorem append_led (ht : Whole t) (hu : Led u) : Led (t ++ u) :=
  ht.toLed.append_of hu (.inl ht.last)

theorem append (ht : Whole t) (hu : Whole u) : Whole (t ++ u) :=
  ⟨ht.append_led hu.toLed, by
    rw [toList_append]
    exact ht.last.append hu.last⟩

theorem line (ht : Led t) : Whole (t ++ "\n") :=
  ⟨ht.append (.fixed rfl), .inr (by simp)⟩

theorem nil : Whole (lines []) :=
  empty

theorem cons {l : String} {ls : List String} (hl : Led l) (hls : Whole (lines ls)) :
    Whole (lines (l :: ls)) :=
  (line hl).append hls

theorem lines {ls : List String} (h : ∀ l ∈ ls, Led l) : Whole (lines ls) := by
  induction ls with
  | nil => exact nil
  | cons l ls ih =>
    exact cons (h l mem_cons_self) (ih fun m hm => h m (mem_cons_of_mem _ hm))

theorem concat_map {α : Type} {l : List α} {f : α → String} (h : ∀ a ∈ l, Whole (f a)) :
    Whole (concat (l.map f)) :=
  concat_of_forall empty append (forall_mem_map.mpr h)

end Whole

/-! ## Directives in a text that is put together -/

namespace Aligned

variable {t u : List Char}

theorem of_led {t : String} (h : Led t) : Aligned t.toList := by
  intro a b hab hb
  obtain ⟨rest, rfl⟩ := hb.exists_cons
  exact h.ended a rest hab

theorem of_append (h : Aligned (t ++ u)) : Aligned t := by
  rintro a b rfl hb
  exact h a (b ++ u) (append_assoc ..) hb.append

theorem append_led {t u : String} (ht : Aligned t.toList) (hlast : t.toList.getLast? = some '\n')
    (hu : Led u) : Aligned (t ++ u).toList := by
  intro a b hab hb
  rw [toList_append] at hab
  rcases List.append_eq_append_iff.mp hab with ⟨x, rfl, hx⟩ | ⟨x, hx, rfl⟩
  · obtain ⟨rest, rfl⟩ := hb.exists_cons
    exact Ended.append (.inr hlast) (hu.ended x rest hx)
  · rcases eq_nil_or_concat' x with rfl | ⟨x, c, rfl⟩
    · rw [append_nil] at hx
      exact .inr (hx ▸ hlast)
    · have hc : (x ++ [c]).getLast? = some '\n' := by
        rw [hx, getLast?_append] at hlast
        simpa using hlast
      exact ht a _ hx (hb.of_append hc)

end Aligned

end MockGen.Code
