import MockGen.Proofs.Text.Directives
import Mathlib.Data.List.DropRight

/-!
# References and fields

References of generated code to fields, and the fields that it declares.  A reference is a name
behind a mark; in a text that is put together, the name ends where the next text begins with a
character that is in no name.
-/

namespace MockGen.Code

open List Text
open String hiding append_assoc length_append

def isNameChar (c : Char) : Bool :=
  c.isAlphanum || c == '_'

/-- A text that is made of characters of names. -/
structure IsName (t : String) : Prop where
  all : ∀ c ∈ t.toList, isNameChar c = true

instance (t : String) : Decidable (IsName t) :=
  decidable_of_iff (∀ c ∈ t.toList, isNameChar c = true) ⟨.mk, IsName.all⟩

variable {t name : String} {x : List Char}

namespace IsName

variable {t u : String}

theorem fixed {l : List Char} (h : l.all isNameChar = true) : IsName (String.ofList l) := by
  constructor
  simpa using h

theorem append (ht : IsName t) (hu : IsName u) : IsName (t ++ u) := by
  constructor
  intro c hc
  rw [toList_append, mem_append] at hc
  exact hc.elim (ht.all c) (hu.all c)

theorem lacks (h : IsName t) {c : Char} (hc : isNameChar c = false) : Lacks c t :=
  ⟨fun hmem => Bool.false_ne_true (hc.symm.trans (h.all c hmem))⟩

end IsName

/-! ## Fields of a struct -/

/-- The field that a line of a struct declares: such a line begins with a blank and ends in the name
and a semicolon. -/
def field? (line : List Char) : Option (List Char) :=
  if line.head? == some ' ' && line.getLast? == some ';' then
    some (line.dropLast.rtakeWhile isNameChar)
  else none

/-- The fields that the lines of a text declare. -/
def fieldsIn (t : String) : List (List Char) :=
  (Text.splitAt '\n' t.toList).filterMap field?

theorem field?_eq {line front name : List Char}
    (hline : line = ' ' :: front ++ ' ' :: name ++ [';'])
    (hname : ∀ c ∈ name, isNameChar c = true) : field? line = some name := by
  subst hline
  have hends : (' ' :: front ++ ' ' :: name).reverse =
      name.reverse ++ ' ' :: (' ' :: front).reverse := by
    simp
  rw [field?, getLast?_concat, dropLast_concat, List.rtakeWhile, hends,
    takeWhile_append_of_pos (by simpa using hname), takeWhile_cons_of_neg (by decide)]
  simp

theorem fieldsIn_append (ht : Ended t.toList) (u : String) :
    fieldsIn (t ++ u) = fieldsIn t ++ fieldsIn u := by
  unfold fieldsIn
  rcases ht with hnil | hlast
  · simp [hnil, Text.splitAt, splitFrom, field?]
  · obtain ⟨x, hx⟩ := getLast?_eq_some_iff.mp hlast
    rw [toList_append, hx, append_assoc, singleton_append,
      splitAt_append_cons, splitAt_append_cons]
    simp [Text.splitAt, splitFrom, field?]

theorem ended_lines (ls : List String) : Ended (lines ls).toList := by
  induction ls with
  | nil => exact .inl rfl
  | cons l ls ih =>
    rw [lines_cons, toList_append]
    exact .append (by rw [toList_append]; exact .append_last _ rfl) ih

theorem mem_fieldsIn_lines {ls : List String} (line front : String) (hmem : line ∈ ls)
    (hline : line.toList = ' ' :: front.toList ++ ' ' :: name.toList ++ [';'])
    (hfront : Lacks '\n' front) (hname : IsName name) : name.toList ∈ fieldsIn (lines ls) := by
  induction ls with
  | nil => cases hmem
  | cons l ls ih =>
    rw [lines_cons, fieldsIn_append (by simpa using ended_lines [l]), mem_append]
    rcases mem_cons.mp hmem with rfl | hmem
    · have hbreak : '\n' ∉ line.toList := by
        rw [hline]
        simp [hfront.notMem, (hname.lacks (c := '\n') (by decide)).notMem]
      have hsplit : Text.splitAt '\n' (line ++ "\n").toList = [line.toList, []] := by
        have hend := splitAt_append_cons '\n' line.toList []
        rw [splitAt_of_notMem hbreak] at hend
        rw [toList_append]
        exact hend
      left
      rw [fieldsIn, hsplit, filterMap_cons, field?_eq hline hname.all]
      exact mem_cons_self
    · exact .inr (ih hmem)

theorem intercalate_cons (sep t : String) (ts : List String) :
    sep.intercalate (t :: ts) = t ++ concat (ts.map (sep ++ ·)) := by
  induction ts generalizing t with
  | nil => simp
  | cons u ts ih =>
    rw [String.intercalate_cons_cons, ih u, map_cons, concat_cons]
    simp only [String.append_assoc]

theorem intercalate_flatMap {α : Type} {sep : String} {f : α → List String} (hf : ∀ a, f a ≠ [])
    (l : List α) :
    sep.intercalate (l.flatMap f) = sep.intercalate (l.map fun a => sep.intercalate (f a)) := by
  induction l with
  | nil => rfl
  | cons a l ih =>
    cases l with
    | nil => simp
    | cons b l =>
      have hrest : (b :: l).flatMap f ≠ [] := by simp [hf b]
      rw [flatMap_cons, intercalate_append_of_ne_nil (hf a) hrest, ih, map_cons,
        map_cons, map_cons, String.intercalate_cons_cons]

section

variable {ts : List String} (h : ∀ t ∈ ts, Ended t.toList)

include h

theorem ended_concat : Ended (concat ts).toList := by
  induction ts with
  | nil => exact .inl rfl
  | cons t ts ih =>
    rw [forall_mem_cons] at h
    rw [concat_cons, toList_append]
    exact h.1.append (ih h.2)

theorem mem_fieldsIn_concat (ht : t ∈ ts) (hx : x ∈ fieldsIn t) : x ∈ fieldsIn (concat ts) := by
  induction ts with
  | nil => cases ht
  | cons u ts ih =>
    rw [forall_mem_cons] at h
    rw [concat_cons, fieldsIn_append h.1, mem_append]
    rcases mem_cons.mp ht with rfl | ht
    · exact .inl hx
    · exact .inr (ih h.2 ht)

theorem ended_newline_append : ∀ t ∈ ts.map ("\n" ++ ·), Ended t.toList := by
  intro t ht
  obtain ⟨u, hu, rfl⟩ := mem_map.mp ht
  rw [toList_append]
  exact .append (.inr rfl) (h u hu)

theorem ended_intercalate : Ended ("\n".intercalate ts).toList := by
  cases ts with
  | nil => exact .inl rfl
  | cons t ts =>
    rw [forall_mem_cons] at h
    rw [intercalate_cons, toList_append]
    exact h.1.append (ended_concat (ended_newline_append h.2))

theorem mem_fieldsIn_intercalate (ht : t ∈ ts) (hx : x ∈ fieldsIn t) :
    x ∈ fieldsIn ("\n".intercalate ts) := by
  cases ts with
  | nil => cases ht
  | cons u ts =>
    rw [forall_mem_cons] at h
    rw [intercalate_cons, fieldsIn_append h.1, mem_append]
    rcases mem_cons.mp ht with rfl | ht
    · exact .inl hx
    · refine .inr (mem_fieldsIn_concat (ended_newline_append h.2) (mem_map_of_mem ht) ?_)
      rw [fieldsIn_append (.inr rfl)]
      exact mem_append_right _ hx

end

/-! ## References -/

/-- The name behind some mark in the text. -/
def Refers (mark t : String) (x : List Char) : Prop :=
  ∃ a b, t.toList = a ++ mark.toList ++ b ∧ x = b.takeWhile isNameChar

theorem Refers.of_isInfix {mark : String} {c : Char} (hname : IsName name)
    (hc : isNameChar c = false) (h : mark.toList ++ name.toList ++ [c] <:+: t.toList) :
    Refers mark t name.toList := by
  obtain ⟨a, b, ht⟩ := h
  refine ⟨a, name.toList ++ c :: b, by simp [← ht], ?_⟩
  rw [takeWhile_append_of_pos hname.all, takeWhile_cons_of_neg (by simp [hc]),
    append_nil]

/-- Fields that code may refer to: those of the call instance at hand, and those of the mock. -/
structure Fields where
  call : List (List Char)
  mock : List (List Char)

/-- A text that begins with a character that is in no name. -/
structure Stops (t : String) : Prop where
  head : ∃ c, t.toList.head? = some c ∧ isNameChar c = false

/-- A text begins with one of the given names, and the name ends inside the text. -/
structure Names (fields : List (List Char)) (t : List Char) : Prop where
  mem : t.takeWhile isNameChar ∈ fields
  ends : t.dropWhile isNameChar ≠ []

namespace Names

variable {fields : List (List Char)}

theorem of_isName {u : String} (hname : IsName name) (h : name.toList ∈ fields) (hu : Stops u) :
    Names fields (name.toList ++ u.toList) := by
  obtain ⟨c, hc, hstop⟩ := hu.head
  obtain ⟨v, hv⟩ := head?_eq_some_iff.mp hc
  constructor
  · rw [takeWhile_append_of_pos hname.all, hv, takeWhile_cons_of_neg (by simp [hstop]),
      append_nil]
    exact h
  · rw [dropWhile_append_of_pos hname.all, hv, dropWhile_cons_of_neg (by simp [hstop])]
    exact cons_ne_nil c v

theorem append {t : List Char} (h : Names fields t) (u : List Char) : Names fields (t ++ u) := by
  have hlength : (t.takeWhile isNameChar).length ≠ t.length := by
    intro hlength
    have hsplit := congrArg List.length (takeWhile_append_dropWhile (p := isNameChar) (l := t))
    rw [length_append, hlength] at hsplit
    exact h.ends (length_eq_zero_iff.mp (by omega))
  constructor
  · rw [takeWhile_append, if_neg hlength]
    exact h.mem
  · rw [dropWhile_append, if_neg (by simpa using h.ends)]
    exact append_ne_nil_of_left_ne_nil h.ends u

theorem of_newline (h : Names fields (x ++ ['\n'])) {u : String} (hu : Stops u) :
    Names fields (x ++ u.toList) := by
  obtain ⟨c, hc, hstop⟩ := hu.head
  obtain ⟨v, hv⟩ := head?_eq_some_iff.mp hc
  have hmem := h.mem
  rw [takeWhile_append, takeWhile_cons_of_neg (by decide), append_nil] at hmem
  have hstops : (c :: v).dropWhile isNameChar ≠ [] := by
    rw [dropWhile_cons_of_neg (by simp [hstop])]
    exact cons_ne_nil c v
  constructor
  · rw [hv, takeWhile_append, takeWhile_cons_of_neg (by simp [hstop]), append_nil]
    exact hmem
  · rw [hv, dropWhile_append]
    split
    · exact hstops
    · exact append_ne_nil_of_right_ne_nil _ (cons_ne_nil c v)

end Names

/-- All references in a text are to the given fields, and end inside the text. -/
structure Settles (F : Fields) (t : List Char) : Prop where
  call : ∀ a b, t = a ++ '-' :: '>' :: b → Names F.call b
  mock : ∀ a b, t = a ++ '.' :: b → Names F.mock b

/-- All references in a text are to the given fields, also when a dash stands in front of it. -/
structure Resolves (F : Fields) (t : String) : Prop extends Settles F t.toList where
  head : t.toList.head? ≠ some '>'

/-- All references in a text are to the given fields if the last one is stopped by what follows. -/
def Opens (F : Fields) (t : String) : Prop :=
  ∀ ⦃u⦄, Resolves F u → Stops u → Resolves F (t ++ u)

namespace Settles

variable {F : Fields} {t u : List Char}

theorem empty : Settles F [] :=
  ⟨by simp, by simp⟩

theorem cons {c : Char} (hc : c ≠ '.') (hdash : c = '-' → u.head? ≠ some '>')
    (h : Settles F u) : Settles F (c :: u) where
  call a b hab := by
    rcases cons_eq_append_iff.mp hab with ⟨-, hfirst⟩ | ⟨x, -, hrest⟩
    · obtain ⟨rfl, rfl⟩ := List.cons.inj hfirst
      exact absurd rfl (hdash rfl)
    · exact h.call x b hrest
  mock a b hab := by
    rcases cons_eq_append_iff.mp hab with ⟨-, hfirst⟩ | ⟨x, -, hrest⟩
    · exact absurd (List.cons.inj hfirst).1.symm hc
    · exact h.mock x b hrest

theorem append_of (hcall : ∀ a x, t = a ++ '-' :: '>' :: x → Names F.call (x ++ u))
    (hmock : ∀ a x, t = a ++ '.' :: x → Names F.mock (x ++ u)) (hu : Settles F u)
    (hhead : u.head? ≠ some '>') : Settles F (t ++ u) where
  call a b h := by
    rcases List.append_eq_append_iff.mp h with ⟨x, rfl, hx⟩ | ⟨x, hx, hb⟩
    · exact hu.call x b hx
    · rcases x with _ | ⟨c, _ | ⟨d, x⟩⟩
      · exact hu.call [] b hb.symm
      · -- an arrow does not begin in one text and end in the next
        obtain ⟨-, hb⟩ := List.cons.inj hb
        exact absurd (congrArg List.head? hb.symm) hhead
      · obtain ⟨hc, hb⟩ := List.cons.inj hb
        obtain ⟨hd, rfl⟩ := List.cons.inj hb
        exact hcall a x (by rw [hx, hc, hd])
  mock a b h := by
    rcases List.append_eq_append_iff.mp h with ⟨x, rfl, hx⟩ | ⟨x, hx, hb⟩
    · exact hu.mock x b hx
    · rcases x with _ | ⟨c, x⟩
      · exact hu.mock [] b hb.symm
      · obtain ⟨hc, rfl⟩ := List.cons.inj hb
        exact hmock a x (by rw [hx, hc])

end Settles

namespace Resolves

variable {F : Fields} {t u : String}

theorem of_lacks (harrow : Lacks '>' t) (hdot : Lacks '.' t) : Resolves F t where
  call a b h := absurd (by simp [h]) harrow.notMem
  mock a b h := absurd (by simp [h]) hdot.notMem
  head h := harrow.notMem (mem_of_mem_head? h)

theorem of_isName (h : IsName t) : Resolves F t :=
  of_lacks (h.lacks (by decide)) (h.lacks (by decide))

theorem append_of (hcall : ∀ a x, t.toList = a ++ '-' :: '>' :: x → Names F.call (x ++ u.toList))
    (hmock : ∀ a x, t.toList = a ++ '.' :: x → Names F.mock (x ++ u.toList))
    (hhead : t.toList.head? ≠ some '>') (hu : Resolves F u) : Resolves F (t ++ u) where
  toSettles := by
    rw [toList_append]
    exact .append_of hcall hmock hu.toSettles hu.head
  head := by
    rw [toList_append]
    cases hlist : t.toList with
    | nil => exact hu.head
    | cons c v => rwa [hlist] at hhead

theorem append (ht : Resolves F t) (hu : Resolves F u) : Resolves F (t ++ u) :=
  append_of (fun a x h => (ht.call a x h).append _) (fun a x h => (ht.mock a x h).append _) ht.head
    hu

theorem opens (h : Resolves F t) : Opens F t :=
  fun _ hu _ => h.append hu

end Resolves

namespace Settles

variable {F : Fields} {t : String} (h : Settles F t.toList)

include h

theorem mem_call (hx : Refers "cmock_call_instance->" t x) : x ∈ F.call := by
  obtain ⟨a, b, ht, rfl⟩ := hx
  exact (h.call (a ++ "cmock_call_instance".toList) b (by simp [ht])).mem

theorem mem_mock (hx : Refers "Mock." t x) : x ∈ F.mock := by
  obtain ⟨a, b, ht, rfl⟩ := hx
  exact (h.mock (a ++ "Mock".toList) b (by simp [ht])).mem

end Settles

namespace Opens

variable {F : Fields} {name : String}

theorem of_newline (h : Resolves F (t ++ "\n")) : Opens F t := by
  intro u hu hstops
  have hline : (t ++ "\n").toList = t.toList ++ ['\n'] := toList_append
  refine .append_of (fun a x hx => ?_) (fun a x hx => ?_) (fun hhead => ?_) hu
  · exact (h.call a (x ++ ['\n']) (by simp [hx])).of_newline hstops
  · exact (h.mock a (x ++ ['\n']) (by simp [hx])).of_newline hstops
  · exact h.head (by rw [hline, head?_append, hhead, Option.some_or])

theorem callField (hname : IsName name) (h : name.toList ∈ F.call) :
    Opens F (callField name) := by
  intro u hu hstops
  refine .append_of (fun a x hsplit => ?_) (fun a x hsplit => ?_) (by simp [Code.callField]) hu
  · have hsplit : "cmock_call_instance-".toList ++ '>' :: name.toList =
        (a ++ ['-']) ++ '>' :: x := by
      simpa [Code.callField] using hsplit
    rw [append_cons_inj_of_notMem (by decide) (hname.lacks (by decide)).notMem] at hsplit
    exact hsplit.2.2 ▸ .of_isName hname h hstops
  · have hdot : Lacks '.' (Code.callField name) := .callField (by decide) (hname.lacks (by decide))
    exact absurd (by simp [hsplit]) hdot.notMem

theorem mockField {f : String} (hf : IsName f) (hname : IsName name)
    (h : (f ++ "_" ++ name).toList ∈ F.mock) : Opens F (mockField f name) := by
  intro u hu hstops
  refine .append_of (fun a x hsplit => ?_) (fun a x hsplit => ?_) (by simp [Code.mockField]) hu
  · have harrow : Lacks '>' (Code.mockField f name) :=
      .mockField (by decide) (hf.lacks (by decide)) (hname.lacks (by decide))
    exact absurd (by simp [hsplit]) harrow.notMem
  · have hfull : IsName (f ++ "_" ++ name) := (hf.append (.fixed rfl)).append hname
    have hsplit : "Mock".toList ++ '.' :: (f ++ "_" ++ name).toList = a ++ '.' :: x := by
      simpa [Code.mockField] using hsplit
    rw [append_cons_inj_of_notMem (by decide) (hfull.lacks (by decide)).notMem] at hsplit
    exact hsplit.2.2 ▸ .of_isName hfull h hstops

end Opens

end MockGen.Code
