import MockGen.Plugin.Interfaces
import MockGen.Proofs.Text.Lacks
import Mathlib.Data.List.TakeDrop

/-!
# Functions that code declares and defines

The functions that generated code declares and defines, read off its lines.  Two texts agree if the
first declares the functions that the second defines, whatever follows them; agreement goes along
with putting texts together.
-/

namespace MockGen.Code

open List Text

/-- The name and the parameters in `void NAME(PARAMETERS)`. -/
def signature? (line : List Char) : Option (List Char × List Char) :=
  if "void ".toList.isPrefixOf line && line.getLast? == some ')' then
    match (line.drop 5).span (· != '(') with
    | (name, _ :: parameters) => some (name, parameters.dropLast)
    | _ => none
  else none

/-- The name and the parameters in `void NAME(PARAMETERS);`. -/
def prototype? (line : List Char) : Option (List Char × List Char) :=
  if line.getLast? == some ';' then signature? line.dropLast else none

/-- The functions that are declared on lines of their own. -/
def prototypesIn (t : List Char) : List (List Char × List Char) :=
  (splitAt '\n' t).filterMap prototype?

/-- The functions whose header is one of the lines, with a line behind it that opens a body. -/
def headersOf : List (List Char) → List (List Char × List Char)
  | line :: next :: rest =>
    if next.head? == some '\x7b' then (signature? line).toList ++ headersOf (next :: rest)
    else headersOf (next :: rest)
  | _ => []

def headersIn (t : List Char) : List (List Char × List Char) :=
  headersOf (splitAt '\n' t)

/-! ## Single lines -/

/-- The beginning of a line that is neither a declaration nor the header of a function. -/
structure Silent (t : String) : Prop extends Lacks '\n' t where
  head : ∃ c, t.toList.head? = some c ∧ c ≠ 'v'

variable {line t : List Char} {ls : List String} {α : Type} {l : List α}

namespace Silent

theorem append {t u : String} (ht : Silent t) (hu : Lacks '\n' u) : Silent (t ++ u) := by
  obtain ⟨c, hc, hv⟩ := ht.head
  exact ⟨ht.toLacks.append hu, c, by simp [hc], hv⟩

theorem fixed {c : Char} {l : List Char} (h : ((c :: l).contains '\n' || c == 'v') = false) :
    Silent (String.ofList (c :: l)) := by
  rw [Bool.or_eq_false_iff, beq_eq_false_iff_ne] at h
  exact ⟨.fixed h.1, c, by simp, h.2⟩

theorem head_ne {t : String} (h : Silent t) : t.toList.head? ≠ some 'v' := by
  obtain ⟨c, hc, hv⟩ := h.head
  simp [hc, hv]

end Silent

/-- The line that declares a function with the given header. -/
structure Closed (header line : String) : Prop where
  eq_append : line = header ++ ";"

namespace Closed

theorem append {t u : String} (h : Closed t u) (a : String) : Closed (a ++ t) (a ++ u) := by
  obtain ⟨rfl⟩ := h
  exact ⟨(String.append_assoc ..).symm⟩

theorem ofList (l : List Char) : Closed (String.ofList l) (String.ofList (l ++ [';'])) :=
  ⟨String.ofList_append⟩

end Closed

theorem signature?_eq_none (h : line.head? ≠ some 'v') : signature? line = none := by
  have hvoid : "void ".toList.isPrefixOf line = false := by
    cases line with
    | nil => rfl
    | cons c rest =>
      have hc : c ≠ 'v' := by simpa using h
      have hv : ('v' == c) = false := beq_eq_false_iff_ne.mpr hc.symm
      simp [List.isPrefixOf, hv]
  rw [signature?, hvoid]
  rfl

theorem span_bracket (h : '(' ∉ t) (rest : List Char) :
    (t ++ '(' :: rest).span (· != '(') = (t, '(' :: rest) := by
  have hne : ∀ c ∈ t, (c != '(') = true := fun c hc => by
    simpa using ne_of_mem_of_not_mem hc h
  rw [span_eq_takeWhile_dropWhile, takeWhile_append_of_pos hne,
    dropWhile_append_of_pos hne]
  simp

theorem signature?_eq_some {name : List Char} (h : '(' ∉ name) (parameters : List Char) :
    signature? ("void ".toList ++ (name ++ '(' :: parameters ++ [')'])) =
      some (name, parameters) := by
  have hprefix : "void ".toList.isPrefixOf
      ("void ".toList ++ (name ++ '(' :: parameters ++ [')'])) = true := by
    rw [List.isPrefixOf_iff_prefix]
    exact prefix_append _ _
  have hlast : ("void ".toList ++ (name ++ '(' :: parameters ++ [')'])).getLast? = some ')' := by
    rw [← append_assoc, getLast?_append, getLast?_singleton, Option.some_or]
  have hdrop : ("void ".toList ++ (name ++ '(' :: parameters ++ [')'])).drop 5 =
      name ++ '(' :: (parameters ++ [')']) := by
    rw [append_assoc, cons_append]
    rfl
  rw [signature?, hprefix, hlast, hdrop, span_bracket h]
  simp

theorem signature?_ne_none (h : '(' ∈ t) : signature? ("void ".toList ++ (t ++ [')'])) ≠ none := by
  obtain ⟨name, rest, rfl, hname⟩ := eq_append_cons_of_mem h
  rw [signature?_eq_some hname]
  exact Option.some_ne_none _

theorem prototype?_eq_none (h : line.head? ≠ some 'v') : prototype? line = none := by
  have hdrop : line.dropLast.head? ≠ some 'v' := by
    rw [head?_dropLast]
    split
    · exact h
    · simp
  rw [prototype?, signature?_eq_none hdrop, ite_self]

theorem prototype?_append_semicolon (header : List Char) :
    prototype? (header ++ ";".toList) = signature? header := by
  simp [prototype?]

/-! ## Line by line -/

theorem prototypesIn_nil : prototypesIn [] = [] := rfl

theorem prototypesIn_append_cons (x y : List Char) :
    prototypesIn (x ++ '\n' :: y) = prototypesIn x ++ prototypesIn y := by
  rw [prototypesIn, splitAt_append_cons, filterMap_append]
  rfl

theorem prototypesIn_line (h : '\n' ∉ line) (rest : List Char) :
    prototypesIn (line ++ '\n' :: rest) = (prototype? line).toList ++ prototypesIn rest := by
  have hline : prototypesIn line = (prototype? line).toList := by
    rw [prototypesIn, splitAt_of_notMem h]
    cases hcase : prototype? line <;> simp [hcase]
  rw [prototypesIn_append_cons, hline]

theorem headersOf_cons (h : signature? line = none) (rest : List (List Char)) :
    headersOf (line :: rest) = headersOf rest := by
  cases rest with
  | nil => rfl
  | cons next rest => simp [headersOf, h]

theorem headersIn_line (h : '\n' ∉ line) (hnone : signature? line = none) (rest : List Char) :
    headersIn (line ++ '\n' :: rest) = headersIn rest := by
  rw [headersIn, headersIn, splitAt_append_cons, splitAt_of_notMem h,
    singleton_append, headersOf_cons hnone]

theorem headersIn_header {header : List Char} (h : '\n' ∉ header) (rest : List Char) :
    headersIn (header ++ '\n' :: (['\x7b'] ++ '\n' :: rest)) =
      (signature? header).toList ++ headersIn rest := by
  have hbrace : signature? ['\x7b'] = none := signature?_eq_none (by simp)
  rw [headersIn, headersIn, splitAt_append_cons, splitAt_of_notMem h,
    splitAt_append_cons, splitAt_of_notMem (by simp : '\n' ∉ ['\x7b']),
    singleton_append, singleton_append, headersOf, headersOf_cons hbrace]
  rfl

theorem toList_lines_cons (line : String) (ls : List String) (rest : List Char) :
    (lines (line :: ls)).toList ++ rest = line.toList ++ '\n' :: ((lines ls).toList ++ rest) := by
  simp

/-- Lines without declarations and headers of functions; they may be empty. -/
inductive SilentLines : List String → Prop
  | nil : SilentLines []
  | blank {ls : List String} : SilentLines ls → SilentLines ("" :: ls)
  | cons {line : String} {ls : List String} : Silent line → SilentLines ls →
      SilentLines (line :: ls)

namespace SilentLines

theorem append {ms : List String} (hls : SilentLines ls) (hms : SilentLines ms) :
    SilentLines (ls ++ ms) := by
  induction hls with
  | nil => exact hms
  | blank _ ih => exact ih.blank
  | cons hline _ ih => exact ih.cons hline

theorem only {condition : Bool} (h : SilentLines ls) : SilentLines (only condition ls) := by
  cases condition with
  | false => exact nil
  | true => exact h

theorem headersIn_append (h : SilentLines ls) (rest : List Char) :
    headersIn ((lines ls).toList ++ rest) = headersIn rest := by
  induction h with
  | nil => rfl
  | blank _ ih => rw [toList_lines_cons, headersIn_line (by simp) rfl, ih]
  | cons hline _ ih =>
    rw [toList_lines_cons, headersIn_line hline.notMem (signature?_eq_none hline.head_ne), ih]

end SilentLines

def SilentText (t : String) : Prop :=
  ∃ ls, t = lines ls ∧ SilentLines ls

namespace SilentText

theorem lines (h : SilentLines ls) : SilentText (lines ls) :=
  ⟨ls, rfl, h⟩

theorem append {t u : String} (ht : SilentText t) (hu : SilentText u) : SilentText (t ++ u) := by
  obtain ⟨ls, rfl, hls⟩ := ht
  obtain ⟨ms, rfl, hms⟩ := hu
  exact ⟨ls ++ ms, (lines_append ls ms).symm, hls.append hms⟩

theorem headersIn_append {t : String} (h : SilentText t) (rest : List Char) :
    headersIn (t.toList ++ rest) = headersIn rest := by
  obtain ⟨ls, rfl, hls⟩ := h
  exact hls.headersIn_append rest

end SilentText

theorem headersIn_function {header body : String} (hheader : Lacks '\n' header)
    (hbody : SilentText body) (rest : List Char) :
    headersIn ((Plugin.function header body).toList ++ rest) =
      (signature? header.toList).toList ++ headersIn rest := by
  have hclose : SilentText (lines ["\x7d", ""]) :=
    .lines (.cons (.fixed rfl) (.blank .nil))
  have htext : (Plugin.function header body).toList ++ rest = header.toList ++ '\n' ::
      (['\x7b'] ++ '\n' :: ((body ++ lines ["\x7d", ""]).toList ++ rest)) := by
    simp [Plugin.function]
  rw [htext, headersIn_header hheader.notMem, (hbody.append hclose).headersIn_append]

/-! ## Agreement -/

/-- The functions that the first text declares are those that the second defines, whatever
follows. -/
def Agree (declared defined : String) : Prop :=
  ∃ functions, ∀ rest,
    prototypesIn (declared.toList ++ rest) = functions ++ prototypesIn rest ∧
    headersIn (defined.toList ++ rest) = functions ++ headersIn rest

namespace Agree

theorem empty : Agree "" "" :=
  ⟨[], fun _ => ⟨rfl, rfl⟩⟩

theorem append {a b c d : String} (h : Agree a b) (k : Agree c d) : Agree (a ++ c) (b ++ d) := by
  obtain ⟨fs, hfs⟩ := h
  obtain ⟨gs, hgs⟩ := k
  refine ⟨fs ++ gs, fun rest => ⟨?_, ?_⟩⟩
  · rw [String.toList_append, append_assoc, (hfs _).1, (hgs _).1, append_assoc]
  · rw [String.toList_append, append_assoc, (hfs _).2, (hgs _).2, append_assoc]

theorem nil : Agree (lines []) "" :=
  empty

theorem blank {t : String} (h : Agree (lines ls) t) : Agree (lines ("" :: ls)) t := by
  obtain ⟨fs, hfs⟩ := h
  refine ⟨fs, fun rest => ⟨?_, (hfs rest).2⟩⟩
  rw [toList_lines_cons, prototypesIn_line (by simp), (hfs rest).1]
  rfl

theorem skip {line : String} {t : String} (hline : Silent line) (h : Agree (lines ls) t) :
    Agree (lines (line :: ls)) t := by
  obtain ⟨fs, hfs⟩ := h
  refine ⟨fs, fun rest => ⟨?_, (hfs rest).2⟩⟩
  rw [toList_lines_cons, prototypesIn_line hline.notMem, prototype?_eq_none hline.head_ne,
    (hfs rest).1]
  rfl

theorem function {line header body : String} (hline : Closed header line)
    (hheader : Lacks '\n' header) (hbody : SilentText body) :
    Agree (lines [line]) (Plugin.function header body) := by
  obtain ⟨rfl⟩ := hline
  refine ⟨(signature? header.toList).toList, fun rest =>
    ⟨?_, headersIn_function hheader hbody rest⟩⟩
  have hnewline : '\n' ∉ (header ++ ";").toList := by simp [hheader.notMem]
  rw [toList_lines_cons, prototypesIn_line hnewline, String.toList_append,
    prototype?_append_semicolon]
  rfl

theorem define {line header body t : String} (hline : Closed header line)
    (hheader : Lacks '\n' header) (hbody : SilentText body) (h : Agree (lines ls) t) :
    Agree (lines (line :: ls)) (Plugin.function header body ++ t) := by
  have hcons : lines (line :: ls) = lines [line] ++ lines ls := by simp
  rw [hcons]
  exact (function hline hheader hbody).append h

theorem concat_map {f g : α → String} (h : ∀ a ∈ l, Agree (f a) (g a)) :
    Agree (concat (l.map f)) (concat (l.map g)) := by
  induction l with
  | nil => exact empty
  | cons a l ih =>
    exact (h a mem_cons_self).append (ih fun b hb => h b (mem_cons_of_mem _ hb))

theorem intercalate_map {f : α → List String} {g : α → String}
    (h : ∀ a ∈ l, Agree (lines (f a)) (g a)) :
    Agree (lines (l.flatMap f)) ("\n".intercalate (l.map g)) := by
  have hsep : Agree "" "\n" :=
    ⟨[], fun rest => ⟨rfl, (SilentText.lines (.blank .nil)).headersIn_append rest⟩⟩
  induction l with
  | nil => exact empty
  | cons a l ih =>
    have ha := h a mem_cons_self
    have hl := ih fun b hb => h b (mem_cons_of_mem _ hb)
    rw [flatMap_cons, lines_append]
    cases l with
    | nil => simpa using ha
    | cons b l =>
      rw [map_cons, map_cons, String.intercalate_cons_cons]
      simpa using (ha.append hsep).append hl

end Agree

/-! ## A text without its last line end -/

theorem lines_eq_intercalate (h : ls ≠ []) : lines ls = "\n".intercalate ls ++ "\n" := by
  induction ls with
  | nil => exact absurd rfl h
  | cons line ls ih =>
    cases ls with
    | nil => simp
    | cons next ls =>
      rw [lines_cons, ih (cons_ne_nil next ls), String.intercalate_cons_cons]
      simp only [String.append_assoc]

theorem intercalate_concat (ls : List String) (line : String) :
    "\n".intercalate (ls ++ [line]) = lines ls ++ line := by
  have hne : ls ++ [line] ≠ [] := by simp
  have h := lines_eq_intercalate hne
  rw [lines_append, lines_cons, lines_nil, String.append_empty, ← String.append_assoc] at h
  exact (String.append_left_inj _ |>.mp h).symm

theorem lines_flatMap (l : List α) (f : α → List String) :
    lines (l.flatMap f) = concat (l.map fun a => lines (f a)) := by
  induction l with
  | nil => rfl
  | cons a l ih => rw [flatMap_cons, lines_append, ih, map_cons, concat_cons]

/-- A text that begins with a line end, if there is any text. -/
def Breaks (t : List Char) : Prop :=
  t = [] ∨ ∃ u, t = '\n' :: u

namespace Breaks

theorem lines (ls : List String) : Breaks (lines ("" :: ls)).toList :=
  .inr ⟨(Code.lines ls).toList, by simp⟩

theorem head_ne (h : Breaks t) {c : Char} (hc : c ≠ '\n') : t.head? ≠ some c := by
  rcases h with rfl | ⟨u, rfl⟩
  · simp
  · exact fun heq => hc (Option.some.inj heq).symm

theorem append {u : List Char} (ht : Breaks t) (hu : Breaks u) : Breaks (t ++ u) := by
  rcases ht with rfl | ⟨v, rfl⟩
  · exact hu
  · exact .inr ⟨v ++ u, cons_append⟩

theorem concat_map {f : α → String} (h : ∀ a ∈ l, Breaks (f a).toList) :
    Breaks (concat (l.map f)).toList := by
  induction l with
  | nil => exact .inl rfl
  | cons a l ih =>
    rw [map_cons, concat_cons, String.toList_append]
    exact (h a mem_cons_self).append (ih fun b hb => h b (mem_cons_of_mem _ hb))

end Breaks

theorem prototypesIn_append_newline (x : List Char) (ht : Breaks t) :
    prototypesIn (x ++ '\n' :: t) = prototypesIn (x ++ t) := by
  rw [prototypesIn_append_cons]
  rcases ht with rfl | ⟨u, rfl⟩
  · rw [prototypesIn_nil, append_nil, append_nil]
  · have hempty : prototypesIn ([] ++ '\n' :: u) = prototypesIn u := by
      rw [prototypesIn_append_cons, prototypesIn_nil, nil_append]
    rw [prototypesIn_append_cons, ← hempty, nil_append]

theorem prototypesIn_intercalate (ls : List String) (ht : Breaks t) :
    prototypesIn (("\n".intercalate ls).toList ++ t) = prototypesIn ((lines ls).toList ++ t) := by
  cases ls with
  | nil => rfl
  | cons line ls =>
    rw [lines_eq_intercalate (cons_ne_nil line ls), String.toList_append, append_assoc]
    exact (prototypesIn_append_newline _ ht).symm

end MockGen.Code
