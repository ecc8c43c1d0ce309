import MockGen.Proofs.Text.Brackets
import MockGen.Proofs.Text.Strings

/-!
# Reading generated code

Such code is put together from fixed texts and from texts of which only the kind is known.  What is
open behind some of it follows from the fixed texts and the kinds: brackets that are due, the word
at hand, and a reference that has to end.  So it is enough to go through the code once, and every
property of texts that can be read off in this way holds of it.
-/

namespace MockGen.Code

open String

/-- What is known about a text between fixed texts. -/
inductive Kind where
  | name
  | text
  | stem

/-! ## References -/

/-- What references allow the next character to be. -/
inductive Edge where
  | plain
  | dashed
  | opened
  | lost

variable {l : List Char}

namespace Edge

def bars : Edge → Char → Bool
  | plain, c => c == '.'
  | dashed, c => c == '.' || c == '>'
  | opened, c => c == '.' || c == '>' || isNameChar c
  | lost, _ => true

def step (e : Edge) (c : Char) : Edge :=
  if e.bars c then lost else if c == '-' then dashed else plain

def behindName : Edge → Edge
  | plain => dashed
  | dashed => dashed
  | _ => lost

def behindText : Edge → Edge
  | plain => opened
  | dashed => opened
  | _ => lost

def behindStem : Edge → Edge
  | plain => dashed
  | _ => lost

/-- All references in the text are to the given fields, and it goes on as it may. -/
def Admits (F : Fields) (t : String) : Edge → Prop
  | plain => Settles F t.toList
  | dashed => Resolves F t
  | opened => Resolves F t ∧ Stops t
  | lost => False

variable {F : Fields} {e : Edge} {t u : String}

theorem Admits.settles (h : e.Admits F t) : Settles F t.toList := by
  cases e with
  | plain => exact h
  | dashed => exact h.toSettles
  | opened => exact h.1.toSettles
  | lost => exact h.elim

theorem Admits.cons {c : Char} (ht : t.toList = c :: u.toList) (h : (e.step c).Admits F u) :
    e.Admits F t := by
  unfold step at h
  split at h
  case isTrue => exact h.elim
  case isFalse hc =>
    have hdot : c ≠ '.' := by
      rintro rfl
      exact hc (by cases e <;> rfl)
    have hsettles : Settles F t.toList := by
      rw [ht]
      refine h.settles.cons hdot fun hdash => ?_
      rw [if_pos (by simpa using hdash)] at h
      exact h.head
    cases e with
    | plain => exact hsettles
    | dashed => exact ⟨hsettles, by simpa [ht, bars, hdot] using hc⟩
    | opened =>
      simp only [bars, Bool.or_eq_true, beq_iff_eq, not_or, Bool.not_eq_true] at hc
      exact ⟨⟨hsettles, by simpa [ht] using hc.1.2⟩, c, by simp [ht], hc.2⟩
    | lost => exact hc rfl

theorem Admits.fixed (h : (l.foldl step e).Admits F u) : e.Admits F (String.ofList l ++ u) := by
  induction l generalizing e with
  | nil => simpa using h
  | cons c l ih => exact .cons (by simp) (ih h)

theorem Admits.of_resolves (ht : Resolves F t) (h : e.behindName.Admits F u) :
    e.Admits F (t ++ u) := by
  cases e with
  | plain => exact (ht.append h).toSettles
  | dashed => exact ht.append h
  | opened => exact h.elim
  | lost => exact h.elim

theorem Admits.of_opens (ht : Opens F t) (h : e.behindText.Admits F u) : e.Admits F (t ++ u) := by
  cases e with
  | plain => exact (ht h.1 h.2).toSettles
  | dashed => exact ht h.1 h.2
  | opened => exact h.elim
  | lost => exact h.elim

theorem Admits.of_lacks (hdash : Lacks '-' t) (hdot : Lacks '.' t)
    (h : e.behindStem.Admits F u) : e.Admits F (t ++ u) := by
  cases e with
  | plain =>
    rw [Admits, toList_append]
    exact .append_of (fun a x hx => absurd (by simp [hx]) hdash.notMem)
      (fun a x hx => absurd (by simp [hx]) hdot.notMem) h.toSettles h.head
  | _ => exact h.elim

end Edge

/-! ## Positions in generated code -/

/-- What is open at some position in generated code. -/
structure Cursor where
  due : Option (List Char)
  scan : Scan
  edge : Edge

namespace Cursor

def start : Cursor :=
  ⟨some [], .word false [], .plain⟩

/-- Nothing is open, but a dash may stand in front. -/
def inside : Cursor :=
  ⟨some [], .word false [], .dashed⟩

structure Bare (q : Cursor) : Prop where
  eq : (q.scan, q.edge) = (.word false [], .plain)

structure Closed (q : Cursor) : Prop where
  eq_start : q = start

def fixed (q : Cursor) (l : List Char) : Cursor :=
  ⟨q.due.bind (Text.dueBehind · l), q.scan.behind l, l.foldl Edge.step q.edge⟩

def behind (q : Cursor) : Kind → Cursor
  | .name => ⟨q.due, q.scan.behindName, q.edge.behindName⟩
  | .text => ⟨q.due, q.scan.behindText, q.edge.behindText⟩
  | .stem => ⟨q.due, q.scan.behindLoose, q.edge.behindStem⟩

end Cursor

/-! ## Properties that are read off -/

theorem flat_lines :
    lines [] = "" ∧ (∀ l ls, lines (l :: ls) = l ++ "\n" ++ lines ls) ∧
      (∀ a b, lines (a ++ b) = lines a ++ lines b) ∧
      ∀ a b c : String, a ++ b ++ c = a ++ (b ++ c) :=
  ⟨rfl, lines_cons, lines_append, fun _ _ _ => append_assoc⟩

/-- A property of texts that follows from what is open at their start and their parts, if nothing
is open at their end. -/
structure Trait where
  Closes : Cursor → String → Prop
  empty : Closes .start ""
  fixed : ∀ {q : Cursor} {l : List Char} {u : String}, Closes (q.fixed l) u →
    Closes q (String.ofList l ++ u)
  inner : ∀ {q : Cursor} {t u : String}, Closes .inside (t ++ "\n") → Closes (q.behind .text) u →
    Closes q (t ++ u)
  between : ∀ {q : Cursor} {t u : String}, Closes .start t → q.Bare → Closes q u →
    Closes q (t ++ u)

namespace Trait

variable {R : Trait} {q : Cursor} {k : Kind} {t u : String} {names : List String} {F : Fields}

/-- A text may stand wherever one of its kind may. -/
def Takes (R : Trait) (k : Kind) (t : String) : Prop :=
  ∀ ⦃q u⦄, R.Closes (q.behind k) u → R.Closes q (t ++ u)

/-- Lines may stand wherever nothing is open but brackets. -/
def Keeps (R : Trait) (t : String) : Prop :=
  ∀ ⦃q u⦄, q.Bare → R.Closes q u → R.Closes q (t ++ u)

theorem last (h : (q.fixed l).Closed) : R.Closes q (String.ofList l) := by
  simpa using R.fixed (u := "") (h.eq_start ▸ R.empty)

theorem takes (h : R.Closes .inside (t ++ "\n")) : R.Takes .text t :=
  fun _ _ hu => R.inner h hu

namespace Closes

theorem append (ht : R.Closes .start t) (hu : R.Closes .start u) : R.Closes .start (t ++ u) :=
  R.between ht ⟨rfl⟩ hu

theorem nil : R.Closes .start (Code.lines []) :=
  R.empty

theorem lines_append {ls ms : List String} (hls : R.Closes .start (Code.lines ls))
    (hms : R.Closes .start (Code.lines ms)) : R.Closes .start (Code.lines (ls ++ ms)) := by
  rw [Code.lines_append]
  exact hls.append hms

theorem line (ht : R.Takes .text t) : R.Closes .start (Code.lines [t]) := by
  rw [lines_cons, lines_nil, append_empty]
  exact ht (last ⟨rfl⟩)

theorem only {condition : Bool} {ls : List String}
    (h : condition = true → R.Closes .start (Code.lines ls)) :
    R.Closes .start (Code.lines (only condition ls)) := by
  cases condition with
  | false => exact nil
  | true => exact h rfl

theorem lines_map {α : Type} {l : List α} {f : α → String}
    (h : ∀ a ∈ l, R.Closes .start (Code.lines [f a])) : R.Closes .start (Code.lines (l.map f)) := by
  induction l with
  | nil => exact nil
  | cons a l ih =>
    rw [List.forall_mem_cons] at h
    exact lines_append h.1 (ih h.2)

theorem concat {ts : List String} (h : ∀ t ∈ ts, R.Closes .start t) :
    R.Closes .start (concat ts) :=
  concat_of_forall R.empty append h

theorem intercalate {ts : List String} (h : ∀ t ∈ ts, R.Closes .start t) :
    R.Closes .start ("\n".intercalate ts) := by
  cases ts with
  | nil => exact R.empty
  | cons t ts =>
    rw [List.forall_mem_cons] at h
    rw [intercalate_cons]
    refine h.1.append (concat (List.forall_mem_map.mpr fun u hu => ?_))
    exact append (last ⟨rfl⟩) (h.2 u hu)

end Closes

namespace Takes

theorem ofName (h : R.Takes .name t) : R.Takes .text t :=
  takes (h (last ⟨rfl⟩))

theorem ofList (h : ((Cursor.inside.fixed l).fixed ['\n']).Closed) :
    R.Takes .text (String.ofList l) :=
  takes (R.fixed (last h))

theorem around {m : List Char} (ht : R.Takes k t)
    (h : (((Cursor.inside.fixed l).behind k).fixed (m ++ ['\n'])).Closed) :
    R.Takes .text (String.ofList l ++ (t ++ String.ofList m)) := by
  have hend : String.ofList m ++ "\n" = String.ofList (m ++ ['\n']) := ofList_append.symm
  refine takes ?_
  rw [append_assoc, append_assoc, hend]
  exact R.fixed (ht (last h))

theorem ite {condition : Prop} [Decidable condition] (ht : R.Takes k t) (hu : R.Takes k u) :
    R.Takes k (if condition then t else u) := by
  split
  · exact ht
  · exact hu

theorem commas {items : List String} (h : ∀ t ∈ items, R.Takes .text t) :
    R.Takes .text (commas items) := by
  induction items with
  | nil => exact ofList (l := []) ⟨rfl⟩
  | cons t items ih =>
    rw [List.forall_mem_cons] at h
    cases items with
    | nil =>
      rw [Code.commas, intercalate_singleton]
      exact h.1
    | cons u items =>
      rw [Code.commas, intercalate_cons_cons]
      refine takes ?_
      rw [append_assoc, append_assoc]
      exact h.1 (R.fixed (ih h.2 (last ⟨rfl⟩)))

theorem commas_map {α : Type} {l : List α} {f : α → String} (h : ∀ a ∈ l, R.Takes .text (f a)) :
    R.Takes .text (Code.commas (l.map f)) :=
  commas (List.forall_mem_map.mpr h)

end Takes

theorem Keeps.ofCloses (h : R.Closes .start t) : R.Keeps t :=
  fun _ _ hq hu => R.between h hq hu

/-! ## Three properties -/

def brackets : Trait where
  Closes q t := Code.behind t q.due = some []
  empty := rfl
  fixed h := by
    rw [behind_append, behind_ofList]
    exact h
  inner {q t u} ht hu := by
    have hnested : Nested t := by
      rw [behind_append, behind_newline] at ht
      exact .of_behind ht
    rw [behind_append, hnested.behind_eq]
    exact hu
  between {q t u} ht _ hu := by
    rw [behind_append, (Nested.of_behind ht).behind_eq]
    exact hu

theorem brackets_takes (h : Nested t) (k : Kind) : brackets.Takes k t := by
  intro q u hu
  have hdue : (q.behind k).due = q.due := by cases k <;> rfl
  show Code.behind (t ++ u) q.due = some []
  rw [behind_append, h.behind_eq, ← hdue]
  exact hu

theorem nested_of_takes (h : brackets.Takes .text t) : Nested t := by
  have hempty : brackets.Closes .start (t ++ "") := h rfl
  rw [append_empty] at hempty
  exact .of_behind hempty

/-- Strings are named only by names of functions and parameters behind the mark of strings. -/
def strings (names : List String) : Trait where
  Closes q t := ∀ ⦃v⦄, Clear names v → Holds names q.scan (t ++ v)
  empty v hv := by
    rw [empty_append]
    exact hv
  fixed h v hv := by
    rw [append_assoc]
    exact .fixed (h hv)
  inner {q t u} ht hu v hv := by
    have hline : Clear names (t ++ "\n") := by
      have hempty := ht (Holds.empty rfl)
      rwa [append_empty] at hempty
    have hclear : Clear names t := by
      have hsplit := @Clear.of_append_newline names t.toList []
      rw [ofList_toList] at hsplit
      refine (hsplit ?_).1
      rwa [ofList_append, ofList_toList]
    rw [append_assoc]
    exact hclear.holds (hu hv)
  between {q t u} ht hq hu v hv := by
    obtain ⟨hscan, -⟩ := Prod.mk.inj hq.eq
    have hrest := hu hv
    rw [hscan] at hrest ⊢
    rw [append_assoc]
    exact ht hrest

theorem clear (h : (strings names).Closes .start t) : Clear names t := by
  have hempty := h (Holds.empty rfl)
  rwa [append_empty] at hempty

theorem strings_takes_name (h : Label names t) : (strings names).Takes .name t := by
  intro q u hu v hv
  rw [append_assoc]
  exact h.holds (hu hv)

theorem strings_takes (h : Clear names t) : (strings names).Takes .text t := by
  intro q u hu v hv
  rw [append_assoc]
  exact h.holds (hu hv)

theorem strings_takes_stem (h : Loose t) : (strings names).Takes .stem t := by
  intro q u hu v hv
  rw [append_assoc]
  exact h.holds (hu hv)

def references (F : Fields) : Trait where
  Closes q t := ∀ ⦃v : String⦄, Settles F v.toList → q.edge.Admits F (t ++ v)
  empty v hv := by
    rw [empty_append]
    exact hv
  fixed h v hv := by
    rw [append_assoc]
    exact .fixed (h hv)
  inner {q t u} ht hu v hv := by
    have hline : Resolves F (t ++ "\n") := by
      have hempty := ht (v := "") Settles.empty
      rwa [append_empty] at hempty
    rw [append_assoc]
    exact .of_opens (.of_newline hline) (hu hv)
  between {q t u} ht hq hu v hv := by
    obtain ⟨-, hedge⟩ := Prod.mk.inj hq.eq
    have hrest := hu hv
    rw [hedge] at hrest ⊢
    rw [append_assoc]
    exact ht hrest

theorem settles (h : (references F).Closes .start t) : Settles F t.toList := by
  have hempty : Edge.plain.Admits F (t ++ "") := h Settles.empty
  rwa [append_empty] at hempty

theorem references_takes_name (h : Resolves F t) : (references F).Takes .name t := by
  intro q u hu v hv
  rw [append_assoc]
  exact .of_resolves h (hu hv)

theorem references_takes (h : Opens F t) : (references F).Takes .text t := by
  intro q u hu v hv
  rw [append_assoc]
  exact .of_opens h (hu hv)

theorem references_takes_stem (hdash : Lacks '-' t) (hdot : Lacks '.' t) :
    (references F).Takes .stem t := by
  intro q u hu v hv
  rw [append_assoc]
  exact .of_lacks hdash hdot (hu hv)

end Trait

end MockGen.Code
