import MockGen.Text.Case
import MockGen.Proofs.Text.Lacks

/-!
# Brackets in texts

Reading a text, one remembers the closing brackets that are due; a text is well nested if no bracket
is closed that is not due, and none is due at its end.  The fixed texts of generated code need not
be well nested, but what they do to the brackets that are due can be computed, and a well nested
text between them does nothing.
-/

namespace MockGen

open List Text

namespace Text

/-- The bracket that closes an opening one. -/
def closer? (c : Char) : Option Char :=
  if c = '(' then some ')'
  else if c = '[' then some ']'
  else if c = '\x7b' then some '\x7d'
  else none

def isCloser (c : Char) : Bool :=
  c == ')' || c == ']' || c == '\x7d'

/-- The closing brackets that are due behind a character, the next one first. -/
def dueAfter (due : List Char) (c : Char) : Option (List Char) :=
  match closer? c with
  | some d => some (d :: due)
  | none =>
    if isCloser c then
      match due with
      | [] => none
      | d :: due => if c = d then some due else none
    else some due

/-- The closing brackets that are due behind a text. -/
def dueBehind (due t : List Char) : Option (List Char) :=
  t.foldlM dueAfter due

def isBracket (c : Char) : Bool :=
  (closer? c).isSome || isCloser c

variable {c : Char}

theorem isBracket_iff : isBracket c = true ↔ c ∈ ['(', '[', '\x7b', ')', ']', '\x7d'] := by
  unfold isBracket closer? isCloser
  split_ifs <;> simp_all [or_assoc]

def brackets (t : List Char) : List Char :=
  t.filter isBracket

theorem dueBehind_cons (due : List Char) (c : Char) (t : List Char) :
    dueBehind due (c :: t) = (dueAfter due c).bind (dueBehind · t) :=
  foldlM_cons

theorem dueBehind_append (due t u : List Char) :
    dueBehind due (t ++ u) = (dueBehind due t).bind (dueBehind · u) :=
  foldlM_append

theorem dueAfter_of_isBracket (h : isBracket c = false) (due : List Char) :
    dueAfter due c = some due := by
  obtain ⟨hopen, hclose⟩ := Bool.or_eq_false_iff.mp h
  rw [Option.isSome_eq_false_iff, Option.isNone_iff_eq_none] at hopen
  simp [dueAfter, hopen, hclose]

theorem dueBehind_brackets (due t : List Char) :
    dueBehind due (brackets t) = dueBehind due t := by
  induction t generalizing due with
  | nil => rfl
  | cons c t ih =>
    rw [dueBehind_cons]
    cases hc : isBracket c with
    | true =>
      rw [brackets, filter_cons_of_pos hc, dueBehind_cons]
      exact congrArg _ (funext ih)
    | false =>
      rw [brackets, filter_cons_of_neg (by rw [hc]; decide), dueAfter_of_isBracket hc]
      exact ih due

theorem dueAfter_append {due next : List Char} (h : dueAfter due c = some next) (more : List Char) :
    dueAfter (due ++ more) c = some (next ++ more) := by
  unfold dueAfter at h ⊢
  cases hopen : closer? c with
  | some d =>
    rw [hopen] at h
    cases h
    rfl
  | none =>
    rw [hopen] at h
    by_cases hclose : isCloser c = true
    · simp only [hclose, if_true] at h ⊢
      cases due with
      | nil => cases h
      | cons d due =>
        obtain ⟨hd, rfl⟩ : c = d ∧ due = next := by simpa using h
        simp [hd]
    · simp only [hclose] at h ⊢
      cases h
      rfl

theorem dueBehind_append_due {due next t : List Char} (h : dueBehind due t = some next)
    (more : List Char) : dueBehind (due ++ more) t = some (next ++ more) := by
  induction t generalizing due with
  | nil =>
    cases h
    rfl
  | cons c t ih =>
    rw [dueBehind_cons] at h ⊢
    obtain ⟨rest, hrest, h⟩ := Option.bind_eq_some_iff.mp h
    rw [dueAfter_append hrest]
    exact ih h

/-! ## Texts with the same brackets -/

theorem brackets_append (t u : List Char) : brackets (t ++ u) = brackets t ++ brackets u :=
  filter_append ..

theorem brackets_cons (c : Char) (t : List Char) : brackets (c :: t) = brackets [c] ++ brackets t :=
  brackets_append [c] t

theorem brackets_eq_nil {t : List Char} (h : ∀ c ∈ t, isBracket c = false) : brackets t = [] := by
  refine filter_eq_nil_iff.mpr fun c hc => ?_
  rw [h c hc]
  decide

theorem brackets_flatMap {f : Char → List Char} (h : ∀ c, brackets (f c) = brackets [c])
    (t : List Char) : brackets (t.flatMap f) = brackets t := by
  induction t with
  | nil => rfl
  | cons c t ih =>
    rw [flatMap_cons, brackets_append, h, ih, ← brackets_cons]

theorem brackets_map {f : Char → Char} (h : ∀ c, brackets [f c] = brackets [c])
    (t : List Char) : brackets (t.map f) = brackets t := by
  have hflat : t.map f = t.flatMap fun c => [f c] := map_eq_flatMap
  rw [hflat]
  exact brackets_flatMap h t

theorem brackets_filter_ne (hc : isBracket c = false) (t : List Char) :
    brackets (t.filter (· != c)) = brackets t := by
  unfold brackets
  rw [filter_filter]
  refine filter_congr fun d _ => ?_
  by_cases hd : d = c
  · simp [hd, hc]
  · simp [hd]

theorem brackets_dropWhile {q : Char → Bool} (hq : ∀ c, q c = true → isBracket c = false)
    (t : List Char) : brackets (t.dropWhile q) = brackets t := by
  have hdropped : brackets (t.takeWhile q) = [] :=
    brackets_eq_nil fun c hc => hq c (mem_takeWhile_imp hc)
  have hsplit := congrArg brackets (takeWhile_append_dropWhile (p := q) (l := t))
  rwa [brackets_append, hdropped, nil_append] at hsplit

theorem brackets_dropTrailing (hc : isBracket c = false) (t : List Char) :
    brackets (dropTrailing c t) = brackets t := by
  have hdropped : brackets (t.reverse.dropWhile (· == c)) = brackets t.reverse := by
    refine brackets_dropWhile (fun d hd => ?_) _
    rwa [beq_iff_eq.mp hd]
  have hreverse := congrArg List.reverse hdropped
  unfold brackets at hreverse ⊢
  rw [← filter_reverse, ← filter_reverse, reverse_reverse] at hreverse
  exact hreverse

theorem brackets_replaceFirst {new : List Char} (hc : isBracket c = false)
    (hnew : brackets new = []) (t : List Char) : brackets (replaceFirst c new t) = brackets t := by
  induction t with
  | nil => rfl
  | cons d t ih =>
    unfold replaceFirst
    split
    case isTrue hd =>
      rw [brackets_append, hnew, beq_iff_eq.mp hd, nil_append, brackets, brackets,
        filter_cons_of_neg (by rw [hc]; decide)]
    case isFalse =>
      rw [brackets_cons, brackets_cons d t, ih]

end Text

namespace Code

variable {t u : String} {ts : List String}

/-- What is due behind a text, if it is known what is due in front of it. -/
def behind (t : String) (due : Option (List Char)) : Option (List Char) :=
  due.bind (dueBehind · t.toList)

/-- Every bracket that the text opens is closed in its turn, and it closes no other. -/
structure Nested (t : String) : Prop where
  dueBehind_eq : dueBehind [] t.toList = some []

instance (t : String) : Decidable (Nested t) :=
  decidable_of_iff (dueBehind [] t.toList = some []) ⟨.mk, Nested.dueBehind_eq⟩

/-! ## What is due behind texts that are put together -/

variable (due : Option (List Char))

theorem behind_ofList (l : List Char) :
    behind (String.ofList l) due = due.bind (dueBehind · l) := by
  rw [behind, String.toList_ofList]

theorem behind_append (t u : String) :
    behind (t ++ u) due = behind u (behind t due) := by
  simp only [behind, String.toList_append, dueBehind_append, Option.bind_assoc]

theorem behind_empty : behind "" due = due := by
  cases due <;> rfl

theorem behind_newline : behind "\n" due = due := by
  cases due <;> rfl

theorem behind_lines_cons (line : String) (rest : List String) :
    behind (lines (line :: rest)) due = behind (lines rest) (behind line due) := by
  rw [lines_cons, behind_append, behind_append, behind_newline]

theorem behind_lines_append (a b : List String) :
    behind (lines (a ++ b)) due = behind (lines b) (behind (lines a) due) := by
  rw [lines_append, behind_append]

theorem behind_callField (name : String) :
    behind (callField name) due = behind name due := by
  have hstart : ∀ due, behind "cmock_call_instance->" due = due := fun due => by cases due <;> rfl
  rw [callField, behind_append, hstart]

theorem behind_mockField (f name : String) :
    behind (mockField f name) due = behind name (behind f due) := by
  have hstart : ∀ due, behind "Mock." due = due := fun due => by cases due <;> rfl
  have hmiddle : ∀ due, behind "_" due = due := fun due => by cases due <;> rfl
  rw [mockField, behind_append, behind_append, behind_append, hstart, hmiddle]

theorem behind_parts :
    (∀ due l, behind (String.ofList l) due = due.bind (dueBehind · l)) ∧
    (∀ due t u, behind (t ++ u) due = behind u (behind t due)) ∧
    (∀ due line rest, behind (lines (line :: rest)) due = behind (lines rest) (behind line due)) ∧
    (∀ due a b, behind (lines (a ++ b)) due = behind (lines b) (behind (lines a) due)) ∧
    (∀ due, behind (lines []) due = due) ∧
    (∀ due name, behind (callField name) due = behind name due) ∧
    ∀ due f name, behind (mockField f name) due = behind name (behind f due) :=
  ⟨behind_ofList, behind_append, behind_lines_cons, behind_lines_append, behind_empty,
    behind_callField, behind_mockField⟩

theorem forall_mem_only {P : String → Prop} {condition : Bool} :
    (∀ t ∈ only condition ts, P t) ↔ (condition = true → ∀ t ∈ ts, P t) := by
  cases condition <;> simp

namespace Nested

theorem of_behind (h : behind t (some []) = some []) : Nested t :=
  ⟨h⟩

theorem behind_eq (h : Nested t) (due : Option (List Char)) : behind t due = due := by
  cases due with
  | none => rfl
  | some due => exact dueBehind_append_due h.dueBehind_eq due

theorem of_brackets_eq (h : Nested t) (hu : brackets u.toList = brackets t.toList) :
    Nested u := by
  constructor
  rw [← dueBehind_brackets, hu, dueBehind_brackets]
  exact h.dueBehind_eq

theorem of_brackets_eq_nil (h : brackets t.toList = []) : Nested t := by
  constructor
  rw [← dueBehind_brackets, h]
  rfl

theorem empty : Nested "" :=
  of_brackets_eq_nil rfl

theorem append (ht : Nested t) (hu : Nested u) : Nested (t ++ u) := by
  apply of_behind
  rw [behind_append, ht.behind_eq, hu.behind_eq]

theorem concat (h : ∀ t ∈ ts, Nested t) : Nested (concat ts) :=
  concat_of_forall empty append h

theorem lines (h : ∀ t ∈ ts, Nested t) : Nested (lines ts) := by
  induction ts with
  | nil => exact empty
  | cons t ts ih =>
    obtain ⟨ht, hts⟩ := forall_mem_cons.mp h
    apply of_behind
    rw [behind_lines_cons, ht.behind_eq, (ih hts).behind_eq]

theorem intercalate {sep : String} (hsep : Nested sep) (h : ∀ t ∈ ts, Nested t) :
    Nested (sep.intercalate ts) := by
  induction ts with
  | nil => exact empty
  | cons t ts ih =>
    obtain ⟨ht, hts⟩ := forall_mem_cons.mp h
    cases ts with
    | nil => simpa using ht
    | cons u ts =>
      rw [String.intercalate_cons_cons]
      exact (ht.append hsep).append (ih hts)

theorem commas_map {α : Type} {l : List α} {f : α → String} (h : ∀ a ∈ l, Nested (f a)) :
    Nested (commas (l.map f)) :=
  intercalate (by decide) (forall_mem_map.mpr h)

end Nested

end Code

/-- All texts of the prototype are well nested. -/
@[mk_iff]
structure Prototype.Nested (p : Prototype) : Prop where
  name : Code.Nested p.name
  unscopedName : Code.Nested p.unscopedName
  namespaces : ∀ t ∈ p.namespaces, Code.Nested t
  className : ∀ t ∈ p.className, Code.Nested t
  modifier : Code.Nested p.modifier
  callingConvention : ∀ t ∈ p.callingConvention, Code.Nested t
  returnedType : Code.Nested p.returned.type
  returnedName : Code.Nested p.returned.name
  returnedStr : Code.Nested p.returned.str
  argType : ∀ a ∈ p.args, Code.Nested a.type
  argName : ∀ a ∈ p.args, Code.Nested a.name
  argsString : Code.Nested p.argsString
  argsCall : Code.Nested p.argsCall
  varArg : ∀ t ∈ p.varArg, Code.Nested t

instance (p : Prototype) : Decidable p.Nested :=
  decidable_of_iff _ (Prototype.nested_iff p).symm

namespace Prototype.Nested

variable {p : Prototype} (hp : p.Nested)

include hp

theorem behind_eq :
    (∀ due, Code.behind p.name due = due) ∧ (∀ due, Code.behind p.unscopedName due = due) ∧
    (∀ due, Code.behind p.returned.type due = due) ∧
    (∀ due, Code.behind p.returned.name due = due) ∧
    (∀ due, Code.behind p.returned.str due = due) ∧
    (∀ due, Code.behind p.argsString due = due) ∧ ∀ due, Code.behind p.argsCall due = due :=
  ⟨hp.name.behind_eq, hp.unscopedName.behind_eq, hp.returnedType.behind_eq,
    hp.returnedName.behind_eq, hp.returnedStr.behind_eq, hp.argsString.behind_eq,
    hp.argsCall.behind_eq⟩

end Prototype.Nested

end MockGen
