import MockGen.Proofs.Text.References
import Mathlib.Data.List.Nodup

/-!
# The strings that generated code names

A text falls into its longest stretches of word characters; those that begin with a common mark name
a string, and a line of a fixed form defines one.

Generated code is made of fixed texts and of texts that are not known.  Of the latter it matters
only whether they are names or stand apart from the strings, so that what one has in hand somewhere
in the code can be computed from the fixed texts alone.
-/

namespace MockGen.Code

open List Text
open String hiding append_assoc

/-- The words of a text from inside a word on, of which `read` was read behind `front`. -/
def tokensFrom (front : Option Char) (read : List Char) :
    List Char → List (Option Char × List Char)
  | [] => [(front, read)]
  | c :: t =>
    if isWord c then tokensFrom front (read ++ [c]) t
    else (front, read) :: tokensFrom (some c) [] t

/-- The words of a text, each with the character in front of it. -/
def tokens (t : List Char) : List (Option Char × List Char) :=
  tokensFrom none [] t

/-- What the names of strings begin with. -/
def stringMark : List Char :=
  "CMockString_".toList

/-- The name behind the mark, if a word names a string. -/
def stringName? (word : List Char) : Option String :=
  if stringMark.isPrefixOf word then some (String.ofList (word.drop stringMark.length)) else none

def mentioned (t : List Char) : List String :=
  (tokens t).filterMap fun token => stringName? token.2

def Apart (t : String) : Prop :=
  mentioned t.toList = []

/-- No word of the text names a string, also when an underscore stands behind it. -/
def Loose (t : String) : Prop :=
  Apart (t ++ "_")

instance (t : String) : Decidable (Apart t) :=
  inferInstanceAs (Decidable (_ = _))

instance (t : String) : Decidable (Loose t) :=
  inferInstanceAs (Decidable (Apart _))

variable {x f : String} {c : Char}

theorem stringName?_eq_some_iff {word : List Char} :
    stringName? word = some x ↔ word = stringMark ++ x.toList := by
  unfold stringName?
  split
  case isTrue h =>
    obtain ⟨rest, rfl⟩ := List.isPrefixOf_iff_prefix.mp h
    rw [drop_left, Option.some_inj, append_cancel_left_eq]
    constructor
    · rintro rfl
      exact toList_ofList.symm
    · rintro rfl
      exact ofList_toList
  case isFalse h =>
    refine iff_of_false nofun ?_
    rintro rfl
    exact h (List.isPrefixOf_iff_prefix.mpr (prefix_append _ _))

theorem mem_mentioned {t : List Char} :
    x ∈ mentioned t ↔ ∃ front, (front, stringMark ++ x.toList) ∈ tokens t := by
  simp only [mentioned, mem_filterMap, stringName?_eq_some_iff, Prod.exists]
  constructor
  · rintro ⟨front, _, hmem, rfl⟩
    exact ⟨front, hmem⟩
  · rintro ⟨front, hmem⟩
    exact ⟨front, _, hmem, rfl⟩

/-! ## Words of texts that are put together -/

theorem tokensFrom_append_word {w : List Char} (hw : ∀ c ∈ w, isWord c = true)
    (front : Option Char) (read t : List Char) :
    tokensFrom front read (w ++ t) = tokensFrom front (read ++ w) t := by
  induction w generalizing read with
  | nil => simp
  | cons c w ih =>
    rw [forall_mem_cons] at hw
    rw [cons_append, tokensFrom, if_pos hw.1, ih hw.2, append_assoc,
      singleton_append]

theorem exists_tokensFrom_eq_cons (t : List Char) :
    ∃ w rest, (∀ c ∈ w, isWord c = true) ∧
      ∀ front read, tokensFrom front read t = (front, read ++ w) :: rest := by
  induction t with
  | nil => exact ⟨[], [], by simp, by simp [tokensFrom]⟩
  | cons c t ih =>
    obtain ⟨w, rest, hword, hw⟩ := ih
    by_cases hc : isWord c = true
    · exact ⟨c :: w, rest, forall_mem_cons.mpr ⟨hc, hword⟩, fun front read => by
        rw [tokensFrom, if_pos hc, hw]
        simp⟩
    · exact ⟨[], tokensFrom (some c) [] t, by simp, fun front read => by
        rw [tokensFrom, if_neg hc]
        simp⟩

theorem exists_tokensFrom_append (front : Option Char) (read t : List Char) :
    ∃ init last, tokensFrom front read t = init ++ [last] ∧
      ∀ u, tokensFrom front read (t ++ u) = init ++ tokensFrom last.1 last.2 u := by
  induction t generalizing front read with
  | nil => exact ⟨[], (front, read), rfl, fun u => rfl⟩
  | cons c t ih =>
    by_cases hc : isWord c = true
    · obtain ⟨init, last, ht, hu⟩ := ih front (read ++ [c])
      refine ⟨init, last, ?_, fun u => ?_⟩
      · rw [tokensFrom, if_pos hc, ht]
      · rw [cons_append, tokensFrom, if_pos hc, hu]
    · obtain ⟨init, last, ht, hu⟩ := ih (some c) []
      refine ⟨(front, read) :: init, last, ?_, fun u => ?_⟩
      · rw [tokensFrom, if_neg hc, ht, cons_append]
      · rw [cons_append, tokensFrom, if_neg hc, hu, cons_append]

theorem tokensFrom_append_cons (hc : isWord c = false) (front : Option Char)
    (read t u : List Char) :
    tokensFrom front read (t ++ c :: u) = tokensFrom front read t ++ tokensFrom (some c) [] u := by
  obtain ⟨init, last, ht, hu⟩ := exists_tokensFrom_append front read t
  rw [hu, ht, tokensFrom, if_neg (by simp [hc]), append_assoc, singleton_append]

theorem map_snd_tokensFrom (front other : Option Char) (read t : List Char) :
    (tokensFrom front read t).map Prod.snd = (tokensFrom other read t).map Prod.snd := by
  obtain ⟨w, rest, -, hw⟩ := exists_tokensFrom_eq_cons t
  rw [hw, hw, map_cons, map_cons]

theorem mentioned_append_cons (hc : isWord c = false) (t u : List Char) :
    mentioned (t ++ c :: u) = mentioned t ++ mentioned u := by
  have hsnd : ∀ v : List (Option Char × List Char),
      (v.filterMap fun token => stringName? token.2) =
        (v.map Prod.snd).filterMap stringName? := fun v => by
    rw [filterMap_map]
    rfl
  rw [mentioned, tokens, tokensFrom_append_cons hc, filterMap_append, hsnd, hsnd,
    map_snd_tokensFrom (some c) none, ← hsnd, ← hsnd]
  rfl

theorem exists_mentioned_of_infix {y t : List Char} (hc : isWord c = false)
    (hy : ∀ d ∈ stringMark ++ y, isWord d = true) (h : c :: (stringMark ++ y) <:+: t) :
    ∃ x ∈ mentioned t, (∀ d ∈ x.toList, isWord d = true) ∧ y <+: x.toList := by
  obtain ⟨a, b, rfl⟩ := h
  obtain ⟨w, rest, hword, hw⟩ := exists_tokensFrom_eq_cons b
  refine ⟨String.ofList (y ++ w), ?_, ?_, ?_⟩
  · rw [append_assoc, cons_append, mentioned_append_cons hc]
    refine mem_append_right _ (mem_mentioned.mpr ⟨none, ?_⟩)
    rw [tokens, tokensFrom_append_word hy, hw, toList_ofList, nil_append,
      append_assoc]
    exact mem_cons_self
  · rw [toList_ofList]
    exact forall_mem_append.mpr ⟨(forall_mem_append.mp hy).2, hword⟩
  · rw [toList_ofList]
    exact prefix_append y w

theorem line_induction {motive : List Char → Prop} (line : ∀ t, '\n' ∉ t → motive t)
    (append : ∀ t u, '\n' ∉ t → motive u → motive (t ++ '\n' :: u)) (t : List Char) : motive t := by
  have key : ∀ t x, '\n' ∉ x → motive (x ++ t) := by
    intro t
    induction t with
    | nil => exact fun x hx => line _ (by simpa using hx)
    | cons c t ih =>
      intro x hx
      by_cases hc : c = '\n'
      · subst hc
        exact append x t hx (ih [] not_mem_nil)
      · rw [append_cons]
        exact ih _ (by simpa [hx] using Ne.symm hc)
  exact key t [] not_mem_nil

theorem mentioned_eq_flatMap (t : List Char) :
    mentioned t = (splitAt '\n' t).flatMap mentioned := by
  induction t using line_induction with
  | line t ht => rw [splitAt_of_notMem ht, flatMap_singleton]
  | append t u ht ih =>
    rw [mentioned_append_cons (by decide), splitAt_append_cons, splitAt_of_notMem ht,
      flatMap_append, flatMap_singleton, ih]

/-! ## Where one stands in a text -/

inductive Scan where
  | word (opened : Bool) (read : List Char)
  | name
  | other
  | done
  | lost
  deriving DecidableEq

/-- A word that names a string names one of the given strings, behind a bracket or a comma. -/
def Admits (names : List String) (token : Option Char × List Char) : Prop :=
  ∀ x : String, token.2 = stringMark ++ x.toList →
    x ∈ names ∧ (token.1 = some '(' ∨ token.1 = some ',')

namespace Scan

def passes : Scan → Bool
  | word _ read => !stringMark.isPrefixOf read
  | lost => false
  | _ => true

/-- Behind one more character of the word. -/
def extend (c : Char) : Scan → Scan
  | word opened read => word opened (read ++ [c])
  | name => if c = '_' ∨ c ∉ stringMark then other else lost
  | other => other
  | _ => lost

def step (s : Scan) (c : Char) : Scan :=
  if isWord c then s.extend c
  else if s.passes then word (c == '(' || c == ',') []
  else lost

def behind (s : Scan) (t : List Char) : Scan :=
  t.foldl step s

/-- Behind the name of a function or a parameter. -/
def behindName : Scan → Scan
  | word _ [] => name
  | word opened read =>
    if read = stringMark then if opened then done else lost
    else if stringMark.isPrefixOf read || read.isPrefixOf stringMark then lost
    else other
  | other => other
  | _ => lost

/-- Behind a text of which no word names a string. -/
def behindText : Scan → Scan
  | word _ [] => done
  | _ => lost

/-- Behind a text of which no word names a string, also with an underscore behind it. -/
def behindLoose : Scan → Scan
  | word _ read =>
    if read ≠ [] ∧ (stringMark.isPrefixOf read || read.isPrefixOf stringMark) then lost else name
  | other => name
  | _ => lost

variable {names : List String} {s : Scan} {front : Option Char} {read : List Char}

def Covers (names : List String) (front : Option Char) (read : List Char) : Scan → Prop
  | word opened known => read = known ∧ (opened = true → front = some '(' ∨ front = some ',')
  | name => ¬stringMark <+: read ++ ['_']
  | other => ¬stringMark <+: read ∧ ¬read <+: stringMark
  | done => Admits names (front, read)
  | lost => True

theorem admits_of_not_prefix (h : ¬stringMark <+: read) : Admits names (front, read) :=
  fun x hx => absurd ⟨x.toList, hx.symm⟩ h

theorem Covers.admits (h : s.Covers names front read) (hs : s.passes = true) :
    Admits names (front, read) := by
  cases s with
  | word opened known =>
    obtain ⟨rfl, -⟩ := h
    refine admits_of_not_prefix fun hpre => ?_
    rw [passes, List.isPrefixOf_iff_prefix.mpr hpre] at hs
    cases hs
  | name => exact admits_of_not_prefix fun hpre => h (hpre.trans (prefix_append _ _))
  | other => exact admits_of_not_prefix h.1
  | done => exact h
  | lost => cases hs

theorem Covers.step_word (h : s.Covers names front read) (hc : isWord c = true) :
    (s.step c).Covers names front (read ++ [c]) := by
  rw [step, if_pos hc]
  cases s with
  | word opened known =>
    obtain ⟨rfl, hopened⟩ := h
    exact ⟨rfl, hopened⟩
  | name =>
    rw [extend]
    split
    case isFalse => trivial
    case isTrue hend =>
      -- The mark has its only underscore at its end.
      have hunder : ∀ {w : List Char}, w ++ ['_'] <+: stringMark → stringMark <+: w ++ ['_'] := by
        intro w hw
        have hinits : ∀ known ∈ stringMark.inits, known.getLast? = some '_' → known = stringMark :=
          by decide
        rw [hinits _ ((mem_inits _ _).mpr hw) (by simp)]
      constructor
      · intro hpre
        rcases prefix_concat_iff.mp hpre with heq | hpre
        · have hlast : stringMark.getLast? = some '_' := by decide
          rw [heq, getLast?_concat] at hlast
          obtain rfl := Option.some.inj hlast
          exact h hpre
        · exact h (hpre.trans (prefix_append _ _))
      · intro hpre
        rcases hend with rfl | hc
        · exact h (hunder hpre)
        · exact hc (hpre.mem (by simp))
  | other =>
    refine ⟨fun hpre => ?_, fun hpre => h.2 ((prefix_append _ _).trans hpre)⟩
    rcases List.prefix_or_prefix_of_prefix hpre (prefix_append read [c]) with hle | hle
    · exact h.1 hle
    · exact h.2 hle
  | done => trivial
  | lost => trivial

theorem covers_step_of_not_word (hc : isWord c = false) (hs : s.passes = true) :
    (s.step c).Covers names (some c) [] := by
  rw [step, if_neg (by simp [hc]), if_pos hs]
  refine ⟨rfl, fun hopened => ?_⟩
  simpa using hopened

theorem Covers.behindName (h : s.Covers names front read) (hf : f ∈ names)
    (hmark : ¬stringMark <+: f.toList ++ ['_']) :
    s.behindName.Covers names front (read ++ f.toList) := by
  have hother : ∀ {w : List Char}, ¬stringMark <+: w → ¬w <+: stringMark →
      ¬stringMark <+: w ++ f.toList ∧ ¬w ++ f.toList <+: stringMark := by
    refine fun hle hge => ⟨fun hpre => ?_, fun hpre => ?_⟩
    · rcases List.prefix_or_prefix_of_prefix hpre (prefix_append _ _) with h | h
      · exact hle h
      · exact hge h
    · exact hge ((prefix_append _ _).trans hpre)
  cases s with
  | word opened known =>
    obtain ⟨rfl, hopened⟩ := h
    cases hread : read with
    | nil => exact hmark
    | cons c rest =>
      rw [← hread, Scan.behindName]
      · split
        case isTrue heq =>
          split
          case isFalse => trivial
          case isTrue hopen =>
            intro x hx
            rw [heq] at hx
            obtain rfl : f = x := toList_inj.mp (append_cancel_left hx)
            exact ⟨hf, hopened hopen⟩
        case isFalse =>
          split
          case isTrue => trivial
          case isFalse hne =>
            simp only [Bool.or_eq_true, List.isPrefixOf_iff_prefix, not_or] at hne
            exact hother hne.1 hne.2
      · simp [hread]
  | name => trivial
  | other => exact hother h.1 h.2
  | done => trivial
  | lost => trivial

end Scan

/-- From here on, all words of the text that name strings name some of the given ones, behind a
bracket or a comma. -/
def Holds (names : List String) (s : Scan) (t : String) : Prop :=
  ∀ front read, s.Covers names front read →
    ∀ token ∈ tokensFrom front read t.toList, Admits names token

/-- All words of the text that name strings name some of the given ones, behind a bracket or a
comma. -/
abbrev Clear (names : List String) (t : String) : Prop :=
  Holds names (.word false []) t

/-- The name of a function or a parameter: it has a string, and it is not the mark of strings
without its underscore. -/
structure Label (names : List String) (f : String) : Prop where
  word : ∀ c ∈ f.toList, isWord c = true
  mem : f ∈ names
  apart : ¬stringMark <+: f.toList ++ ['_']

variable {names : List String} {s : Scan} {t u : String}

theorem not_holds_lost : ¬Holds names .lost t := by
  intro h
  obtain ⟨w, rest, -, hw⟩ := exists_tokensFrom_eq_cons t.toList
  have hadmits := h none stringMark trivial (none, stringMark ++ w) (by rw [hw]; exact .head _)
  obtain ⟨-, hfront⟩ := hadmits (String.ofList w) (by rw [toList_ofList])
  simp at hfront

namespace Holds

theorem of_cons (ht : t.toList = c :: u.toList) (h : Holds names (s.step c) u) :
    Holds names s t := by
  intro front read hs token htoken
  rw [ht, tokensFrom] at htoken
  split at htoken
  case isTrue hc => exact h front _ (hs.step_word hc) token htoken
  case isFalse hc =>
    have hc : isWord c = false := Bool.eq_false_iff.mpr hc
    have hpasses : s.passes = true := by
      by_contra hstuck
      rw [Scan.step, if_neg (by simp [hc]), if_neg hstuck] at h
      exact not_holds_lost h
    rcases mem_cons.mp htoken with rfl | htoken
    · exact hs.admits hpasses
    · exact h _ _ (Scan.covers_step_of_not_word hc hpasses) token htoken

theorem fixed {l : List Char} (h : Holds names (s.behind l) u) :
    Holds names s (String.ofList l ++ u) := by
  induction l generalizing s with
  | nil => simpa [Scan.behind] using h
  | cons c l ih => exact of_cons (by simp) (ih h)

theorem empty (h : s.passes = true) : Holds names s "" := by
  intro front read hs token htoken
  rw [mem_singleton.mp htoken]
  exact hs.admits h

theorem last {l : List Char} (h : (s.behind l).passes = true) :
    Holds names s (String.ofList l) := by
  simpa using fixed (empty h)

end Holds

theorem Label.holds (hf : Label names f) (h : Holds names s.behindName u) :
    Holds names s (f ++ u) := by
  intro front read hs token htoken
  rw [toList_append, tokensFrom_append_word hf.word] at htoken
  exact h front _ (hs.behindName hf.mem hf.apart) token htoken

theorem Label.atEnd (hf : Label names f) (h : s.behindName.passes = true) : Holds names s f := by
  simpa using hf.holds (Holds.empty h)

theorem not_prefix_of_apart (h : Apart t) (front : Option Char) :
    ∀ token ∈ tokensFrom front [] t.toList, ¬stringMark <+: token.2 := by
  rintro token htoken ⟨x, hx⟩
  have hmem : token.2 ∈ (tokens t.toList).map Prod.snd := by
    rw [tokens, map_snd_tokensFrom none front]
    exact mem_map_of_mem htoken
  obtain ⟨⟨first, _⟩, hmem, rfl⟩ := mem_map.mp hmem
  have hmention : String.ofList x ∈ mentioned t.toList :=
    mem_mentioned.mpr ⟨first, by rwa [toList_ofList, hx]⟩
  rw [h] at hmention
  cases hmention

namespace Clear

theorem of_tokens (h : ∀ front, ∀ token ∈ tokensFrom front [] t.toList, Admits names token) :
    Clear names t := by
  rintro front _ ⟨rfl, -⟩ token htoken
  exact h front token htoken

theorem of_apart (h : Apart t) : Clear names t :=
  of_tokens fun front token htoken =>
    Scan.admits_of_not_prefix (not_prefix_of_apart h front token htoken)

theorem holds (ht : Clear names t) (h : Holds names s.behindText u) :
    Holds names s (t ++ u) := by
  obtain ⟨opened, rfl⟩ : ∃ opened, s = .word opened [] := by
    by_contra hne
    have hlost : s.behindText = .lost := by
      unfold Scan.behindText
      split
      case h_1 opened => exact absurd ⟨opened, rfl⟩ hne
      case h_2 => rfl
    exact not_holds_lost (hlost ▸ h)
  rintro front _ ⟨rfl, -⟩ token htoken
  obtain ⟨init, last, hinit, happend⟩ := exists_tokensFrom_append front [] t.toList
  have hall : ∀ token ∈ init ++ [last], Admits names token := by
    rw [← hinit]
    exact ht front [] ⟨rfl, nofun⟩
  rw [toList_append, happend] at htoken
  rcases mem_append.mp htoken with htoken | htoken
  · exact hall token (mem_append_left _ htoken)
  · exact h _ _ (hall last (by simp)) token htoken

theorem atEnd (ht : Clear names t) (h : s.behindText.passes = true) : Holds names s t := by
  simpa using ht.holds (Holds.empty h)

end Clear

namespace Loose

theorem not_prefix (ht : Loose t) (front : Option Char) {read : List Char}
    (hread : read = [] ∨ ¬stringMark <+: read ∧ ¬read <+: stringMark) :
    ∀ token ∈ tokensFrom front read (t.toList ++ ['_']), ¬stringMark <+: token.2 := by
  have hapart : ∀ token ∈ tokensFrom front [] (t.toList ++ ['_']), ¬stringMark <+: token.2 := by
    have hapart := not_prefix_of_apart ht front
    rwa [toList_append] at hapart
  obtain ⟨w, rest, -, hw⟩ := exists_tokensFrom_eq_cons (t.toList ++ ['_'])
  rcases hread with rfl | hread
  · exact hapart
  · rw [hw, forall_mem_cons]
    refine ⟨fun hpre => ?_, ?_⟩
    · rcases List.prefix_or_prefix_of_prefix hpre (prefix_append read w) with hle | hle
      · exact hread.1 hle
      · exact hread.2 hle
    · have hrest := hw front []
      exact fun token htoken => hapart token (by rw [hrest]; exact .tail _ htoken)

theorem holds (ht : Loose t) (h : Holds names s.behindLoose u) : Holds names s (t ++ u) := by
  intro front read hs token htoken
  obtain ⟨hname, hread⟩ : s.behindLoose = .name ∧
      (read = [] ∨ ¬stringMark <+: read ∧ ¬read <+: stringMark) := by
    cases s with
    | word opened known =>
      obtain ⟨rfl, -⟩ := hs
      by_cases hlost : read ≠ [] ∧ (stringMark.isPrefixOf read || read.isPrefixOf stringMark) = true
      · rw [Scan.behindLoose, if_pos hlost] at h
        exact absurd h not_holds_lost
      · refine ⟨by rw [Scan.behindLoose, if_neg hlost], ?_⟩
        simpa only [Bool.or_eq_true, List.isPrefixOf_iff_prefix, not_and_or, not_or,
          not_not] using hlost
    | other => exact ⟨rfl, .inr hs⟩
    | name => exact absurd h not_holds_lost
    | done => exact absurd h not_holds_lost
    | lost => exact absurd h not_holds_lost
  obtain ⟨init, last, -, happend⟩ := exists_tokensFrom_append front read t.toList
  have hall := ht.not_prefix front hread
  rw [happend, forall_mem_append] at hall
  rw [toList_append, happend] at htoken
  rw [hname] at h
  rcases mem_append.mp htoken with htoken | htoken
  · exact Scan.admits_of_not_prefix (hall.1 token htoken)
  · exact h last.1 last.2 (hall.2 (last.1, last.2 ++ ['_']) (.head _)) token htoken

theorem atEnd (ht : Loose t) (h : s.behindLoose.passes = true) : Holds names s t := by
  simpa using ht.holds (Holds.empty h)

end Loose

/-! ## Definitions -/

/-- What the line that defines a string begins with. -/
def definitionStart : List Char :=
  "static const char* ".toList

/-- The line that defines the string of a name. -/
def definition (x : String) : String :=
  "static const char* CMockString_" ++ x ++ " = \"" ++ x ++ "\";"

def defined? (line : List Char) : Option String :=
  let word := (line.drop definitionStart.length).takeWhile isWord
  (stringName? word).filter fun x => line = (definition x).toList

/-- The strings that the lines of a text define. -/
def definitionsIn (t : String) : List String :=
  (splitAt '\n' t.toList).filterMap defined?

theorem toList_definition (x : String) :
    (definition x).toList = definitionStart ++ (stringMark ++ x.toList ++
      ' ' :: ("= ".toList ++ '"' :: (x.toList ++ '"' :: [';']))) := by
  have key : ∀ start mark equals name : List Char,
      start ++ mark ++ name ++ ' ' :: (equals ++ ['"']) ++ name ++ ['"', ';'] =
        start ++ (mark ++ name ++ ' ' :: (equals ++ '"' :: (name ++ '"' :: [';']))) := by
    simp
  have hparts : (definition x).toList = "static const char* CMockString_".toList ++ x.toList ++
      " = \"".toList ++ x.toList ++ "\";".toList := by
    unfold definition
    simp only [toList_append]
  exact hparts.trans (key definitionStart stringMark "= ".toList x.toList)

theorem definitionStart_append (t : List Char) :
    definitionStart ++ t = "static const char*".toList ++ ' ' :: t :=
  append_assoc "static const char*".toList [' '] t

theorem takeWhile_isWord_append {w rest : List Char} (hw : ∀ c ∈ w, isWord c = true) :
    (w ++ ' ' :: rest).takeWhile isWord = w := by
  rw [takeWhile_append_of_pos hw, takeWhile_cons_of_neg (by decide), append_nil]

section

variable {x : String} (hx : ∀ c ∈ x.toList, isWord c = true)

include hx

theorem isWord_of_mem_mark_append : ∀ c ∈ stringMark ++ x.toList, isWord c = true :=
  forall_mem_append.mpr ⟨by decide, hx⟩

theorem defined?_definition : defined? (definition x).toList = some x := by
  have hword : ((definition x).toList.drop definitionStart.length).takeWhile isWord =
      stringMark ++ x.toList := by
    rw [toList_definition, drop_left, takeWhile_isWord_append (isWord_of_mem_mark_append hx)]
  unfold defined?
  dsimp only
  rw [hword, stringName?_eq_some_iff.mpr rfl]
  simp

theorem mem_tokens_definition :
    (some ' ', stringMark ++ x.toList) ∈ tokens (definition x).toList := by
  rw [toList_definition, definitionStart_append, tokens, tokensFrom_append_cons (by decide),
    tokensFrom_append_word (isWord_of_mem_mark_append hx), tokensFrom, if_neg (by decide)]
  exact mem_append_right _ (.head _)

end

theorem eq_of_defined? {line : List Char} (h : defined? line = some x) :
    line = (definition x).toList ∧ ∀ c ∈ x.toList, isWord c = true := by
  obtain ⟨hname, hline⟩ := Option.filter_eq_some_iff.mp h
  refine ⟨of_decide_eq_true hline, fun c hc => ?_⟩
  have hmem : c ∈ stringMark ++ x.toList := mem_append_right _ hc
  rw [← stringName?_eq_some_iff.mp hname] at hmem
  exact mem_takeWhile_imp hmem

theorem mentioned_of_word {w : List Char} (hw : ∀ c ∈ w, isWord c = true) :
    mentioned w = (stringName? w).toList := by
  have htokens : tokens w = [(none, w)] := by
    have happend := tokensFrom_append_word hw none [] []
    rwa [append_nil] at happend
  rw [mentioned, htokens]
  cases h : stringName? w <;> simp [h]

theorem Label.mentioned_definition (hx : Label names x) :
    mentioned (definition x).toList = [x] := by
  have hplain : stringName? x.toList = none := by
    rw [stringName?, if_neg fun hpre => hx.apart ?_]
    exact (List.isPrefixOf_iff_prefix.mp hpre).trans (prefix_append _ _)
  have hstart : mentioned "static const char*".toList = [] := by decide
  have hequals : mentioned "= ".toList = [] := by decide
  have hclose : mentioned [';'] = [] := by decide
  rw [toList_definition, definitionStart_append, mentioned_append_cons (by decide),
    mentioned_append_cons (by decide), mentioned_append_cons (by decide),
    mentioned_append_cons (by decide), mentioned_of_word (isWord_of_mem_mark_append hx.word),
    mentioned_of_word hx.word, stringName?_eq_some_iff.mpr rfl, hplain, hstart, hequals, hclose]
  rfl

/-! ## Lines -/

theorem splitAt_append_of_ended {t : List Char} (ht : Ended t) (u : List Char) :
    splitAt '\n' (t ++ u) = (splitAt '\n' t).dropLast ++ splitAt '\n' u := by
  rcases ht with rfl | hlast
  · rfl
  · obtain ⟨x, rfl⟩ := getLast?_eq_some_iff.mp hlast
    rw [append_assoc, singleton_append, splitAt_append_cons,
      splitAt_append_cons, show splitAt '\n' [] = [[]] from rfl, dropLast_concat]

theorem splitAt_lines_append {ls : List String} (h : ∀ l ∈ ls, '\n' ∉ l.toList) (u : List Char) :
    splitAt '\n' ((lines ls).toList ++ u) =
      ls.map String.toList ++ splitAt '\n' u := by
  induction ls with
  | nil => rfl
  | cons l ls ih =>
    rw [forall_mem_cons] at h
    have hbreak : (lines (l :: ls)).toList ++ u = l.toList ++ '\n' :: ((lines ls).toList ++ u) := by
      rw [lines_cons, toList_append, toList_append, append_assoc,
        append_assoc]
      rfl
    rw [hbreak, splitAt_append_cons, splitAt_of_notMem h.1, ih h.2, map_cons,
      singleton_append, cons_append]

theorem Clear.of_append_newline {t u : List Char}
    (h : Clear names (String.ofList (t ++ '\n' :: u))) :
    Clear names (String.ofList t) ∧ Clear names (String.ofList u) := by
  have hall : ∀ front, ∀ token ∈ tokensFrom front [] t ++ tokensFrom (some '\n') [] u,
      Admits names token := fun front => by
    rw [← tokensFrom_append_cons (by decide)]
    simpa using h front [] ⟨rfl, nofun⟩
  constructor
  · refine .of_tokens fun front token htoken => hall front token ?_
    rw [toList_ofList] at htoken
    exact mem_append_left _ htoken
  · refine .of_tokens fun front token htoken => ?_
    obtain ⟨w, rest, -, hw⟩ := exists_tokensFrom_eq_cons u
    have hall := fun token htoken => hall none token (mem_append_right _ htoken)
    rw [toList_ofList, hw] at htoken
    rw [hw, forall_mem_cons] at hall
    rcases mem_cons.mp htoken with rfl | htoken
    · -- Behind a line end there is no name of a string.
      intro x hx
      simpa using hall.1 x hx
    · exact hall.2 token htoken

theorem Clear.of_mem_splitAt (h : Clear names t) :
    ∀ line ∈ splitAt '\n' t.toList, Clear names (String.ofList line) := by
  rw [← ofList_toList (s := t)] at h
  generalize t.toList = chars at h ⊢
  induction chars using line_induction with
  | line t ht =>
    rw [splitAt_of_notMem ht]
    exact forall_mem_singleton.mpr h
  | append t u ht ih =>
    obtain ⟨hfirst, hrest⟩ := of_append_newline h
    rw [splitAt_append_cons, splitAt_of_notMem ht, forall_mem_append]
    exact ⟨forall_mem_singleton.mpr hfirst, ih hrest⟩

theorem Clear.mem_of_mentioned (h : Clear names t) (hx : x ∈ mentioned t.toList) : x ∈ names := by
  obtain ⟨front, hfront⟩ := mem_mentioned.mp hx
  exact (h none [] ⟨rfl, nofun⟩ _ hfront x rfl).1

theorem Clear.apart (h : Clear [] t) : Apart t :=
  eq_nil_iff_forall_not_mem.mpr fun _ hx => not_mem_nil (h.mem_of_mentioned hx)

theorem Clear.defined?_eq_none {line : List Char} (h : Clear names (String.ofList line)) :
    defined? line = none := by
  cases hdefined : defined? line with
  | none => rfl
  | some x =>
    obtain ⟨rfl, hx⟩ := eq_of_defined? hdefined
    rw [ofList_toList] at h
    obtain ⟨-, hfront⟩ := h none [] ⟨rfl, nofun⟩ _ (mem_tokens_definition hx) x rfl
    simp at hfront

/-! ## The table -/

/-- The strings that a text names are defined in it: by one line each, in the order of their names,
and before any other line names them. -/
structure Tabled (names : List String) (t : String) : Prop where
  increasing : (definitionsIn t).Pairwise (· < ·)
  mem_iff : ∀ x, x ∈ definitionsIn t ↔ x ∈ names
  before : ∀ front line back, splitAt '\n' t.toList = front ++ line :: back →
    ∀ x ∈ mentioned line, line = (definition x).toList ∨ x ∈ front.filterMap defined?
  once : ∀ x ∈ mentioned t.toList,
    (splitAt '\n' t.toList).count (definition x).toList = 1

theorem Tabled.congr {names' : List String} {t : String} (h : Tabled names t)
    (hnames : ∀ x, x ∈ names ↔ x ∈ names') : Tabled names' t where
  increasing := h.increasing
  mem_iff x := (h.mem_iff x).trans (hnames x)
  before := h.before
  once := h.once

theorem Tabled.mem_of_mentioned {t : String} (h : Tabled names t)
    (hword : ∀ c ∈ x.toList, isWord c = true) (hx : x ∈ mentioned t.toList) : x ∈ names := by
  have hline : (definition x).toList ∈ splitAt '\n' t.toList :=
    count_pos_iff.mp (h.once x hx ▸ Nat.one_pos)
  exact (h.mem_iff x).mp (mem_filterMap.mpr ⟨_, hline, defined?_definition hword⟩)

theorem count_definition (hx : ∀ c ∈ x.toList, isWord c = true) (lines : List (List Char)) :
    lines.count (definition x).toList = (lines.filterMap defined?).count x := by
  induction lines with
  | nil => rfl
  | cons line lines ih =>
    rw [count_cons, ih]
    by_cases hline : line = (definition x).toList
    · rw [hline, filterMap_cons_some (defined?_definition hx), count_cons_self]
      simp
    · rw [if_neg (by simpa using hline), Nat.add_zero]
      cases hdefined : defined? line with
      | none => rw [filterMap_cons_none hdefined]
      | some y =>
        rw [filterMap_cons_some hdefined, count_cons_of_ne]
        rintro rfl
        exact hline (eq_of_defined? hdefined).1

theorem mem_or_of_append_eq {α : Type} {as bs front back : List α} {a : α}
    (h : as ++ bs = front ++ a :: back) : a ∈ as ∨ as <+: front ∧ a ∈ bs := by
  rcases List.append_eq_append_iff.mp h with ⟨x, hfront, hbs⟩ | ⟨x, has, hx⟩
  · exact .inr ⟨⟨x, hfront.symm⟩, by simp [hbs]⟩
  · cases x with
    | nil =>
      rw [append_nil] at has
      exact .inr ⟨has ▸ prefix_rfl, by rw [← nil_append bs, ← hx]; exact .head _⟩
    | cons b x =>
      obtain ⟨rfl, -⟩ := List.cons.inj hx
      exact .inl (by simp [has])

section

variable (hlabels : ∀ x ∈ names, Label names x)

include hlabels

theorem newline_notMem_definition : ∀ l ∈ names.map definition, '\n' ∉ l.toList := by
  rw [forall_mem_map]
  intro x hx hmem
  have hname : '\n' ∉ x.toList := fun hmem =>
    absurd ((hlabels x hx).word _ hmem) (by decide)
  have hfixed : '\n' ∉ definitionStart ++ stringMark ++ "= ".toList := by decide
  rw [toList_definition] at hmem
  simp_all

theorem filterMap_defined?_definition :
    ((names.map definition).map String.toList).filterMap defined? = names := by
  rw [filterMap_map, filterMap_map]
  refine (filterMap_congr fun x hx => ?_).trans filterMap_some
  rw [Function.comp_apply, Function.comp_apply, defined?_definition (hlabels x hx).word]

/-- The definitions of strings in order, between code that names none of them and code that names
them, and no other string. -/
theorem tabled_of_clear {head rest : String} (hended : Ended head.toList) (hhead : Clear [] head)
    (hsorted : names.Pairwise (· < ·)) (hrest : Clear names rest) :
    Tabled names (head ++ (lines (names.map definition) ++ rest)) := by
  obtain ⟨first, hfirst, hlines⟩ : ∃ first, (∀ line ∈ first, Clear [] (String.ofList line)) ∧
      splitAt '\n' (head ++ (lines (names.map definition) ++ rest)).toList =
        (first ++ (names.map definition).map String.toList) ++ splitAt '\n' rest.toList := by
    refine ⟨(splitAt '\n' head.toList).dropLast, fun line hline =>
      hhead.of_mem_splitAt line (mem_of_mem_dropLast hline), ?_⟩
    rw [toList_append, splitAt_append_of_ended hended, toList_append,
      splitAt_lines_append (newline_notMem_definition hlabels), append_assoc]
  have htable : (first ++ (names.map definition).map String.toList).filterMap defined? = names := by
    rw [filterMap_append, filterMap_defined?_definition hlabels,
      filterMap_eq_nil_iff.mpr fun line hline => (hfirst line hline).defined?_eq_none,
      nil_append]
  have hdefinitions : definitionsIn (head ++ (lines (names.map definition) ++ rest)) = names := by
    rw [definitionsIn, hlines, filterMap_append, htable, filterMap_eq_nil_iff.mpr
      fun line hline => (hrest.of_mem_splitAt line hline).defined?_eq_none, append_nil]
  have hbefore : ∀ front line back,
      splitAt '\n' (head ++ (lines (names.map definition) ++ rest)).toList =
        front ++ line :: back →
      ∀ x ∈ mentioned line,
        x ∈ names ∧ (line = (definition x).toList ∨ x ∈ front.filterMap defined?) := by
    intro front line back hsplit x hx
    rw [← toList_ofList (l := line)] at hx
    rcases mem_or_of_append_eq (hlines.symm.trans hsplit) with hline | ⟨hfront, hline⟩
    · rcases mem_append.mp hline with hline | hline
      · cases (hfirst line hline).mem_of_mentioned hx
      · obtain ⟨_, hdefinition, rfl⟩ := mem_map.mp hline
        obtain ⟨y, hy, rfl⟩ := mem_map.mp hdefinition
        rw [toList_ofList, (hlabels y hy).mentioned_definition, mem_singleton] at hx
        subst hx
        exact ⟨hy, .inl rfl⟩
    · have hmem := (hrest.of_mem_splitAt line hline).mem_of_mentioned hx
      exact ⟨hmem, .inr ((hfront.filterMap defined?).subset (htable.symm ▸ hmem))⟩
  refine ⟨by rwa [hdefinitions], fun x => by rw [hdefinitions],
    fun front line back hsplit x hx => (hbefore front line back hsplit x hx).2, fun x hx => ?_⟩
  have hmem : x ∈ names := by
    rw [mentioned_eq_flatMap, mem_flatMap] at hx
    obtain ⟨line, hline, hx⟩ := hx
    obtain ⟨front, back, hsplit⟩ := append_of_mem hline
    exact (hbefore front line back hsplit x hx).1
  rw [count_definition (hlabels x hmem).word, ← definitionsIn, hdefinitions]
  have hnodup : names.Nodup := hsorted.imp fun hlt heq => by
    subst heq
    exact String.lt_irrefl _ hlt
  exact count_eq_one_of_mem hnodup hmem

end

end MockGen.Code
