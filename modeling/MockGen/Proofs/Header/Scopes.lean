import MockGen.Proofs.Header.Run
import MockGen.Proofs.Pattern.Exact
import MockGen.Proofs.Text.Words

/-!
# The scopes around static functions

A brace opens a named scope or a block, by the words in front of it, and closes the scope that was
opened last.  Records of static functions spell scopes as they are written, and they count every
second closing brace with nothing open as one more scope; so a record gives the names of its scopes
only if it has none, and a header with records is not read.
-/

namespace MockGen.Header

open Pattern Text List Option

/-! ## Scopes by their names -/

inductive Scope where
  | block
  | named (isClass : Bool) (name : List Char)
  deriving DecidableEq

variable {name mark : List Char} {scope : Scope} {s : ScopeState}

namespace Scope

/-- The scope that the brace at the end of a mark opens. -/
def ofMark (mark : List Char) : Scope :=
  match words mark.dropLast with
  | [kind, name] => named (kind == "class".toList) name
  | _ => block

def space? : Scope → Option (List Char)
  | named false name => some name
  | _ => none

def class? : Scope → Option (List Char)
  | named true name => some name
  | _ => none

theorem space?_eq_some (h : scope.space? = some name) : scope = named false name := by
  unfold space? at h
  split at h
  · rw [Option.some.inj h]
  · cases h

theorem class?_eq_some (h : scope.class? = some name) : scope = named true name := by
  unfold class? at h
  split at h
  · rw [Option.some.inj h]
  · cases h

def keyword (isClass : Bool) : List Char :=
  if isClass then "class".toList else "namespace".toList

inductive Opens : List Char → Scope → Prop
  | block : Opens ['\x7b'] block
  | named (isClass : Bool) {u name v : List Char} (hne : u ≠ []) (hu : ∀ c ∈ u, isBlank c = true)
      (hname : name ≠ []) (hletters : ∀ c ∈ name, isBlank c = false)
      (hv : ∀ c ∈ v, isBlank c = true) :
      Opens (keyword isClass ++ u ++ name ++ v ++ ['\x7b']) (named isClass name)

end Scope

/-- Open scopes, outermost first, and the number of closing braces that came with nothing open. -/
structure Nesting where
  opened : List Scope := []
  strays : Nat := 0

namespace Nesting

def pass (n : Nesting) (mark : List Char) : Nesting :=
  if mark ≠ ['\x7d'] then { n with opened := n.opened ++ [.ofMark mark] }
  else if n.opened.isEmpty then { n with strays := n.strays + 1 }
  else { n with opened := n.opened.dropLast }

/-- The names of the open namespaces, outermost first. -/
def namespaces (n : Nesting) : List (List Char) :=
  n.opened.filterMap Scope.space?

/-- The name of the innermost scope, if it is a class. -/
def className (n : Nesting) : Option (List Char) :=
  n.opened.getLast?.bind Scope.class?

end Nesting

/-- The braces of a line, opening ones with the words in front of them. -/
def marksIn (line : List Char) : List (List Char) :=
  (scopeMark.allMatches line).map Match.text

/-- The scopes that are open behind the given lines. -/
def nestingIn (lines : List (List Char)) : Nesting :=
  (lines.flatMap marksIn).foldl Nesting.pass {}

/-! ## Marks -/

namespace Scope

theorem Opens.ofMark_eq (h : Opens mark scope) : ofMark mark = scope := by
  cases h with
  | block => rfl
  | @named isClass u name v hne hu hname hletters hv =>
    have hwords : words (keyword isClass ++ u ++ name ++ v) = [keyword isClass, name] := by
      have hkeyword : words (keyword isClass) = [keyword isClass] := by cases isClass <;> decide
      obtain ⟨b, u, rfl⟩ := exists_cons_of_ne_nil hne
      rw [words_append_blanks hv, append_assoc, cons_append,
        words_append_blank (hu b mem_cons_self), hkeyword,
        words_blanks_append fun c hc => hu c (mem_cons_of_mem b hc), words_letters hname hletters]
      rfl
    rw [ofMark, dropLast_concat, hwords]
    cases isClass <;> rfl

theorem Opens.ne_close (h : Opens mark scope) : mark ≠ ['\x7d'] := by
  cases h with
  | block => decide
  | named =>
    intro h
    have hlast := congrArg List.getLast? h
    rw [getLast?_concat] at hlast
    exact absurd (Option.some.inj hlast) (by decide)

theorem opens_of_mem_marksIn {line : List Char} (h : mark ∈ marksIn line) :
    mark = ['\x7d'] ∨ Opens mark (.ofMark mark) := by
  obtain ⟨m, hm, rfl⟩ := mem_map.mp h
  obtain ⟨before, rest, h⟩ := Exact.exists_of_mem_allMatches (p := scopeMark)
    (.orElse (.append (.opt (exact_of_isSimple rfl)) (exact_of_isSimple rfl))
      (exact_of_isSimple rfl)) hm
  generalize m.text = mark at h
  simp only [reads_append, reads_place, reads_oneOf, reads_blanks1, reads_stretch1, reads_blanks,
    reads_char, CharSet.mem] at h
  rcases h with ⟨_, _, rfl, h | rfl, rfl⟩ | rfl
  · obtain ⟨_, v, rfl, ⟨_, name, rfl, ⟨_, u, rfl, ⟨_, kind, rfl, ⟨rfl, -⟩, hkind⟩, hne, hu⟩, hname,
      hletters⟩, hv⟩ := h
    obtain ⟨isClass, rfl⟩ : ∃ isClass, kind = keyword isClass := by
      rcases hkind with ⟨word, hword, rfl⟩
      simp only [mem_cons, not_mem_nil, or_false] at hword
      rcases hword with rfl | rfl
      · exact ⟨false, rfl⟩
      · exact ⟨true, rfl⟩
    have hopens := Opens.named isClass hne hu hname (fun c hc => by simpa using hletters c hc) hv
    rw [nil_append, hopens.ofMark_eq]
    exact .inr hopens
  · exact .inr .block
  · exact .inl rfl

/-! ## Marks as records spell them -/

theorem mem_replaceFrom_of_mem {e : Char} {part new t : List Char} {skip : Nat} {c : Char}
    (hc : c ∉ e :: part) (hskip : ∀ d ∈ t.take skip, d ∈ e :: part) (h : c ∈ t) :
    c ∈ replaceFrom (e :: part) new skip t := by
  induction t generalizing skip with
  | nil => cases h
  | cons d t ih =>
    have hrest : d ∈ e :: part → c ∈ t := by
      intro hd
      refine (mem_cons.mp h).resolve_left ?_
      rintro rfl
      exact hc hd
    cases skip with
    | succ skip =>
      rw [take_succ_cons, forall_mem_cons] at hskip
      exact ih hskip.2 (hrest hskip.1)
    | zero =>
      rw [replaceFrom]
      split
      case isTrue hpart =>
        obtain ⟨rfl, hmore⟩ := cons_prefix_cons.mp (List.isPrefixOf_iff_prefix.mp hpart)
        refine mem_append_right _ (ih (fun f hf => ?_) (hrest mem_cons_self))
        rw [length_cons, Nat.add_sub_cancel, ← prefix_iff_eq_take.mp hmore] at hf
        exact mem_cons_of_mem e hf
      case isFalse =>
        rcases mem_cons.mp h with rfl | h
        · exact mem_cons_self
        · exact mem_cons_of_mem d (ih (by simp) h)

theorem replaceFrom_cons {c d : Char} (h : d ≠ c) (part new t : List Char) :
    replaceFrom (d :: part) new 0 (c :: t) = c :: replaceFrom (d :: part) new 0 t := by
  rw [replaceFrom, List.isPrefixOf, beq_eq_false_iff_ne.mpr h]
  rfl

theorem Opens.strip_eq (h : Opens mark scope) : Text.strip mark = mark := by
  cases h with
  | block => decide
  | @named isClass u name v =>
    rw [strip_append_cons (by decide) (forall_mem_nil _)]
    cases isClass <;> rfl

theorem Opens.exists_blank_mem_trimmed {isClass : Bool} (h : Opens mark (.named isClass name)) :
    ∃ b ∈ trimmed mark, isBlank b = true := by
  rw [trimmed, h.strip_eq]
  cases h with
  | @named _ u _ v hne hu =>
    obtain ⟨b, u, rfl⟩ := exists_cons_of_ne_nil hne
    have hb := hu b mem_cons_self
    refine ⟨b, mem_replaceFrom_of_mem ?_ (by simp) (by simp), hb⟩
    intro hmem
    have hletters : ∀ c ∈ "\\s+".toList, isBlank c = false := by decide
    rw [hletters b hmem] at hb
    cases hb

theorem head_of_replace_blanks {t more : List Char}
    (h : Text.replace "\\s+".toList [' '] t = '(' :: more) : ∃ rest, t = '(' :: rest := by
  cases t with
  | nil => cases h
  | cons c t =>
    rw [Text.replace, replaceFrom] at h
    split at h
    · exact absurd (List.cons.inj h).1 (by decide)
    · exact ⟨t, by rw [(List.cons.inj h).1]⟩

theorem Opens.trimmed_ne {isClass : Bool} (h : Opens mark (.named isClass name)) :
    trimmed mark ≠ ['\x7b'] := by
  intro htrimmed
  obtain ⟨b, hb, hblank⟩ := h.exists_blank_mem_trimmed
  rw [htrimmed, mem_singleton] at hb
  rw [hb] at hblank
  exact absurd hblank (by decide)

theorem Opens.trimmed_block (h : Opens mark .block) : trimmed mark = ['\x7b'] := by
  cases h
  decide

theorem Opens.referenced_ne (h : Opens mark (.named true name))
    (hclass : "class ".toList.isPrefixOf (trimmed mark) = true) :
    ScopeState.split.referenced (trimmed mark) ≠ name := by
  rw [trimmed, h.strip_eq] at hclass ⊢
  cases h with
  | @named _ u _ v hne hu hname hletters hv =>
    obtain ⟨b, u, rfl⟩ := exists_cons_of_ne_nil hne
    have hb : '\\' ≠ b := by
      rintro rfl
      exact absurd (hu _ mem_cons_self) (by decide)
    have htoken : Text.replace "\\s+".toList [' ']
        (keyword true ++ (b :: u) ++ name ++ v ++ ['\x7b']) =
          'c' :: 'l' :: 'a' :: 's' :: 's' :: b ::
            Text.replace "\\s+".toList [' '] (u ++ name ++ v ++ ['\x7b']) := by
      change replaceFrom ('\\' :: ['s', '+']) [' '] 0
        ('c' :: 'l' :: 'a' :: 's' :: 's' :: b :: (u ++ name ++ v ++ ['\x7b'])) = _
      rw [replaceFrom_cons (by decide), replaceFrom_cons (by decide), replaceFrom_cons (by decide),
        replaceFrom_cons (by decide), replaceFrom_cons (by decide), replaceFrom_cons hb]
      rfl
    rw [htoken] at hclass ⊢
    obtain rfl : b = ' ' := by
      rw [List.isPrefixOf_iff_prefix] at hclass
      obtain ⟨more, hmore⟩ := hclass
      exact (List.cons.inj (@List.append_cancel_left _ "class".toList _ _ hmore)).1.symm
    intro hreferenced
    rw [ScopeState.split.referenced, Text.replace, replaceFrom] at hreferenced
    split at hreferenced
    case isTrue hprefix =>
      obtain ⟨more, hmore⟩ := List.isPrefixOf_iff_prefix.mp hprefix
      have hhead := @List.append_cancel_left _ "class ".toList _ _ hmore
      obtain ⟨rest, hrest⟩ := head_of_replace_blanks hhead.symm
      rw [← hreferenced] at hrest
      cases u with
      | nil => exact absurd (List.cons.inj hrest).1 (by decide)
      | cons b' u =>
        have hb' := hu b' (by simp)
        rw [(List.cons.inj hrest).1] at hb'
        exact absurd hb' (by decide)
    case isFalse =>
      change 'c' :: replaceFrom ('c' :: "lass (\\S+) \x7b".toList) _ 0 _ = name at hreferenced
      rw [replaceFrom_cons (by decide), replaceFrom_cons (by decide), replaceFrom_cons (by decide),
        replaceFrom_cons (by decide), replaceFrom_cons (by decide)] at hreferenced
      have hmem : ' ' ∈ name := by
        rw [← hreferenced]
        simp
      exact absurd (hletters ' ' hmem) (by decide)

end Scope

/-! ## Scopes behind the lines -/

open Scope

/-- The state of reading at a place, by the marks of the scopes that are open there. -/
def Tracks (s : ScopeState) (n : Nesting) : Prop :=
  ∃ marks : List (List Char), n.opened = marks.map ofMark ∧
    (∀ mark ∈ marks, Opens mark (ofMark mark)) ∧
    s.scopes = List.replicate (n.strays % 2) ['\x7d'] ++ marks.map trimmed

theorem ScopeState.scopes_pass (s : ScopeState) (mark : List Char) :
    (s.pass mark).scopes =
      if mark == ['\x7d'] && !s.scopes.isEmpty then s.scopes.dropLast
      else s.scopes ++ [trimmed mark] := by
  rw [pass]
  split <;> rfl

theorem Tracks.pass {n : Nesting} (h : Tracks s n)
    (hmark : mark = ['\x7d'] ∨ Opens mark (ofMark mark)) : Tracks (s.pass mark) (n.pass mark) := by
  obtain ⟨marks, hopened, hmarks, hscopes⟩ := h
  rw [Tracks, ScopeState.scopes_pass, hscopes, Nesting.pass, hopened]
  rcases hmark with rfl | hmark
  · rcases eq_nil_or_concat marks with rfl | ⟨marks, last, rfl⟩
    · refine ⟨[], rfl, by simp, ?_⟩
      rcases Nat.mod_two_eq_zero_or_one n.strays with hstrays | hstrays
      · have hmod : (n.strays + 1) % 2 = 1 := by omega
        change _ = List.replicate ((n.strays + 1) % 2) _ ++ _
        rw [hstrays, hmod]
        decide
      · have hmod : (n.strays + 1) % 2 = 0 := by omega
        change _ = List.replicate ((n.strays + 1) % 2) _ ++ _
        rw [hstrays, hmod]
        rfl
    · refine ⟨marks, ?_, fun mark hm => hmarks mark (by simp [hm]), ?_⟩
      · simp
      · simp [← append_assoc]
  · have hne := hmark.ne_close
    rw [beq_eq_false_iff_ne.mpr hne, if_pos hne]
    refine ⟨marks ++ [mark], ?_, ?_, ?_⟩
    · rw [map_append]
      rfl
    · exact forall_mem_append.mpr ⟨hmarks, forall_mem_singleton.mpr hmark⟩
    · rw [map_append, ← append_assoc]
      rfl

/-- The state behind the braces and labels of a line. -/
def ScopeState.line (s : ScopeState) (line : List Char) : ScopeState :=
  ((marksIn line).foldl ScopeState.pass s).label line

theorem Tracks.foldl_pass {marks : List (List Char)}
    (hmarks : ∀ mark ∈ marks, mark = ['\x7d'] ∨ Opens mark (ofMark mark)) {n : Nesting}
    (h : Tracks s n) : Tracks (marks.foldl ScopeState.pass s) (marks.foldl Nesting.pass n) := by
  induction marks generalizing s n with
  | nil => exact h
  | cons mark marks ih =>
    rw [forall_mem_cons] at hmarks
    exact ih hmarks.2 (h.pass hmarks.1)

theorem tracks_nesting (lines : List (List Char)) :
    Tracks (lines.foldl ScopeState.line {}) (nestingIn lines) := by
  have key : ∀ s n, Tracks s n →
      Tracks (lines.foldl ScopeState.line s) ((lines.flatMap marksIn).foldl Nesting.pass n) := by
    induction lines with
    | nil => exact fun s n h => h
    | cons line lines ih =>
      intro s n h
      rw [flatMap_cons, foldl_append]
      exact ih _ _ (h.foldl_pass (fun mark hmark => opens_of_mem_marksIn hmark))
  exact key _ _ ⟨[], rfl, forall_mem_nil _, rfl⟩

/-! ## Names of scopes -/

section

variable {marks : List (List Char)} (hmarks : ∀ mark ∈ marks, Opens mark (ofMark mark))

include hmarks

theorem exists_blank_mem_of_mem_named {token : List Char}
    (h : token ∈ (marks.map trimmed).filter (· != ['\x7b'])) : ∃ b ∈ token, isBlank b = true := by
  obtain ⟨htoken, hne⟩ := mem_filter.mp h
  obtain ⟨mark, hmark, rfl⟩ := mem_map.mp htoken
  have hopens := hmarks mark hmark
  cases hscope : ofMark mark with
  | block =>
    rw [hscope] at hopens
    rw [hopens.trimmed_block] at hne
    exact absurd hne (by decide)
  | named isClass name =>
    rw [hscope] at hopens
    exact hopens.exists_blank_mem_trimmed

theorem length_named : ((marks.map trimmed).filter (· != ['\x7b'])).length =
    ((marks.map ofMark).filterMap space?).length +
      ((marks.map ofMark).filterMap class?).length := by
  induction marks with
  | nil => rfl
  | cons mark marks ih =>
    rw [forall_mem_cons] at hmarks
    have ih := ih hmarks.2
    obtain ⟨hopens, -⟩ := hmarks
    rw [map_cons, map_cons]
    cases hscope : ofMark mark with
    | block =>
      rw [hscope] at hopens
      rw [hopens.trimmed_block]
      exact ih
    | named isClass name =>
      rw [hscope] at hopens
      have hne : (trimmed mark != ['\x7b']) = true := bne_iff_ne.mpr hopens.trimmed_ne
      simp only [filter_cons, hne, if_true, length_cons, ih]
      cases isClass with
      | false => exact Nat.add_right_comm _ _ _
      | true => rfl

theorem isBlank_of_mem_spaces (h : name ∈ (marks.map ofMark).filterMap space?) :
    ∀ c ∈ name, isBlank c = false := by
  obtain ⟨scope, hscope, hname⟩ := mem_filterMap.mp h
  obtain ⟨mark, hmark, rfl⟩ := mem_map.mp hscope
  have hopens := hmarks mark hmark
  rw [space?_eq_some hname] at hopens
  cases hopens
  assumption

end

theorem eq_block (hspace : scope.space? = none) (hclass : scope.class? = none) :
    scope = .block := by
  cases scope with
  | block => rfl
  | named isClass name =>
    cases isClass with
    | false => cases hspace
    | true => cases hclass

namespace Tracks

variable {s : ScopeState} {n : Nesting}

theorem exists_named (h : Tracks s n) : ∃ marks : List (List Char),
    n.opened = marks.map ofMark ∧ (∀ mark ∈ marks, Opens mark (ofMark mark)) ∧
      s.scopes.filter (· != ['\x7b']) =
        List.replicate (n.strays % 2) ['\x7d'] ++ (marks.map trimmed).filter (· != ['\x7b']) := by
  obtain ⟨marks, hopened, hmarks, hscopes⟩ := h
  refine ⟨marks, hopened, hmarks, ?_⟩
  rw [hscopes, filter_append, filter_replicate]
  rfl

theorem blocks_of_named_eq (h : Tracks s n)
    (hnamed : s.scopes.filter (· != ['\x7b']) = n.namespaces) :
    (∀ scope ∈ n.opened, scope = .block) ∧ n.strays % 2 = 0 := by
  obtain ⟨marks, hopened, hmarks, heq⟩ := h.exists_named
  rw [heq, Nesting.namespaces, hopened] at hnamed
  have hlength := congrArg List.length hnamed
  rw [length_append, length_replicate, length_named hmarks] at hlength
  have hstrays : n.strays % 2 = 0 := by omega
  have hclasses : ((marks.map ofMark).filterMap class?).length = 0 := by omega
  rw [hstrays, replicate_zero, nil_append] at hnamed
  -- a token with a blank in it is no name
  have hnone : (marks.map ofMark).filterMap space? = [] := by
    rw [eq_nil_iff_forall_not_mem]
    intro token htoken
    have hletters := isBlank_of_mem_spaces hmarks htoken
    rw [← hnamed] at htoken
    obtain ⟨b, hb, hblank⟩ := exists_blank_mem_of_mem_named hmarks htoken
    rw [hletters b hb] at hblank
    cases hblank
  refine ⟨fun scope hscope => ?_, hstrays⟩
  rw [hopened] at hscope
  exact eq_block (filterMap_eq_nil_iff.mp hnone scope hscope)
    (filterMap_eq_nil_iff.mp (length_eq_zero_iff.mp hclasses) scope hscope)

theorem split_eq_iff (h : Tracks s n) : s.split = (n.namespaces, n.className) ↔
    (∀ scope ∈ n.opened, scope = .block) ∧ n.strays % 2 = 0 := by
  constructor
  · intro hsplit
    rw [ScopeState.split] at hsplit
    split at hsplit
    case h_1 last hlast =>
      split at hsplit
      case isTrue hclass =>
        exfalso
        obtain ⟨marks, hopened, hmarks, heq⟩ := h.exists_named
        have hname := (Prod.mk.inj hsplit).2.symm
        rw [Nesting.className, hopened, getLast?_map, bind_eq_some_iff] at hname
        obtain ⟨_, hlastMark, hname⟩ := hname
        obtain ⟨mark, hmark, rfl⟩ := map_eq_some_iff.mp hlastMark
        obtain ⟨front, rfl⟩ := getLast?_eq_some_iff.mp hmark
        have hopens := hmarks mark (by simp)
        rw [class?_eq_some hname] at hopens
        have hne : (trimmed mark != ['\x7b']) = true := bne_iff_ne.mpr hopens.trimmed_ne
        obtain rfl : trimmed mark = last := by
          have hfilter : (List.map trimmed [mark]).filter (· != ['\x7b']) = [trimmed mark] :=
            filter_cons_of_pos hne
          rw [heq, map_append, filter_append, hfilter, ← append_assoc,
            getLast?_concat] at hlast
          exact Option.some.inj hlast
        exact hopens.referenced_ne hclass rfl
      case isFalse => exact h.blocks_of_named_eq (Prod.mk.inj hsplit).1
    case h_2 => exact h.blocks_of_named_eq (Prod.mk.inj hsplit).1
  · rintro ⟨hblocks, hstrays⟩
    obtain ⟨marks, hopened, hmarks, heq⟩ := h.exists_named
    have hspaces : n.namespaces = [] :=
      filterMap_eq_nil_iff.mpr fun scope hscope => by rw [hblocks scope hscope]; rfl
    have hclasses : n.opened.filterMap class? = [] :=
      filterMap_eq_nil_iff.mpr fun scope hscope => by rw [hblocks scope hscope]; rfl
    have hclass : n.className = none := by
      rw [Nesting.className, bind_eq_none_iff]
      intro scope hscope
      rw [hblocks scope (mem_of_getLast? hscope)]
      rfl
    have hlength := length_named hmarks
    rw [← hopened, hclasses, ← Nesting.namespaces, hspaces] at hlength
    rw [hstrays, length_eq_zero_iff.mp hlength] at heq
    rw [ScopeState.split, heq, hspaces, hclass]
    rfl

end Tracks

/-! ## Records -/

theorem staticFunctions_cons (s : ScopeState) (line : List Char) (lines : List (List Char)) :
    staticFunctions s (line :: lines) =
      staticFunctions s [line] ++ staticFunctions (s.line line) lines := by
  simp only [staticFunctions]
  split_ifs <;> rfl

theorem staticFunctions_append (s : ScopeState) (lines more : List (List Char)) :
    staticFunctions s (lines ++ more) =
      staticFunctions s lines ++ staticFunctions (lines.foldl ScopeState.line s) more := by
  induction lines generalizing s with
  | nil => rfl
  | cons line lines ih =>
    rw [cons_append, staticFunctions_cons, ih, staticFunctions_cons s line lines,
      append_assoc, foldl_cons]

theorem split_of_mem_staticFunctions {line : List Char} {d : ScopedDeclaration}
    (h : d ∈ staticFunctions s [line]) : (s.line line).split = (d.namespaces, d.className) := by
  simp only [staticFunctions] at h
  split_ifs at h
  · rw [mem_singleton.mp h]
    rfl
  · cases h
  · cases h

theorem exists_fault_of_members {r : Rules} {name : String} {source : List Char} {p : Prepared}
    (h : prepare r name source = .ok p) (hmembers : p.members ≠ []) (s : Reading) :
    ∃ fault, ((parse r name source).run s).1 = .error fault := by
  rw [parse_run_of_ok s h]
  split
  · exact ⟨_, rfl⟩
  · rw [finish, if_neg (by simpa using hmembers)]
    exact ⟨_, rfl⟩

theorem intercalate_ne_empty {sep : String} {names : List String} (hne : names ≠ [])
    (hnames : ∀ name ∈ names, name ≠ "") : sep.intercalate names ≠ "" := by
  obtain ⟨name, names, rfl⟩ := exists_cons_of_ne_nil hne
  have hname := hnames name mem_cons_self
  cases names with
  | nil => rwa [String.intercalate_singleton]
  | cons next names =>
    rw [String.intercalate_cons_cons]
    simp [String.append_eq_empty_iff, hname]

theorem behind_scopes {scopes : List String} (h : ∀ scope ∈ scopes, scope ≠ "") {front : String}
    (hfront : front = "_".intercalate scopes) (name : String) :
    (if front == "" then name else s!"{front}_{name}") = "_".intercalate (scopes ++ [name]) := by
  subst hfront
  rcases eq_or_ne scopes [] with rfl | hne
  · simp
  · rw [beq_eq_false_iff_ne.mpr (intercalate_ne_empty hne h),
      String.intercalate_append_of_ne_nil hne (cons_ne_nil name []),
      String.intercalate_singleton]
    rfl

theorem scopedName_eq {namespaces : List String} {className : Option String}
    (h : ∀ scope ∈ namespaces ++ className.toList, scope ≠ "") (name : String) :
    scopedName namespaces className name =
      "_".intercalate (namespaces ++ className.toList ++ [name]) := by
  unfold scopedName
  cases className with
  | none =>
    rw [toList_none, append_nil] at h ⊢
    exact behind_scopes h rfl name
  | some c =>
    rw [toList_some] at h ⊢
    have hc : (c == "") = false := beq_eq_false_iff_ne.mpr (h c (by simp))
    dsimp only
    rw [hc, behind_scopes (fun scope hs => h scope (mem_append_left _ hs)) rfl]
    exact behind_scopes h rfl name

/-- A record gives the names of the scopes around its line only outside all named scopes, with an
even number of closing braces that had nothing to close; and no header with a record is read.  Read
under the names of its scopes, a declaration would be named after them. -/
theorem staticFunctions_scopes {before : List (List Char)} {line : List Char}
    {added : List ScopedDeclaration} (hadded : staticFunctions {} (before ++ [line]) =
      staticFunctions {} before ++ added) {d : ScopedDeclaration} (hd : d ∈ added) :
    let n := nestingIn (before ++ [line])
    (∀ after, staticFunctions {} (before ++ [line]) <+:
      staticFunctions {} (before ++ line :: after)) ∧
    (d.namespaces = n.namespaces ∧ d.className = n.className ↔
      (∀ scope ∈ n.opened, scope = .block) ∧ n.strays % 2 = 0) ∧
    (∀ r name source p s, prepare r name source = .ok p → d ∈ p.members →
      ∃ fault, ((parse r name source).run s).1 = .error fault) ∧
    ∀ r namespaces className s f t, (∀ scope ∈ namespaces ++ className.toList, scope ≠ "") →
      (prototype r d.declaration namespaces className).run s = (.ok f, t) →
        f.name = "_".intercalate (namespaces ++ className.toList ++ [f.unscopedName]) := by
  intro n
  have htracks := tracks_nesting (before ++ [line])
  rw [foldl_append] at htracks
  rw [staticFunctions_append, append_right_inj] at hadded
  rw [← hadded] at hd
  refine ⟨fun after => ?_, ?_, fun r name source p s hprepare hmember => ?_,
    fun r namespaces className s f t hscopes hread => ?_⟩
  · rw [staticFunctions_append, staticFunctions_append, staticFunctions_cons _ line after,
      ← append_assoc]
    exact prefix_append _ _
  · rw [← htracks.split_eq_iff, foldl_cons, foldl_nil, split_of_mem_staticFunctions hd,
      Prod.mk.injEq]
  · exact exists_fault_of_members hprepare (ne_nil_of_mem hmember) s
  · obtain ⟨m, parsed, args, -, -, -, -, rfl, -⟩ := prototype_run_eq_ok.mp hread
    exact scopedName_eq hscopes parsed.name

/-- A block, behind two braces that close nothing. -/
theorem staticFunctions_scopes_block :
    let before := ["\x7d".toList, "public: \x7d".toList]
    let line := "\x7b static int f(void)".toList
    let n := nestingIn (before ++ [line])
    ∃ d, staticFunctions {} (before ++ [line]) = staticFunctions {} before ++ [d] ∧
      d.namespaces = n.namespaces ∧ d.className = n.className := by
  intro before line n
  have hadded : staticFunctions {} (before ++ [line]) =
      staticFunctions {} before ++ [⟨"int f(void)".toList, [], none⟩] := by decide +kernel
  exact ⟨_, hadded, (staticFunctions_scopes hadded mem_cons_self).2.1.mpr
    (by decide +kernel)⟩

/-- The record of a function in a namespace does not name the namespace. -/
theorem staticFunctions_in_namespace :
    let line := "namespace ns1 \x7b static int f(void)".toList
    staticFunctions {} [line] =
        [⟨"int f(void)".toList, ["namespace ns1 \x7b".toList], none⟩] ∧
      (nestingIn [line]).namespaces = ["ns1".toList] ∧ (nestingIn [line]).className = none := by
  decide +kernel

end MockGen.Header
