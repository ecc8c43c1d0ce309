import MockGen.Proofs.Header.DefaultReader
import MockGen.Proofs.Header.Faults
import MockGen.Proofs.Header.Signature
import MockGen.Proofs.Header.Spacing

/-!
# Selecting and reading

A line is selected if a declaration ends it, wherever that begins, and read only if the declaration
begins with the line.  Which selected lines can be read is a matter of their characters.
-/

namespace MockGen.Header

open Text Pattern List

variable {c : Char}

/-! ## White space in lines -/

theorem eq_space_of_mem_replace {t : List Char} (hc : c ∈ blanks1.replace " " t)
    (hblank : isBlank c = true) : c = ' ' := by
  have hp : blanks1.Advances := advances_stretch1 _
  have key : ∀ d : Cursor, c ∈ blanks1.rewrite (fun _ => " ".toList) d → c = ' ' := by
    intro d
    induction d using scan_induction hp with
    | done before pos => simp [rewrite_nil hp]
    | hit d m u y hm hu hrest hread hlast hnext =>
      rw [rewrite_of_matchHere? hp _ hm]
      intro hmem
      rcases mem_append.mp hmem with hmem | hmem
      · simpa using hmem
      · exact hnext hmem
    | miss before x rest pos hm hnext =>
      rw [rewrite_cons_of_none hp _ hm]
      intro hmem
      rcases mem_cons.mp hmem with rfl | hmem
      · have hread : blanks1.Reads before [c] rest :=
          reads_blanks1.mpr ⟨by simp, by simpa using hblank⟩
        have := matchHere?_isSome (c := ⟨before, c :: rest, pos⟩) rfl rfl hread
        simp [hm] at this
      · exact hnext hmem
  rw [Pattern.replace, replaceBy_eq_rewrite hp] at hc
  exact key _ hc

theorem newline_notMem_statements {r : Rules} {cpp : Bool} {t line : List Char}
    (h : line ∈ statementsOf r cpp t) : '\n' ∉ line := by
  intro hmem
  obtain ⟨u, hline⟩ : ∃ u, line ∈ statementEnd.split (tidy u) := by
    have hkept := (mem_filter.mp h).1
    split at hkept
    · exact ⟨_, hkept⟩
    · exact ⟨_, mem_distinct.mp hkept⟩
  have hspace := eq_space_of_mem_replace ((infix_of_mem_split hline).subset hmem) rfl
  simp at hspace

/-! ## Trimming -/

theorem mem_replaceFrom {part new t : List Char} {skip : Nat}
    (h : c ∈ replaceFrom part new skip t) : c ∈ new ∨ c ∈ t := by
  induction t generalizing skip with
  | nil => simp [replaceFrom] at h
  | cons d t ih =>
    cases skip with
    | succ skip =>
      rcases ih h with h | h
      · exact Or.inl h
      · exact Or.inr (mem_cons_of_mem _ h)
    | zero =>
      rw [replaceFrom] at h
      split at h
      · rcases mem_append.mp h with h | h
        · exact Or.inl h
        · rcases ih h with h | h
          · exact Or.inl h
          · exact Or.inr (mem_cons_of_mem _ h)
      · rcases mem_cons.mp h with rfl | h
        · exact Or.inr (by simp)
        · rcases ih h with h | h
          · exact Or.inl h
          · exact Or.inr (mem_cons_of_mem _ h)

/-- A class of white space that is spelled out does not reach into a text without its first
character whose first two characters are not its last one. -/
theorem replaceFrom_append {new z s : List Char} {skip : Nat} (hskip : skip ≤ z.length)
    (hfirst : '\\' ∉ s) (hlast : '+' ∉ s.take 2) :
    replaceFrom "\\s+".toList new skip (z ++ s) = replaceFrom "\\s+".toList new skip z ++ s := by
  induction z generalizing skip with
  | nil =>
    obtain rfl : skip = 0 := by simpa using hskip
    exact replaceFrom_eq_self hfirst
  | cons c z ih =>
    cases skip with
    | succ skip => exact ih (by simpa using hskip)
    | zero =>
      have htest : "\\s+".toList.isPrefixOf (c :: (z ++ s)) = "\\s+".toList.isPrefixOf (c :: z) ∧
          ("\\s+".toList.isPrefixOf (c :: z) = true →
            "\\s+".toList.length - 1 ≤ z.length) := by
        match z, s, hlast with
        | d :: e :: z, s, _ => simp [List.isPrefixOf]
        | [d], [], _ => simp [List.isPrefixOf]
        | [d], a :: s, hlast =>
          have ha : a ≠ '+' := fun h => hlast (by simp [h])
          simp [List.isPrefixOf, Ne.symm ha]
        | [], [], _ => simp [List.isPrefixOf]
        | [], [a], _ => simp [List.isPrefixOf]
        | [], a :: b :: s, hlast =>
          have hb : b ≠ '+' := fun h => hlast (by simp [h])
          simp [List.isPrefixOf, Ne.symm hb]
      rw [cons_append, replaceFrom, replaceFrom, htest.1]
      split
      · rename_i hhit
        rw [ih (htest.2 hhit), append_assoc]
      · rw [ih (Nat.zero_le _)]
        rfl

theorem exists_stripStart_eq {x h : List Char} (hc : c ∈ h) (hblank : isBlank c = false) :
    ∃ z g, stripStart (x ++ h) = z ++ g ∧ (∀ d ∈ g, d ∈ h) ∧ c ∈ g := by
  rw [stripStart, dropWhile_append]
  split
  · refine ⟨[], h.dropWhile isBlank, rfl, fun d hd => (dropWhile_suffix _).subset hd, ?_⟩
    rw [← takeWhile_append_dropWhile (p := isBlank) (l := h), mem_append] at hc
    refine hc.resolve_left fun hmem => ?_
    simp [mem_takeWhile_imp hmem] at hblank
  · exact ⟨_, h, rfl, fun d hd => hd, hc⟩

theorem exists_of_occursIn {line : List Char} (hline : declaration.occursIn line = true)
    (hfeed : '\n' ∉ line) :
    '\n' ∉ trimmed line ∧ ∃ y q, trimmed line = y ++ '(' :: (q ++ [')']) ∧
      ∃ c ∈ y, isWord c = true := by
  obtain ⟨x, h, q, rest, ⟨-, ⟨hhead, c, hc, hword⟩, hparams, hend⟩, rfl⟩ :=
    occursIn_declaration.mp hline
  have hrest : rest = [] := by
    cases rest with
    | nil => rfl
    | cons d rest =>
      obtain rfl := hend d rfl
      exact absurd (by simp) hfeed
  subst hrest
  obtain ⟨z, g, hzg, hg, hcg⟩ := exists_stripStart_eq (x := x) hc (isBlank_of_isWord hword)
  have hbackslash : '\\' ∉ g ++ '(' :: (q ++ [')']) := by
    intro hmem
    simp only [mem_append, mem_cons, not_mem_nil, or_false] at hmem
    rcases hmem with hmem | hmem | hmem | hmem
    · exact absurd (hhead _ (hg _ hmem)) (by decide)
    · simp at hmem
    · exact absurd (hparams _ hmem) (by decide)
    · simp at hmem
  have hplus : '+' ∉ (g ++ '(' :: (q ++ [')'])).take 2 := by
    have hnot : ∀ d ∈ g, '+' ≠ d := by
      rintro d hd rfl
      exact absurd (hhead _ (hg _ hd)) (by decide)
    match g, hcg, hnot with
    | [a], _, hnot => simpa using hnot a (by simp)
    | a :: b :: g, _, hnot => simpa using ⟨hnot a (by simp), hnot b (by simp)⟩
  have htrimmed : trimmed (x ++ (h ++ '(' :: (q ++ [')']))) =
      (replaceFrom "\\s+".toList [' '] 0 z ++ g) ++ '(' :: (q ++ [')']) := by
    have hstrip := strip_brackets (x := x ++ h) (q := q) (z := []) (by simp)
    rw [append_assoc, hzg, append_assoc] at hstrip
    rw [trimmed, hstrip, Text.replace, replaceFrom_append (Nat.zero_le _) hbackslash hplus,
      append_assoc]
  refine ⟨?_, _, _, htrimmed, c, by simp [hcg], hword⟩
  intro hmem
  rw [trimmed, Text.replace] at hmem
  rcases mem_replaceFrom hmem with hmem | hmem
  · simp at hmem
  · exact hfeed (strip_subset hmem)

/-! ## Which lines can be read -/

/-- The part of a line in front of the first bracket that opens behind a letter. -/
def front (letter : Bool) : List Char → List Char
  | [] => []
  | c :: rest => if letter && c == '(' then [] else c :: front (letter || isWord c) rest

/-- Whether a line has only characters of a parameter list, and only those of a head in front of the
first bracket that opens behind a letter. -/
def isRegular (line : List Char) : Bool :=
  line.all paramChars.mem && (front false line).all headChars.mem

theorem paramChars_of_headChars (h : headChars.mem c = true) : paramChars.mem c = true := by
  simp [headChars, paramChars, CharSet.mem, Union.union, CharSet.ofString] at h ⊢
  generalize isWord c = word, isBlank c = blank at h ⊢
  tauto

theorem front_append {letter : Bool} {y : List Char} (rest : List Char)
    (h : letter = true ∨ ∃ c ∈ y, isWord c = true) :
    ∃ more, y ++ '(' :: rest = front letter (y ++ '(' :: rest) ++ '(' :: more ∧
      front letter (y ++ '(' :: rest) <+: y ∧
      (letter = true ∨ ∃ c ∈ front letter (y ++ '(' :: rest), isWord c = true) := by
  induction y generalizing letter with
  | nil =>
    obtain rfl : letter = true := by simpa using h
    exact ⟨rest, rfl, nil_prefix, Or.inl rfl⟩
  | cons d y ih =>
    rw [cons_append, front]
    split
    · rename_i hopen
      obtain ⟨rfl, rfl⟩ : letter = true ∧ d = '(' := by simpa using hopen
      exact ⟨y ++ '(' :: rest, rfl, nil_prefix, Or.inl rfl⟩
    · have hnext : (letter || isWord d) = true ∨ ∃ c ∈ y, isWord c = true := by
        rcases h with h | ⟨c, hc, hword⟩
        · exact Or.inl (by simp [h])
        · rcases mem_cons.mp hc with rfl | hc
          · exact Or.inl (by simp [hword])
          · exact Or.inr ⟨c, hc, hword⟩
      obtain ⟨more, hsplit, hfront, hletter⟩ := ih hnext
      refine ⟨more, congrArg (d :: ·) hsplit, cons_prefix_cons.mpr ⟨rfl, hfront⟩, ?_⟩
      rcases hletter with hletter | ⟨c, hc, hword⟩
      · rcases (Bool.or_eq_true _ _).mp hletter with hletter | hd
        · exact Or.inl hletter
        · exact Or.inr ⟨d, by simp, hd⟩
      · exact Or.inr ⟨c, by simp [hc], hword⟩

theorem matchStart?_isSome_iff {y q : List Char} (hy : ∃ c ∈ y, isWord c = true)
    (hfeed : '\n' ∉ y ++ '(' :: (q ++ [')'])) :
    (declaration.matchStart? (y ++ '(' :: (q ++ [')']))).isSome = true ↔
      isRegular (y ++ '(' :: (q ++ [')'])) = true := by
  rw [matchStart?, matchHere?_declaration_isSome, isRegular, Bool.and_eq_true, all_eq_true,
    all_eq_true]
  constructor
  · rintro ⟨h, list, rest, htext, ⟨hhead, hletter⟩, hparams, hend⟩
    have htext : y ++ '(' :: (q ++ [')']) = h ++ '(' :: (list ++ ')' :: rest) := htext
    have hrest : rest = [] := by
      cases rest with
      | nil => rfl
      | cons d rest =>
        obtain rfl := hend d rfl
        exact absurd (htext ▸ by simp) hfeed
    subst hrest
    rw [htext]
    refine ⟨fun c hc => ?_, fun c hc => ?_⟩
    · simp only [mem_append, mem_cons, not_mem_nil, or_false] at hc
      rcases hc with hc | rfl | hc | rfl
      · exact paramChars_of_headChars (hhead c hc)
      · decide
      · exact hparams c hc
      · decide
    · obtain ⟨-, -, hfront, -⟩ := front_append (list ++ [')']) (Or.inr hletter)
      exact hhead c (hfront.subset hc)
  · rintro ⟨hall, hhead⟩
    obtain ⟨more, hsplit, -, hletter⟩ := front_append (q ++ [')']) (Or.inr hy)
    have hletter := hletter.resolve_left Bool.false_ne_true
    generalize front false (y ++ '(' :: (q ++ [')'])) = h at hsplit hletter hhead
    rw [hsplit] at hall
    have hlast : (h ++ '(' :: more).getLast? = some ')' := by
      have hclose : y ++ '(' :: (q ++ [')']) = (y ++ '(' :: q) ++ [')'] := by simp
      rw [← hsplit, hclose, getLast?_concat]
    rcases eq_nil_or_concat more with rfl | ⟨list, d, rfl⟩
    · rw [getLast?_concat] at hlast
      simp at hlast
    · have hclose : h ++ '(' :: list.concat d = (h ++ '(' :: list) ++ [d] := by simp
      rw [hclose, getLast?_concat] at hlast
      obtain rfl : d = ')' := Option.some.inj hlast
      refine ⟨h, list, [], ?_, ⟨hhead, hletter⟩, fun c hc => hall c ?_, by simp⟩
      · rw [concat_eq_append] at hsplit
        exact hsplit
      · simp [hc]

example : isRegular "int f(int a[2])".toList = true ∧
    isRegular "\x7d int g(void)".toList = false := by
  decide +kernel

theorem exists_of_mem_declarationsIn {r : Rules} {name : String} {source declared : List Char}
    (h : declared ∈ declarationsIn r name source) :
    '\n' ∉ declared ∧ ∃ y q, declared = y ++ '(' :: (q ++ [')']) ∧ ∃ c ∈ y, isWord c = true := by
  rw [declarationsIn] at h
  split at h
  · cases h
  · obtain ⟨line, hline, rfl⟩ := mem_map.mp h
    obtain ⟨hstatement, hoccurs⟩ := mem_filter.mp hline
    exact exists_of_occursIn hoccurs (newline_notMem_statements hstatement)

/-- A selected line can be read exactly if it is regular.  A header is refused because of an
unreadable declaration only if a selected line is irregular, and then the fault shows such a line;
with an irregular line among the selected ones there is no result. -/
theorem selected_readable_iff (r : Rules) (name : String) (source : List Char) (s : Reading) :
    (∀ declared ∈ declarationsIn r name source,
      ((declaration.matchStart? declared).isSome = true ↔ isRegular declared = true)) ∧
    (∀ text, ((parse r name source).run s).1 = .error (.unreadableDeclaration text) →
      ∃ declared ∈ declarationsIn r name source, isRegular declared = false ∧
        text = String.ofList declared) ∧
    ∀ declared ∈ declarationsIn r name source, isRegular declared = false →
      ∀ parsed, ((parse r name source).run s).1 ≠ .ok parsed := by
  have hreadable : ∀ declared ∈ declarationsIn r name source,
      ((declaration.matchStart? declared).isSome = true ↔ isRegular declared = true) := by
    intro declared hmem
    obtain ⟨hfeed, y, q, rfl, hletter⟩ := exists_of_mem_declarationsIn hmem
    exact matchStart?_isSome_iff hletter hfeed
  have hnone : ∀ declared ∈ declarationsIn r name source,
      (declaration.matchStart? declared = none ↔ isRegular declared = false) := by
    intro declared hmem
    rw [← Option.not_isSome_iff_eq_none, hreadable declared hmem, Bool.not_eq_true]
  refine ⟨hreadable, fun text htext => ?_, fun declared hmem hirregular => ?_⟩
  · obtain ⟨declared, hmem, hmatch, rfl⟩ := parse_unreadable htext
    exact ⟨declared, hmem, (hnone declared hmem).mp hmatch, rfl⟩
  · exact parse_ne_ok hmem ((hnone declared hmem).mpr hirregular) s

theorem selected_readable_iff_brace :
    "int f(int)".toList ∈ declarationsIn Rules.standard "h" "int f(int); \x7d int g();".toList ∧
      (declaration.matchStart? "int f(int)".toList).isSome = true ∧
      "\x7d int g()".toList ∈ declarationsIn Rules.standard "h"
        "int f(int); \x7d int g();".toList ∧
      ∀ parsed, ((parse Rules.standard "h" "int f(int); \x7d int g();".toList).run
        { project := { moduleName := "" }, voids := ["void"] }).1 ≠ .ok parsed := by
  have hfirst : "int f(int)".toList ∈ declarationsIn Rules.standard "h"
      "int f(int); \x7d int g();".toList := by decide +kernel
  have hsecond : "\x7d int g()".toList ∈ declarationsIn Rules.standard "h"
      "int f(int); \x7d int g();".toList := by decide +kernel
  obtain ⟨hread, -, hrefuse⟩ := selected_readable_iff Rules.standard "h"
    "int f(int); \x7d int g();".toList { project := { moduleName := "" }, voids := ["void"] }
  have hregular : isRegular "int f(int)".toList = true := by decide +kernel
  have hirregular : isRegular "\x7d int g()".toList = false := by decide +kernel
  exact ⟨hfirst, (hread _ hfirst).mpr hregular, hsecond, hrefuse _ hsecond hirregular⟩

/-- The brace that closes a block stands in front of the next declaration. -/
theorem parse_stray_brace :
    (match ((parse Rules.standard "h"
        "extern \"C\" \x7b\nint f(void);\n\x7d\nint g(void);".toList).run
          { project := { moduleName := "" }, voids := ["void"] }).1 with
      | .error (.unreadableDeclaration text) => some text
      | _ => none) = some "\x7d int g(void)" := by decide +kernel

end MockGen.Header
