import MockGen.Proofs.Header.Records
import MockGen.Proofs.Pattern.Search

/-!
# Parameter lists that end in an ellipsis

Such a list is read like the one in front of the ellipsis if a comma and exactly one space separate
them, and otherwise as if there were no parameters.
-/

namespace MockGen.Header

open Text Pattern List Outcome

/-! ## Head and parameter list -/

theorem run_head {β : Type} {s : Progress} {k : Progress → Option β} {h y : List Char} {x : β}
    (hhead : IsHead h) (hopen : '(' ∉ h) (hrest : s.cursor.rest = h ++ '(' :: y)
    (hneeds : ∀ q : Progress, q.cursor.rest.head? ≠ some '(' → k q = none)
    (hk : k ⟨s.cursor.past h ('(' :: y), s.groups⟩ = some x) :
    (starLazy headChars ++ one .word ++ starLazy headChars).run s k = some x := by
  obtain ⟨hchars, letter, hletter, hword⟩ := hhead
  obtain ⟨a, v, rfl, ha, hv⟩ := exists_span (fun c => !isWord c) h
  obtain ⟨c, b, rfl⟩ : ∃ c b, v = c :: b := by
    cases v with
    | nil =>
      have := ha letter (by simpa using hletter)
      simp [hword] at this
    | cons c b => exact ⟨c, b, rfl⟩
  have hc : isWord c = true := by simpa using hv c rfl
  rw [run_append, run_append]
  refine run_starLazy_shortest (u := a) (y := c :: (b ++ '(' :: y)) (by simpa using hrest)
    (fun d hd => hchars d (by simp [hd])) ?_ ?_
  · -- in front of the first letter there is none
    rintro _ (_ | ⟨d, w⟩) rfl hw
    · exact absurd rfl hw
    · refine run_one_eq_none fun e he => ?_
      obtain rfl : d = e := by simpa using he
      simpa [CharSet.mem] using ha d (by simp)
  · rw [run_one_past (s := .word) (c := c) (y := b ++ '(' :: y) (by rfl) hc]
    refine run_starLazy_shortest rfl (fun d hd => hchars d (by simp [hd])) ?_ (by simpa using hk)
    rintro v (_ | ⟨d, w⟩) rfl hw
    · exact absurd rfl hw
    · refine hneeds _ fun he => hopen ?_
      obtain rfl : d = '(' := by simpa using he
      simp

theorem exists_matchStart?_eq {h q : List Char} (hhead : IsHead h) (hopen : '(' ∉ h)
    (hq : ∀ c ∈ q, paramChars.mem c = true) :
    ∃ m, declaration.matchStart? (h ++ '(' :: (q ++ [')'])) = some m ∧
      m.group 1 = h ∧ m.group 2 = q := by
  obtain ⟨t, htext⟩ : ∃ t, t = h ++ '(' :: (q ++ [')']) := ⟨_, rfl⟩
  obtain ⟨c, hc⟩ : ∃ c, c = (Cursor.start t).past h ('(' :: (q ++ [')'])) := ⟨_, rfl⟩
  obtain ⟨d, hd⟩ : ∃ d, d = (c.past ['('] (q ++ [')'])).past q [')'] := ⟨_, rfl⟩
  rw [← htext]
  refine ⟨⟨Cursor.start t, d.past [')'] [],
    [(2, c.past ['('] (q ++ [')']), d), (1, Cursor.start t, c)]⟩, ?_, ?_, ?_⟩
  · have hrun : declaration.matchStart? t =
        (starLazy headChars ++ one .word ++ starLazy headChars).run ⟨Cursor.start t, []⟩ fun r =>
          (char '(').run { r with groups := (1, Cursor.start t, r.cursor) :: r.groups } fun r₂ =>
            (stretch paramChars).run r₂ fun r₃ =>
              (char ')').run { r₃ with groups := (2, r₂.cursor, r₃.cursor) :: r₃.groups } fun r₄ =>
                (place .lineEnd).run r₄ fun q => some ⟨Cursor.start t, q.cursor, q.groups⟩ := rfl
    rw [hrun]
    refine run_head hhead hopen htext (fun r hr => ?_) ?_
    · refine run_one_eq_none fun e he => ?_
      simp only [CharSet.mem, beq_eq_false_iff_ne]
      rintro rfl
      exact hr he
    · rw [← hc]
      rw [char, run_one_past (c := '(') (y := q ++ [')']) (by rw [hc]; rfl) (by decide)]
      refine run_span_longest rfl (Nat.zero_le _) hq ?_ ?_
      · -- behind the last bracket there is no other
        rintro v w hvw hv -
        obtain ⟨rfl, rfl⟩ : v = [')'] ∧ w = [] := by
          cases v with
          | nil => exact absurd rfl hv
          | cons e v =>
            obtain ⟨rfl, hnil⟩ := List.cons.inj hvw
            obtain ⟨rfl, rfl⟩ := append_eq_nil_iff.mp hnil.symm
            exact ⟨rfl, rfl⟩
        exact run_one_eq_none (by simp)
      · rw [char, run_one_past (c := ')') (y := []) rfl (by decide), hd]
        rfl
  · change (Cursor.start t).upTo c = h
    rw [hc]
    exact Cursor.upTo_past htext
  · change (c.past ['('] (q ++ [')'])).upTo d = q
    rw [hd]
    exact Cursor.upTo_past rfl

/-! ## The ellipsis -/

theorem eq_of_append_ellipsis {q w x y : List Char} (hq : ¬"...".toList <:+: q) (hw : '.' ∉ w)
    (h : q ++ ',' :: (w ++ "...".toList) = x ++ ("...".toList ++ y)) :
    x = q ++ ',' :: w ∧ y = [] := by
  rcases List.append_eq_append_iff.mp h with ⟨a, rfl, ha⟩ | ⟨a, rfl, ha⟩
  · cases a with
    | nil => simp at ha
    | cons c a =>
      obtain rfl : ',' = c := (List.cons.inj ha).1
      rcases List.append_eq_append_iff.mp (List.cons.inj ha).2 with ⟨b, rfl, hb⟩ | ⟨b, rfl, hb⟩
      · have hlength := congrArg List.length hb
        simp only [length_append] at hlength
        obtain rfl : b = [] := eq_nil_of_length_eq_zero (by omega)
        obtain rfl : y = [] := eq_nil_of_length_eq_zero (by omega)
        simp
      · cases b with
        | nil =>
          have hnil : y = [] := by simpa using hb
          simp [hnil]
        | cons c b =>
          obtain rfl : '.' = c := (List.cons.inj hb).1
          simp at hw
  · match a, ha with
    | [], ha => simp at ha
    | [c], ha => simp at ha
    | [c, d], ha => simp at ha
    | c :: d :: e :: a, ha =>
      refine absurd ?_ hq
      obtain ⟨rfl, rfl, rfl, -⟩ : '.' = c ∧ '.' = d ∧ '.' = e ∧ _ := by simpa using ha
      exact ⟨x, a, by simp⟩

theorem reads_ellipsis {before u rest : List Char} : ellipsis.Reads before u rest ↔
    ∃ v, u = v ++ "...".toList ∧ ∀ c ∈ v, wordOrBlank.mem c = true := by
  constructor
  · rintro ⟨v, w, rfl, hv, hw⟩
    exact ⟨v, by rw [reads_text.mp hw], reads_stretch.mp hv⟩
  · rintro ⟨v, rfl, hv⟩
    exact ⟨v, _, rfl, reads_stretch.mpr hv, reads_text.mpr rfl⟩

theorem reads_furtherEllipsis {before u rest : List Char} : furtherEllipsis.Reads before u rest ↔
    ∃ v, u = ',' :: (v ++ "...".toList) ∧ ∀ c ∈ v, wordOrBlank.mem c = true := by
  constructor
  · rintro ⟨_, w, rfl, ⟨c, v, rfl, hc, hv⟩, hw⟩
    obtain rfl := reads_char.mp hc
    exact ⟨v, by rw [reads_text.mp hw]; simp, reads_stretch.mp hv⟩
  · rintro ⟨v, rfl, hv⟩
    exact ⟨',' :: v, _, by simp, ⟨[','], v, rfl, reads_char.mpr rfl, reads_stretch.mpr hv⟩,
      reads_text.mpr rfl⟩

theorem comma_notMem_of_wordOrBlank {v : List Char} (h : ∀ c ∈ v, wordOrBlank.mem c = true) :
    ',' ∉ v :=
  fun hmem => absurd (h _ hmem) (by decide)

theorem suffix_of_append_comma {q w x v : List Char} (hv : ',' ∉ v)
    (h : x ++ v = q ++ ',' :: w) : v <:+ w := by
  rcases List.append_eq_append_iff.mp h with ⟨a, -, rfl⟩ | ⟨a, -, ha⟩
  · exact absurd (by simp) hv
  · cases a with
    | nil =>
      rw [nil_append] at ha
      exact absurd (by simp [← ha]) hv
    | cons c a =>
      obtain ⟨-, rfl⟩ := List.cons.inj ha
      exact suffix_append a v

theorem eq_of_append_comma {q w x v : List Char} (hv : ',' ∉ v) (hw : ',' ∉ w)
    (h : x ++ ',' :: v = q ++ ',' :: w) : x = q ∧ v = w := by
  have hvw : v = w := by
    have hright : v <:+ w := suffix_of_append_comma hv (x := x ++ [',']) (q := q) (by simpa using h)
    have hleft : w <:+ v :=
      suffix_of_append_comma hw (x := q ++ [',']) (q := x) (by simpa using h.symm)
    exact hright.eq_of_length_le hleft.length_le
  exact ⟨by simpa [hvw] using h, hvw⟩

section

variable {q w : List Char} (hq : ¬"...".toList <:+: q) (hw : ∀ c ∈ w, isBlank c = true)

include hq

theorem find?_ellipsis_eq_none : ellipsis.find? q = none := by
  refine Absent.find?_eq_none ?_
  rintro x u y rfl hread
  obtain ⟨v, rfl, -⟩ := reads_ellipsis.mp hread
  exact hq ⟨x ++ v, y, by simp⟩

include hw

theorem exists_find?_ellipsis :
    ∃ m, ellipsis.find? (q ++ ',' :: (w ++ "...".toList)) = some m ∧
      Text.strip m.text = "...".toList := by
  have hdot : '.' ∉ w := fun hmem => absurd (hw _ hmem) (by decide)
  have hsome : ellipsis.occursIn (q ++ ',' :: (w ++ "...".toList)) = true := by
    refine (occursIn_iff rfl).mpr ⟨q ++ ',' :: w, "...".toList, [], by simp, ?_⟩
    exact reads_ellipsis.mpr ⟨[], rfl, by simp⟩
  obtain ⟨m, hm⟩ := Option.isSome_iff_exists.mp hsome
  refine ⟨m, hm, ?_⟩
  obtain ⟨x, _, y, htext, hread, hfirst, hlast⟩ := findFrom?_sound hm
  obtain ⟨v, rfl, hv⟩ := reads_ellipsis.mp hread
  obtain ⟨hxv, rfl⟩ := eq_of_append_ellipsis (x := x ++ v) (y := y) hq hdot (by simpa using htext)
  have hblank : ∀ c ∈ v, isBlank c = true := fun c hc =>
    hw c ((suffix_of_append_comma (comma_notMem_of_wordOrBlank hv) hxv).subset hc)
  have htextOf : m.text = v ++ "...".toList := by
    rw [Match.text, hlast]
    exact Cursor.upTo_past (by rw [hfirst]; simp)
  rw [htextOf, Text.strip, stripStart_append_blanks hblank]
  rfl

theorem hasPart_ellipsis_iff :
    hasPart ", ...".toList (q ++ ',' :: (w ++ "...".toList)) = true ↔ w = [' '] := by
  have hdot : '.' ∉ w := fun hmem => absurd (hw _ hmem) (by decide)
  have hcomma : ',' ∉ w := fun hmem => absurd (hw _ hmem) (by decide)
  rw [hasPart_iff]
  constructor
  · rintro ⟨x, y, hxy⟩
    obtain ⟨hx, -⟩ := eq_of_append_ellipsis (x := x ++ [',', ' ']) (y := y) hq hdot
      (by simpa using hxy.symm)
    exact (eq_of_append_comma (x := x) (v := [' ']) (by decide) hcomma (by simpa using hx)).2.symm
  · rintro rfl
    exact ⟨q, [], by simp⟩

omit hw

theorem remove_furtherEllipsis : furtherEllipsis.remove (q ++ ", ...".toList) = q := by
  have hp : furtherEllipsis.Advances := advances_of_needs rfl
  have hpasses : furtherEllipsis.Passes [] q ", ...".toList := by
    rintro a b u rest rfl hb htext hread
    obtain ⟨v, rfl, hv⟩ := reads_furtherEllipsis.mp hread
    obtain ⟨hx, -⟩ := eq_of_append_ellipsis (w := [' ']) (x := a ++ ',' :: v) (y := rest) hq
      (by decide) (by simpa using congrArg (a ++ ·) htext)
    have hab := (eq_of_append_comma (comma_notMem_of_wordOrBlank hv) (by decide) hx).1
    exact hb (by simpa using hab)
  have hunique : ∀ u z, ", ...".toList ++ [] = u ++ z → furtherEllipsis.Reads q.reverse u z →
      z = [] := by
    intro u z htext hread
    obtain ⟨v, rfl, hv⟩ := reads_furtherEllipsis.mp hread
    exact (eq_of_append_ellipsis (q := []) (w := [' ']) (x := ',' :: v) (y := z) (by decide)
      (by decide) (by simpa using htext)).2
  obtain ⟨m, hm, hlast⟩ := exists_matchHere?_eq (u := ", ...".toList) rfl
    (reads_furtherEllipsis.mpr ⟨[' '], rfl, by decide⟩) hunique q.length
  rw [remove, replaceBy_eq_rewrite hp, Cursor.start, hpasses.rewrite_append hp]
  simp only [append_nil, Nat.zero_add] at hm ⊢
  rw [rewrite_of_matchHere? hp _ hm, hlast, Cursor.past, rewrite_nil hp]
  simp

include hw

/-- An ellipsis behind a list is split off, and with it the list unless one space separates them. -/
theorem splitVarArg_append :
    splitVarArg (q ++ ',' :: (w ++ "...".toList)) =
      (some "...", if w = [' '] then q else "void".toList) := by
  obtain ⟨m, hm, hstrip⟩ := exists_find?_ellipsis hq hw
  rw [splitVarArg, hm]
  dsimp only
  rw [hstrip]
  by_cases hspace : w = [' ']
  · rw [if_pos ((hasPart_ellipsis_iff hq hw).mpr hspace), if_pos hspace, hspace]
    exact congrArg (Prod.mk _) (remove_furtherEllipsis hq)
  · rw [if_neg (mt (hasPart_ellipsis_iff hq hw).mp hspace), if_neg hspace, String.ofList_toList]

end

/-! ## Declarations with an ellipsis -/

theorem stripStart_append_cons {c : Char} (hc : isBlank c = false) (x y : List Char) :
    stripStart (x ++ c :: y) = stripStart x ++ c :: y := by
  rw [stripStart, stripStart, dropWhile_append]
  split
  · rename_i hnil
    rw [isEmpty_iff.mp hnil, dropWhile_cons_of_neg (by simp [hc]), nil_append]
  · rfl

/-- The text of a parameter list that has no ellipsis and does not end in white space. -/
structure IsFixedList (q : List Char) : Prop where
  params : ∀ c ∈ q, paramChars.mem c = true
  noEllipsis : ¬"...".toList <:+: q
  trimmed : ∀ c ∈ q.getLast?, isBlank c = false

namespace IsFixedList

variable {q w : List Char}

theorem strip_append (hq : IsFixedList q) :
    Text.strip (q ++ ',' :: (w ++ "...".toList)) = Text.strip q ++ ',' :: (w ++ "...".toList) := by
  have hregroup : q ++ ',' :: (w ++ "...".toList) = (q ++ ',' :: (w ++ "..".toList)) ++ ['.'] := by
    simp
  rw [hregroup, strip_append_cons (by decide) (by simp), stripStart_append_cons (by decide)]
  rcases eq_nil_or_concat q with rfl | ⟨x, c, rfl⟩
  · simp [Text.strip, stripStart, stripEnd]
  · have hc : isBlank c = false := hq.trimmed c (by simp)
    rw [concat_eq_append, stripStart_append_cons hc, strip_append_cons hc (by simp)]
    simp

theorem noEllipsis_strip (hq : IsFixedList q) : ¬"...".toList <:+: Text.strip q := by
  obtain ⟨u, v, htext, -, -⟩ := exists_strip_eq q
  intro hpart
  refine hq.noEllipsis (hpart.trans ⟨u, v, ?_⟩)
  simpa using htext.symm

theorem paramChars_append (hq : IsFixedList q) (hw : ∀ c ∈ w, isBlank c = true) :
    ∀ c ∈ q ++ ',' :: (w ++ "...".toList), paramChars.mem c = true := by
  intro c hc
  simp only [mem_append, mem_cons] at hc
  rcases hc with hc | rfl | hc | hc
  · exact hq.params c hc
  · decide
  · simp [paramChars, CharSet.mem, Union.union, hw c hc]
  · obtain rfl : c = '.' := by simpa using hc
    decide

end IsFixedList

theorem arguments_void (r : Rules) : arguments r "void".toList = .ok [] := rfl

theorem cleanArguments_void {s : Reading} (hvoid : "void" ∈ s.voids) (r : Rules) :
    cleanArguments r "void".toList s = ("void".toList, s) := by
  have hcontains : s.voids.contains (String.ofList (Text.strip "void".toList)) = true := by
    rw [contains_iff_mem]
    exact hvoid
  rw [cleanArguments, hcontains]
  rfl

/-- A parameter list in front of an ellipsis is read as it is without the ellipsis if one space
follows the comma between them; otherwise the function is read as one without parameters. -/
theorem prototype_ellipsis (r : Rules) (namespaces : List String) (className : Option String)
    {h q w : List Char} {s t : Reading} {f : Prototype} (hhead : IsHead h) (hopen : '(' ∉ h)
    (hq : IsFixedList q) (hw : ∀ c ∈ w, isBlank c = true) (hvoid : "void" ∈ s.voids)
    (hf : (prototype r (h ++ '(' :: (q ++ [')'])) namespaces className).run s = (.ok f, t)) :
    ∃ g u, (prototype r (h ++ '(' :: (q ++ ',' :: (w ++ "...".toList) ++ [')'])) namespaces
        className).run s = (.ok g, u) ∧
      g.varArg = some "..." ∧
      (w = [' '] → g.args = f.args ∧ g.argsString = f.argsString) ∧
      (w ≠ [' '] → g.args = [] ∧ g.argsString = "void") := by
  obtain ⟨m, hm, hgroup₁, hgroup₂⟩ := exists_matchStart?_eq hhead hopen hq.params
  obtain ⟨m', hm', hgroup₁', hgroup₂'⟩ :=
    exists_matchStart?_eq hhead hopen (hq.paramChars_append hw)
  obtain ⟨_, parsed, args, hfound, htype, hargs, hreturned, rfl, -⟩ := prototype_run_eq_ok.mp hf
  obtain rfl : m = _ := Option.some.inj (hm.symm.trans hfound)
  have hsplit : splitVarArg (Text.strip (m.group 2)) = (none, Text.strip q) := by
    rw [hgroup₂, splitVarArg, find?_ellipsis_eq_none hq.noEllipsis_strip]
  have hsplit' : splitVarArg (Text.strip (m'.group 2)) =
      (some "...", if w = [' '] then Text.strip q else "void".toList) := by
    rw [hgroup₂', hq.strip_append, splitVarArg_append hq.noEllipsis_strip hw]
  rw [hgroup₁, ← hgroup₁'] at htype
  rw [hsplit] at hargs ⊢
  by_cases hspace : w = [' ']
  · rw [if_pos hspace] at hsplit'
    refine ⟨_, _, prototype_run_eq_ok.mpr
      ⟨m', parsed, args, hm', htype, ?_, hreturned, rfl, rfl⟩, ?_⟩
    · rw [hsplit']
      exact hargs
    · rw [hsplit']
      exact ⟨rfl, fun _ => ⟨rfl, rfl⟩, absurd hspace⟩
  · rw [if_neg hspace] at hsplit'
    refine ⟨_, _, prototype_run_eq_ok.mpr
      ⟨m', parsed, [], hm', htype, ?_, hreturned, rfl, rfl⟩, ?_⟩
    · rw [hsplit', cleanArguments_void hvoid]
      exact arguments_void r
    · rw [hsplit', cleanArguments_void hvoid]
      exact ⟨rfl, fun h => absurd h hspace, fun _ => ⟨rfl, rfl⟩⟩

theorem prototype_ellipsis_format : ∃ f t g u,
    (prototype Rules.standard "int print(const char* format, int n)".toList [] none).run
      { project := projectOf "log", voids := ["void"] } = (.ok f, t) ∧
    (prototype Rules.standard "int print(const char* format, int n, ...)".toList [] none).run
      { project := projectOf "log", voids := ["void"] } = (.ok g, u) ∧
    g.varArg = some "..." ∧ g.args = f.args ∧ g.argsString = "const char* format, int n" := by
  obtain ⟨f, t, hf, hargs⟩ := exists_run_of_any
    (P := fun f => f.argsString == "const char* format, int n")
    (x := prototype Rules.standard "int print(const char* format, int n)".toList [] none)
    (s := { project := projectOf "log", voids := ["void"] }) (by decide +kernel)
  have htext : "int print(const char* format, int n)".toList =
      "int print".toList ++ '(' :: ("const char* format, int n".toList ++ [')']) := by simp
  have htext' : "int print(const char* format, int n, ...)".toList =
      "int print".toList ++ '(' ::
        ("const char* format, int n".toList ++ ',' :: ([' '] ++ "...".toList) ++ [')']) := by simp
  have hlast : "const char* format, int n".toList.getLast? = some 'n' := by decide +kernel
  have hrun := hf
  rw [htext] at hrun
  obtain ⟨g, u, hg, hvar, hkept, -⟩ := prototype_ellipsis Rules.standard [] none (w := [' '])
    ⟨by decide +kernel, 'i', by decide +kernel⟩ (by decide +kernel)
    ⟨by decide +kernel, by decide +kernel, by rw [hlast]; rintro c ⟨⟩; decide⟩ (by decide +kernel)
    (by decide) hrun
  rw [← htext'] at hg
  obtain ⟨hsame, hstring⟩ := hkept rfl
  exact ⟨f, t, g, u, hf, hg, hvar, hsame, by rw [hstring]; exact beq_iff_eq.mp hargs⟩

/-- Without the space the parameter is lost. -/
theorem prototype_ellipsis_without_space : ∃ f t g u,
    (prototype Rules.standard "int f(int a)".toList [] none).run
      { project := projectOf "log", voids := ["void"] } = (.ok f, t) ∧ f.argsString = "int a" ∧
    (prototype Rules.standard "int f(int a,...)".toList [] none).run
      { project := projectOf "log", voids := ["void"] } = (.ok g, u) ∧
    g.varArg = some "..." ∧ g.args = [] ∧ g.argsString = "void" := by
  obtain ⟨f, t, hf, hargs⟩ := exists_run_of_any
    (P := fun f => f.argsString == "int a")
    (x := prototype Rules.standard "int f(int a)".toList [] none)
    (s := { project := projectOf "log", voids := ["void"] }) (by decide +kernel)
  obtain ⟨g, u, hg, hlost⟩ := exists_run_of_any
    (P := fun g => g.varArg == some "..." && g.args == [] && g.argsString == "void")
    (x := prototype Rules.standard "int f(int a,...)".toList [] none)
    (s := { project := projectOf "log", voids := ["void"] }) (by decide +kernel)
  simp only [Bool.and_eq_true, beq_iff_eq] at hlost
  exact ⟨f, t, g, u, hf, beq_iff_eq.mp hargs, hg, hlost.1.1, hlost.1.2, hlost.2⟩

end MockGen.Header
