import MockGen.Options
import MockGen.Proofs.Header.Comments
import MockGen.Proofs.Header.Plain
import MockGen.Proofs.Header.Spacing

/-!
# Plain texts

Headers whose lexemes are those of plain prototypes.  The passes that take out what is no
declaration find nothing in them.
-/

namespace MockGen.Header

open Text Pattern
open List hiding lex

/-- Characters that plain texts do not have. -/
def isForeign (c : Char) : Bool :=
  !isWord c && !isBlank c && !(['*', '(', ')', ',', ';'].contains c)

theorem getLast?_of_repeats {p : Pattern} {s : CharSet} {n : Nat} {before u rest : List Char}
    (h : Repeats (p ++ one s).Reads n before u rest) : ∀ c ∈ u.getLast?, s.mem c = true := by
  induction h with
  | zero => simp
  | @succ _ _ v w _ first _ ih =>
    obtain ⟨x, _, rfl, -, c, rfl, hc⟩ := first
    intro d hd
    rw [getLast?_append] at hd
    cases hw : w.getLast? with
    | none =>
      obtain rfl : c = d := by simpa [hw] using hd
      exact hc
    | some e =>
      obtain rfl : e = d := by simpa [hw] using hd
      exact ih e hw

theorem readsAll_map_char {w before u rest : List Char}
    (h : ReadsAll (w.map char) before u rest) : u = w := by
  induction w generalizing before u with
  | nil => exact h
  | cons c w ih =>
    obtain ⟨v, v', rfl, hv, hv'⟩ := h
    rw [reads_char.mp hv, ih hv']
    rfl

/-! ## Braces -/

theorem flattenBraces_eq_self {t : List Char} (ht : '\x7b' ∉ t) : flattenBraces t = t := by
  rw [flattenBraces]
  induction t with
  | nil => rfl
  | cons c t ih =>
    have hc : (c == '\x7b') = false := beq_eq_false_iff_ne.mpr fun h => ht (by simp [h])
    simp only [flattenFrom, hc, Bool.false_eq_true, if_false]
    rw [ih fun h => ht (mem_cons_of_mem _ h)]

/-! ## The default things to strip -/

theorem strip_of_truthy {v : Value} (hv : v.truthy = true) (t : List Char) :
    strip v t = (strippableText v >>= patternOf) >>=
      fun p => .ok (p.replaceBy (fun m => m.group 1) t) := by
  rw [strip, if_pos hv, bind_assoc]
  rfl

/-- How the pattern for the default things to strip begins. -/
def strippedLead : List Pattern :=
  (place .textStart <|> .span (.none ∪ .compl .word) 1 none true) ::
    ("__attribute__".toList.map char ++ [.span (.none ∪ .blank) 0 none true, char '('])

theorem exists_stripped : ∃ p,
    (strippableText (.list Options.defaultStrippables) >>= patternOf) = .ok p ∧
      strippedLead <:+: p.parts := by
  have hread : (match strippableText (.list Options.defaultStrippables) >>= patternOf with
      | .ok p => decide (strippedLead <:+: p.parts)
      | .error _ => false) = true := by decide +kernel
  revert hread
  generalize strippableText (.list Options.defaultStrippables) >>= patternOf = outcome
  intro hread
  cases outcome with
  | error e => cases hread
  | ok p => exact ⟨p, rfl, of_decide_eq_true hread⟩

theorem parts_of_patterns :
    [char '(', blanks, char '*'] <:+: pointerVariable.parts ∧
    [char '(', blanks, char '*'] <:+: pointerResult.parts ∧
    [char '(', stretch1 (.single '(')] <:+: attributeTag.parts ∧
    [stretch1 .word, blanks, char ';'] <:+: voidTypedef.parts ∧
    [char 't', stretch1 (.compl (.ofString ";\x7b\x7d()")), char ';'] <:+: forwardStruct.parts := by
  decide +kernel

namespace Plain

variable {t : List Char} (ht : Plain (lex t)) {c : Char} {words : List String}

include ht

theorem not_isForeign (hc : c ∈ t) : isForeign c = false := by
  cases hw : isWord c with
  | true => simp [isForeign, hw]
  | false =>
    cases hb : isBlank c with
    | true => simp [isForeign, hb]
    | false =>
      have hsign : ['*', '(', ')', ',', ';'].contains c = true :=
        contains_iff_mem.mpr (ht.signs c (sign_mem_lex hc hw hb))
      rw [isForeign, hsign]
      simp

theorem absent_of_needs {p : Pattern} (hp : p.needs isForeign = true) : p.Absent t :=
  Pattern.absent_of_needs hp fun _ hc => ht.not_isForeign hc

/-! ## Neighbours -/

theorem follows {A B : List Lexeme} {l m : Lexeme} (h : lex t = A ++ l :: m :: B) : Follows l m :=
  (isChain_append_cons_cons.mp (h ▸ ht.chain)).2.1

theorem not_open_sign {x v y : List Char} {d : Char} (hv : ∀ c ∈ v, isBlank c = true)
    (hw : isWord d = false) (hb : isBlank d = false) : t ≠ x ++ '(' :: (v ++ d :: y) := by
  rintro rfl
  have hlex : lex (x ++ '(' :: (v ++ d :: y)) = lex x ++ .sign '(' :: .sign d :: lex y := by
    rw [lex_append_sign rfl rfl, lex_append_blanks hv, lex_sign hw hb]
  have := (ht.follows hlex).1 rfl
  simp [Lexeme.isWord] at this

theorem not_close_letter {x y : List Char} (hc : isWord c = true) : t ≠ x ++ ')' :: c :: y := by
  rintro rfl
  obtain ⟨w, more, hword⟩ := exists_lex_eq_word hc y
  have hlex : lex (x ++ ')' :: c :: y) = lex x ++ .sign ')' :: .word w :: more := by
    rw [lex_append_sign rfl rfl, hword]
  have := (ht.follows hlex).2.1 rfl
  simp at this

theorem not_letter_semicolon {x v y : List Char} (hc : isWord c = true) (hv : ')' ∉ v) :
    t ≠ x ++ c :: (v ++ ';' :: y) := by
  rintro rfl
  have hlex : lex (x ++ c :: (v ++ ';' :: y)) = lex (x ++ c :: v) ++ .sign ';' :: lex y := by
    rw [← cons_append, ← append_assoc, lex_append_sign rfl rfl]
  rcases eq_nil_or_concat (lex (x ++ c :: v)) with hnil | ⟨A, l, hlast⟩
  · have := lex_eq_nil_iff.mp hnil c (by simp)
    simp [isBlank_of_isWord hc] at this
  · rw [hlast, concat_eq_append, append_assoc] at hlex
    obtain rfl : l = .sign ')' := (ht.follows hlex).2.2 rfl
    obtain ⟨x', y', hsplit, -, hy'⟩ := lex_eq_append_sign (hlast.trans concat_eq_append)
    have hy' := lex_eq_nil_iff.mp hy'
    -- The bracket lies in front of the letter, so the letter would have to be white space.
    have hmem : c ∈ y' := by
      rcases List.append_eq_append_iff.mp hsplit with ⟨a, rfl, hcv⟩ | ⟨a, rfl, hcv⟩
      · cases a with
        | nil =>
          obtain ⟨rfl, -⟩ := List.cons.inj hcv
          simp [isWord] at hc
        | cons d a =>
          obtain ⟨rfl, hv'⟩ := List.cons.inj hcv
          exact absurd (hv' ▸ by simp) hv
      · cases a with
        | nil =>
          obtain ⟨rfl, -⟩ := List.cons.inj hcv
          simp [isWord] at hc
        | cons d a =>
          obtain ⟨-, rfl⟩ := List.cons.inj hcv
          simp
    have := hy' c hmem
    simp [isBlank_of_isWord hc] at this

theorem not_reserved {x y : List Char} {w : String} (hw : w ∈ reservedWords)
    (hx : ∀ c ∈ x.getLast?, isWord c = false) (hy : ∀ c ∈ y.head?, isWord c = false) :
    t ≠ x ++ (w.toList ++ y) := by
  rintro rfl
  have hletters : (reservedWords.all fun w =>
      w.toList.all isWord && !w.toList.isEmpty) = true := by decide
  have hw' := all_eq_true.mp hletters w hw
  simp only [Bool.and_eq_true, all_eq_true, Bool.not_eq_true', isEmpty_eq_false_iff] at hw'
  have hmem := word_mem_lex hx hw'.1 hw'.2 hy
  exact ht.words _ hmem (by rwa [String.ofList_toList])

/-! ## Patterns that find nothing -/

theorem not_readsAll_open_star {x u y : List Char} (h : t = x ++ (u ++ y)) :
    ¬ ReadsAll [char '(', blanks, char '*'] x.reverse u y := by
  rintro ⟨o, _, rfl, ho, b, _, rfl, hb, s, _, rfl, hs, rfl⟩
  obtain rfl := reads_char.mp ho
  obtain rfl := reads_char.mp hs
  exact ht.not_open_sign (reads_blanks.mp hb) rfl rfl (by simpa using h)

theorem pointerVariable_absent : pointerVariable.Absent t :=
  absent_of_parts parts_of_patterns.1 fun _ _ _ h => ht.not_readsAll_open_star h

theorem pointerResult_absent : pointerResult.Absent t :=
  absent_of_parts parts_of_patterns.2.1 fun _ _ _ h => ht.not_readsAll_open_star h

theorem attributeTag_absent : attributeTag.Absent t := by
  refine absent_of_parts parts_of_patterns.2.2.1 ?_
  rintro x u y h ⟨o, _, rfl, ho, p, _, rfl, hp, rfl⟩
  obtain rfl := reads_char.mp ho
  obtain ⟨hne, hp⟩ := reads_stretch1.mp hp
  cases p with
  | nil => exact hne rfl
  | cons d p =>
    obtain rfl : d = '(' := by simpa [CharSet.mem] using hp d (by simp)
    exact ht.not_open_sign (v := []) (by simp) rfl rfl (by simpa using h)

theorem bracketBeforeWord_absent : bracketBeforeWord.Absent t := by
  rintro x u y h ⟨o, _, rfl, ho, ⟨c, rfl, hc⟩⟩
  obtain rfl := reads_char.mp ho
  exact ht.not_close_letter hc (by simpa using h)

theorem voidTypedef_absent : voidTypedef.Absent t := by
  refine absent_of_parts parts_of_patterns.2.2.2.1 ?_
  rintro x u y h ⟨w, _, rfl, hw, b, _, rfl, hb, s, _, rfl, hs, rfl⟩
  obtain rfl := reads_char.mp hs
  obtain ⟨hne, hw⟩ := reads_stretch1.mp hw
  have hblank := reads_blanks.mp hb
  obtain ⟨w, c, rfl⟩ : ∃ v c, w = v ++ [c] := by
    rcases eq_nil_or_concat w with rfl | ⟨v, c, rfl⟩
    · exact absurd rfl hne
    · exact ⟨v, c, concat_eq_append⟩
  refine ht.not_letter_semicolon (x := x ++ w) (hw c (by simp)) ?_ (by simpa using h)
  intro hmem
  have := hblank _ hmem
  simp [isBlank] at this

theorem forwardStruct_absent : forwardStruct.Absent t := by
  refine absent_of_parts parts_of_patterns.2.2.2.2 ?_
  rintro x u y h ⟨c, _, rfl, hc, v, _, rfl, hv, s, _, rfl, hs, rfl⟩
  obtain rfl := reads_char.mp hc
  obtain rfl := reads_char.mp hs
  obtain ⟨-, hv⟩ := reads_stretch1.mp hv
  refine ht.not_letter_semicolon (c := 't') rfl ?_ (by simpa using h)
  intro hmem
  have := hv _ hmem
  simp [CharSet.mem, CharSet.ofString] at this

theorem loneWord_absent (hwords : ∀ w ∈ words, w ∈ reservedWords) : (loneWord words).Absent t := by
  rintro x u y h ⟨_, _, rfl, ⟨_, v, rfl, ⟨a, rfl, ha⟩, hv⟩, ⟨b, rfl, hb⟩⟩
  obtain ⟨w, hw, rfl⟩ := reads_oneOf.mp hv
  have ha : isWord a = false := by simpa [CharSet.mem] using ha
  have hb : isWord b = false := by simpa [CharSet.mem] using hb
  refine ht.not_reserved (x := x ++ [a]) (y := b :: y) (hwords w hw) ?_ ?_ (by simpa using h)
  · simpa using ha
  · simpa using hb

theorem leadingWord_absent {w : String} (hw : w ∈ reservedWords) : (leadingWord w).Absent t := by
  rintro x u y h ⟨_, b, rfl, ⟨a, v, rfl, ha, hv⟩, hb⟩
  obtain rfl := reads_text.mp hv
  obtain ⟨hne, hb⟩ := reads_blanks1.mp hb
  refine ht.not_reserved (x := x ++ a) (y := b ++ y) hw ?_ ?_ (by simpa using h)
  · intro c hc
    rcases ha with ⟨rfl, hstart⟩ | ha
    · have hx : x = [] := by simpa [Anchor.holds] using hstart
      simp [hx] at hc
    · obtain ⟨hne, ha⟩ := reads_blanks1.mp ha
      rw [getLast?_append_of_ne_nil _ hne] at hc
      exact isWord_of_isBlank (ha c (mem_of_getLast? hc))
  · intro c hc
    rw [head?_append_of_ne_nil _ hne] at hc
    exact isWord_of_isBlank (hb c (mem_of_mem_head? hc))

theorem typedefStatement_absent : typedefStatement.Absent t := by
  rintro x u y h ⟨_, rest, rfl, ⟨_, _, rfl, ⟨_, w, rfl, ⟨e, v, rfl, he, hv⟩, hw⟩, ⟨b, rfl, hb⟩⟩, -⟩
  obtain rfl := reads_text.mp hw
  obtain ⟨rfl, hstart⟩ := reads_place.mp he
  have hb : isWord b = false := by simpa [CharSet.mem] using hb
  refine ht.not_reserved (w := "typedef") (x := x ++ v) (y := b :: (rest ++ y)) (by decide) ?_ ?_
    (by simpa using h)
  · intro c hc
    obtain ⟨n, -, hrepeats⟩ := hv
    have hlast := getLast?_of_repeats (s := .compl .word) hrepeats
    rcases eq_nil_or_concat v with rfl | ⟨v, d, rfl⟩
    · rw [append_nil] at hc
      have hlast : x.reverse.head? = some c := by rw [head?_reverse]; exact hc
      have hne : x ≠ [] := by
        rintro rfl
        simp at hlast
      obtain rfl : c = '\n' := by simpa [Anchor.holds, hlast, hne] using hstart
      rfl
    · obtain rfl : d = c := by simpa using hc
      simpa [CharSet.mem] using hlast d (by simp)
  · simpa using hb

theorem strippedLead_absent {p : Pattern} (hp : strippedLead <:+: p.parts) : p.Absent t := by
  refine absent_of_parts hp ?_
  rintro x u y h ⟨a, _, rfl, ha, hrest⟩
  obtain ⟨w, _, rfl, hw, b, _, rfl, hb, c, _, rfl, hc, rfl⟩ := readsAll_append.mp hrest
  obtain rfl := readsAll_map_char hw
  obtain rfl := reads_char.mp hc
  refine ht.not_reserved (w := "__attribute__") (x := x ++ a) (y := b ++ '(' :: y) (by decide) ?_ ?_
    (by simpa using h)
  · intro d hd
    rcases ha with ⟨rfl, hstart⟩ | ⟨hleast, hmem⟩
    · have hx : x = [] := by simpa [Anchor.holds] using hstart
      simp [hx] at hd
    · have hne : a ≠ [] := by
        rintro rfl
        simp at hleast
      rw [getLast?_append_of_ne_nil _ hne] at hd
      simpa [CharSet.mem, Union.union] using hmem d (mem_of_getLast? hd)
  · intro d hd
    cases b with
    | nil =>
      obtain rfl : '(' = d := by simpa using hd
      rfl
    | cons e b =>
      obtain rfl : e = d := by simpa using hd
      exact isWord_of_isBlank (by simpa [CharSet.mem, Union.union] using hb.2 e (by simp))

/-! ## The passes -/

theorem notMem (hc : isForeign c = true) : c ∉ t := by
  intro hmem
  simp [ht.not_isForeign hmem] at hc

theorem dropLoneWords_eq_self (hwords : ∀ w ∈ words, w ∈ reservedWords) :
    dropLoneWords words t = t :=
  (ht.loneWord_absent hwords).replaceBy_eq _

theorem dropDefinitions_eq_self (cpp : Bool) : dropDefinitions cpp t = t := by
  have hstatic : (if cpp then t else dropLoneWords ["static"] t) = t := by
    rw [ht.dropLoneWords_eq_self (by decide), ite_self]
  have hslash : '/' ∉ t := ht.notMem (by decide)
  rw [dropDefinitions, (ht.absent_of_needs (p := continuation) (by decide)).replace_eq,
    removeComments_eq_self (fun h => hslash (h.subset (by simp)))
      (fun h => hslash (h.subset (by simp))),
    (ht.absent_of_needs (p := assemblerSection) (by decide)).remove_eq,
    ht.attributeTag_absent.remove_eq,
    (ht.absent_of_needs (p := linkageBlock) (by decide)).remove_eq,
    (ht.absent_of_needs (p := directive) (by decide)).remove_eq,
    ht.forwardStruct_absent.remove_eq,
    (ht.absent_of_needs (p := bracedDefinition) (by decide)).remove_eq,
    ht.dropLoneWords_eq_self (by decide), hstatic,
    (ht.absent_of_needs (p := defaultValue) (by decide)).remove_eq,
    ht.typedefStatement_absent.remove_eq, ht.bracketBeforeWord_absent.replaceBy_eq]

theorem strip_eq_self : strip (.list Options.defaultStrippables) t = .ok t := by
  obtain ⟨p, hp, hlead⟩ := exists_stripped
  have htruthy : (Value.list Options.defaultStrippables).truthy = true := rfl
  rw [strip_of_truthy htruthy, hp]
  exact congrArg Except.ok ((ht.strippedLead_absent hlead).replaceBy_eq _)

theorem reduced_eq {r : Rules} (hclean : clean t = t) (hinlines : r.includeInlines = false)
    (hstrip : r.strippables = .list Options.defaultStrippables) (cpp : Bool) :
    reduced r t cpp = .ok t := by
  have hpasses : reduced r t cpp = strip r.strippables (dropDefinitions cpp (clean t)) >>=
      fun t => .ok (pointerVariable.replace ";" t) := by
    simp only [reduced, hinlines]
    rfl
  rw [hpasses, hclean, ht.dropDefinitions_eq_self, hstrip, ht.strip_eq_self]
  exact congrArg Except.ok (ht.pointerVariable_absent.replace_eq _)

theorem voidNames_eq_nil (hclean : clean t = t) : voidNames t = [] := by
  rw [voidNames, hclean, ht.voidTypedef_absent.allMatches_eq_nil]
  rfl

end Plain

end MockGen.Header
