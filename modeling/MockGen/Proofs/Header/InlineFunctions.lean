import MockGen.Proofs.Header.DefaultReader
import MockGen.Proofs.Header.InlineLoop
import MockGen.Proofs.Header.Signature
import MockGen.Proofs.Pattern.Captures

/-!
# A source with one inline function

Its body becomes a semicolon, and the text in front of it stays; the text behind it stays exactly if
no brace in it closes behind one that opens.
-/

namespace MockGen.Header

open Text Pattern Anchor Nat
open List hiding lex

/-! ## The default patterns -/

/-- Reads the given characters and goes on with a pattern. -/
def spelled (w : String) (p : Pattern) : Pattern :=
  w.toList.foldr (fun c p => one (.single c) ++ p) p

theorem reads_spelled {w : String} {p : Pattern} {before u rest : List Char} :
    (spelled w p).Reads before u rest ↔
      ∃ v, u = w.toList ++ v ∧ p.Reads (w.toList.reverse ++ before) v rest := by
  rw [spelled]
  induction w.toList generalizing before u with
  | nil => simp
  | cons c w ih =>
    rw [foldr_cons]
    constructor
    · rintro ⟨v, v', rfl, hv, hv'⟩
      obtain ⟨x, rfl, hx⟩ := ih.mp hv'
      rw [reads_char.mp hv] at hx ⊢
      exact ⟨x, by simp, by simpa using hx⟩
    · rintro ⟨v, rfl, hv⟩
      exact ⟨[c], w ++ v, rfl, reads_char.mpr rfl, ih.mpr ⟨v, rfl, by simpa using hv⟩⟩

theorem run_spelled {β : Type} {w : String} {p : Pattern} {q : Progress} {k : Progress → Option β}
    {y : List Char} (h : q.cursor.rest = w.toList ++ y) :
    (spelled w p).run q k = p.run ⟨q.cursor.past w.toList y, q.groups⟩ k := by
  rw [spelled]
  generalize w.toList = w at *
  induction w generalizing q with
  | nil =>
    obtain ⟨⟨before, _, pos⟩, groups⟩ := q
    obtain rfl : _ = y := h
    rfl
  | cons c w ih =>
    rw [foldr_cons, run_append, run_one_past (c := c) (y := w ++ y) h (by simp [CharSet.mem]),
      ih (by rfl)]
    simp

/-- White space as the reader of patterns writes it. -/
def white : CharSet :=
  .union .none .blank

@[simp] theorem white_mem (c : Char) : white.mem c = isBlank c := rfl

/-- What follows the keywords of an inline function up to a word. -/
def keywordEnd : Pattern :=
  span white 0 none true ++ (stretch (.single ' ') ++ place .wordEdge)

/-- The keywords `static` and `inline`, in either order. -/
def staticInline : Pattern :=
  place .wordEdge ++
    (group 1 (spelled "static" (span white 1 none true ++ spelled "inlin" (char 'e')) <|>
      spelled "inline" (span white 1 none true ++ spelled "stati" (char 'c'))) ++ keywordEnd)

def inlineWord : Pattern :=
  place .wordEdge ++
    (group 1 (place .wordEdge ++ spelled "inline" (place .wordEdge)) ++ keywordEnd)

theorem exists_inlinePatterns_standard : ∃ more,
    inlinePatterns Rules.standard.inlinePatterns = .ok (staticInline :: inlineWord :: more) := by
  have hfirst : ((inlinePatterns Rules.standard.inlinePatterns).toOption.map (·.take 2)) =
      some [staticInline, inlineWord] := by decide +kernel
  cases hpatterns : inlinePatterns Rules.standard.inlinePatterns with
  | error e =>
    rw [hpatterns] at hfirst
    cases hfirst
  | ok patterns =>
    refine ⟨patterns.drop 2, ?_⟩
    rw [hpatterns] at hfirst
    have htake : patterns.take 2 = [staticInline, inlineWord] := Option.some.inj hfirst
    rw [← take_append_drop 2 patterns, htake]
    simp

theorem holds_wordEdge {before rest : List Char} {pos : Nat} :
    wordEdge.holds ⟨before, rest, pos⟩ = true ↔
      before.head?.any isWord ≠ rest.head?.any isWord := by
  simp [holds, Cursor.atEdge]

section

variable {before rest : List Char} {pos : Nat} {c : Char} (hc : isWord c = true)

include hc

theorem holds_wordEdge_start (hrest : rest.head? = some c) :
    wordEdge.holds ⟨before, rest, pos⟩ = true ↔ ∀ d ∈ before.head?, isWord d = false := by
  rw [holds_wordEdge, hrest]
  cases before.head? <;> simp [hc]

theorem holds_wordEdge_end (hbefore : before.head? = some c) :
    wordEdge.holds ⟨before, rest, pos⟩ = true ↔ ∀ d ∈ rest.head?, isWord d = false := by
  rw [holds_wordEdge, hbefore]
  cases rest.head? <;> simp [hc]

end

theorem reads_keywordEnd {before u rest : List Char} (h : keywordEnd.Reads before u rest) :
    (∀ c ∈ u, isBlank c = true) ∧
      (u = [] → wordEdge.holds ⟨before, rest, before.length⟩ = true) := by
  obtain ⟨v, _, rfl, ⟨-, hv⟩, w, _, rfl, hw, rfl, hedge⟩ := h
  have hw := reads_stretch.mp hw
  refine ⟨fun c hc => ?_, fun hnil => ?_⟩
  · rcases mem_append.mp hc with hc | hc
    · exact hv c hc
    · obtain rfl : c = ' ' := by simpa [CharSet.mem] using hw c (by simpa using hc)
      decide
  · obtain ⟨rfl, hrest⟩ := append_eq_nil_iff.mp hnil
    obtain rfl : w = [] := by simpa using hrest
    exact hedge

theorem lex_of_reads_words {v w : String} {c : Char} {before u tail rest : List Char}
    (hv : ∀ d ∈ v.toList, isWord d = true) (hne : v.toList ≠ [])
    (hw : ∀ d ∈ w.toList ++ [c], isWord d = true)
    (hread : (spelled v (span white 1 none true ++ spelled w (char c))).Reads before u
      (tail ++ rest))
    (htail : keywordEnd.Reads (u.reverse ++ before) tail rest) :
    u.head? = v.toList.head? ∧
      lex (u ++ (tail ++ rest)) =
        .word v.toList :: .word (w.toList ++ [c]) :: lex (tail ++ rest) := by
  obtain ⟨_, rfl, gap, _, rfl, ⟨hleast, hgap⟩, hlast⟩ := reads_spelled.mp hread
  obtain ⟨last, rfl, hchar⟩ := reads_spelled.mp hlast
  obtain rfl := reads_char.mp hchar
  obtain ⟨b, gap, rfl⟩ := exists_cons_of_ne_nil (length_pos_iff.mp hleast)
  obtain ⟨hblank, hedge⟩ := reads_keywordEnd htail
  have hnext : ∀ d ∈ (tail ++ rest).head?, isWord d = false := by
    intro d hd
    cases tail with
    | nil =>
      exact (holds_wordEdge_end (hw c (by simp)) (by simp)).mp (hedge rfl) d hd
    | cons e tail =>
      obtain rfl : e = d := by simpa using hd
      exact isWord_of_isBlank (hblank e (by simp))
  refine ⟨by simp [head?_append_of_ne_nil _ hne], ?_⟩
  simp only [append_assoc]
  rw [lex_append_word hv hne (by simpa using isWord_of_isBlank (hgap b (by simp))),
    lex_append_blanks hgap, ← append_assoc, lex_append_word hw (by simp) hnext]

theorem lex_of_reads_staticInline {before u rest : List Char}
    (h : staticInline.Reads before u rest) :
    (∀ c ∈ before.head?, isWord c = false) ∧ (∃ c ∈ u.head?, isWord c = true) ∧
      ∃ L, lex (u ++ rest) = .word "static".toList :: .word "inline".toList :: L ∨
        lex (u ++ rest) = .word "inline".toList :: .word "static".toList :: L := by
  obtain ⟨_, _, rfl, ⟨rfl, hstart⟩, keywords, tail, rfl, hkeywords, htail⟩ := h
  obtain ⟨c, L, hc, hhead, hlex⟩ : ∃ c L, isWord c = true ∧ keywords.head? = some c ∧
      (lex (keywords ++ (tail ++ rest)) = .word "static".toList :: .word "inline".toList :: L ∨
        lex (keywords ++ (tail ++ rest)) = .word "inline".toList ::
          .word "static".toList :: L) := by
    rcases hkeywords with hkeywords | hkeywords
    · obtain ⟨hhead, hlex⟩ :=
        lex_of_reads_words (by decide) (by decide) (by decide) hkeywords htail
      exact ⟨'s', _, by decide, by simpa using hhead, Or.inl hlex⟩
    · obtain ⟨hhead, hlex⟩ :=
        lex_of_reads_words (by decide) (by decide) (by decide) hkeywords htail
      exact ⟨'i', _, by decide, by simpa using hhead, Or.inr hlex⟩
  obtain ⟨keywords, rfl⟩ := head?_eq_some_iff.mp hhead
  exact ⟨(holds_wordEdge_start hc rfl).mp hstart, ⟨c, rfl, hc⟩, L, by simpa using hlex⟩

theorem occursIn_inlineWord {t : List Char} (h : .word "inline".toList ∈ lex t) :
    inlineWord.occursIn t = true := by
  obtain ⟨A, B, hlex⟩ := append_of_mem h
  obtain ⟨x, y, rfl, hx, -, -, hy, -, -⟩ := lex_eq_append_word hlex
  have hstart : ∀ pos, wordEdge.holds ⟨x.reverse, "inline".toList ++ y, pos⟩ = true :=
    fun _ => (holds_wordEdge_start (c := 'i') (by decide) rfl).mpr (by simpa using hx)
  have hend : ∀ pos, wordEdge.holds ⟨"inline".toList.reverse ++ x.reverse, y, pos⟩ = true :=
    fun _ => (holds_wordEdge_end (c := 'e') (by decide) rfl).mpr hy
  refine (occursIn_iff rfl).mpr ⟨x, "inline".toList, y, rfl, [], "inline".toList, rfl,
    ⟨rfl, hstart _⟩, "inline".toList, [], by simp, ⟨[], "inline".toList, rfl,
    ⟨rfl, hstart _⟩, ?_⟩, ?_⟩
  · exact reads_spelled.mpr ⟨[], by simp, rfl, hend _⟩
  · exact ⟨[], [], rfl, ⟨zero_le _, by simp⟩, [], [], rfl, reads_stretch.mpr (by simp), rfl,
      hend _⟩

/-! ## Finding the keywords -/

theorem run_keywordEnd {β : Type} {q : Progress} {k : Progress → Option β} {y : List Char}
    {c : Char} {x : β} (hrest : q.cursor.rest = ' ' :: c :: y) (hc : isWord c = true)
    (hk : k ⟨q.cursor.past [' '] (c :: y), q.groups⟩ = some x) : keywordEnd.run q k = some x := by
  have hblank : isBlank c = false := isBlank_of_isWord hc
  have hspace : (CharSet.single ' ').mem c = false := by
    simp only [CharSet.mem, beq_eq_false_iff_ne]
    rintro rfl
    exact absurd hblank (by decide)
  rw [keywordEnd, run_append]
  refine run_span_exact (u := [' ']) hrest (zero_le _) (by decide) (by simpa using hblank) ?_
  rw [run_append, stretch]
  refine run_span_exact (u := []) rfl (zero_le _) (by simp) (by simpa using hspace) ?_
  rw [run_place ((holds_wordEdge_start hc rfl).mpr (by simp; decide))]
  simpa using hk

theorem exists_matchHere?_keywords {v w : String} {a b c d : Char} {p : Pattern}
    {x y : List Char} (hx : ∀ c ∈ x.head?, isWord c = false)
    (hv : v.toList.head? = some a) (ha : isWord a = true)
    (hw : (w.toList ++ [b]).head? = some d) (hd : isBlank d = false) (hc : isWord c = true)
    (pos : Nat) :
    ∃ m, (place .wordEdge ++ (group 1 (spelled v (span white 1 none true ++ spelled w (char b)) <|>
        p) ++ keywordEnd)).matchHere? false
          ⟨x, v.toList ++ ' ' :: (w.toList ++ b :: ' ' :: c :: y), pos⟩ = some m ∧
      m.before = x.reverse ∧ m.after = c :: y := by
  obtain ⟨C, hC⟩ : ∃ C : Cursor,
    C = ⟨x, v.toList ++ ' ' :: (w.toList ++ b :: ' ' :: c :: y), pos⟩ := ⟨_, rfl⟩
  have hrest : C.rest = v.toList ++ ' ' :: (w.toList ++ b :: ' ' :: c :: y) := by rw [hC]
  have hstart : wordEdge.holds C = true := by
    rw [hC]
    refine (holds_wordEdge_start ha ?_).mpr hx
    rw [head?_append, hv]
    rfl
  obtain ⟨z, hz⟩ : ∃ z, w.toList ++ b :: ' ' :: c :: y = d :: z := by
    obtain ⟨z, hz⟩ := head?_eq_some_iff.mp hw
    exact ⟨z ++ ' ' :: c :: y, by simpa using congrArg (· ++ ' ' :: c :: y) hz⟩
  let D := ((C.past v.toList (' ' :: (w.toList ++ b :: ' ' :: c :: y))).past [' ']
    (w.toList ++ b :: ' ' :: c :: y)).past w.toList (b :: ' ' :: c :: y)
  refine ⟨⟨C, (D.past [b] (' ' :: c :: y)).past [' '] (c :: y),
    [(1, C, D.past [b] (' ' :: c :: y))]⟩, ?_, by rw [hC]; rfl, rfl⟩
  rw [← hC, matchHere?]
  simp only [Bool.false_and, Bool.false_eq_true, if_false]
  rw [run_append, run_place hstart, run_append, run_group]
  refine run_orElse_left ?_
  rw [run_spelled hrest, run_append]
  refine run_span_exact (u := [' ']) (y := w.toList ++ b :: ' ' :: c :: y) rfl (le_refl 1)
    (by decide) (by rw [hz]; simpa using hd) ?_
  rw [run_spelled (y := b :: ' ' :: c :: y) (by rfl), char,
    run_one_past (c := b) (y := ' ' :: c :: y) (by rfl) (by simp [CharSet.mem])]
  exact run_keywordEnd rfl hc rfl

/-- No keywords are found in a text that ends outside of words and does not have `inline` among its
words. -/
theorem passes_staticInline {x y : List Char} {L : List Lexeme}
    (hx : ∀ c ∈ x.getLast?, isWord c = false) (hword : .word "inline".toList ∉ lex x)
    (hy : lex y = .word "static".toList :: L) : staticInline.Passes [] x y := by
  rintro a b u rest rfl hb htext hread
  obtain ⟨hbefore, ⟨c, hc, hcword⟩, M, hlex⟩ := lex_of_reads_staticInline hread
  have ha : ∀ d ∈ a.getLast?, isWord d = false := by simpa using hbefore
  have hlast : ∀ d ∈ b.getLast?, isWord d = false := by
    intro d hd
    exact hx d (by rwa [getLast?_append_of_ne_nil _ hb])
  rw [lex_append_of_getLast ha, mem_append, not_or] at hword
  rw [← htext, lex_append_of_getLast hlast, hy] at hlex
  obtain ⟨e, b, rfl⟩ := exists_cons_of_ne_nil hb
  have he : isWord e = true := by
    obtain ⟨u, rfl⟩ := head?_eq_some_iff.mp hc
    rwa [(List.cons.inj htext).1]
  obtain ⟨w, B, hB⟩ := exists_lex_eq_word he b
  rw [hB] at hlex hword
  rcases hlex with hlex | hlex
  · cases B with
    | nil => simp at hlex
    | cons l B =>
      obtain ⟨-, rfl, -⟩ : _ ∧ l = .word "inline".toList ∧ _ := by simpa using hlex
      exact hword.2 (by simp)
  · obtain ⟨rfl, -⟩ : w = "inline".toList ∧ _ := by simpa using hlex
    exact hword.2 (by simp)

/-! ## A source with an inline function -/

/-- A source with an inline function: the text in front of it, what stands in front of its
parameters, the parameters, white space, what its braces hold, and the text behind it. -/
structure InlineFunction where
  before : List Char
  head : List Char
  params : List Char
  gap : List Char
  body : List Char
  after : List Char
  apart : ∀ c ∈ before.getLast?, isWord c = false
  noMacro : ∀ x w, before = x ++ ("#define".toList ++ w) → ∃ c ∈ w, isBlank c = false
  isHead : IsHead head
  starts : ∃ c ∈ head.head?, isWord c = true
  isParams : ∀ c ∈ params, paramChars.mem c = true
  isGap : ∀ c ∈ gap, isBlank c = true
  isBody : Balanced body

namespace InlineFunction

variable (f : InlineFunction)

def signature : List Char :=
  f.head ++ '(' :: (f.params ++ [')'])

def definition : List Char :=
  f.signature ++ (f.gap ++ '\x7b' :: (f.body ++ '\x7d' :: f.after))

def source : List Char :=
  f.before ++ ("static inline ".toList ++ f.definition)

/-- The source with a declaration in place of the function. -/
def plain : List Char :=
  f.before ++ (f.signature ++ ';' :: f.after)

theorem notMem_signature {c : Char} (hhead : headChars.mem c = false)
    (hparams : paramChars.mem c = false) (hopen : c ≠ '(') (hclose : c ≠ ')') :
    c ∉ f.signature := by
  have hh : c ∉ f.head := fun h => by simp [f.isHead.1 c h] at hhead
  have hp : c ∉ f.params := fun h => by simp [f.isParams c h] at hparams
  simp [signature, hh, hp, hopen, hclose]

theorem braceless_signature : Braceless f.signature :=
  ⟨f.notMem_signature (by decide) (by decide) (by decide) (by decide),
    f.notMem_signature (by decide) (by decide) (by decide) (by decide)⟩

theorem getLast?_signature : f.signature.getLast? = some ')' := by
  rw [signature, ← cons_append, ← append_assoc, getLast?_concat]

theorem signature_ne_nil : ∃ c t, f.signature = c :: t ∧ isWord c = true := by
  obtain ⟨c, hc, hword⟩ := f.starts
  obtain ⟨t, ht⟩ := head?_eq_some_iff.mp hc
  exact ⟨c, t ++ '(' :: (f.params ++ [')']), by rw [signature, ht]; rfl, hword⟩

theorem reads_signature (before rest : List Char) :
    Header.signature.Reads before f.signature rest := by
  refine ⟨f.head ++ '(' :: f.params, [')'], by simp [signature],
    ⟨f.head ++ ['('], f.params, by simp,
    ⟨f.head, ['('], rfl, reads_head.mpr f.isHead, reads_char.mpr rfl⟩, ?_⟩, reads_char.mpr rfl⟩
  exact reads_group.mpr (reads_stretch.mpr f.isParams)

theorem definitionAhead_isSome : (definitionAhead.matchStart? f.definition).isSome = true := by
  have htext : (Cursor.start f.definition).rest =
      (f.signature ++ (f.gap ++ ['\x7b'])) ++ (f.body ++ '\x7d' :: f.after) := by
    simp [definition, Cursor.start]
  refine matchHere?_isSome rfl htext ?_
  exact ⟨f.signature ++ f.gap, ['\x7b'], by simp, ⟨f.signature, f.gap, rfl,
    f.reads_signature _ _, reads_blanks.mpr f.isGap⟩, reads_char.mpr rfl⟩

theorem declarationAhead_isSome : (declarationAhead.matchStart? f.definition).isSome = false := by
  rw [Option.isSome_eq_false_iff, Option.isNone_iff_eq_none]
  refine matchHere?_eq_none fun u rest htext hread => ?_
  have hopen : '\x7b' ∉ u := notMem_of_avoids (by decide) hread
  have hsemicolon : ';' ∉ f.signature ++ f.gap := by
    rw [mem_append, not_or]
    exact ⟨f.notMem_signature (by decide) (by decide) (by decide) (by decide),
      fun h => absurd (f.isGap _ h) (by decide)⟩
  obtain ⟨v, _, rfl, -, hend⟩ := hread
  obtain rfl := reads_char.mp hend
  have htext : (f.signature ++ f.gap) ++ '\x7b' :: (f.body ++ '\x7d' :: f.after) =
      (v ++ [';']) ++ rest := by
    rw [← htext]
    simp [definition, Cursor.start]
  rcases List.append_eq_append_iff.mp htext with ⟨b, hb, hrest⟩ | ⟨b, hb, -⟩
  · cases b with
    | nil => exact hsemicolon (by rw [append_nil] at hb; simp [← hb])
    | cons d b =>
      obtain ⟨rfl, -⟩ := List.cons.inj hrest
      exact hopen (by rw [hb]; simp)
  · exact hsemicolon (by rw [hb]; simp)

theorem countPairs_definition : countPairs f.definition = f.body.count '\x7b' + 1 := by
  have hplain : Braceless (f.signature ++ f.gap) := by
    refine ⟨?_, ?_⟩ <;> rw [mem_append, not_or]
    · exact ⟨f.braceless_signature.1, fun h => absurd (f.isGap _ h) (by decide)⟩
    · exact ⟨f.braceless_signature.2, fun h => absurd (f.isGap _ h) (by decide)⟩
  rw [definition, ← append_assoc, countPairs_body hplain f.isBody]

theorem dropBodies_definition :
    dropBodies (f.body.count '\x7b' + 1) f.definition =
      f.signature ++ ';' :: dropBodies (f.body.count '\x7b' + 1) f.after :=
  dropBodies_body f.braceless_signature (by rw [f.getLast?_signature]; rintro c ⟨⟩; decide) f.isGap
    f.isBody (lt_succ_self _) f.after

theorem beforeDefine?_before : beforeDefine? f.before = none := by
  rw [beforeDefine?, if_neg]
  intro hprefix
  obtain ⟨z, hz⟩ := List.isPrefixOf_iff_prefix.mp hprefix
  have hsplit : f.before = z.reverse ++
      ("#define".toList ++ (f.before.reverse.takeWhile isBlank).reverse) := by
    have hreverse := takeWhile_append_dropWhile (p := isBlank) (l := f.before.reverse)
    rw [← hz] at hreverse
    simpa using (congrArg List.reverse hreverse).symm
  obtain ⟨c, hc, hblank⟩ := f.noMacro _ _ hsplit
  rw [mem_takeWhile_imp (mem_reverse.mp hc)] at hblank
  cases hblank

section

variable {f} (hword : .word "inline".toList ∉ lex f.plain)

include hword

theorem inline_notMem :
    .word "inline".toList ∉ lex f.before ∧
      .word "inline".toList ∉ lex (f.signature ++ ';' :: f.after) := by
  rw [plain, lex_append_of_getLast f.apart, mem_append, not_or] at hword
  exact hword

theorem exists_find?_source :
    ∃ m, staticInline.find? f.source = some m ∧ m.before = f.before ∧ m.after = f.definition := by
  obtain ⟨c, t, ht, hc⟩ := f.signature_ne_nil
  have hstart : "static inline ".toList ++ f.definition = "static".toList ++ ' ' ::
      ("inlin".toList ++ 'e' :: ' ' :: c ::
        (t ++ (f.gap ++ '\x7b' :: (f.body ++ '\x7d' :: f.after)))) := by
    rw [definition, ht]
    simp
  obtain ⟨m, hm, hbefore, hafter⟩ := exists_matchHere?_keywords (v := "static") (w := "inlin")
    (a := 's') (b := 'e') (d := 'i') (x := f.before.reverse) (by simpa using f.apart) rfl
    (by decide) rfl (by decide) hc f.before.length
  have hlex := lex_append_word (w := "static".toList) (y := ' ' ::
    ("inlin".toList ++ 'e' :: ' ' :: c ::
      (t ++ (f.gap ++ '\x7b' :: (f.body ++ '\x7d' :: f.after)))))
    (by decide) (by decide) (by simp; decide)
  rw [← hstart] at hm hlex
  exact ⟨m, find?_eq_some (passes_staticInline f.apart (inline_notMem hword).1 hlex) hm,
    by simpa using hbefore, by rw [hafter, definition, ht]; rfl⟩

theorem inlineStep_source (found : Bool) (done : List Char) :
    inlineStep staticInline found done f.source =
      .next (done ++ f.before)
        (f.signature ++ ';' :: dropBodies (f.body.count '\x7b' + 1) f.after) := by
  obtain ⟨m, hm, hbefore, hafter⟩ := exists_find?_source hword
  rw [inlineStep, hm]
  simp only [hbefore, hafter, f.beforeDefine?_before, f.declarationAhead_isSome,
    f.definitionAhead_isSome, f.countPairs_definition, f.dropBodies_definition,
    Bool.false_eq_true, if_false, if_true]

theorem find?_plain :
    staticInline.find? (f.signature ++ ';' :: f.after) = none := by
  refine Absent.find?_eq_none fun x u y htext hread => ?_
  obtain ⟨hbefore, -, L, hlex⟩ := lex_of_reads_staticInline hread
  have hx : ∀ c ∈ x.getLast?, isWord c = false := by simpa using hbefore
  refine (inline_notMem hword).2 ?_
  rw [htext, lex_append_of_getLast hx]
  rcases hlex with hlex | hlex <;> simp [hlex]

theorem inlineLoop_source (fuel : Nat) :
    inlineLoop staticInline (fuel + 1) false [] f.source =
      inlineLoop staticInline fuel true f.before
        (f.signature ++ ';' :: dropBodies (f.body.count '\x7b' + 1) f.after) := by
  rw [inlineLoop, inlineStep_source hword]
  rfl

theorem plainFunctions_source (h : ¬HasGroup f.after) :
    plainFunctions staticInline f.source = f.plain := by
  obtain ⟨fuel, hfuel⟩ : ∃ fuel, f.source.length = fuel + 1 :=
    exists_eq_add_one.mpr (length_pos_iff.mpr (by simp [source]))
  rw [plainFunctions, inlineLoop_source hword, dropBodies_eq_self h, hfuel, inlineLoop,
    inlineStep_of_find?_eq_none (find?_plain hword)]
  rfl

theorem length_plainFunctions_source (h : HasGroup f.after) :
    (plainFunctions staticInline f.source).length < f.plain.length := by
  rw [plainFunctions, inlineLoop_source hword]
  refine lt_of_le_of_lt (length_inlineLoop_le _ _ _ _ _) ?_
  have hshort : (dropBodies (f.body.count '\x7b' + 1) f.after).length < f.after.length :=
    length_dropBodies_lt (succ_pos _) h
  simp only [plain, length_append, length_cons]
  omega

end

end InlineFunction

/-- A function with the keywords `static inline` becomes a declaration, and all else stays as it is,
just when no braces follow it: with the function's own body as many bodies inside one another are
dropped from the text behind it. -/
theorem transformInlines_source_eq_iff (f : InlineFunction)
    (hascii : ∀ c ∈ f.source, c.toNat < 128) (hline : ¬['/', '/'] <:+: f.source)
    (hblock : ¬['/', '*'] <:+: f.source) (hjoin : '\\' ∉ f.source)
    (hplain : hasInline Rules.standard.inlinePatterns f.plain = false) :
    transformInlines Rules.standard.inlinePatterns f.source = .ok f.plain ↔ ¬HasGroup f.after := by
  obtain ⟨more, hpatterns⟩ := exists_inlinePatterns_standard
  have hnone := (hasInline_eq_false_iff hpatterns).mp hplain
  have hword : .word "inline".toList ∉ lex f.plain := by
    intro h
    have hfound := occursIn_inlineWord h
    rw [hnone inlineWord (by simp)] at hfound
    cases hfound
  rw [transformInlines_eq hascii hline hblock hjoin, hpatterns]
  simp only [Except.map, Except.ok.injEq, foldl_cons]
  constructor
  · intro heq hgroup
    have hlt := InlineFunction.length_plainFunctions_source hword hgroup
    have hle := length_foldl_plainFunctions_le (inlineWord :: more)
      (plainFunctions staticInline f.source)
    rw [foldl_cons, heq] at hle
    omega
  · intro hgroup
    rw [InlineFunction.plainFunctions_source hword hgroup]
    exact foldl_plainFunctions_eq_self
      fun p hp => hnone p (mem_cons_of_mem _ hp)

theorem balanced_early_return : Balanced " if (n) \x7b return 1; \x7d return 2; ".toList := by
  have htext : " if (n) \x7b return 1; \x7d return 2; ".toList =
      " if (n) ".toList ++ '\x7b' :: (" return 1; ".toList ++ '\x7d' :: " return 2; ".toList) := by
    simp
  rw [htext]
  exact (Balanced.of_braceless (by decide +kernel)).append
    (.group (.of_braceless (by decide +kernel)) (.of_braceless (by decide +kernel)))

/-- A function that returns early, between two declarations. -/
def earlyReturn : InlineFunction where
  before := "int a;\n".toList
  head := "int f".toList
  params := "int n".toList
  gap := "\n".toList
  body := " if (n) \x7b return 1; \x7d return 2; ".toList
  after := "\nint g(void);".toList
  apart := by
    have hlast : "int a;\n".toList.getLast? = some '\n' := by decide +kernel
    rw [hlast]
    rintro c ⟨⟩
    decide
  noMacro := fun x w h => by
    have hnone : '#' ∉ "int a;\n".toList := by decide +kernel
    exact absurd (by rw [h]; simp) hnone
  isHead := ⟨by decide +kernel, 'i', by decide +kernel⟩
  starts := ⟨'i', by decide +kernel⟩
  isParams := by decide +kernel
  isGap := by decide +kernel
  isBody := balanced_early_return

theorem transformInlines_early_return :
    earlyReturn.source =
      ("int a;\nstatic inline int f(int n)\n\x7b if (n) \x7b return 1; \x7d return 2; \x7d\n" ++
        "int g(void);").toList ∧
    ¬HasGroup earlyReturn.after ∧
    transformInlines Rules.standard.inlinePatterns earlyReturn.source =
      .ok "int a;\nint f(int n);\nint g(void);".toList := by
  have hplain : earlyReturn.plain = "int a;\nint f(int n);\nint g(void);".toList := by
    decide +kernel
  have hopen : '\x7b' ∉ earlyReturn.after := by decide +kernel
  have hgroup : ¬HasGroup earlyReturn.after := by
    rintro ⟨x, v, y, h⟩
    exact hopen (by rw [h]; simp)
  refine ⟨by decide +kernel, hgroup, ?_⟩
  rw [← hplain]
  exact (transformInlines_source_eq_iff earlyReturn (by decide +kernel) (by decide +kernel)
    (by decide +kernel) (by decide +kernel) (by decide +kernel)).mpr hgroup

/-- The body of a function takes that of a later structure with it. -/
theorem transformInlines_later_struct :
    (transformInlines Rules.standard.inlinePatterns
      "static inline int f(void) \x7b return 1; \x7d\nstruct S \x7b int a; \x7d;".toList).toOption =
      some "int f(void);\nstruct S;;".toList := by
  decide +kernel

end MockGen.Header
