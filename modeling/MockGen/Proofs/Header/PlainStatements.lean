import MockGen.Proofs.Header.PlainText
import MockGen.Proofs.Header.PlainDeclaration

/-!
# The statements of a plain text

One line for each prototype, in order, with its lexemes.
-/

namespace MockGen.Header

open Text Pattern PlainPrototype
open List hiding lex

variable {p : PlainPrototype} {ps : List PlainPrototype} {line : List Char}

/-! ## Pieces between semicolons -/

theorem reads_around_cons {c x : Char} (hx : isBlank x = true) {before u rest : List Char}
    (h : (blanks ++ char c ++ blanks).Reads (x :: before) u rest) :
    (blanks ++ char c ++ blanks).Reads before (x :: u) rest := by
  obtain ⟨_, w, rfl, ⟨v, s, rfl, hv, hs⟩, hw⟩ := h
  refine ⟨x :: (v ++ s), w, rfl, ⟨x :: v, s, rfl, ?_, ?_⟩, ?_⟩
  · refine reads_blanks.mpr fun d hd => ?_
    rcases mem_cons.mp hd with rfl | hd
    · exact hx
    · exact reads_blanks.mp hv d hd
  · exact reads_char.mpr (reads_char.mp hs)
  · exact reads_blanks.mpr (reads_blanks.mp hw)

theorem isBlank_of_mem_dropLast_split {c : Char} {t l : List Char}
    (hl : l ∈ ((blanks ++ char c ++ blanks).split t).dropLast) :
    ∀ d ∈ l.getLast?, isBlank d = false := by
  have hp : (blanks ++ char c ++ blanks).Advances := advances_of_needs rfl
  have key : ∀ (e : Cursor), ∀ l ∈ ((blanks ++ char c ++ blanks).between e).dropLast,
      ∀ d ∈ l.getLast?, isBlank d = false := by
    intro e
    induction e using scan_induction hp with
    | done before pos => simp [between_nil hp]
    | hit e m u y hm hne hrest hread hlast hnext =>
      intro l hl
      rw [between_of_matchHere? hp hm] at hl
      obtain ⟨v, more, hcut⟩ := exists_between_eq (blanks ++ char c ++ blanks) m.last
      rw [hcut, dropLast_cons_cons, ← hcut] at hl
      rcases mem_cons.mp hl with rfl | hl
      · simp
      · exact hnext l hl
    | miss before x rest pos hm hnext =>
      intro l hl
      obtain ⟨u, more, hu, hbetween⟩ := between_cons_of_none hp hm
      rw [hu] at hnext
      rw [hbetween] at hl
      cases more with
      | nil => simp at hl
      | cons v more =>
        rw [dropLast_cons_cons] at hl hnext
        rcases mem_cons.mp hl with rfl | hl
        · cases u with
          | cons y u =>
            rw [getLast?_cons_cons]
            exact hnext (y :: u) (by simp)
          | nil =>
            -- The separator begins right behind `x`, and would begin at `x` if that were blank.
            obtain ⟨m, hnextMatch⟩ := exists_matchHere?_of_between hp hu
            obtain ⟨w, z, hrest, hread, -⟩ := matchHere?_sound hnextMatch
            intro d hd
            obtain rfl : x = d := by simpa using hd
            rw [Bool.eq_false_iff]
            intro hblank
            have := matchHere?_isSome (c := ⟨before, x :: rest, pos⟩) rfl
              (congrArg (x :: ·) hrest) (reads_around_cons hblank hread)
            simp [hm] at this
        · exact hnext l (mem_cons_of_mem _ hl)
  rw [split_eq_between hp] at hl
  exact key _ l hl

/-! ## Lines -/

namespace PlainPrototype

theorem semicolon_notMem (p : PlainPrototype) : Lexeme.sign ';' ∉ p.declarationLexemes := by
  intro hmem
  rcases p.mem_declarationLexemes hmem with (h | h | h) | h | h
  · simp [Lexeme.isWord] at h
  all_goals simp at h

theorem splitOn_lexemes (ps : List PlainPrototype) :
    (ps.flatMap lexemes).splitOn (.sign ';') = ps.map declarationLexemes ++ [[]] := by
  induction ps with
  | nil => rfl
  | cons p ps ih =>
    rw [flatMap_cons, lexemes, append_assoc, splitOn_append_of_notMem p.semicolon_notMem,
      singleton_append, splitOn_cons_self, ih]
    simp

theorem name_eq_of_declarationLexemes {q : PlainPrototype}
    (h : p.declarationLexemes = q.declarationLexemes) : p.head.name.text = q.head.name.text := by
  have hopen : ∀ d : PlainDeclarator, Lexeme.sign '(' ∉ d.lexemes := by
    intro d hmem
    rcases d.isInner hmem with h | h | h
    · simp [Lexeme.isWord] at h
    all_goals simp at h
  have hopen' : ∀ p : PlainPrototype, Lexeme.sign '(' ∉ p.parameterLexemes ++ [.sign ')'] := by
    intro p hmem
    rcases mem_append.mp hmem with hmem | hmem
    · rcases (p.mem_parameterLexemes hmem).1 with h | h | h
      · simp [Lexeme.isWord] at h
      all_goals simp at h
    · simp at hmem
  simp only [declarationLexemes, append_assoc, cons_append] at h
  obtain ⟨hhead, -⟩ := (append_cons_inj_of_notMem (hopen _) (hopen' _)).mp h
  have hlast := congrArg List.getLast? hhead
  simp only [PlainDeclarator.lexemes, getLast?_append, getLast?_singleton,
    Option.some_or, Option.some.injEq, PlainWord.lexeme, Lexeme.word.injEq] at hlast
  exact String.toList_inj.mp hlast

theorem nodup_declarationLexemes (hnames : (ps.map fun p => p.head.name.text).Nodup) :
    (ps.map declarationLexemes ++ [[]]).Nodup := by
  refine nodup_append.mpr ⟨?_, by simp, ?_⟩
  · refine List.Pairwise.map _ (fun p q hne heq => hne ?_) (pairwise_map.mp hnames)
    exact name_eq_of_declarationLexemes heq
  · rintro L hL M hM rfl
    obtain ⟨p, -, rfl⟩ := mem_map.mp hL
    simp [declarationLexemes] at hM

theorem plain_declaration (p : PlainPrototype) : Plain p.declarationLexemes := by
  have hplain : Plain p.lexemes := by simpa using plain [p]
  refine ⟨fun c hc => hplain.signs c ?_, fun w hw => hplain.words w ?_, ?_⟩
  · exact mem_append_left _ hc
  · exact mem_append_left _ hw
  · exact (isChain_append.mp hplain.chain).1

end PlainPrototype

theorem keepsLine_eq_false {r : Rules} (hlex : lex line = []) : keepsLine r line = false := by
  simp [keepsLine, strip_eq_nil_of_lex hlex]

section

variable {r : Rules} (hexterns : r.includeExterns = false) (hinlines : r.includeInlines = false)

include hexterns hinlines

theorem keepsLine_eq_true (hlex : lex line = p.declarationLexemes) : keepsLine r line = true := by
  have hplain : Plain (lex line) := hlex ▸ p.plain_declaration
  have hstrip : (Text.strip line).isEmpty = false := by
    rw [isEmpty_eq_false_iff]
    intro hnil
    have hline := lex_strip line
    rw [hnil, hlex] at hline
    simp [declarationLexemes] at hline
  rw [keepsLine, hstrip,
    (hplain.absent_of_needs (p := pointerArray) (by decide)).occursIn_eq_false,
    (hplain.leadingWord_absent (w := "extern") (by decide)).occursIn_eq_false,
    (hplain.leadingWord_absent (w := "inline") (by decide)).occursIn_eq_false, hexterns, hinlines]
  rfl

theorem map_lex_statementsOf {t : List Char} (hlex : lex t = ps.flatMap lexemes)
    (hnames : (ps.map fun p => p.head.name.text).Nodup) (cpp : Bool) :
    (statementsOf r cpp t).map lex = ps.map declarationLexemes ∧
      ∀ l ∈ statementsOf r cpp t, ∀ d ∈ l.getLast?, isBlank d = false := by
  have ht : Plain (lex t) := hlex ▸ plain ps
  have hmap : (statementEnd.split (tidy t)).map lex =
      ps.map declarationLexemes ++ [[]] := by
    rw [statementEnd, map_lex_split_around rfl rfl, lex_tidy, hlex, splitOn_lexemes]
  have hdistinct : (if cpp then statementEnd.split (tidy t)
      else distinct (statementEnd.split (tidy t))) = statementEnd.split (tidy t) := by
    have hnodup : ((statementEnd.split (tidy t)).map lex).Nodup :=
      hmap ▸ nodup_declarationLexemes hnames
    have hlines : (statementEnd.split (tidy t)).Nodup :=
      (pairwise_map.mp hnodup).imp fun hne heq => hne (congrArg lex heq)
    rw [distinct_eq_self hlines, ite_self]
  have hlines : statementsOf r cpp t = (statementEnd.split (tidy t)).filter (keepsLine r) := by
    rw [statementsOf, flattenBraces_eq_self (ht.notMem (by decide)), hinlines]
    simp only [ite_self, Bool.false_eq_true, if_false]
    rw [(ht.absent_of_needs (p := functionBody) (by decide)).replace_eq, hdistinct]
  obtain ⟨front, back, hsplit, hfront, hback⟩ := map_eq_append_iff.mp hmap
  obtain ⟨last, rfl, hlast⟩ := map_eq_singleton_iff.mp hback
  have hkept : ∀ l ∈ front, keepsLine r l = true := by
    intro l hl
    obtain ⟨p, -, hp⟩ := mem_map.mp (hfront ▸ mem_map_of_mem hl)
    exact keepsLine_eq_true hexterns hinlines hp.symm
  have hstatements : statementsOf r cpp t = front := by
    rw [hlines, hsplit, filter_append, List.filter_eq_self.mpr hkept,
      filter_singleton, keepsLine_eq_false hlast]
    simp
  refine ⟨by rw [hstatements, hfront], fun l hl => ?_⟩
  refine isBlank_of_mem_dropLast_split (c := ';') (t := tidy t) ?_
  rw [← statementEnd, hsplit, dropLast_concat, ← hstatements]
  exact hl

end

theorem occursIn_of_lex (hlex : lex line = p.declarationLexemes)
    (hlast : ∀ d ∈ line.getLast?, isBlank d = false) : declaration.occursIn line = true := by
  have hsplit : lex line =
      p.head.lexemes ++ .sign '(' :: (p.parameterLexemes ++ .sign ')' :: []) := by
    rw [hlex, declarationLexemes]
    simp
  obtain ⟨x, y, rfl, hx, hy⟩ := lex_eq_append_sign hsplit
  obtain ⟨q, z, rfl, hq, hz⟩ := lex_eq_append_sign hy
  have hz : z = [] := by
    rcases eq_nil_or_concat z with rfl | ⟨z, d, rfl⟩
    · rfl
    · have hblank := lex_eq_nil_iff.mp hz d (by simp)
      have hend : x ++ '(' :: (q ++ ')' :: z.concat d) = (x ++ '(' :: (q ++ ')' :: z)) ++ [d] := by
        simp
      rw [hend, getLast?_concat] at hlast
      simp [hlast d rfl] at hblank
  subst hz
  exact occursIn_declaration.mpr ⟨[], x, q, [], declares_of_lex p hx hq, rfl⟩

end MockGen.Header
