import MockGen.Expectation
import MockGen.Proofs.Header.DefaultReader
import MockGen.Proofs.Header.Qualifiers
import MockGen.Proofs.Header.TypedName

/-!
# Parameters with qualifiers

A parameter of base words, stars and `const` in any of the places where it may stand is read with
its name, the flags say where `const` stands next to the last star, and the type that is written for
it later is the type that was declared.
-/

namespace MockGen.Header

open Text Pattern Bool
open String hiding append_assoc map_map
open List hiding lex

/-! ## Declarations with qualifiers -/

/-- A word that may be part of a type or name a parameter. -/
def IsBaseWord (w : String) : Prop :=
  w ≠ "" ∧ (∀ c ∈ w.toList, isWord c = true) ∧ w ≠ "const"

instance (w : String) : Decidable (IsBaseWord w) :=
  inferInstanceAs (Decidable (_ ∧ _))

/-- A parameter: its base words with or without `const` in front of them and behind them, its stars,
each with or without `const` behind it, and its name. -/
structure QualifiedDeclarator where
  constBefore : Bool
  words : List String
  constAfter : Bool
  stars : List Bool
  name : String
  hasWords : words ≠ []
  isBase : ∀ w ∈ words, IsBaseWord w
  isName : IsBaseWord name

def constIf (present : Bool) : List String :=
  if present then ["const"] else []

def wordLexemes (words : List String) : List Lexeme :=
  words.map fun w => .word w.toList

def starLexemes (stars : List Bool) : List Lexeme :=
  stars.flatMap fun present => .sign '*' :: wordLexemes (constIf present)

variable {w : String} {stars : List Bool} {ws : List String}

namespace QualifiedDeclarator

variable (d : QualifiedDeclarator)

def baseWords : List String :=
  constIf d.constBefore ++ d.words ++ constIf d.constAfter

def typeLexemes : List Lexeme :=
  wordLexemes d.baseWords ++ starLexemes d.stars

def lexemes : List Lexeme :=
  d.typeLexemes ++ [.word d.name.toList]

def isConstPtr : Bool :=
  d.stars.getLast? == some true

/-- The object that is designated directly is constant: `const` stands with the base words, or
behind the star in front of the last one. -/
def isConst : Bool :=
  if d.stars.length ≤ 1 then d.constBefore || d.constAfter
  else d.stars.dropLast.getLast? == some true

/-- A pointer, but for a single star behind `char`. -/
def isPtr : Bool :=
  !(d.stars.isEmpty || d.stars.length == 1 && d.words.getLast? == some "char")

end QualifiedDeclarator

theorem wordLexemes_append (u v : List String) :
    wordLexemes (u ++ v) = wordLexemes u ++ wordLexemes v :=
  map_append

theorem starLexemes_concat (stars : List Bool) (b : Bool) :
    starLexemes (stars ++ [b]) = starLexemes stars ++ .sign '*' :: wordLexemes (constIf b) := by
  simp [starLexemes]

theorem sign_notMem_wordLexemes (c : Char) (words : List String) : .sign c ∉ wordLexemes words := by
  simp [wordLexemes]

theorem word_mem_wordLexemes {words : List String} :
    .word w.toList ∈ wordLexemes words ↔ w ∈ words := by
  simp [wordLexemes, toList_inj]

theorem sign_mem_starLexemes {c : Char} (h : .sign c ∈ starLexemes stars) : c = '*' := by
  obtain ⟨b, -, hb⟩ := mem_flatMap.mp h
  rcases mem_cons.mp hb with hb | hb
  · simpa using hb
  · exact absurd hb (sign_notMem_wordLexemes c _)

namespace QualifiedDeclarator

variable (d : QualifiedDeclarator)

theorem const_mem_baseWords : "const" ∈ d.baseWords ↔ (d.constBefore || d.constAfter) = true := by
  have hwords : "const" ∉ d.words := fun h => (d.isBase _ h).2.2 rfl
  cases hb : d.constBefore <;> cases ha : d.constAfter <;> simp [baseWords, constIf, hb, ha, hwords]

theorem exists_words_eq : ∃ ws w, d.words = ws ++ [w] ∧ w ≠ "const" := by
  rcases eq_nil_or_concat d.words with hnil | ⟨ws, w, hwords⟩
  · exact absurd hnil d.hasWords
  · rw [concat_eq_append] at hwords
    exact ⟨ws, w, hwords, (d.isBase w (by simp [hwords])).2.2⟩

theorem exists_const_iff (stars : List Bool) :
    (∃ A B, wordLexemes d.baseWords ++ starLexemes stars = A ++ constLexeme :: B ∧
      ∀ c, .sign c ∉ B) ↔
    if stars = [] then (d.constBefore || d.constAfter) = true else stars.getLast? = some true := by
  rcases eq_nil_or_concat stars with rfl | ⟨stars, b, rfl⟩
  · have hmem : constLexeme ∈ wordLexemes d.baseWords ↔ (d.constBefore || d.constAfter) = true := by
      rw [← d.const_mem_baseWords]
      exact word_mem_wordLexemes
    rw [if_pos rfl, ← hmem]
    constructor
    · rintro ⟨A, B, hlex, -⟩
      rw [starLexemes, flatMap_nil, append_nil] at hlex
      rw [hlex]
      simp
    · intro h
      obtain ⟨A, B, hlex⟩ := append_of_mem h
      refine ⟨A, B, by simpa [starLexemes] using hlex, fun c hc => ?_⟩
      exact sign_notMem_wordLexemes c d.baseWords (by rw [hlex]; simp [hc])
  · rw [concat_eq_append, starLexemes_concat, if_neg (by simp), getLast?_concat]
    constructor
    · rintro ⟨A, B, hlex, hB⟩
      cases b with
      | true => rfl
      | false =>
        have hlast := congrArg List.getLast? hlex
        rw [← append_assoc, getLast?_append_of_ne_nil _ (by simp),
          getLast?_append_of_ne_nil _ (cons_ne_nil _ _)] at hlast
        have hmem : .sign '*' ∈ constLexeme :: B := mem_of_getLast? hlast.symm
        rcases mem_cons.mp hmem with h | h
        · cases h
        · exact absurd h (hB '*')
    · intro hb
      obtain rfl : b = true := by simpa using hb
      exact ⟨wordLexemes d.baseWords ++ (starLexemes stars ++ [.sign '*']), [],
        by simp [constIf, wordLexemes, constLexeme], by simp⟩

/-- Right in front of a star, `char` is found if it is the last base word and there is no other
star. -/
theorem exists_char_iff (stars : List Bool) :
    (∃ A B, wordLexemes d.baseWords ++ starLexemes stars = A ++ .word "char".toList :: B ∧
      (B = [] ∨ B = [constLexeme])) ↔ stars = [] ∧ d.words.getLast? = some "char" := by
  have hchar : (.word "char".toList : Lexeme) ≠ constLexeme := by decide
  rcases eq_nil_or_concat stars with rfl | ⟨stars, b, rfl⟩
  · obtain ⟨ws, w, hwords, hw⟩ := d.exists_words_eq
    have hbase : wordLexemes d.baseWords ++ starLexemes [] =
        wordLexemes (constIf d.constBefore ++ ws) ++
          .word w.toList :: wordLexemes (constIf d.constAfter) := by
      simp [baseWords, hwords, wordLexemes, starLexemes]
    have hconst : (.word w.toList : Lexeme) ≠ constLexeme := by
      intro h
      exact hw (toList_inj.mp (Lexeme.word.inj h))
    rw [hbase, hwords, getLast?_concat]
    constructor
    · rintro ⟨A, B, hlex, hB⟩
      refine ⟨rfl, ?_⟩
      rcases hB with rfl | rfl <;> cases hafter : d.constAfter
      · rw [hafter] at hlex
        obtain ⟨-, hlast⟩ := append_inj' hlex rfl
        rw [toList_inj.mp (Lexeme.word.inj (List.cons.inj hlast).1)]
      · have hlast := congrArg List.getLast? hlex
        simp [hafter, constIf, wordLexemes] at hlast
      · have hlast := congrArg List.getLast? hlex
        simp [hafter, constIf, wordLexemes] at hlast
        exact absurd hlast hconst
      · rw [hafter] at hlex
        obtain ⟨-, hlast⟩ := append_inj' hlex rfl
        rw [toList_inj.mp (Lexeme.word.inj (List.cons.inj hlast).1)]
    · rintro ⟨-, hw⟩
      obtain rfl : w = "char" := by simpa using hw
      refine ⟨_, wordLexemes (constIf d.constAfter), rfl, ?_⟩
      cases d.constAfter
      · exact Or.inl rfl
      · exact Or.inr rfl
  · rw [concat_eq_append, starLexemes_concat]
    constructor
    · rintro ⟨A, B, hlex, hB⟩
      rw [← append_assoc] at hlex
      rcases hB with rfl | rfl <;> cases b
      · exact absurd (List.cons.inj (append_inj' hlex rfl).2).1 (by simp)
      · have hlast := congrArg List.getLast? hlex
        simp [constIf, wordLexemes] at hlast
      · have hlast := congrArg List.getLast? hlex
        simp [constIf, wordLexemes, constLexeme] at hlast
      · exact absurd (List.cons.inj (append_inj' hlex rfl).2).1 (by simp)
    · rintro ⟨h, -⟩
      simp at h

/-! ## Flags -/

theorem sign_mem_lexemes {c : Char} (h : .sign c ∈ d.lexemes) : c = '*' := by
  rcases mem_append.mp h with h | h
  · rcases mem_append.mp h with h | h
    · exact absurd h (sign_notMem_wordLexemes c _)
    · exact sign_mem_starLexemes h
  · simp at h

variable {d} {t : List Char} (hlex : lex t = d.lexemes)

include hlex

theorem exists_last_star {b : Bool} (hstars : d.stars = stars ++ [b]) :
    ∃ x y, t = x ++ '*' :: y ∧ '*' ∉ y ∧ (∀ c, .sign c ∉ lex y) ∧
      lex x = wordLexemes d.baseWords ++ starLexemes stars ∧
      lex y = wordLexemes (constIf b ++ [d.name]) := by
  have hsplit : lex t = (wordLexemes d.baseWords ++ starLexemes stars) ++
      .sign '*' :: wordLexemes (constIf b ++ [d.name]) := by
    rw [hlex, lexemes, typeLexemes, hstars, starLexemes_concat, wordLexemes_append]
    simp [wordLexemes]
  obtain ⟨x, y, rfl, hx, hy⟩ := lex_eq_append_sign hsplit
  have hnone : ∀ c, .sign c ∉ lex y := fun c => by
    rw [hy]
    exact sign_notMem_wordLexemes c _
  exact ⟨x, y, rfl, fun h => hnone '*' (sign_mem_lex h (by decide) (by decide)), hnone, hx, hy⟩

theorem star_notMem (hstars : d.stars = []) : '*' ∉ t := by
  intro h
  have hmem := sign_mem_lex h (by decide) (by decide)
  rw [hlex, lexemes, typeLexemes, hstars] at hmem
  simp [starLexemes, wordLexemes] at hmem

theorem isConstantPointer_eq (hline : '\n' ∉ t) :
    isConstantPointer t = d.isConstPtr := by
  rcases eq_nil_or_concat d.stars with hstars | ⟨stars, b, hstars⟩
  · have habsent : constAfterStar.Absent t := by
      refine absent_of_needs (q := (· == '*')) rfl fun c hc => ?_
      rw [beq_eq_false_iff_ne]
      rintro rfl
      exact star_notMem hlex hstars hc
    rw [isConstantPointer, habsent.occursIn_eq_false, isConstPtr, hstars]
    rfl
  · rw [concat_eq_append] at hstars
    obtain ⟨x, y, rfl, hy, hsign, -, hlexy⟩ := exists_last_star hlex hstars
    rw [Bool.eq_iff_iff, isConstantPointer_iff hline hy hsign, hlexy, isConstPtr, hstars,
      getLast?_concat, beq_iff_eq]
    cases b with
    | true => simp [constIf, wordLexemes, constLexeme]
    | false =>
      have hname := d.isName.2.2
      simp only [constIf, wordLexemes, constLexeme, false_eq_true, if_false, nil_append,
        map_cons, map_nil, head?_cons, Option.some.injEq, iff_false]
      exact fun h => hname (toList_inj.mp (Lexeme.word.inj h))

theorem isConstant_eq (hline : '\n' ∉ t) :
    isConstant t = d.isConst := by
  rcases eq_nil_or_concat d.stars with hstars | ⟨stars, b, hstars⟩
  · have hwords : lex t = wordLexemes (d.baseWords ++ [d.name]) := by
      rw [hlex, lexemes, typeLexemes, hstars, wordLexemes_append]
      simp [starLexemes, wordLexemes]
    have hconst : constLexeme ∈ lex t ↔ (d.constBefore || d.constAfter) = true := by
      rw [hwords, ← d.const_mem_baseWords]
      refine word_mem_wordLexemes.trans ?_
      simp [d.isName.2.2.symm]
    rw [isConstant, if_neg (by simpa using star_notMem hlex hstars), isConst, hstars,
      if_pos (by simp), Bool.eq_iff_iff, occursIn_constWord hline (fun c => by
        rw [hwords]; exact sign_notMem_wordLexemes c _), hconst]
  · rw [concat_eq_append] at hstars
    obtain ⟨x, y, rfl, hy, -, hx, -⟩ := exists_last_star hlex hstars
    have hsign : ∀ c, .sign c ∈ lex x → c = '*' := by
      intro c hc
      rw [hx, mem_append] at hc
      exact sign_mem_starLexemes (hc.resolve_left (sign_notMem_wordLexemes c _))
    rw [isConstant, if_pos (by simp), Bool.eq_iff_iff, occursIn_constBeforeStar hline hy hsign, hx,
      d.exists_const_iff, isConst, hstars, dropLast_concat]
    cases stars with
    | nil => simp
    | cons c stars => simp

theorem isPointer_eq (hline : '\n' ∉ t)
    (hchain : t.IsChain fun a b => ¬StarTouches a b) : isPointer t = d.isPtr := by
  rcases eq_nil_or_concat d.stars with hstars | ⟨stars, b, hstars⟩
  · have hnone : t.contains '*' = false := by simpa using star_notMem hlex hstars
    rw [isPointer, hnone, isPtr, hstars]
    rfl
  · rw [concat_eq_append] at hstars
    obtain ⟨x, y, rfl, hy, -, hx, -⟩ := exists_last_star hlex hstars
    have hsign : ∀ c, .sign c ∈ lex x → c = '*' := by
      intro c hc
      rw [hx, mem_append] at hc
      exact sign_mem_starLexemes (hc.resolve_left (sign_notMem_wordLexemes c _))
    have hchar := occursIn_charPointer hline hy hsign (isChain_of_isInfix hchain ⟨[], _, rfl⟩)
    rw [hx, d.exists_char_iff] at hchar
    have hstar : (x ++ '*' :: y).contains '*' = true := by simp
    rw [isPointer, hstar, isPtr, hstars, Bool.true_and, Bool.eq_iff_iff, not_eq_true',
      not_eq_true', ← not_eq_true, hchar, ← not_eq_true]
    simp

end QualifiedDeclarator

/-! ## The text of a type -/

/-- A lexeme in the text of a type: a space goes in front of each word. -/
def glued : Lexeme → List Char
  | .word w => ' ' :: w
  | .sign c => [c]

/-- The text of a type, with spaces in front of words and none in front of stars. -/
def spelledType (lexemes : List Lexeme) : String :=
  String.ofList ((lexemes.flatMap glued).drop 1)

def ArePieces (pieces : List (List Char)) : Prop :=
  ∀ w ∈ pieces, w ≠ [] ∧ ((∀ c ∈ w, isWord c = true) ∨ ∀ c ∈ w, c = '*')

theorem flatMap_glued_stars {w : List Char} (h : ∀ c ∈ w, c = '*') : (lex w).flatMap glued = w := by
  induction w with
  | nil => rfl
  | cons c w ih =>
    obtain rfl := h c (by simp)
    rw [lex_sign (by decide) (by decide), flatMap_cons, ih fun d hd => h d (by simp [hd])]
    rfl

theorem lex_intercalate (pieces : List (List Char)) :
    lex ([' '].intercalate pieces) = pieces.flatMap lex := by
  cases pieces with
  | nil => rfl
  | cons w pieces =>
    rw [intercalate_cons, flatMap_cons]
    induction pieces generalizing w with
    | nil => simp
    | cons v pieces ih =>
      rw [flatMap_cons, flatMap_cons, ← ih v, append_assoc]
      exact lex_append_blank (by decide) w _

namespace ArePieces

variable {pieces : List (List Char)}

theorem draws (h : ArePieces pieces) :
    Draws (pieces.flatMap (' ' :: ·)) ((pieces.flatMap lex).flatMap glued) := by
  induction pieces with
  | nil => exact draws_nil
  | cons w pieces ih =>
    obtain ⟨⟨hne, hw⟩, hrest⟩ := forall_mem_cons.mp h
    obtain ⟨c, v, rfl⟩ := exists_cons_of_ne_nil hne
    rcases hw with hw | hw
    · rw [flatMap_cons, flatMap_cons, lex_letters hw hne, flatMap_append]
      have hletters := (ih hrest).letters fun d hd => isBlank_of_isWord (hw d hd)
      simpa [glued] using hletters.cons (x := ' ') fun _ d hd => by
        obtain rfl : c = d := by simpa using hd
        refine ⟨?_, isBlank_of_isWord (hw c (by simp))⟩
        rintro rfl
        exact absurd (hw '*' (by simp)) (by decide)
    · obtain rfl : c = '*' := hw c (by simp)
      have hv : ∀ d ∈ v, isBlank d = false := by
        intro d hd
        rw [hw d (by simp [hd])]
        rfl
      rw [flatMap_cons, flatMap_cons, flatMap_append, flatMap_glued_stars hw]
      exact ((ih hrest).letters hv).space_star

theorem eq_concat (h : ArePieces pieces) {A : List Lexeme} {v : List Char}
    (hlex : pieces.flatMap lex = A ++ [.word v]) :
    ∃ front, pieces = front ++ [v] ∧ front.flatMap lex = A := by
  rcases eq_nil_or_concat pieces with rfl | ⟨front, w, rfl⟩
  · simp at hlex
  · rw [concat_eq_append] at h hlex ⊢
    obtain ⟨hne, hw⟩ := h w (by simp)
    rw [flatMap_append, flatMap_singleton] at hlex
    rcases hw with hw | hw
    · rw [lex_letters hw hne] at hlex
      obtain ⟨hA, hv⟩ := append_inj' hlex rfl
      obtain rfl : w = v := by simpa using hv
      exact ⟨front, rfl, hA⟩
    · have hlast := congrArg List.getLast? hlex
      rw [lex_stars hw] at hlast
      simp [getLast?_replicate, hne] at hlast

theorem eq_words (h : ArePieces pieces) (hlex : pieces.flatMap lex = wordLexemes ws) :
    pieces.map String.ofList = ws := by
  induction pieces generalizing ws with
  | nil =>
    obtain rfl : ws = [] := by simpa [wordLexemes] using hlex.symm
    rfl
  | cons w pieces ih =>
    obtain ⟨⟨hne, hw⟩, hrest⟩ := forall_mem_cons.mp h
    rw [flatMap_cons] at hlex
    rcases hw with hw | hw
    · rw [lex_letters hw hne] at hlex
      cases ws with
      | nil => simp [wordLexemes] at hlex
      | cons v ws =>
        obtain ⟨hv, hmore⟩ := List.cons.inj hlex
        rw [map_cons, ih hrest hmore, Lexeme.word.inj hv, ofList_toList]
    · obtain ⟨c, v, rfl⟩ := exists_cons_of_ne_nil hne
      have hmem : .sign c ∈ lex (c :: v) := by
        rw [lex_stars hw, hw c (by simp)]
        simp
      exact absurd (hlex ▸ mem_append_left _ hmem) (sign_notMem_wordLexemes c ws)

theorem replace_intercalate (h : ArePieces pieces) {w : List Char} {L : List Lexeme}
    (hlex : pieces.flatMap lex = .word w :: L) :
    let type := String.ofList
      (blanksBeforeStar.replace "*" (" ".intercalate (pieces.map String.ofList)).toList)
    type = spelledType (.word w :: L) ∧ lex type.toList = .word w :: L := by
  have hstrings : (" ".intercalate (pieces.map String.ofList)).toList =
      [' '].intercalate pieces := by
    rw [toList_intercalate, map_map]
    simp [Function.comp_def]
  intro type
  have htype : type.toList = blanksBeforeStar.replace "*" ([' '].intercalate pieces) := by
    rw [← hstrings]
    exact toList_ofList
  constructor
  · cases pieces with
    | nil => simp at hlex
    | cons v pieces =>
      obtain ⟨⟨hne, hv⟩, hrest⟩ := forall_mem_cons.mp h
      rw [flatMap_cons] at hlex
      rcases hv with hv | hv
      · rw [lex_letters hv hne] at hlex
        obtain ⟨hw, rfl⟩ := List.cons.inj hlex
        obtain rfl := Lexeme.word.inj hw
        have hdraws := (draws hrest).letters fun c hc => isBlank_of_isWord (hv c hc)
        have hintercalate : [' '].intercalate (v :: pieces) = v ++ pieces.flatMap (' ' :: ·) :=
          intercalate_cons _ _ _
        rw [← toList_inj, htype, hintercalate, hdraws.replace_eq, spelledType,
          toList_ofList]
        rfl
      · obtain ⟨c, u, rfl⟩ := exists_cons_of_ne_nil hne
        obtain rfl := hv c (by simp)
        rw [lex_sign (by decide) (by decide)] at hlex
        cases hlex
  · rw [htype, lex_blanksBeforeStar, lex_intercalate, hlex]

end ArePieces

/-! ## Type and name -/

theorem types_foldl_add (attributes conventions words : List String) (s : SortedWords) :
    (words.foldl (SortedWords.add attributes conventions) s).types =
      s.types ++ words.filter fun w => !attributes.contains w && !conventions.contains w := by
  induction words generalizing s with
  | nil => simp
  | cons w words ih =>
    rw [foldl_cons, ih]
    by_cases ha : w ∈ attributes <;> by_cases hc : w ∈ conventions <;>
      simp [SortedWords.add, ha, hc]

theorem eraseLastConst_concat (words : List String) :
    eraseLastConst (words ++ ["const"]) = words := by
  simp [eraseLastConst]

namespace QualifiedDeclarator

variable (d : QualifiedDeclarator)

/-- The lexemes that are kept in the type: without stars, no `const`; with stars, all but `const`
behind the last one. -/
def keptLexemes : List Lexeme :=
  if d.stars = [] then wordLexemes d.words
  else wordLexemes d.baseWords ++ starLexemes (d.stars.dropLast ++ [false])

def type : String :=
  spelledType d.keptLexemes

/-- Rules under which the parts of the declaration have no meaning of their own. -/
structure Unreserved (r : Rules) : Prop where
  const : "const" ∉ r.attributes ∧ "const" ∉ r.callingConventions
  words : ∀ w ∈ d.words, w ∉ r.attributes ∧ w ∉ r.callingConventions
  stars : ∀ w ∈ r.attributes ++ r.callingConventions, (∀ c ∈ w.toList, c = '*') → w = ""

variable {d} {r : Rules} {t : List Char} {pieces : List (List Char)}

theorem exists_keptLexemes_eq : ∃ w L, d.keptLexemes = .word w :: L := by
  have hhead : ∀ {ws : List String}, ws ≠ [] → ∃ w L, wordLexemes ws = .word w :: L := by
    intro ws hws
    obtain ⟨w, ws, rfl⟩ := exists_cons_of_ne_nil hws
    exact ⟨_, _, rfl⟩
  rw [keptLexemes]
  split
  · exact hhead d.hasWords
  · have hbase : d.baseWords ≠ [] := by simp [baseWords, d.hasWords]
    obtain ⟨w, L, hL⟩ := hhead hbase
    exact ⟨w, L ++ starLexemes (d.stars.dropLast ++ [false]), by rw [hL]; rfl⟩

theorem eq_const_of_mem_constIf {present : Bool} (h : w ∈ constIf present) : w = "const" := by
  rw [constIf] at h
  split at h
  · exact mem_singleton.mp h
  · cases h

theorem word_mem_typeLexemes (h : .word w.toList ∈ d.typeLexemes) : w = "const" ∨ w ∈ d.words := by
  rcases mem_append.mp h with h | h
  · rcases mem_append.mp (word_mem_wordLexemes.mp h) with h | h
    · exact (mem_append.mp h).imp_left eq_const_of_mem_constIf
    · exact Or.inl (eq_const_of_mem_constIf h)
  · obtain ⟨b, -, hb⟩ := mem_flatMap.mp h
    rcases mem_cons.mp hb with hb | hb
    · cases hb
    · exact Or.inl (eq_const_of_mem_constIf (word_mem_wordLexemes.mp hb))

theorem Unreserved.filter_eq_self (h : d.Unreserved r) (hpieces : ArePieces pieces)
    (hlex : pieces.flatMap lex = d.typeLexemes) :
    (pieces.map String.ofList).filter
        (fun w => !r.attributes.contains w && !r.callingConventions.contains w) =
      pieces.map String.ofList := by
  have hall : ∀ w ∈ pieces.map String.ofList, w ∉ r.attributes ∧ w ∉ r.callingConventions := by
    intro w hw
    obtain ⟨v, hv, rfl⟩ := mem_map.mp hw
    obtain ⟨hne, hletters | hstars⟩ := hpieces v hv
    · have hmem : .word v ∈ d.typeLexemes := by
        rw [← hlex]
        exact mem_flatMap.mpr ⟨v, hv, by rw [lex_letters hletters hne]; simp⟩
      rw [← toList_ofList (l := v)] at hmem
      rcases word_mem_typeLexemes hmem with hword | hword
      · rw [hword]
        exact h.const
      · exact h.words _ hword
    · have hnone : String.ofList v ∉ r.attributes ++ r.callingConventions := by
        intro hmem
        have hempty := h.stars _ hmem (by simpa using hstars)
        exact hne (by simpa using congrArg String.toList hempty)
      simpa using hnone
  rw [List.filter_eq_self]
  intro w hw
  simpa using hall w hw

theorem flatMap_lex_baseWords (h : ∀ w ∈ ws, IsBaseWord w) :
    (ws.map String.toList).flatMap lex = wordLexemes ws := by
  induction ws with
  | nil => rfl
  | cons w ws ih =>
    obtain ⟨⟨hne, hletters, -⟩, hrest⟩ := forall_mem_cons.mp h
    rw [map_cons, flatMap_cons, ih hrest,
      lex_letters hletters fun h => hne (toList_eq_nil_iff.mp h)]
    rfl

theorem exists_kept_pieces (hr : d.Unreserved r) (hpieces : ArePieces pieces)
    (hlex : pieces.flatMap lex = d.typeLexemes) :
    let attributes := if d.stars = [] then "const" :: r.attributes else r.attributes
    let sorted := (pieces.map String.ofList).filter fun w =>
      !attributes.contains w && !r.callingConventions.contains w
    ∃ kept, ArePieces kept ∧ kept.flatMap lex = d.keptLexemes ∧
      (if d.isConstPtr then eraseLastConst sorted else sorted) = kept.map String.ofList := by
  rcases eq_nil_or_concat d.stars with hstars | ⟨stars, b, hstars⟩
  · -- Without stars, all pieces are words, and `const` goes to the attributes.
    have hwords : pieces.map String.ofList = d.baseWords := by
      refine hpieces.eq_words ?_
      rw [hlex, typeLexemes, hstars]
      simp [starLexemes]
    have hfilter : d.baseWords.filter (fun w => !("const" :: r.attributes).contains w &&
        !r.callingConventions.contains w) = d.words := by
      have hconst : ∀ present, (constIf present).filter (fun w =>
          !("const" :: r.attributes).contains w && !r.callingConventions.contains w) = [] := by
        intro present
        rw [filter_eq_nil_iff]
        intro w hw
        rw [eq_const_of_mem_constIf hw]
        simp
      rw [baseWords, filter_append, filter_append, hconst, hconst, nil_append,
        append_nil, List.filter_eq_self]
      intro w hw
      obtain ⟨hattribute, hconvention⟩ := hr.words w hw
      simp [hattribute, hconvention, (d.isBase w hw).2.2]
    refine ⟨d.words.map String.toList, ?_, ?_, ?_⟩
    · intro w hw
      obtain ⟨v, hv, rfl⟩ := mem_map.mp hw
      obtain ⟨hne, hletters, -⟩ := d.isBase v hv
      exact ⟨fun h => hne (toList_eq_nil_iff.mp h), Or.inl hletters⟩
    · rw [keptLexemes, if_pos hstars, flatMap_lex_baseWords d.isBase]
    · simp only [isConstPtr, hstars, hwords, if_true]
      simp only [hfilter, map_map, Function.comp_def, ofList_toList, map_id']
      rfl
  · rw [concat_eq_append] at hstars
    have hne : d.stars ≠ [] := by simp [hstars]
    simp only [if_neg hne, hr.filter_eq_self hpieces hlex]
    have hkept : d.keptLexemes = wordLexemes d.baseWords ++ starLexemes (stars ++ [false]) := by
      rw [keptLexemes, if_neg hne, hstars, dropLast_concat]
    rw [typeLexemes, hstars] at hlex
    cases b with
    | false =>
      refine ⟨pieces, hpieces, by rw [hlex, hkept], ?_⟩
      simp [isConstPtr, hstars]
    | true =>
      have hlast : pieces.flatMap lex = d.keptLexemes ++ [.word "const".toList] := by
        rw [hlex, hkept]
        simp [starLexemes, constIf, wordLexemes]
      obtain ⟨front, rfl, hfront⟩ := hpieces.eq_concat hlast
      refine ⟨front, fun w hw => hpieces w (by simp [hw]), hfront, ?_⟩
      have hptr : d.isConstPtr = true := by simp [isConstPtr, hstars]
      rw [if_pos hptr, map_append]
      exact eraseLastConst_concat (front.map String.ofList)

theorem exists_typeAndName (hr : d.Unreserved r) (hlex : lex t = d.lexemes) (hline : '\n' ∉ t) :
    ∃ parsed, typeAndName r t = .ok parsed ∧ parsed.name = d.name ∧ parsed.isPtr = d.isPtr ∧
      parsed.isConst = d.isConst ∧ parsed.isConstPtr = d.isConstPtr ∧ parsed.type = d.type ∧
      lex parsed.type.toList = d.keptLexemes := by
  have hapart : lex (separateStars t) = d.lexemes := (lex_separateStars t).trans hlex
  have hline' : '\n' ∉ separateStars t := fun h => (mem_separateStars h).elim hline (by decide)
  have hchain := (isChain_separateStars t).imp fun x y h => h.1
  have hpieces : ArePieces (Text.words (separateStars t)) := fun w hw =>
    word_or_stars_of_mem_words (fun c hc => d.sign_mem_lexemes (hlex ▸ hc)) hw
  have hflat : (Text.words (separateStars t)).flatMap lex =
      d.typeLexemes ++ [.word d.name.toList] :=
    (flatMap_lex_words _).trans hapart
  obtain ⟨front, hwords, hfront⟩ := hpieces.eq_concat hflat
  rw [hwords] at hpieces
  have hnames : (Text.words (separateStars t)).map String.ofList =
      front.map String.ofList ++ [d.name] := by
    rw [hwords]
    simp
  have hstar : (if (separateStars t).contains '*' then r.attributes else "const" :: r.attributes) =
      if d.stars = [] then "const" :: r.attributes else r.attributes := by
    by_cases hstars : d.stars = []
    · rw [if_pos hstars, if_neg (by simpa using star_notMem hapart hstars)]
    · rcases eq_nil_or_concat d.stars with hnil | ⟨stars, b, hconcat⟩
      · exact absurd hnil hstars
      · rw [concat_eq_append] at hconcat
        obtain ⟨x, y, htext, -⟩ := exists_last_star hapart hconcat
        rw [if_neg hstars, htext, if_pos (by simp)]
  obtain ⟨kept, hkept, hkeptLex, hsorted⟩ := exists_kept_pieces hr
    (fun w hw => hpieces w (by simp [hw])) hfront
  obtain ⟨w, L, hL⟩ := d.exists_keptLexemes_eq
  obtain ⟨htype, hlexType⟩ := hkept.replace_intercalate (hkeptLex.trans hL)
  rw [← hL] at htype hlexType
  rw [typeAndName]
  simp only [hnames, getLast?_concat, dropLast_concat, hstar, types_foldl_add,
    nil_append, isConstantPointer_eq hapart hline', isConstant_eq hapart hline',
    isPointer_eq hapart hline' hchain, hsorted]
  exact ⟨_, rfl, rfl, rfl, rfl, rfl, htype, hlexType⟩

end QualifiedDeclarator

/-! ## The type that is denoted -/

/-- A type: its base words, whether what they name is constant, and the same for each star. -/
structure CType where
  base : List String
  isConst : Bool
  stars : List Bool
  deriving DecidableEq

namespace CType

/-- Reads a lexeme of a type: `const` belongs to the star in front of it, or else to the base. -/
def read (type : CType) : Lexeme → CType
  | .word w =>
    if w = "const".toList then
      if type.stars = [] then { type with isConst := true }
      else { type with stars := type.stars.dropLast ++ [true] }
    else { type with base := type.base ++ [String.ofList w] }
  | .sign _ => { type with stars := type.stars ++ [false] }

def ofText (t : String) : CType :=
  (lex t.toList).foldl read ⟨[], false, []⟩

theorem foldl_words (h : ∀ w ∈ ws, IsBaseWord w) (type : CType) :
    (wordLexemes ws).foldl read type = { type with base := type.base ++ ws } := by
  induction ws generalizing type with
  | nil => simp [wordLexemes]
  | cons w ws ih =>
    obtain ⟨⟨-, -, hw⟩, hrest⟩ := forall_mem_cons.mp h
    have hread : read type (.word w.toList) = { type with base := type.base ++ [w] } := by
      rw [read, if_neg fun h => hw (toList_inj.mp h), ofList_toList]
    change (wordLexemes ws).foldl read (read type (.word w.toList)) = _
    rw [hread, ih hrest]
    simp

theorem foldl_constIf (present : Bool) (base : List String) (isConst : Bool) :
    (wordLexemes (constIf present)).foldl read ⟨base, isConst, []⟩ =
      ⟨base, isConst || present, []⟩ := by
  cases present <;> simp [constIf, wordLexemes, read]

theorem foldl_stars (stars : List Bool) (type : CType) :
    (starLexemes stars).foldl read type = { type with stars := type.stars ++ stars } := by
  induction stars generalizing type with
  | nil => simp [starLexemes]
  | cons b stars ih =>
    have hstar : (.sign '*' :: wordLexemes (constIf b)).foldl read type =
        { type with stars := type.stars ++ [b] } := by
      cases b <;> simp [constIf, wordLexemes, read]
    rw [starLexemes, flatMap_cons, foldl_append, hstar, ← starLexemes, ih]
    simp

end CType

theorem lex_const_append (u : List Char) : lex ("const ".toList ++ u) = constLexeme :: lex u := by
  have htext : "const ".toList ++ u = "const".toList ++ ' ' :: u := by simp
  rw [htext, lex_append_blank (by decide), lex_letters isWord_const (by decide)]
  rfl

theorem lex_append_const (u : List Char) : lex (u ++ " const".toList) = lex u ++ [constLexeme] := by
  have htext : u ++ " const".toList = u ++ ' ' :: "const".toList := by simp
  rw [htext, lex_append_blank (by decide), lex_letters isWord_const (by decide)]
  rfl

namespace QualifiedDeclarator

variable {d : QualifiedDeclarator} {r : Rules} {t : List Char}

theorem foldl_baseWords : (wordLexemes d.baseWords).foldl CType.read ⟨[], false, []⟩ =
    ⟨d.words, d.constBefore || d.constAfter, []⟩ := by
  rw [baseWords, wordLexemes_append, wordLexemes_append, foldl_append, foldl_append,
    CType.foldl_constIf, CType.foldl_words d.isBase, CType.foldl_constIf]
  simp

theorem ofText_typeWithConst {a : Argument} (htype : lex a.type.toList = d.keptLexemes)
    (hconst : a.isConst = d.isConst) (hptr : a.isConstPtr = d.isConstPtr) :
    CType.ofText a.typeWithConst = ⟨d.words, d.constBefore || d.constAfter, d.stars⟩ := by
  rcases eq_nil_or_concat d.stars with hstars | ⟨stars, b, hstars⟩
  · rw [keptLexemes, if_pos hstars] at htype
    have hstar : a.type.toList.contains '*' = false := by
      rw [eq_false_iff]
      intro h
      have hmem := sign_mem_lex (contains_iff_mem.mp h) (by decide) (by decide)
      rw [htype] at hmem
      exact sign_notMem_wordLexemes '*' d.words hmem
    have hbase : a.isConst = (d.constBefore || d.constAfter) := by
      rw [hconst, isConst, hstars]
      rfl
    rw [Argument.typeWithConst, hstar, if_neg (by simp), ← hbase, hstars]
    cases a.isConst with
    | false => rw [if_neg (by simp), CType.ofText, htype, CType.foldl_words d.isBase]; rfl
    | true =>
      rw [if_pos rfl, CType.ofText, toList_append, lex_const_append, htype, foldl_cons,
        CType.foldl_words d.isBase]
      rfl
  · rw [concat_eq_append] at hstars
    rw [keptLexemes, if_neg (by simp [hstars]), hstars, dropLast_concat] at htype
    have hstar : a.type.toList.contains '*' = true := by
      refine contains_iff_mem.mpr (mem_of_sign_mem_lex ?_)
      rw [htype, starLexemes_concat]
      simp
    have hread : ∀ b, (wordLexemes d.baseWords ++ starLexemes (stars ++ [b])).foldl CType.read
        ⟨[], false, []⟩ = ⟨d.words, d.constBefore || d.constAfter, stars ++ [b]⟩ := by
      intro b
      rw [foldl_append, foldl_baseWords, CType.foldl_stars]
      simp
    rw [Argument.typeWithConst, hstar, if_pos rfl, hptr, isConstPtr, hstars, getLast?_concat]
    cases b with
    | false => rw [if_neg (by simp), CType.ofText, htype, hread]
    | true =>
      rw [if_pos (by simp), CType.ofText, toList_append, lex_append_const, htype, ← hread]
      simp [starLexemes, constIf, wordLexemes, constLexeme]

theorem strip_ne (hlex : lex t = d.lexemes) :
    (Text.strip t == "void".toList || Text.strip t == "...".toList) = false := by
  obtain ⟨w, L, hL⟩ : ∃ w L, d.lexemes = .word w :: L ∧ L ≠ [] := by
    have hbase : d.baseWords ≠ [] := by simp [baseWords, d.hasWords]
    obtain ⟨w, ws, hws⟩ := exists_cons_of_ne_nil hbase
    exact ⟨w.toList, wordLexemes ws ++ starLexemes d.stars ++ [.word d.name.toList],
      by simp [lexemes, typeLexemes, hws, wordLexemes], by simp⟩
  rw [or_eq_false_iff, beq_eq_false_iff_ne, beq_eq_false_iff_ne]
  constructor
  · intro h
    have hvoid : lex "void".toList = [.word "void".toList] := by decide
    rw [← h, lex_strip, hlex, hL.1] at hvoid
    exact hL.2 (List.cons.inj hvoid).2
  · intro h
    have hdots : lex "...".toList = [.sign '.', .sign '.', .sign '.'] := by decide
    rw [← h, lex_strip, hlex, hL.1] at hdots
    cases hdots

theorem comma_notMem (hlex : lex t = d.lexemes) : ',' ∉ t := by
  intro h
  have hmem := sign_mem_lex h (by decide) (by decide)
  rw [hlex] at hmem
  exact absurd (d.sign_mem_lexemes hmem) (by decide)

end QualifiedDeclarator

theorem argument_plain {r : Rules} {types : List (String × String)}
    (harray : r.arrayTypes = some types) {item : List Char} {parsed : TypedName}
    (hparsed : typeAndName r item = .ok parsed)
    (hkey : parsed.isPtr = false → parsed.type ∉ types.map Prod.fst) :
    argument r item = .ok (argument.plain parsed) := by
  have helement : ∃ element, elementType? r parsed.type = .ok element ∧
      (parsed.isPtr = false → element = none) := by
    rw [elementType?, harray]
    dsimp only
    cases hptr : parsed.isPtr with
    | true => split <;> exact ⟨_, rfl, by simp⟩
    | false =>
      have hnone : types.lookup parsed.type = none := by
        rw [lookup_eq_none_iff]
        intro entry hentry
        rw [bne_iff_ne]
        intro h
        exact hkey hptr (h ▸ mem_map_of_mem hentry)
      rw [hnone]
      exact ⟨none, rfl, fun _ => rfl⟩
  obtain ⟨element, helement, hnone⟩ := helement
  rw [argument, hparsed]
  simp only [bind, Except.bind, helement]
  cases element with
  | none => rfl
  | some element =>
    cases hptr : parsed.isPtr with
    | true => rfl
    | false => cases hnone hptr

theorem arguments_single {r : Rules} {t : List Char} {a : Argument} (hcomma : ',' ∉ t)
    (hstop : (Text.strip t == "void".toList || Text.strip t == "...".toList) = false)
    (ha : argument r (Text.strip t) = .ok a) :
    arguments r t = .ok [{ a with isArrayData := false, isArraySize := false }] := by
  rw [arguments, splitAt_of_notMem hcomma]
  simp only [argumentsOf, hstop, ha, bind, Except.bind, false_eq_true, if_false]
  rfl

/-- A parameter of base words, stars and `const` is read with its name and one record.  The flags
say whether the pointer and the object that it designates are constant, and the type that is written
for it later denotes the declared type. -/
theorem arguments_qualified (d : QualifiedDeclarator) {r : Rules} (hr : d.Unreserved r)
    {types : List (String × String)} (harray : r.arrayTypes = some types)
    (hkey : d.isPtr = false → d.type ∉ types.map Prod.fst) {t : List Char}
    (hlex : lex t = d.lexemes) (hline : '\n' ∉ t) :
    ∃ a, arguments r t = .ok [a] ∧ a.name = d.name ∧
      (a.isConstPtr = true ↔ d.stars.getLast? = some true) ∧
      (a.isConst = true ↔ if d.stars.length ≤ 1 then d.constBefore = true ∨ d.constAfter = true
        else d.stars.dropLast.getLast? = some true) ∧
      (a.isPtr = false ↔ d.stars = [] ∨ d.stars.length = 1 ∧ d.words.getLast? = some "char") ∧
      CType.ofText a.typeWithConst = ⟨d.words, d.constBefore || d.constAfter, d.stars⟩ := by
  have hstrip : lex (Text.strip t) = d.lexemes := (lex_strip t).trans hlex
  have hline' : '\n' ∉ Text.strip t := mt strip_subset hline
  obtain ⟨parsed, hparsed, hname, hptr, hconst, hconstPtr, htype, hlexType⟩ :=
    QualifiedDeclarator.exists_typeAndName hr hstrip hline'
  have hkey' : parsed.isPtr = false → parsed.type ∉ types.map Prod.fst := by
    rw [hptr, htype]
    exact hkey
  refine ⟨_, arguments_single (QualifiedDeclarator.comma_notMem hlex)
    (QualifiedDeclarator.strip_ne hlex) (argument_plain harray hparsed hkey'), hname, ?_,
    ?_, ?_, ?_⟩
  · simp [argument.plain, hconstPtr, QualifiedDeclarator.isConstPtr]
  · simp only [argument.plain, hconst, QualifiedDeclarator.isConst]
    split <;> simp
  · by_cases hstars : d.stars = [] <;>
      simp [argument.plain, hptr, QualifiedDeclarator.isPtr, hstars]
  · exact QualifiedDeclarator.ofText_typeWithConst hlexType hconst hconstPtr

/-- A pointer to a constant pointer to constant text, itself constant. -/
def textTable : QualifiedDeclarator where
  constBefore := true
  words := ["unsigned", "char"]
  constAfter := false
  stars := [true, true]
  name := "table"
  hasWords := by decide
  isBase := by decide +kernel
  isName := by decide +kernel

theorem arguments_qualified_text_table : ∃ a,
    arguments Rules.standard "const unsigned char*const * const table".toList = .ok [a] ∧
      a.name = "table" ∧ a.isConstPtr = true ∧ a.isConst = true ∧ a.isPtr = true ∧
      CType.ofText a.typeWithConst = ⟨["unsigned", "char"], true, [true, true]⟩ := by
  obtain ⟨a, ha, hname, hconstPtr, hconst, hptr, htype⟩ :=
    arguments_qualified textTable (r := Rules.standard)
      ⟨by decide +kernel, by decide +kernel, by decide +kernel⟩ rfl (fun _ => not_mem_nil)
      (t := "const unsigned char*const * const table".toList) (by decide +kernel)
      (by decide +kernel)
  refine ⟨a, ha, hname, hconstPtr.mpr rfl, hconst.mpr rfl, ?_, htype⟩
  rw [← not_eq_false, hptr]
  decide

/-- A type of two words may stand for an array although none of its words does. -/
theorem arguments_array_type :
    (arguments { Rules.standard with arrayTypes := some [("unsigned foo", "int")] }
      "unsigned foo a".toList).toOption =
      some [
        { type := "int*", name := "a", isPtr := true, isConst := false, isConstPtr := false }] := by
  decide +kernel

end MockGen.Header
