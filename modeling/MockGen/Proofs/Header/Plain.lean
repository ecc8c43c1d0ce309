import MockGen.Proofs.Text.Words
import MockGen.Text.Encoding

/-!
# Plain prototypes

A return type of words and stars, a name, and either `void` or parameters of the same form.  A
header of plain prototypes is a layout of their lexemes with spaces, tabs and line feeds.
-/

namespace MockGen

open Text
open List hiding lex

variable {c : Char} {t : List Char} {L : List Lexeme}

namespace Text

/-! ## Layouts -/

def Lexeme.spelling : Lexeme → List Char
  | word letters => letters
  | sign c => [c]

def Lexeme.isWord : Lexeme → Bool
  | word _ => true
  | sign _ => false

/-- A word has letters, and a sign is neither a letter nor white space. -/
def Lexeme.Proper : Lexeme → Prop
  | word letters => letters ≠ [] ∧ ∀ c ∈ letters, Text.isWord c = true
  | sign c => Text.isWord c = false ∧ isBlank c = false

/-- Whether a character may stand between two lexemes. -/
def isGap (c : Char) : Bool :=
  c == ' ' || c == '\t' || c == '\n'

/-- A text with the given lexemes in order and gaps between them, not empty between two words. -/
inductive Layout : List Lexeme → List Char → Prop
  | done {gap : List Char} (hgap : ∀ c ∈ gap, isGap c = true) : Layout [] gap
  | next {gap rest : List Char} {lexeme : Lexeme} {lexemes : List Lexeme}
      (hgap : ∀ c ∈ gap, isGap c = true)
      (hapart : lexeme.isWord = true → lexemes.head?.any Lexeme.isWord = true →
        rest.head?.any isGap = true)
      (hrest : Layout lexemes rest) : Layout (lexeme :: lexemes) (gap ++ (lexeme.spelling ++ rest))

theorem isBlank_of_isGap (h : isGap c = true) : isBlank c = true := by
  simp only [isGap, Bool.or_eq_true, beq_iff_eq] at h
  rcases h with (rfl | rfl) | rfl <;> rfl

theorem Layout.head_isWord (h : Layout L t) (hproper : ∀ l ∈ L, l.Proper) (hc : c ∈ t.head?)
    (hword : Text.isWord c = true) : L.head?.any Lexeme.isWord = true := by
  cases h with
  | done hgap =>
    have hblank := isBlank_of_isGap (hgap c (mem_of_mem_head? hc))
    simp [isWord_of_isBlank hblank] at hword
  | @next gap rest lexeme lexemes hgap hapart hrest =>
    cases gap with
    | cons d gap =>
      obtain rfl : d = c := by simpa using hc
      have hblank := isBlank_of_isGap (hgap d (by simp))
      simp [isWord_of_isBlank hblank] at hword
    | nil =>
      cases lexeme with
      | word letters => rfl
      | sign d =>
        obtain rfl : d = c := by simpa [Lexeme.spelling] using hc
        have := (hproper (.sign d) (by simp)).1
        simp [this] at hword

theorem Layout.lex_eq (h : Layout L t) (hproper : ∀ l ∈ L, l.Proper) : lex t = L := by
  induction h with
  | done hgap => exact lex_eq_nil_iff.mpr fun c hc => isBlank_of_isGap (hgap c hc)
  | @next gap rest lexeme lexemes hgap hapart hrest ih =>
    have ih := ih fun l hl => hproper l (by simp [hl])
    rw [lex_append_blanks fun c hc => isBlank_of_isGap (hgap c hc)]
    have hfirst := hproper lexeme (by simp)
    cases lexeme with
    | sign c =>
      rw [Lexeme.spelling, singleton_append, lex_sign hfirst.1 hfirst.2, ih]
    | word letters =>
      rw [Lexeme.spelling, lex_append_word hfirst.2 hfirst.1, ih]
      intro c hc
      cases hw : Text.isWord c with
      | false => rfl
      | true =>
        have hnext := hrest.head_isWord (fun l hl => hproper l (by simp [hl])) hc hw
        have hgap := hapart rfl hnext
        rw [Option.mem_def.mp hc] at hgap
        have := isBlank_of_isGap (by simpa using hgap)
        simp [isWord_of_isBlank this] at hw

theorem exists_span (p : Char → Bool) (t : List Char) :
    ∃ u v, t = u ++ v ∧ (∀ c ∈ u, p c = true) ∧ ∀ c ∈ v.head?, p c = false := by
  induction t with
  | nil => exact ⟨[], [], rfl, by simp, by simp⟩
  | cons c t ih =>
    cases hc : p c with
    | false => exact ⟨[], c :: t, rfl, by simp, by simpa using hc⟩
    | true =>
      obtain ⟨u, v, rfl, hu, hv⟩ := ih
      exact ⟨c :: u, v, rfl, by simpa [hc] using hu, hv⟩

theorem layout_lex (ht : ∀ c ∈ t, isBlank c = true → isGap c = true) : Layout (lex t) t := by
  have key : ∀ (n : Nat) (t : List Char), t.length = n →
      (∀ c ∈ t, isBlank c = true → isGap c = true) → Layout (lex t) t := by
    intro n
    induction n using Nat.strongRecOn with
    | _ n ih =>
      rintro t rfl ht
      obtain ⟨gap, u, rfl, hblank, hu⟩ := exists_span isBlank t
      have hgap : ∀ c ∈ gap, isGap c = true := fun c hc => ht c (by simp [hc]) (hblank c hc)
      rw [lex_append_blanks hblank]
      cases u with
      | nil => exact (append_nil gap).symm ▸ .done hgap
      | cons c u =>
        have hc : isBlank c = false := hu c rfl
        cases hw : Text.isWord c with
        | false =>
          rw [lex_sign hw hc]
          refine .next hgap (by simp [Lexeme.isWord]) (ih u.length ?_ u rfl fun d hd => ?_)
          · simp only [length_append, length_cons]
            omega
          · exact ht d (by simp [hd])
        | true =>
          obtain ⟨w, v, hsplit, hletters, hv⟩ := exists_span Text.isWord (c :: u)
          have hne : w ≠ [] := by
            rintro rfl
            simp [hv c (by rw [← nil_append v, ← hsplit]; rfl)] at hw
          rw [hsplit] at ht ⊢
          rw [lex_append_word hletters hne hv]
          refine .next hgap (fun _ hnext => ?_) (ih v.length ?_ v rfl fun d hd => ?_)
          · -- What stands behind the word is no letter, and if a word comes next it is no sign.
            cases v with
            | nil => simp at hnext
            | cons d v =>
              cases hd : isBlank d with
              | true => simpa using ht d (by simp) hd
              | false => simp [lex_sign (hv d rfl) hd, Lexeme.isWord] at hnext
          · have := length_pos_iff.mpr hne
            rw [hsplit]
            simp only [length_append]
            omega
          · exact ht d (by simp [hd])
  exact key _ t rfl ht

theorem Layout.mem (h : Layout L t) (hc : c ∈ t) : isGap c = true ∨ ∃ l ∈ L, c ∈ l.spelling := by
  induction h with
  | done hgap => exact Or.inl (hgap c hc)
  | next hgap hapart hrest ih =>
    rcases mem_append.mp hc with hc | hc
    · exact Or.inl (hgap c hc)
    · rcases mem_append.mp hc with hc | hc
      · exact Or.inr ⟨_, by simp, hc⟩
      · rcases ih hc with hgap | ⟨l, hl, hc⟩
        · exact Or.inl hgap
        · exact Or.inr ⟨l, by simp [hl], hc⟩

theorem clean_eq_self (h : ∀ c ∈ t, c.toNat < 128) : clean t = t := by
  rw [clean, decodeUtf8]
  induction t with
  | nil => rfl
  | cons c t ih =>
    have hc : c.toNat < 128 := h c (by simp)
    have hbyte : byte? c = some c.toNat.toUInt8 := by
      simp only [byte?, ite_eq_left_iff]
      omega
    have hnat : c.toNat.toUInt8.toNat = c.toNat := by
      rw [UInt8.toNat_ofNat']
      omega
    have hlow : c.toNat.toUInt8 < 0x80 := by
      rw [UInt8.lt_iff_toNat_lt, hnat]
      exact hc
    have hlead : ∀ rest, leadingChar? c.toNat.toUInt8 rest = some (c, 0) := fun rest => by
      simp [leadingChar?, hlow, hnat]
    rw [filterMap_cons, hbyte]
    simp only [decodeFrom, hlead]
    rw [ih fun d hd => h d (by simp [hd])]

end Text

namespace Header

/-! ## Plain prototypes -/

/-- Words that have a meaning of their own in a declaration. -/
def reservedWords : List String :=
  ["const", "struct", "union", "enum", "typedef", "static", "inline", "extern", "register", "auto",
    "restrict", "__attribute__", "__ramfunc", "__irq", "__fiq", "__stdcall", "__cdecl",
    "__fastcall"]

def isAsciiLetter (c : Char) : Bool :=
  c.isAlpha || c == '_'

/-- Whether a text is an identifier made of ASCII characters. -/
def isAsciiIdentifier : List Char → Bool
  | [] => false
  | c :: rest => isAsciiLetter c && rest.all fun d => isAsciiLetter d || d.isDigit

/-- An ASCII identifier without a meaning of its own. -/
structure PlainWord where
  text : String
  isIdentifier : isAsciiIdentifier text.toList = true
  notReserved : text ∉ reservedWords

/-- A type of words and stars with a name behind it. -/
structure PlainDeclarator where
  words : List PlainWord
  hasWords : words ≠ []
  stars : Nat
  name : PlainWord

/-- A prototype with plain parameters; without any, the parameter list is `void`. -/
structure PlainPrototype where
  head : PlainDeclarator
  params : List PlainDeclarator

variable {l : Lexeme}

namespace PlainWord

def lexeme (w : PlainWord) : Lexeme :=
  .word w.text.toList

theorem isWord_of_ascii (h : (isAsciiLetter c || c.isDigit) = true) :
    c.toNat < 128 ∧ isWord c = true := by
  have halpha : c.isAlpha = (c.isUpper || c.isLower) := rfl
  have hupper : c.isUpper = decide (c.val ≥ 'A'.val ∧ c.val ≤ 'Z'.val) := rfl
  have hlower : c.isLower = (decide (c.val ≥ 'a'.val) && decide (c.val ≤ 'z'.val)) := rfl
  simp only [isAsciiLetter, halpha, hupper, hlower, Char.isDigit, Bool.or_eq_true, Bool.and_eq_true,
    decide_eq_true_eq, beq_iff_eq, UInt32.le_iff_toNat_le, ge_iff_le] at h
  have hascii : c.toNat < 128 ∧ ((48 ≤ c.toNat ∧ c.toNat ≤ 57) ∨ (65 ≤ c.toNat ∧ c.toNat ≤ 90) ∨
      (97 ≤ c.toNat ∧ c.toNat ≤ 122) ∨ c.toNat = 95) := by
    rcases h with ((⟨hlow, hhigh⟩ | ⟨hlow, hhigh⟩) | rfl) | ⟨hlow, hhigh⟩
    · change 65 ≤ c.toNat at hlow
      change c.toNat ≤ 90 at hhigh
      omega
    · change 97 ≤ c.toNat at hlow
      change c.toNat ≤ 122 at hhigh
      omega
    · decide
    · change 48 ≤ c.toNat at hlow
      change c.toNat ≤ 57 at hhigh
      omega
  refine ⟨hascii.1, ?_⟩
  simp only [isWord, hascii.1, if_true, Bool.or_eq_true, Bool.and_eq_true, decide_eq_true_eq,
    beq_iff_eq]
  omega

theorem isAscii (w : PlainWord) (hc : c ∈ w.text.toList) : c.toNat < 128 ∧ isWord c = true := by
  have hidentifier := w.isIdentifier
  cases hletters : w.text.toList with
  | nil => simp [hletters] at hc
  | cons d rest =>
    rw [hletters] at hidentifier hc
    simp only [isAsciiIdentifier, Bool.and_eq_true, all_eq_true] at hidentifier
    rcases mem_cons.mp hc with rfl | hc
    · exact isWord_of_ascii (by simp [hidentifier.1])
    · exact isWord_of_ascii (hidentifier.2 c hc)

theorem text_ne_nil (w : PlainWord) : w.text.toList ≠ [] := by
  intro h
  have := w.isIdentifier
  simp [h, isAsciiIdentifier] at this

end PlainWord

namespace PlainDeclarator

/-- The type as it is written: words joined by one space, stars attached. -/
def type (d : PlainDeclarator) : String :=
  " ".intercalate (d.words.map PlainWord.text) ++ String.ofList (List.replicate d.stars '*')

def lexemes (d : PlainDeclarator) : List Lexeme :=
  d.words.map PlainWord.lexeme ++ List.replicate d.stars (.sign '*') ++ [d.name.lexeme]

end PlainDeclarator

/-- The lexemes of parameters with commas between them. -/
def listLexemes (ds : List PlainDeclarator) : List Lexeme :=
  [.sign ','].intercalate (ds.map PlainDeclarator.lexemes)

namespace PlainPrototype

def parameterLexemes (p : PlainPrototype) : List Lexeme :=
  if p.params.isEmpty then [.word "void".toList] else listLexemes p.params

def declarationLexemes (p : PlainPrototype) : List Lexeme :=
  p.head.lexemes ++ .sign '(' :: p.parameterLexemes ++ [.sign ')']

def lexemes (p : PlainPrototype) : List Lexeme :=
  p.declarationLexemes ++ [.sign ';']

end PlainPrototype

/-! ## Which lexemes stand next to each other -/

/-- Behind an opening bracket stands a word, behind a closing one a semicolon, and a semicolon
stands nowhere else. -/
def Follows (l m : Lexeme) : Prop :=
  (l = .sign '(' → m.isWord = true) ∧ (l = .sign ')' → m = .sign ';') ∧
    (m = .sign ';' → l = .sign ')')

/-- Lexemes as plain prototypes have them. -/
structure Plain (L : List Lexeme) : Prop where
  signs : ∀ c, .sign c ∈ L → c ∈ ['*', '(', ')', ',', ';']
  words : ∀ w, .word w ∈ L → String.ofList w ∉ reservedWords
  chain : L.IsChain Follows

def IsInner (l : Lexeme) : Prop :=
  l.isWord = true ∨ l = .sign '*' ∨ l = .sign ','

theorem IsInner.follows {m : Lexeme} (hl : IsInner l) (hm : m ≠ .sign ';') : Follows l m := by
  rcases hl with hl | rfl | rfl
  · cases l with
    | word w => simp [Follows, hm]
    | sign c => simp [Lexeme.isWord] at hl
  · simp [Follows, hm]
  · simp [Follows, hm]

theorem IsInner.ne_semicolon (hl : IsInner l) : l ≠ .sign ';' := by
  rcases hl with hl | rfl | rfl
  · rintro rfl
    simp [Lexeme.isWord] at hl
  · simp
  · simp

theorem isChain_of_isInner (h : ∀ l ∈ L, IsInner l) : L.IsChain Follows :=
  (pairwise_of_forall_mem_list fun l hl m hm => (h l hl).follows (h m hm).ne_semicolon).isChain

/-- Proper lexemes of ASCII characters other than reserved words. -/
def IsOrdinary (l : Lexeme) : Prop :=
  l.Proper ∧ (∀ c ∈ l.spelling, c.toNat < 128) ∧
    ∀ w, l = .word w → String.ofList w ∉ reservedWords

theorem isOrdinary_sign (hascii : c.toNat < 128) (hw : isWord c = false) (hb : isBlank c = false) :
    IsOrdinary (.sign c) :=
  ⟨⟨hw, hb⟩, by simpa [Lexeme.spelling] using hascii, by simp⟩

theorem PlainWord.isOrdinary (w : PlainWord) : IsOrdinary w.lexeme := by
  refine ⟨⟨w.text_ne_nil, fun c hc => (w.isAscii hc).2⟩, fun c hc => (w.isAscii hc).1, ?_⟩
  intro u hu
  obtain rfl : w.text.toList = u := Lexeme.word.inj hu
  rw [String.ofList_toList]
  exact w.notReserved

namespace PlainDeclarator

theorem isInner (d : PlainDeclarator) (hl : l ∈ d.lexemes) : IsInner l := by
  simp only [lexemes, mem_append, mem_map, mem_replicate, mem_singleton] at hl
  rcases hl with (⟨w, -, rfl⟩ | ⟨-, rfl⟩) | rfl
  · exact Or.inl rfl
  · exact Or.inr (Or.inl rfl)
  · exact Or.inl rfl

theorem exists_lexemes_eq (d : PlainDeclarator) :
    ∃ w more, d.lexemes = .word w :: more := by
  cases hwords : d.words with
  | nil => exact absurd hwords d.hasWords
  | cons w ws => exact ⟨w.text.toList, _, by rw [lexemes, hwords]; rfl⟩

theorem isOrdinary (d : PlainDeclarator) (hl : l ∈ d.lexemes) : IsOrdinary l := by
  simp only [lexemes, mem_append, mem_map, mem_replicate, mem_singleton] at hl
  rcases hl with (⟨w, -, rfl⟩ | ⟨-, rfl⟩) | rfl
  · exact w.isOrdinary
  · exact isOrdinary_sign (by decide) rfl rfl
  · exact d.name.isOrdinary

end PlainDeclarator

theorem mem_listLexemes {ds : List PlainDeclarator} (hl : l ∈ listLexemes ds) :
    IsInner l ∧ IsOrdinary l := by
  rcases mem_or_mem_of_mem_intercalate hl with hl | ⟨L, hL, hl⟩
  · obtain rfl := mem_singleton.mp hl
    exact ⟨Or.inr (Or.inr rfl), isOrdinary_sign (by decide) rfl rfl⟩
  · obtain ⟨d, -, rfl⟩ := mem_map.mp hL
    exact ⟨d.isInner hl, d.isOrdinary hl⟩

namespace PlainPrototype

theorem mem_parameterLexemes (p : PlainPrototype) (hl : l ∈ p.parameterLexemes) :
    IsInner l ∧ IsOrdinary l := by
  rw [parameterLexemes] at hl
  split at hl
  · obtain rfl := mem_singleton.mp hl
    exact ⟨Or.inl rfl, ⟨by decide, by decide⟩, by decide, by
      rintro w hw
      obtain rfl := Lexeme.word.inj hw
      decide⟩
  · exact mem_listLexemes hl

theorem exists_parameterLexemes_eq (p : PlainPrototype) :
    ∃ w more, p.parameterLexemes = .word w :: more := by
  rw [parameterLexemes]
  split
  · exact ⟨_, _, rfl⟩
  · rename_i hparams
    cases hp : p.params with
    | nil => simp [hp] at hparams
    | cons d ds =>
      obtain ⟨w, more, hd⟩ := d.exists_lexemes_eq
      exact ⟨w, _, by rw [listLexemes, map_cons, intercalate_cons, hd]; rfl⟩

theorem mem_lexemes (p : PlainPrototype) (hl : l ∈ p.lexemes) :
    IsOrdinary l ∧ (IsInner l ∨ l = .sign '(' ∨ l = .sign ')' ∨ l = .sign ';') := by
  simp only [lexemes, declarationLexemes, mem_append, mem_cons, not_mem_nil,
    or_false] at hl
  rcases hl with ((hl | rfl | hl) | rfl) | rfl
  · exact ⟨p.head.isOrdinary hl, Or.inl (p.head.isInner hl)⟩
  · exact ⟨isOrdinary_sign (by decide) rfl rfl, by simp⟩
  · exact ⟨(p.mem_parameterLexemes hl).2, Or.inl (p.mem_parameterLexemes hl).1⟩
  · exact ⟨isOrdinary_sign (by decide) rfl rfl, by simp⟩
  · exact ⟨isOrdinary_sign (by decide) rfl rfl, by simp⟩

theorem exists_lexemes_eq (p : PlainPrototype) : ∃ w more, p.lexemes = .word w :: more := by
  obtain ⟨w, more, hw⟩ := p.head.exists_lexemes_eq
  exact ⟨w, _, by rw [lexemes, declarationLexemes, hw]; rfl⟩

theorem isChain_lexemes (p : PlainPrototype) : p.lexemes.IsChain Follows := by
  obtain ⟨w, more, hparams⟩ := p.exists_parameterLexemes_eq
  have hclose : ([.sign ')', .sign ';'] : List Lexeme).IsChain Follows :=
    isChain_cons_cons.mpr ⟨by simp [Follows], List.IsChain.singleton _⟩
  have hinner : (p.parameterLexemes ++ [Lexeme.sign ')', .sign ';']).IsChain Follows := by
    refine isChain_append.mpr
      ⟨isChain_of_isInner fun l hl => (p.mem_parameterLexemes hl).1, hclose, ?_⟩
    intro l hl m hm
    obtain rfl : .sign ')' = m := by simpa using hm
    exact (p.mem_parameterLexemes (mem_of_getLast? hl)).1.follows (by simp)
  have hopen : (Lexeme.sign '(' ::
      (p.parameterLexemes ++ [Lexeme.sign ')', .sign ';'])).IsChain Follows := by
    refine isChain_cons.mpr ⟨?_, hinner⟩
    intro m hm
    obtain rfl : .word w = m := by simpa [hparams] using hm
    simp [Follows, Lexeme.isWord]
  have hsplit : p.lexemes =
      p.head.lexemes ++ .sign '(' :: (p.parameterLexemes ++ [.sign ')', .sign ';']) := by
    simp [lexemes, declarationLexemes]
  rw [hsplit]
  refine isChain_append.mpr
    ⟨isChain_of_isInner fun l hl => p.head.isInner hl, hopen, ?_⟩
  intro l hl m hm
  obtain rfl : .sign '(' = m := by simpa using hm
  exact (p.head.isInner (mem_of_getLast? hl)).follows (by simp)

theorem isOrdinary_of_mem {ps : List PlainPrototype} (hl : l ∈ ps.flatMap lexemes) :
    IsOrdinary l := by
  obtain ⟨p, -, hl⟩ := mem_flatMap.mp hl
  exact (p.mem_lexemes hl).1

theorem plain (ps : List PlainPrototype) : Plain (ps.flatMap lexemes) where
  signs c hc := by
    obtain ⟨p, -, hc⟩ := mem_flatMap.mp hc
    rcases (p.mem_lexemes hc).2 with (hword | hstar | hcomma) | hopen | hclose | hend
    · simp [Lexeme.isWord] at hword
    all_goals simp_all
  words w hw := (isOrdinary_of_mem hw).2.2 w rfl
  chain := by
    rw [flatMap_def, isChain_flatten]
    · constructor
      · intro L hL
        obtain ⟨p, -, rfl⟩ := mem_map.mp hL
        exact p.isChain_lexemes
      · refine (pairwise_of_forall_mem_list ?_).isChain
        intro L hL M hM l hl m hm
        obtain ⟨p, -, rfl⟩ := mem_map.mp hL
        obtain ⟨q, -, rfl⟩ := mem_map.mp hM
        obtain ⟨w, more, hq⟩ := q.exists_lexemes_eq
        obtain rfl : .sign ';' = l := by simpa [lexemes] using hl
        obtain rfl : .word w = m := by simpa [hq] using hm
        simp [Follows]
    · intro hnil
      obtain ⟨p, -, hp⟩ := mem_map.mp hnil
      obtain ⟨w, more, hw⟩ := p.exists_lexemes_eq
      simp [hw] at hp

theorem lex_layout {ps : List PlainPrototype} (h : Layout (ps.flatMap lexemes) t) :
    lex t = ps.flatMap lexemes ∧ clean t = t := by
  refine ⟨h.lex_eq fun l hl => (isOrdinary_of_mem hl).1, clean_eq_self fun c hc => ?_⟩
  rcases h.mem hc with hgap | ⟨l, hl, hc⟩
  · simp only [isGap, Bool.or_eq_true, beq_iff_eq] at hgap
    rcases hgap with (rfl | rfl) | rfl <;> decide
  · exact (isOrdinary_of_mem hl).2.1 c hc

end PlainPrototype

end Header

end MockGen
