import MockGen.Proofs.Header.Stars
import MockGen.Proofs.Pattern.Exact

/-!
# Where `const` and stars stand in a declaration

The patterns for qualifiers look at the text around its last star; what they find depends on the
lexemes on the two sides of that star only.
-/

namespace MockGen.Pattern.Exact

variable {p : Pattern} {R S : List Char → List Char → List Char → Prop}

theorem congr (hp : p.Exact R) (h : ∀ before u rest, R before u rest ↔ S before u rest) :
    p.Exact S := by
  obtain rfl : R = S := by
    funext before u rest
    exact propext (h before u rest)
  exact hp

end MockGen.Pattern.Exact

namespace MockGen.Header

open Text Pattern
open List hiding lex

/-! ## The last star -/

theorem exact_lastStar :
    lastStar.Exact fun _ u rest => u = ['*'] ∧ ∀ v w, rest = v ++ '*' :: w → '\n' ∈ v := by
  have hline : ∀ {v : List Char}, (∀ c ∈ v, CharSet.line.mem c = true) ↔ '\n' ∉ v := by
    intro v
    simp [CharSet.line, CharSet.mem, forall_mem_ne']
  refine ((exact_of_isSimple (p := char '*') rfl).append (exact_of_isSimple
    (p := stretch .line ++ char '*') rfl).notAhead).congr fun before u rest => ?_
  constructor
  · rintro ⟨v, _, rfl, hv, rfl, hnot⟩
    refine ⟨by simpa using hv, fun v w hrest => ?_⟩
    by_contra hnone
    exact hnot (v ++ ['*']) w (by simpa using hrest)
      ⟨v, ['*'], rfl, reads_stretch.mpr (hline.mpr hnone), reads_char.mpr rfl⟩
  · rintro ⟨rfl, hnot⟩
    refine ⟨['*'], [], rfl, reads_char.mpr rfl, rfl, ?_⟩
    rintro _ w hrest ⟨v, _, rfl, hv, hstar⟩
    obtain rfl := reads_char.mp hstar
    exact hline.mp (reads_stretch.mp hv) (hnot v w (by simpa using hrest))

theorem append_last_inj {c : Char} {x y x' y' : List Char} (hy : c ∉ y) (hy' : c ∉ y')
    (h : x ++ c :: y = x' ++ c :: y') : x = x' ∧ y = y' := by
  rcases List.append_eq_append_iff.mp h with ⟨a, rfl, ha⟩ | ⟨a, rfl, ha⟩
  · cases a with
    | nil => exact ⟨by simp, by simpa using ha⟩
    | cons d a => exact absurd (by rw [(List.cons.inj ha).2]; simp) hy
  · cases a with
    | nil => exact ⟨by simp, by simpa using ha.symm⟩
    | cons d a => exact absurd (by rw [(List.cons.inj ha).2]; simp) hy'

section

variable {p : Pattern} {R : List Char → List Char → List Char → Prop} {x y : List Char}
  (hline : '\n' ∉ x ++ '*' :: y) (hy : '*' ∉ y)

include hline hy

theorem occursIn_append_lastStar (hp : p.Exact R) :
    (p ++ lastStar).occursIn (x ++ '*' :: y) = true ↔
      ∃ a u, x = a ++ u ∧ R a.reverse u ('*' :: y) := by
  rw [(hp.append exact_lastStar).occursIn_iff]
  constructor
  · rintro ⟨a, _, z, htext, u, _, rfl, hu, rfl, hnot⟩
    have htext' : x ++ '*' :: y = (a ++ u) ++ '*' :: z := by simpa using htext
    have hz : '*' ∉ z := by
      intro hmem
      obtain ⟨v, w, rfl⟩ := append_of_mem hmem
      refine hline ?_
      rw [htext']
      simp [hnot v w rfl]
    obtain ⟨rfl, rfl⟩ := append_last_inj hy hz htext'
    exact ⟨a, u, rfl, hu⟩
  · rintro ⟨a, u, rfl, hu⟩
    refine ⟨a, u ++ ['*'], y, by simp, u, ['*'], rfl, hu, rfl, fun v w hrest => ?_⟩
    exact absurd (by rw [hrest]; simp) hy

theorem occursIn_lastStar_append (hp : p.Exact fun before u rest => ∃ v w, u = v ++ w ∧
      (v = ['*'] ∧ ∀ a b, w ++ rest = a ++ '*' :: b → '\n' ∈ a) ∧ R (v.reverse ++ before) w rest) :
    p.occursIn (x ++ '*' :: y) = true ↔ ∃ u z, y = u ++ z ∧ R ('*' :: x.reverse) u z := by
  rw [hp.occursIn_iff]
  constructor
  · rintro ⟨a, _, z, htext, _, u, rfl, ⟨rfl, hnot⟩, hu⟩
    have htext' : x ++ '*' :: y = a ++ '*' :: (u ++ z) := by simpa using htext
    have hz : '*' ∉ u ++ z := by
      intro hmem
      obtain ⟨v, w, hvw⟩ := append_of_mem hmem
      refine hline ?_
      rw [htext', hvw]
      simp [hnot v w hvw]
    obtain ⟨rfl, rfl⟩ := append_last_inj hy hz htext'
    exact ⟨u, z, rfl, hu⟩
  · rintro ⟨u, z, rfl, hu⟩
    refine ⟨x, '*' :: u, z, by simp, ['*'], u, rfl, ⟨rfl, fun v w hrest => ?_⟩, hu⟩
    exact absurd (by rw [hrest]; simp) hy

end

/-! ## What stands next to a word -/

def constLexeme : Lexeme :=
  .word "const".toList

theorem getLast?_cases {x : List Char} (hx : ∀ c ∈ x.getLast?, isWord c = false) :
    x = [] ∨ ∃ a c, x = a ++ [c] ∧ (isBlank c = true ∨ .sign c ∈ lex x) := by
  rcases eq_nil_or_concat x with rfl | ⟨a, c, rfl⟩
  · exact Or.inl rfl
  · have hc : isWord c = false := hx c (by simp)
    refine Or.inr ⟨a, c, by simp, ?_⟩
    cases hb : isBlank c with
    | true => exact Or.inl rfl
    | false => exact Or.inr (sign_mem_lex (by simp) hc hb)

theorem head?_cases {y : List Char} (hy : ∀ c ∈ y.head?, isWord c = false) :
    y = [] ∨ ∃ c a, y = c :: a ∧ (isBlank c = true ∨ .sign c ∈ lex y) := by
  cases y with
  | nil => exact Or.inl rfl
  | cons c a =>
    have hc : isWord c = false := hy c rfl
    refine Or.inr ⟨c, a, rfl, ?_⟩
    cases hb : isBlank c with
    | true => exact Or.inl rfl
    | false => exact Or.inr (sign_mem_lex (by simp) hc hb)

theorem reads_startOrBlank {before u rest : List Char} (h : startOrBlank.Reads before u rest) :
    (u = [] ∧ before = []) ∨ ∃ c, u = [c] ∧ isBlank c = true := by
  rcases h with ⟨rfl, hstart⟩ | ⟨c, rfl, hc⟩
  · exact Or.inl ⟨rfl, List.isEmpty_iff.mp hstart⟩
  · exact Or.inr ⟨c, rfl, hc⟩

theorem getLast?_startOrBlank {a u rest : List Char} (h : startOrBlank.Reads a.reverse u rest) :
    ∀ c ∈ (a ++ u).getLast?, isWord c = false := by
  rcases reads_startOrBlank h with ⟨rfl, hnil⟩ | ⟨b, rfl, hb⟩
  · obtain rfl : a = [] := by simpa using hnil
    simp
  · simpa using isWord_of_isBlank hb

theorem exists_startOrBlank {x : List Char} (hx : ∀ c ∈ x.getLast?, isWord c = false)
    (hsign : ∀ c ∈ x.getLast?, .sign c ∉ lex x) (rest : List Char) :
    ∃ a u, x = a ++ u ∧ startOrBlank.Reads a.reverse u rest := by
  rcases getLast?_cases hx with rfl | ⟨a, c, rfl, hc⟩
  · exact ⟨[], [], rfl, Or.inl ⟨rfl, rfl⟩⟩
  · exact ⟨a, [c], rfl, Or.inr ⟨c, rfl, hc.resolve_right (hsign c (by simp))⟩⟩

theorem reads_blankOrEnd {before u rest : List Char} (hline : '\n' ∉ rest) :
    blankOrEnd.Reads before u rest ↔
      (∃ c, u = [c] ∧ isBlank c = true) ∨ (u = [] ∧ rest = []) := by
  have hend : Anchor.lastEnd.holds ⟨before, rest, before.length⟩ = true ↔ rest = [] := by
    simp only [Anchor.holds, Bool.or_eq_true, List.isEmpty_iff, beq_iff_eq, or_iff_left_iff_imp]
    rintro rfl
    simp at hline
  change (∃ c, u = [c] ∧ isBlank c = true) ∨ (u = [] ∧ _) ↔ _
  rw [hend]

theorem head?_blankOrEnd {before u rest : List Char} (hline : '\n' ∉ rest)
    (h : blankOrEnd.Reads before u rest) : ∀ c ∈ (u ++ rest).head?, isWord c = false := by
  rcases (reads_blankOrEnd hline).mp h with ⟨c, rfl, hc⟩ | ⟨rfl, rfl⟩
  · simpa using isWord_of_isBlank hc
  · simp

theorem isWord_const : ∀ c ∈ "const".toList, isWord c = true := by decide

/-! ## `const` in the text -/

theorem occursIn_constWord {t : List Char} (hline : '\n' ∉ t) (hsign : ∀ c, .sign c ∉ lex t) :
    constWord.occursIn t = true ↔ constLexeme ∈ lex t := by
  rw [occursIn_iff rfl]
  constructor
  · rintro ⟨a, _, z, rfl, _, e, rfl, ⟨u, w, rfl, hu, hw⟩, he⟩
    obtain rfl := reads_text.mp hw
    have hmem := word_mem_lex (getLast?_startOrBlank hu) isWord_const (by decide)
      (head?_blankOrEnd (fun h => hline (by simp [h])) he)
    have htext : a ++ (u ++ "const".toList ++ e ++ z) = a ++ u ++ ("const".toList ++ (e ++ z)) := by
      simp
    rw [htext]
    exact hmem
  · intro h
    obtain ⟨A, B, hlex⟩ := append_of_mem h
    obtain ⟨x, y, rfl, hx, -, -, hy, hA, hB⟩ := lex_eq_append_word hlex
    obtain ⟨a, u, rfl, hu⟩ := exists_startOrBlank hx
      (fun c _ hc => hsign c (by rw [hlex, ← hA]; simp [hc])) ("const".toList ++ y)
    rcases head?_cases hy with rfl | ⟨c, y, rfl, hc⟩
    · exact ⟨a, u ++ "const".toList, [], by simp, u ++ "const".toList, [], by simp,
        ⟨u, "const".toList, rfl, by simpa using hu, reads_text.mpr rfl⟩, Or.inr ⟨rfl, rfl⟩⟩
    · have hblank := hc.resolve_right fun hc => hsign c (by rw [hlex, ← hB]; simp [hc])
      exact ⟨a, u ++ "const".toList ++ [c], y, by simp, u ++ "const".toList, [c], rfl,
        ⟨u, "const".toList, rfl, by simpa using hu, reads_text.mpr rfl⟩, Or.inl ⟨c, rfl, hblank⟩⟩

section

variable {x y : List Char} (hline : '\n' ∉ x ++ '*' :: y) (hy : '*' ∉ y)

include hline hy

theorem isConstantPointer_iff (hsign : ∀ c, .sign c ∉ lex y) :
    isConstantPointer (x ++ '*' :: y) = true ↔ (lex y).head? = some constLexeme := by
  have hexact := exact_of_isSimple (p := blanks ++ text "const" ++ blankOrEnd) rfl
  have hwhole := exact_lastStar.append hexact
  refine (occursIn_lastStar_append hline hy (p := constAfterStar)
    ⟨fun s k m h => hwhole.sound s k m h,
      fun hrest hread hk => hwhole.complete hrest hread hk⟩).trans ?_
  constructor
  · rintro ⟨_, z, rfl, _, e, rfl, ⟨u, w, rfl, hu, hw⟩, he⟩
    obtain rfl := reads_text.mp hw
    have hend := head?_blankOrEnd (fun h => hline (by simp [h])) he
    simp only [append_assoc]
    rw [lex_append_blanks (reads_blanks.mp hu), lex_append_word isWord_const (by decide) hend]
    rfl
  · intro h
    obtain ⟨L, hL⟩ := head?_eq_some_iff.mp h
    obtain ⟨u, z, rfl, hu, -, -, hz, hlex⟩ := lex_eq_word_cons hL
    rcases head?_cases hz with rfl | ⟨c, z, rfl, hc⟩
    · exact ⟨u ++ "const".toList, [], by simp, u ++ "const".toList, [], by simp,
        ⟨u, "const".toList, rfl, reads_blanks.mpr hu, reads_text.mpr rfl⟩, Or.inr ⟨rfl, rfl⟩⟩
    · have hblank := hc.resolve_right fun hc => hsign c (by rw [hL, ← hlex]; simp [hc])
      exact ⟨u ++ "const".toList ++ [c], z, by simp, u ++ "const".toList, [c], rfl,
        ⟨u, "const".toList, rfl, reads_blanks.mpr hu, reads_text.mpr rfl⟩,
        Or.inl ⟨c, rfl, hblank⟩⟩

theorem occursIn_constBeforeStar (hsign : ∀ c, .sign c ∈ lex x → c = '*') :
    constBeforeStar.occursIn (x ++ '*' :: y) = true ↔
      ∃ A B, lex x = A ++ constLexeme :: B ∧ ∀ c, .sign c ∉ B := by
  have hexact := (exact_of_isSimple
    (p := (place .textStart <|> one .blank <|> char '*') ++ text "const") rfl).append
      (exact_of_isSimple (p := one .blank ++ stretch (.word ∪ .blank)) rfl).opt
  refine (occursIn_append_lastStar hline hy hexact).trans ?_
  constructor
  · rintro ⟨a, _, rfl, _, e, rfl, ⟨u, w, rfl, hu, hw⟩, he⟩
    obtain rfl := reads_text.mp hw
    have hstart : ∀ c ∈ (a ++ u).getLast?, isWord c = false := by
      rcases hu with ⟨rfl, hstart⟩ | ⟨c, rfl, hc⟩ | hstar
      · obtain rfl : a = [] := by simpa [Anchor.holds] using hstart
        simp
      · simpa using isWord_of_isBlank hc
      · obtain rfl := reads_char.mp hstar
        simp; rfl
    have hletters : ∀ c ∈ e, isWord c = true ∨ isBlank c = true := by
      rcases he with ⟨_, v, rfl, ⟨b, rfl, hb⟩, hv⟩ | rfl
      · refine forall_mem_cons.mpr ⟨Or.inr hb, fun c hc => ?_⟩
        have hmem : (isWord c || isBlank c) = true := reads_stretch.mp hv c hc
        simpa using hmem
      · simp
    have hend : ∀ c ∈ e.head?, isWord c = false := by
      rcases he with ⟨_, v, rfl, ⟨b, rfl, hb⟩, hv⟩ | rfl
      · simpa using isWord_of_isBlank hb
      · simp
    refine ⟨lex (a ++ u), lex e, ?_, fun c hc => ?_⟩
    · have htext : a ++ (u ++ "const".toList ++ e) = (a ++ u) ++ ("const".toList ++ e) := by simp
      rw [htext, lex_append_of_getLast hstart, lex_append_word isWord_const (by decide) hend]
      rfl
    · obtain ⟨hw, hb⟩ := isSign_of_mem_lex hc
      rcases hletters c (mem_of_sign_mem_lex hc) with h | h
      · rw [hw] at h; cases h
      · rw [hb] at h; cases h
  · rintro ⟨A, B, hlex, hB⟩
    obtain ⟨a, e, rfl, ha, -, -, he, hA, hE⟩ := lex_eq_append_word hlex
    have hletters : ∀ c ∈ e, (CharSet.word ∪ CharSet.blank).mem c = true := by
      intro c hc
      change (isWord c || isBlank c) = true
      cases hw : isWord c with
      | true => rfl
      | false =>
        cases hb : isBlank c with
        | true => rfl
        | false => exact absurd (hE ▸ sign_mem_lex hc hw hb) (hB c)
    have hopt : ∀ before rest, (fun before u rest =>
        (one .blank ++ stretch (.word ∪ .blank)).Reads before u rest ∨ u = []) before e rest := by
      intro before rest
      rcases head?_cases he with rfl | ⟨c, e, rfl, hc⟩
      · exact Or.inr rfl
      · refine Or.inl ⟨[c], e, rfl, ⟨c, rfl, hc.resolve_right fun h => hB c (hE ▸ h)⟩, ?_⟩
        exact reads_stretch.mpr fun d hd => hletters d (by simp [hd])
    rcases getLast?_cases ha with rfl | ⟨a, c, rfl, hc⟩
    · exact ⟨[], "const".toList ++ e, by simp, "const".toList, e, rfl,
        ⟨[], "const".toList, rfl, Or.inl ⟨rfl, rfl⟩, reads_text.mpr rfl⟩, hopt _ _⟩
    · refine ⟨a, c :: ("const".toList ++ e), by simp, c :: "const".toList, e, rfl,
        ⟨[c], "const".toList, rfl, Or.inr ?_, reads_text.mpr rfl⟩, hopt _ _⟩
      rcases hc with hc | hc
      · exact Or.inl ⟨c, rfl, hc⟩
      · exact Or.inr (reads_char.mpr (by rw [hsign c (by rw [hlex, ← hA]; simp [hc])]))

theorem occursIn_charPointer (hsign : ∀ c, .sign c ∈ lex x → c = '*')
    (hchain : x.IsChain fun a b => ¬StarTouches a b) :
    charPointer.occursIn (x ++ '*' :: y) = true ↔
      ∃ A B, lex x = A ++ .word "char".toList :: B ∧ (B = [] ∨ B = [constLexeme]) := by
  have hletters : ∀ c ∈ "char".toList, isWord c = true := by decide
  have hexact := ((((exact_of_isSimple (p := startOrBlank) rfl).append
    (exact_of_isSimple (p := text "const" ++ blanks1) rfl).opt).append
      (exact_of_isSimple (p := text "char") rfl)).append
        (exact_of_isSimple (p := blanks1 ++ text "const") rfl).opt).append
          (exact_of_isSimple (p := blanks) rfl)
  refine (occursIn_append_lastStar hline hy hexact).trans ?_
  constructor
  · rintro ⟨a, _, rfl, _, b, rfl, ⟨_, o, rfl, ⟨_, w, rfl, ⟨u, q, rfl, hu, hq⟩, hw⟩, ho⟩, hb⟩
    obtain rfl := reads_text.mp hw
    have hb := reads_blanks.mp hb
    have hstart : ∀ c ∈ (a ++ (u ++ q)).getLast?, isWord c = false := by
      rcases hq with ⟨_, v, rfl, -, hv⟩ | rfl
      · obtain ⟨hne, hv⟩ := reads_blanks1.mp hv
        intro c hc
        rw [← append_assoc, ← append_assoc, getLast?_append_of_ne_nil _ hne] at hc
        exact isWord_of_isBlank (hv c (mem_of_getLast? hc))
      · simpa using getLast?_startOrBlank hu
    have hbnil : lex b = [] := lex_eq_nil_iff.mpr hb
    have hbhead : ∀ c ∈ b.head?, isWord c = false :=
      fun c hc => isWord_of_isBlank (hb c (mem_of_mem_head? hc))
    have htext : a ++ (u ++ q ++ "char".toList ++ o ++ b) =
        (a ++ (u ++ q)) ++ ("char".toList ++ (o ++ b)) := by simp
    rw [htext, lex_append_of_getLast hstart]
    rcases ho with ⟨v, _, rfl, hv, hconst⟩ | rfl
    · obtain rfl := reads_text.mp hconst
      obtain ⟨hne, hv⟩ := reads_blanks1.mp hv
      refine ⟨lex (a ++ (u ++ q)), [constLexeme], ?_, Or.inr rfl⟩
      have hhead : ∀ c ∈ (v ++ "const".toList ++ b).head?, isWord c = false := by
        intro c hc
        rw [append_assoc, head?_append_of_ne_nil _ hne] at hc
        exact isWord_of_isBlank (hv c (mem_of_mem_head? hc))
      rw [lex_append_word hletters (by decide) hhead, append_assoc, lex_append_blanks hv,
        lex_append_word isWord_const (by decide) hbhead, hbnil]
      rfl
    · exact ⟨lex (a ++ (u ++ q)), [],
        by rw [nil_append, lex_append_word hletters (by decide) hbhead, hbnil], Or.inl rfl⟩
  · rintro ⟨A, B, hlex, hB⟩
    obtain ⟨a, e, rfl, ha, -, -, he, hA, hE⟩ := lex_eq_append_word hlex
    -- A star right in front of the word would touch it.
    have hstar : ∀ c ∈ a.getLast?, .sign c ∉ lex a := by
      intro c hc hmem
      obtain rfl : c = '*' := hsign c (by rw [hlex, ← hA]; simp [hmem])
      obtain ⟨a, rfl⟩ := getLast?_eq_some_iff.mp hc
      have htouch := isChain_of_isInfix hchain (k := ['*', 'c']) ⟨a, "har".toList ++ e, by simp⟩
      exact (isChain_cons_cons.mp htouch).1 ⟨rfl, by decide⟩
    obtain ⟨a, u, rfl, hu⟩ := exists_startOrBlank ha hstar ("char".toList ++ e ++ '*' :: y)
    rcases hB with rfl | rfl
    · refine ⟨a, u ++ ("char".toList ++ e), by simp, u ++ "char".toList, e, by simp,
        ⟨u ++ "char".toList, [], by simp, ⟨u, "char".toList, rfl, ⟨u, [], by simp, ?_, Or.inr rfl⟩,
          reads_text.mpr rfl⟩, Or.inr rfl⟩, reads_blanks.mpr (lex_eq_nil_iff.mp hE)⟩
      simpa using hu
    · obtain ⟨v, b, rfl, hv, -, -, -, hb⟩ := lex_eq_word_cons hE
      have hne : v ≠ [] := by
        rintro rfl
        exact absurd (he 'c' rfl) (by decide)
      refine ⟨a, u ++ ("char".toList ++ (v ++ ("const".toList ++ b))), by simp,
        u ++ "char".toList ++ (v ++ "const".toList), b, by simp,
        ⟨u ++ "char".toList, v ++ "const".toList, rfl, ⟨u, "char".toList, rfl,
          ⟨u, [], by simp, ?_, Or.inr rfl⟩, reads_text.mpr rfl⟩,
          Or.inl ⟨v, "const".toList, rfl, reads_blanks1.mpr ⟨hne, hv⟩, reads_text.mpr rfl⟩⟩,
        reads_blanks.mpr (lex_eq_nil_iff.mp hb)⟩
      simpa using hu

end

end MockGen.Header
