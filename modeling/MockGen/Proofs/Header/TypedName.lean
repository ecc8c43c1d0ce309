import MockGen.Proofs.Header.Plain
import MockGen.Proofs.Header.Stars

/-!
# Taking a plain declaration apart

Its name and its type depend on its lexemes only, whatever the white space between them.
-/

namespace MockGen.Header

open Text Pattern
open List hiding lex

variable {w name t : List Char}

/-! ## Words and runs of stars -/

theorem forall_isWord_or_star (hchars : ∀ c ∈ w, isWord c = true ∨ c = '*')
    (hchain : w.IsChain fun x y => ¬StarTouches x y ∧ ¬WordTouches x y) :
    (∀ c ∈ w, isWord c = true) ∨ ∀ c ∈ w, c = '*' := by
  induction w with
  | nil => exact Or.inl (by simp)
  | cons x w ih =>
    have hx := hchars x (by simp)
    cases w with
    | nil => simpa using hx
    | cons y w =>
      obtain ⟨⟨hstar, hword⟩, hrest⟩ := isChain_cons_cons.mp hchain
      rcases ih (fun c hc => hchars c (by simp [hc])) hrest with hall | hall
      · have hy : isWord y = true := hall y (by simp)
        refine Or.inl (forall_mem_cons.mpr ⟨?_, hall⟩)
        rcases hx with hx | rfl
        · exact hx
        · exact absurd ⟨rfl, hy⟩ hstar
      · have hy : y = '*' := hall y (by simp)
        refine Or.inr (forall_mem_cons.mpr ⟨?_, hall⟩)
        rcases hx with hx | rfl
        · exact absurd ⟨hx, hy⟩ hword
        · rfl

theorem lex_stars (h : ∀ c ∈ w, c = '*') : lex w = List.replicate w.length (.sign '*') := by
  induction w with
  | nil => rfl
  | cons c w ih =>
    obtain rfl := h c (by simp)
    rw [lex_sign rfl rfl, ih fun d hd => h d (by simp [hd])]
    rfl

theorem replicate_append_eq {α : Type} {x y : α} (hxy : x ≠ y) {k n : Nat} {A : List α}
    (h : List.replicate k x ++ A = List.replicate n x ++ [y]) :
    k ≤ n ∧ A = List.replicate (n - k) x ++ [y] := by
  induction k generalizing n with
  | zero => exact ⟨Nat.zero_le n, by simpa using h⟩
  | succ k ih =>
    cases n with
    | zero => exact absurd (by simpa using (List.cons.inj h).1) hxy
    | succ n =>
      obtain ⟨hle, hA⟩ := ih (List.cons.inj h).2
      exact ⟨by omega, by simpa using hA⟩

theorem exists_runs {L ws : List (List Char)} {n : Nat}
    (hL : ∀ w ∈ L, w ≠ [] ∧ ((∀ c ∈ w, isWord c = true) ∨ ∀ c ∈ w, c = '*'))
    (h : L.flatMap lex = ws.map .word ++ (List.replicate n (.sign '*') ++ [.word name])) :
    ∃ runs, L = ws ++ (runs ++ [name]) ∧ (∀ r ∈ runs, r ≠ [] ∧ ∀ c ∈ r, c = '*') ∧
      runs.flatten = List.replicate n '*' := by
  induction L generalizing ws n with
  | nil => simp at h
  | cons w L ih =>
    obtain ⟨hne, hw⟩ := hL w (by simp)
    have hrest : ∀ w ∈ L, w ≠ [] ∧ ((∀ c ∈ w, isWord c = true) ∨ ∀ c ∈ w, c = '*') :=
      fun v hv => hL v (by simp [hv])
    rw [flatMap_cons] at h
    rcases hw with hw | hw
    · rw [lex_letters hw hne, singleton_append] at h
      cases ws with
      | cons v ws =>
        obtain ⟨hv, hmore⟩ := List.cons.inj h
        obtain rfl := Lexeme.word.inj hv
        obtain ⟨runs, rfl, hruns⟩ := ih hrest hmore
        exact ⟨runs, rfl, hruns⟩
      | nil =>
        cases n with
        | succ n => simp [replicate_succ] at h
        | zero =>
          obtain ⟨rfl, hmore⟩ : w = name ∧ ∀ v ∈ L, lex v = [] := by simpa using h
          cases L with
          | nil => exact ⟨[], rfl, by simp, rfl⟩
          | cons v L =>
            -- No stretch is without lexemes.
            obtain ⟨hne, hv⟩ := hrest v (by simp)
            have hnil := hmore v (by simp)
            rcases hv with hv | hv
            · simp [lex_letters hv hne] at hnil
            · simp [lex_stars hv, hne] at hnil
    · have hlength : 0 < w.length := length_pos_iff.mpr hne
      rw [lex_stars hw] at h
      cases ws with
      | cons v ws =>
        obtain ⟨k, hk⟩ : ∃ k, w.length = k + 1 := ⟨w.length - 1, by omega⟩
        simp [hk, replicate_succ] at h
      | nil =>
        have hstart : List.replicate w.length (Lexeme.sign '*') ++ L.flatMap lex =
            List.replicate n (.sign '*') ++ [.word name] := h
        obtain ⟨hle, hmore⟩ := replicate_append_eq (by simp) hstart
        have hmore : L.flatMap lex = ([] : List (List Char)).map .word ++
            (List.replicate (n - w.length) (.sign '*') ++ [.word name]) := hmore
        obtain ⟨runs, rfl, hruns, hflat⟩ := ih hrest hmore
        refine ⟨w :: runs, rfl, forall_mem_cons.mpr ⟨⟨hne, hw⟩, hruns⟩, ?_⟩
        have hstars : w = List.replicate w.length '*' := eq_replicate_of_mem hw
        calc (w :: runs).flatten
            = w ++ List.replicate (n - w.length) '*' := by rw [flatten_cons, hflat]
          _ = List.replicate w.length '*' ++ List.replicate (n - w.length) '*' :=
              congrArg (· ++ List.replicate (n - w.length) '*') hstars
          _ = List.replicate n '*' := by
              rw [replicate_append_replicate, Nat.add_sub_cancel' hle]

theorem word_or_stars_of_mem_words (hsign : ∀ c, .sign c ∈ lex t → c = '*')
    (hw : w ∈ Text.words (separateStars t)) :
    w ≠ [] ∧ ((∀ c ∈ w, isWord c = true) ∨ ∀ c ∈ w, c = '*') := by
  obtain ⟨hne, hpart, hblank⟩ := mem_words hw
  refine ⟨hne, forall_isWord_or_star (fun c hc => ?_)
    (isChain_of_isInfix (isChain_separateStars t) hpart)⟩
  cases hword : isWord c with
  | true => exact Or.inl rfl
  | false =>
    have hmem : Lexeme.sign c ∈ lex (separateStars t) :=
      sign_mem_lex (hpart.subset hc) hword (hblank c hc)
    rw [lex_separateStars] at hmem
    exact Or.inr (hsign c hmem)

/-- The words of a declaration with its stars set apart: the words of the type, its stars in one or
more runs, and the name. -/
theorem words_separateStars {ws : List (List Char)} {n : Nat}
    (h : lex t = ws.map .word ++ (List.replicate n (.sign '*') ++ [.word name])) :
    ∃ runs, Text.words (separateStars t) = ws ++ (runs ++ [name]) ∧
      (∀ r ∈ runs, r ≠ [] ∧ ∀ c ∈ r, c = '*') ∧ runs.flatten = List.replicate n '*' := by
  have hlex : lex (separateStars t) =
      ws.map .word ++ (List.replicate n (.sign '*') ++ [.word name]) := by
    rw [lex_separateStars, h]
  refine exists_runs (fun w hw => word_or_stars_of_mem_words (fun c hc => ?_) hw)
    ((flatMap_lex_words _).trans hlex)
  rw [h] at hc
  simp only [mem_append, mem_map, mem_replicate, mem_singleton,
    reduceCtorEq, and_false, exists_false, false_or, or_false, Lexeme.sign.injEq] at hc
  exact hc.2

/-! ## Type and name -/

theorem draws_intercalate {ws runs : List (List Char)} (hne : ws ≠ [])
    (hws : ∀ w ∈ ws, w ≠ [] ∧ ∀ c ∈ w, isWord c = true)
    (hruns : ∀ r ∈ runs, r ≠ [] ∧ ∀ c ∈ r, c = '*') :
    Draws ([' '].intercalate (ws ++ runs)) ([' '].intercalate ws ++ runs.flatten) := by
  cases ws with
  | nil => exact absurd rfl hne
  | cons w ws =>
    obtain ⟨-, hw⟩ := hws w (by simp)
    have hrest : Draws (ws.flatMap (' ' :: ·) ++ runs.flatMap (' ' :: ·))
        (ws.flatMap (' ' :: ·) ++ runs.flatten) :=
      (draws_runs hruns).words fun v hv => hws v (by simp [hv])
    have hdraws := hrest.letters fun c hc => isBlank_of_isWord (hw c hc)
    simpa [intercalate_cons] using hdraws

theorem foldl_add {attributes conventions words : List String} {s : SortedWords}
    (h : ∀ w ∈ words, w ∉ attributes ∧ w ∉ conventions) :
    words.foldl (SortedWords.add attributes conventions) s =
      { s with types := s.types ++ words } := by
  induction words generalizing s with
  | nil => simp
  | cons w words ih =>
    obtain ⟨hattribute, hconvention⟩ := h w (by simp)
    rw [foldl_cons, ih fun v hv => h v (by simp [hv])]
    simp [SortedWords.add, hattribute, hconvention]

theorem isConstantPointer_eq_false (h : .word "const".toList ∉ lex t) :
    isConstantPointer t = false := by
  refine Absent.occursIn_eq_false ?_
  rintro x _ y rfl ⟨_, e, rfl, ⟨_, v, rfl, ⟨s, b, rfl, hs, hb⟩, hv⟩, he⟩
  obtain rfl : s = ['*'] := by
    obtain ⟨_, _, rfl, hstar, rfl, -⟩ := hs
    rw [reads_char.mp hstar, append_nil]
  obtain rfl := reads_text.mp hv
  have hb := reads_blanks.mp hb
  refine h ?_
  have hmem := word_mem_lex (x := x ++ (['*'] ++ b)) (w := "const".toList) (y := e ++ y)
    ?_ (by decide) (by decide) ?_
  · simpa using hmem
  · intro c hc
    have hc : c ∈ ['*'] ++ b := by
      rw [getLast?_append_of_ne_nil _ (by simp)] at hc
      exact mem_of_getLast? hc
    rcases mem_append.mp hc with hc | hc
    · rw [mem_singleton.mp hc]
      rfl
    · exact isWord_of_isBlank (hb c hc)
  · intro c hc
    rcases he with ⟨d, rfl, hd⟩ | ⟨rfl, hend⟩
    · obtain rfl : d = c := by simpa using hc
      exact isWord_of_isBlank hd
    · simp only [Anchor.holds, Bool.or_eq_true, List.isEmpty_iff, beq_iff_eq] at hend
      rcases hend with rfl | rfl
      · simp at hc
      · obtain rfl : '\n' = c := by simpa using hc
        rfl

/-- Rules whose attributes and calling conventions are reserved words. -/
def Rules.ReservesWords (r : Rules) : Prop :=
  ∀ a, a ∈ r.attributes ∨ a ∈ r.callingConventions → a ∈ reservedWords

theorem reservedWords_head {a : String} (h : a ∈ reservedWords) :
    ∃ c rest, a.toList = c :: rest ∧ isWord c = true := by
  have hall : (reservedWords.all fun a => a.toList.head?.any isWord) = true := by decide
  have ha := all_eq_true.mp hall a h
  cases hletters : a.toList with
  | nil => simp [hletters] at ha
  | cons c rest => exact ⟨c, rest, rfl, by simpa [hletters] using ha⟩

theorem typeAndName_of_lex {r : Rules} (hr : r.ReservesWords) (d : PlainDeclarator)
    (hlex : lex t = d.lexemes) :
    typeAndName r t = .ok {
      isPtr := isPointer (separateStars t)
      isConst := isConstant (separateStars t)
      isConstPtr := false
      name := d.name.text
      callingConvention := none
      modifier := ""
      type := d.type } := by
  have hsplit : lex t = (d.words.map fun w => w.text.toList).map .word ++
      (List.replicate d.stars (.sign '*') ++ [.word d.name.text.toList]) := by
    rw [hlex, PlainDeclarator.lexemes, map_map, append_assoc]
    rfl
  obtain ⟨runs, hwords, hruns, hflat⟩ := words_separateStars hsplit
  have hconst : isConstantPointer (separateStars t) = false := by
    refine isConstantPointer_eq_false fun hmem => ?_
    rw [lex_separateStars, hlex] at hmem
    exact (d.isOrdinary hmem).2.2 _ rfl (by decide)
  let types := d.words.map PlainWord.text ++ runs.map String.ofList
  have hnames : (Text.words (separateStars t)).map String.ofList = types ++ [d.name.text] := by
    rw [hwords]
    simp [types, Function.comp_def]
  have hordinary : ∀ w ∈ types, w ∉ reservedWords := by
    intro w hw
    rcases mem_append.mp hw with hw | hw
    · obtain ⟨v, -, rfl⟩ := mem_map.mp hw
      exact v.notReserved
    · obtain ⟨run, hrun, rfl⟩ := mem_map.mp hw
      obtain ⟨hne, hstars⟩ := hruns run hrun
      intro hreserved
      obtain ⟨c, rest, hletters, hc⟩ := reservedWords_head hreserved
      rw [String.toList_ofList] at hletters
      rw [hstars c (by simp [hletters])] at hc
      simp [isWord] at hc
  have hattributes : ∀ w ∈ types,
      w ∉ (if (separateStars t).contains '*' then r.attributes else "const" :: r.attributes) ∧
        w ∉ r.callingConventions := by
    refine fun w hw => ⟨fun hmem => hordinary w hw ?_,
      fun hmem => hordinary w hw (hr w (Or.inr hmem))⟩
    split at hmem
    · exact hr w (Or.inl hmem)
    · rcases mem_cons.mp hmem with rfl | hmem
      · decide
      · exact hr w (Or.inl hmem)
  have htype : String.ofList (blanksBeforeStar.replace "*" (" ".intercalate types).toList) =
      d.type := by
    have hlists : types.map String.toList = (d.words.map fun w => w.text.toList) ++ runs := by
      simp [types, Function.comp_def]
    have hletters : ∀ w ∈ d.words.map fun w => w.text.toList,
        w ≠ [] ∧ ∀ c ∈ w, isWord c = true := by
      intro w hw
      obtain ⟨v, -, rfl⟩ := mem_map.mp hw
      exact ⟨v.text_ne_nil, fun c hc => (v.isAscii hc).2⟩
    have hdraws := draws_intercalate (by simpa using d.hasWords) hletters hruns
    have hspaces : [' '].intercalate (d.words.map fun w => w.text.toList) =
        (" ".intercalate (d.words.map PlainWord.text)).toList := by
      rw [String.toList_intercalate, map_map]
      rfl
    rw [String.toList_intercalate, hlists]
    have hreplace : blanksBeforeStar.replace "*" (" ".toList.intercalate
        ((d.words.map fun w => w.text.toList) ++ runs)) = _ := hdraws.replace_eq
    rw [hreplace, hspaces, hflat, String.ofList_append, String.ofList_toList]
    rfl
  have hspaces : " ".intercalate ([] : List String) = "" := rfl
  rw [typeAndName]
  simp only [hnames, getLast?_concat, dropLast_concat, foldl_add hattributes, hconst,
    nil_append, htype, hspaces, Bool.false_eq_true, if_false]

end MockGen.Header
