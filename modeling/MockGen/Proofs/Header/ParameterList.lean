import MockGen.Proofs.Header.TypedName

/-!
# Parameter lists of plain parameters

Cleaning such a list changes its white space only, no parameter is taken for one without a name, and
taking the list apart gives every type and name.
-/

namespace MockGen.Header

open Text Pattern PlainDeclarator
open List hiding lex

variable {ds : List PlainDeclarator} {t w list : List Char} {standards : List String}
  {items : List (List Char)} {r : Rules}

/-! ## The lexemes of a list -/

theorem PlainDeclarator.comma_notMem (d : PlainDeclarator) : .sign ',' ∉ d.lexemes := by
  simp [lexemes, PlainWord.lexeme]

theorem splitOn_listLexemes (hds : ds ≠ []) :
    (listLexemes ds).splitOn (.sign ',') = ds.map lexemes := by
  refine splitOn_intercalate _ ?_ (by simpa using hds)
  intro L hL
  obtain ⟨d, -, rfl⟩ := mem_map.mp hL
  exact d.comma_notMem

theorem PlainDeclarator.two_le_length (d : PlainDeclarator) : 2 ≤ d.lexemes.length := by
  have : 0 < d.words.length := length_pos_iff.mpr d.hasWords
  simp only [lexemes, length_append, length_map, length_replicate,
    length_singleton]
  omega

theorem two_le_length_listLexemes (hds : ds ≠ []) : 2 ≤ (listLexemes ds).length := by
  cases ds with
  | nil => exact absurd rfl hds
  | cons d ds =>
    have := d.two_le_length
    rw [listLexemes, map_cons, intercalate_cons, length_append]
    omega

theorem mem_of_lex_inner (h : ∀ l ∈ lex t, IsInner l) {c : Char} (hc : c ∈ t) :
    isWord c = true ∨ isBlank c = true ∨ c = '*' ∨ c = ',' := by
  cases hw : isWord c with
  | true => exact Or.inl rfl
  | false =>
    cases hb : isBlank c with
    | true => exact Or.inr (Or.inl rfl)
    | false =>
      rcases h _ (sign_mem_lex hc hw hb) with h | h | h
      · simp [Lexeme.isWord] at h
      · exact Or.inr (Or.inr (Or.inl (Lexeme.sign.inj h)))
      · exact Or.inr (Or.inr (Or.inr (Lexeme.sign.inj h)))

/-! ## Names -/

theorem eq_of_lex_append_word (hchars : ∀ c ∈ w, isWord c = true ∨ c = '*')
    (hchain : w.IsChain fun x y => ¬StarTouches x y) {A : List Lexeme} {name : List Char}
    (hlex : lex w = A ++ [.word name]) : w = name := by
  have hstars : ∀ q : List Char, (∀ c ∈ q, isWord c = true ∨ c = '*') →
      ('*' :: q).IsChain (fun x y => ¬StarTouches x y) → ∀ c ∈ q, c = '*' := by
    intro q
    induction q with
    | nil => simp
    | cons x q ih =>
      intro hq hchain
      obtain ⟨hx, hrest⟩ := isChain_cons_cons.mp hchain
      have hstar : x = '*' := (hq x (by simp)).resolve_left fun hword => hx ⟨rfl, hword⟩
      subst hstar
      exact forall_mem_cons.mpr ⟨rfl, ih (fun c hc => hq c (by simp [hc])) hrest⟩
  have hletters : ∀ c ∈ w, isWord c = true := by
    intro c hc
    refine (hchars c hc).resolve_right ?_
    rintro rfl
    obtain ⟨p, q, rfl⟩ := append_of_mem hc
    have hq := hstars q (fun c hc => hchars c (by simp [hc]))
      (isChain_of_isInfix hchain ⟨p, [], by simp⟩)
    rw [lex_append_sign rfl rfl, lex_stars hq, ← replicate_succ,
      replicate_succ'] at hlex
    have := congrArg List.getLast? hlex
    simp [← append_assoc] at this
  have hne : w ≠ [] := by
    rintro rfl
    simp at hlex
  rw [lex_letters hletters hne] at hlex
  cases A with
  | nil => simpa using hlex
  | cons l A => simp at hlex

theorem typeWords_lex (h : String.ofList w ∈ typeWords) :
    ∃ v, .word v ∈ lex w ∧ String.ofList v ∈ reservedWords := by
  have hw : w ∈ typeWords.map String.toList := by
    refine mem_map.mpr ⟨_, h, ?_⟩
    rw [String.toList_ofList]
  simp only [typeWords, map_cons, map_nil, mem_cons, not_mem_nil,
    or_false] at hw
  rcases hw with rfl | rfl | rfl | rfl | rfl
  · exact ⟨"struct".toList, by decide, by decide⟩
  · exact ⟨"union".toList, by decide, by decide⟩
  · exact ⟨"enum".toList, by decide, by decide⟩
  · exact ⟨"const".toList, by decide, by decide⟩
  · exact ⟨"const".toList, by decide, by decide⟩

theorem exists_words_eq (d : PlainDeclarator) (hlex : lex t = d.lexemes)
    (hchain : t.IsChain fun x y => ¬StarTouches x y) :
    ∃ front, words t = front ++ [d.name.text.toList] ∧ front ≠ [] := by
  have hflat : (words t).flatMap lex =
      (d.words.map PlainWord.lexeme ++ List.replicate d.stars (.sign '*')) ++ [d.name.lexeme] :=
    (flatMap_lex_words t).trans hlex
  rcases eq_nil_or_concat (words t) with hnil | ⟨front, w, hwords⟩
  · simp [hnil] at hflat
  · rw [concat_eq_append] at hwords
    have hw : w ∈ words t := by simp [hwords]
    obtain ⟨hne, hpart, hblank⟩ := mem_words hw
    have hchars : ∀ c ∈ w, isWord c = true ∨ c = '*' := by
      intro c hc
      rcases mem_of_lex_inner (fun l hl => d.isInner (hlex ▸ hl)) (hpart.subset hc) with
        h | h | h | rfl
      · exact Or.inl h
      · simp [hblank c hc] at h
      · exact Or.inr h
      · exact absurd (hlex ▸ sign_mem_lex (hpart.subset hc) rfl rfl) d.comma_notMem
    rw [hwords, flatMap_append, flatMap_singleton] at hflat
    -- The last stretch has at least one lexeme, so it ends with the name.
    obtain ⟨A, hA⟩ : ∃ A, lex w = A ++ [d.name.lexeme] := by
      rcases List.append_eq_append_iff.mp hflat with ⟨B, -, hB⟩ | ⟨B, -, hB⟩
      · exact ⟨B, hB⟩
      · cases B with
        | nil => exact ⟨[], by simpa using hB.symm⟩
        | cons l B =>
          have hnil : lex w = [] := by
            have := (List.cons.inj hB).2
            simp at this
            exact this.2
          obtain ⟨c, hc⟩ := exists_mem_of_ne_nil w hne
          have := lex_eq_nil_iff.mp hnil c hc
          simp [hblank c hc] at this
    obtain rfl : w = d.name.text.toList :=
      eq_of_lex_append_word hchars (isChain_of_isInfix hchain hpart) hA
    refine ⟨front, hwords, ?_⟩
    rintro rfl
    rw [flatMap_nil, nil_append,
      lex_letters (fun c hc => (d.name.isAscii hc).2) d.name.text_ne_nil] at hflat
    have hlength : d.lexemes.length = 1 := by
      rw [lexemes, ← hflat]
      rfl
    have := d.two_le_length
    omega

theorem isUnnamed_eq_false (d : PlainDeclarator) (hlex : lex t = d.lexemes)
    (hchain : t.IsChain fun x y => ¬StarTouches x y) (hstandard : d.name.text ∉ standards) :
    isUnnamed standards t = false := by
  obtain ⟨front, hwords, hfront⟩ := exists_words_eq d hlex hchain
  have hnotType : ∀ w ∈ words t, String.ofList w ∉ typeWords := by
    intro w hw htype
    obtain ⟨v, hv, hreserved⟩ := typeWords_lex htype
    have hmem : .word v ∈ d.lexemes := by
      rw [← hlex, ← flatMap_lex_words]
      exact mem_flatMap.mpr ⟨w, hw, hv⟩
    exact (d.isOrdinary hmem).2.2 v rfl hreserved
  have hparts : ((words t).map String.ofList).filter (!typeWords.contains ·) =
      front.map String.ofList ++ [d.name.text] := by
    rw [List.filter_eq_self.mpr]
    · simp [hwords]
    · intro w hw
      obtain ⟨v, hv, rfl⟩ := mem_map.mp hw
      simpa using hnotType v hv
  have hlast : (d.name.text.toList.getLast? == some '*') = false := by
    rw [beq_eq_false_iff_ne]
    intro hstar
    have := (d.name.isAscii (mem_of_getLast? hstar)).2
    simp [isWord] at this
  have hlength : 0 < front.length := length_pos_iff.mpr hfront
  simp only [isUnnamed, hparts, getLast?_concat, length_append, length_map,
    length_singleton, hlast, Bool.or_false, Bool.or_eq_false_iff, decide_eq_false_iff_not]
  exact ⟨by omega, by simpa using hstandard⟩

theorem nameUnnamed_eq_self (h : ∀ item ∈ items, isUnnamed standards item = false)
    (position : Nat) : nameUnnamed standards position items = items := by
  induction items generalizing position with
  | nil => rfl
  | cons item items ih =>
    rw [nameUnnamed, h item (by simp), ih fun i hi => h i (by simp [hi])]
    rfl

/-! ## Cleaning -/

theorem cleanArguments_of_lex {s : Reading} (hds : ds ≠ []) (hlex : lex list = listLexemes ds)
    (hvoids : ∀ v ∈ s.voids, v = "void") (hstandards : ∀ d ∈ ds, d.name.text ∉ r.standards) :
    ∃ cleaned, cleanArguments r list s = (cleaned, s) ∧ lex cleaned = listLexemes ds := by
  have htwo := two_le_length_listLexemes hds
  have hvoid : s.voids.contains (String.ofList (Text.strip list)) = false := by
    rw [Bool.eq_false_iff]
    intro hmem
    have hstrip := hvoids _ (contains_iff_mem.mp hmem)
    have : Text.strip list = "void".toList := by rw [← hstrip, String.toList_ofList]
    have hone : lex list = [.word "void".toList] := by
      rw [← lex_strip, this]
      decide
    rw [← hlex, hone] at htwo
    simp at htwo
  have hempty : list.isEmpty = false := by
    rw [Bool.eq_false_iff]
    intro hnil
    rw [← hlex, isEmpty_iff.mp hnil] at htwo
    simp at htwo
  have hchars : ∀ {t : List Char}, lex t = listLexemes ds → ∀ c ∈ t, c ≠ '[' ∧ c ≠ '(' := by
    intro t ht c hc
    rcases mem_of_lex_inner (fun l hl => (mem_listLexemes (ht ▸ hl)).1) hc with h | h | rfl | rfl
    · constructor <;> rintro rfl <;> simp [isWord] at h
    · constructor <;> rintro rfl <;> simp [isBlank] at h
    · decide
    · decide
  have hbracketed : bracketed.Absent list :=
    absent_of_needs (q := (· == '[')) rfl fun c hc => by simp [(hchars hlex c hc).1]
  obtain ⟨spaced, hdef⟩ : ∃ spaced, spaced = starBeforeWord.replaceBy
      (fun m => '*' :: ' ' :: m.group 1) (blanksBeforeStar.replace "*" list) := ⟨_, rfl⟩
  have hspaced : lex spaced = listLexemes ds := by
    rw [hdef, lex_starBeforeWord, lex_blanksBeforeStar, hlex]
  have hpointer : pointerParameter.Absent spaced :=
    absent_of_needs (q := (· == '(')) rfl fun c hc => by simp [(hchars hspaced c hc).2]
  have hfunction : functionParameter.Absent spaced :=
    absent_of_needs (q := (· == '(')) rfl fun c hc => by simp [(hchars hspaced c hc).2]
  have hitems : (comma.split spaced).map lex = ds.map lexemes := by
    rw [← splitOn_listLexemes hds, ← hspaced]
    exact map_lex_split_around rfl rfl spaced
  have hnamed : ∀ item ∈ comma.split spaced, isUnnamed r.standards item = false := by
    intro item hitem
    have hmem : lex item ∈ ds.map lexemes := by
      rw [← hitems]
      exact mem_map_of_mem hitem
    obtain ⟨d, hd, hlexItem⟩ := mem_map.mp hmem
    refine isUnnamed_eq_false d hlexItem.symm ?_ (hstandards d hd)
    exact isChain_of_isInfix (hdef ▸ isChain_starBeforeWord _) (infix_of_mem_split hitem)
  refine ⟨withNames r spaced, ?_, ?_⟩
  · rw [cleanArguments, hvoid, hempty, hbracketed.replaceBy_eq]
    simp only [Bool.or_false, Bool.false_eq_true, if_false, ← hdef, hpointer.pieces_eq,
      hfunction.pieces_eq, declarePointers, append_nil]
  · rw [withNames, nameUnnamed_eq_self hnamed, lex_join rfl rfl, hitems]
    rfl

/-! ## Taking a list apart -/

/-- What a parameter is called and of which type it is. -/
def Argument.view (a : Argument) : String × String :=
  (a.type, a.name)

def PlainDeclarator.view (d : PlainDeclarator) : String × String :=
  (d.type, d.name.text)

theorem argument_of_lex (hr : r.ReservesWords) (harray : r.arrayTypes = some [])
    (d : PlainDeclarator) {item : List Char} (hlex : lex item = d.lexemes) :
    ∃ a, argument r item = .ok a ∧ Argument.view a = d.view := by
  have helement : ∀ type, elementType? r type = .ok none := fun type => by
    simp [elementType?, harray]
  refine ⟨{
    type := d.type
    name := d.name.text
    isPtr := isPointer (separateStars item)
    isConst := isConstant (separateStars item)
    isConstPtr := false }, ?_, rfl⟩
  rw [argument, typeAndName_of_lex hr d hlex]
  simp only [bind, Except.bind, helement]
  rfl

theorem argumentsOf_of_lex (hr : r.ReservesWords) (harray : r.arrayTypes = some [])
    (hlex : items.map lex = ds.map lexemes) :
    ∃ args, argumentsOf r items = .ok (args, true) ∧
      args.map Argument.view = ds.map view := by
  induction items generalizing ds with
  | nil =>
    obtain rfl : ds = [] := by simpa using hlex.symm
    exact ⟨[], rfl, rfl⟩
  | cons item items ih =>
    cases ds with
    | nil => simp at hlex
    | cons d ds =>
      obtain ⟨hitem, hrest⟩ := List.cons.inj hlex
      have hstrip : lex (Text.strip item) = d.lexemes := by rw [lex_strip, hitem]
      have hstop : (Text.strip item == "void".toList || Text.strip item == "...".toList) =
          false := by
        have htwo := d.two_le_length
        obtain ⟨w, more, hfirst⟩ := d.exists_lexemes_eq
        rw [Bool.or_eq_false_iff, beq_eq_false_iff_ne, beq_eq_false_iff_ne]
        constructor
        · intro h
          rw [← hstrip, h] at htwo
          exact absurd htwo (by decide)
        · intro h
          have hdots : lex "...".toList = [.sign '.', .sign '.', .sign '.'] := by decide
          rw [← hstrip, h, hdots] at hfirst
          simp at hfirst
      obtain ⟨a, ha, hview⟩ := argument_of_lex hr harray d hstrip
      obtain ⟨args, hargs, hviews⟩ := ih hrest
      refine ⟨a :: args, ?_, by rw [map_cons, hview, hviews]; rfl⟩
      rw [argumentsOf]
      simp only [hstop, Bool.false_eq_true, if_false, ha, hargs, bind, Except.bind]
      rfl

theorem markArrays_view {p : Pattern} (hp : readPattern r.arraySizeName = .ok p) (isSize : Bool)
    (args : List Argument) :
    ∃ marked, markArrays r isSize args = .ok marked ∧
      marked.map Argument.view = args.map Argument.view := by
  induction args generalizing isSize with
  | nil => exact ⟨[], rfl, rfl⟩
  | cons a args ih =>
    have marks : ∀ isData : Bool, ∃ marked, (do
        let more ← markArrays r isData args
        return { a with isArrayData := isData, isArraySize := isSize } :: more : Except Fault _) =
          .ok marked ∧ marked.map Argument.view = (a :: args).map Argument.view := by
      intro isData
      obtain ⟨marked, hmarked, hviews⟩ := ih isData
      refine ⟨{ a with isArrayData := isData, isArraySize := isSize } :: marked, ?_, ?_⟩
      · rw [hmarked]
        rfl
      · rw [map_cons, map_cons, hviews]
        rfl
    rw [markArrays]
    cases args.head? with
    | none => exact marks false
    | some next =>
      have hsize : isSizeParameter r next =
          .ok (p.occursIn next.name.toList && r.arraySizeTypes.contains next.type) := by
        rw [isSizeParameter, hp]
        rfl
      by_cases hptr : a.isPtr = true
      · simp only [if_pos hptr, hsize]
        exact marks _
      · simp only [if_neg hptr]
        exact marks false

theorem arguments_of_lex (hr : r.ReservesWords) (harray : r.arrayTypes = some []) {p : Pattern}
    (hp : readPattern r.arraySizeName = .ok p) (hds : ds ≠ []) (hlex : lex list = listLexemes ds) :
    ∃ args, arguments r list = .ok args ∧
      args.map Argument.view = ds.map view := by
  have hitems : (splitAt ',' list).map lex = ds.map lexemes := by
    rw [map_lex_splitAt rfl rfl, hlex, splitOn_listLexemes hds]
  obtain ⟨args, hargs, hviews⟩ := argumentsOf_of_lex hr harray hitems
  obtain ⟨marked, hmarked, hsame⟩ := markArrays_view hp false args
  refine ⟨marked, ?_, hsame.trans hviews⟩
  rw [arguments]
  simp only [hargs, bind, Except.bind, if_true]
  exact hmarked

end MockGen.Header
