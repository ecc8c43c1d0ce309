import MockGen.Proofs.Pattern.Pieces
import MockGen.Proofs.Text.Words
import MockGen.Header.Parameter

/-!
# White space

Passes over a header that touch white space only: the lexemes of the text stay as they are.
-/

namespace MockGen

open Text Anchor
open List hiding lex

variable {c : Char} {u : List Char}

/-! ## The open word at a place -/

namespace Text

theorem openWord_cons_word (h : isWord c = true) (before : List Char) :
    openWord (c :: before) = c :: openWord before := by
  simp [openWord, h]

theorem openWord_cons_of_not (h : isWord c = false) (before : List Char) :
    openWord (c :: before) = [] := by
  simp [openWord, h]

theorem openWord_reverse_append (hne : u ≠ []) (hu : ∀ c ∈ u, isWord c = false)
    (before : List Char) : openWord (u.reverse ++ before) = [] := by
  rcases eq_nil_or_concat u with rfl | ⟨v, c, rfl⟩
  · exact absurd rfl hne
  · rw [concat_eq_append, reverse_append, reverse_singleton, append_assoc,
      singleton_append]
    exact openWord_cons_of_not (hu c (by simp)) _

theorem lexFrom_append_of_not_isWord (hne : u ≠ []) (hu : ∀ c ∈ u, isWord c = false)
    (carry y : List Char) : lexFrom carry (u ++ y) = closeWord carry ++ (lex u ++ lex y) := by
  rw [← lex_append_of_getLast fun c hc => hu c (mem_of_getLast? hc)]
  cases u with
  | nil => exact absurd rfl hne
  | cons c u => exact lexFrom_of_not_isWord (hu c (by simp)) carry _

end Text

namespace Pattern

variable {p : Pattern} {f : Match → List Char}

theorem lexFrom_rewrite (hp : p.Advances)
    (hit : ∀ (c : Cursor) (m : Match) (u y : List Char), p.matchHere? false c = some m →
      c.rest = u ++ y → u ≠ [] → p.Reads c.before u y → m.last = c.past u y →
      lexFrom (openWord m.last.before) (p.rewrite f m.last) = lexFrom (openWord m.last.before) y →
      lexFrom (openWord c.before) (f m ++ p.rewrite f m.last) =
        lexFrom (openWord c.before) (u ++ y))
    (c : Cursor) :
    lexFrom (openWord c.before) (p.rewrite f c) = lexFrom (openWord c.before) c.rest := by
  induction c using scan_induction hp with
  | done before pos => rw [rewrite_nil hp]
  | hit c m u y hm hu hrest hread hlast hnext =>
    rw [rewrite_of_matchHere? hp f hm, hrest]
    refine hit c m u y hm hrest hu hread hlast ?_
    rw [hnext, hlast, Cursor.past_rest]
  | miss before x rest pos hm hnext =>
    rw [rewrite_cons_of_none hp f hm]
    cases hx : isWord x with
    | true =>
      rw [lexFrom_word hx, lexFrom_word hx]
      rwa [openWord_cons_word hx] at hnext
    | false =>
      have hrest : lex (p.rewrite f ⟨x :: before, rest, pos + 1⟩) = lex rest := by
        rwa [openWord_cons_of_not hx] at hnext
      cases hb : isBlank x with
      | true => rw [lexFrom_blank hb, lexFrom_blank hb, hrest]
      | false => rw [lexFrom_sign hx hb, lexFrom_sign hx hb, hrest]

theorem lex_replace (hp : p.Advances) {new : String} (hne : new.toList ≠ [])
    (hnew : ∀ c ∈ new.toList, isWord c = false)
    (hread : ∀ before u y, p.Reads before u y → (∀ c ∈ u, isWord c = false) ∧
      lex u = lex new.toList) (t : List Char) : lex (p.replace new t) = lex t := by
  rw [replace, replaceBy_eq_rewrite hp]
  refine lexFrom_rewrite hp ?_ (Cursor.start t)
  intro c m u y hm hrest hu hr hlast hnext
  obtain ⟨hwords, hlex⟩ := hread _ _ _ hr
  have hopen : openWord m.last.before = [] := by
    rw [hlast]
    exact openWord_reverse_append hu hwords _
  have hnext : lex (p.rewrite (fun _ => new.toList) m.last) = lex y := by
    rwa [hopen] at hnext
  rw [lexFrom_append_of_not_isWord hne hnew, lexFrom_append_of_not_isWord hu hwords, hlex, hnext]

end Pattern

namespace Header

open Pattern

theorem lex_of_reads_around (hw : isWord c = false) (hb : isBlank c = false)
    {before y : List Char} (h : (blanks ++ char c ++ blanks).Reads before u y) :
    (∀ d ∈ u, isWord d = false) ∧ lex u = [.sign c] := by
  obtain ⟨_, v, rfl, ⟨u, _, rfl, hu, hc⟩, hv⟩ := h
  obtain rfl := reads_char.mp hc
  have hu := reads_blanks.mp hu
  have hv := reads_blanks.mp hv
  constructor
  · intro d hd
    simp only [mem_append, mem_singleton] at hd
    rcases hd with (hd | rfl) | hd
    · exact isWord_of_isBlank (hu d hd)
    · exact hw
    · exact isWord_of_isBlank (hv d hd)
  · rw [append_assoc, lex_append_blanks hu, singleton_append, lex_sign hw hb,
      lex_eq_nil_iff.mpr hv]

theorem lex_replace_around (hw : isWord c = false) (hb : isBlank c = false) (t : List Char) :
    lex ((blanks ++ char c ++ blanks).replace (String.ofList [c]) t) = lex t := by
  refine lex_replace (advances_of_needs rfl) (by simp) (by simp [hw]) ?_ t
  intro before u y hread
  obtain ⟨hwords, hlex⟩ := lex_of_reads_around hw hb hread
  refine ⟨hwords, ?_⟩
  rw [hlex, String.toList_ofList, lex_sign hw hb]
  rfl

theorem lex_aroundOpening (t : List Char) : lex (aroundOpening.replace "(" t) = lex t :=
  lex_replace_around rfl rfl t

theorem lex_aroundClosing (t : List Char) : lex (aroundClosing.replace ")" t) = lex t :=
  lex_replace_around rfl rfl t

theorem lex_blanks1 (t : List Char) : lex (blanks1.replace " " t) = lex t := by
  refine lex_replace (advances_stretch1 _) (by simp) (by decide) ?_ t
  intro before u y hread
  obtain ⟨-, hu⟩ := reads_blanks1.mp hread
  exact ⟨fun c hc => isWord_of_isBlank (hu c hc), lex_eq_nil_iff.mpr hu⟩

theorem lex_blanksBeforeStar (t : List Char) : lex (blanksBeforeStar.replace "*" t) = lex t := by
  refine lex_replace (advances_of_needs rfl) (by simp) (by decide) ?_ t
  rintro before _ y ⟨u, _, rfl, hu, hstar⟩
  obtain rfl := reads_char.mp hstar
  obtain ⟨-, hu⟩ := reads_blanks1.mp hu
  constructor
  · intro d hd
    rcases mem_append.mp hd with hd | hd
    · exact isWord_of_isBlank (hu d hd)
    · rw [mem_singleton.mp hd]
      rfl
  · rw [lex_append_blanks hu]
    rfl

theorem lex_lineLead (t : List Char) : lex (lineLead.remove t) = lex t := by
  have hp : lineLead.Advances := (advances_stretch1 _).seq_right
  rw [remove, replaceBy_eq_rewrite hp]
  refine lexFrom_rewrite hp ?_ (Cursor.start t)
  rintro c m u y hm hrest hne ⟨_, v, rfl, hstart, hv⟩ hlast hnext
  obtain ⟨rfl, hstart⟩ := reads_place.mp hstart
  obtain ⟨-, hv⟩ := reads_blanks1.mp hv
  have hopen : openWord c.before = [] := by
    cases hbefore : c.before with
    | nil => rfl
    | cons d before =>
      obtain rfl : d = '\n' := by simpa [holds, hbefore] using hstart
      exact openWord_cons_of_not rfl before
  have hopen' : openWord m.last.before = [] := by
    rw [hlast]
    exact openWord_reverse_append hne (fun d hd => isWord_of_isBlank (hv d (by simpa using hd))) _
  rw [hopen'] at hnext
  rw [hopen, nil_append, nil_append, hnext]
  exact (lex_append_blanks hv y).symm

/-- White space at the end of a line is removed up to the last end of line that it reaches, so
that nothing is removed right behind it. -/
theorem lineTail_longest {c : Cursor} {m : Match} (h : lineTail.matchHere? false c = some m) :
    lineTail.matchHere? false m.last = none := by
  have hrun : ∀ c : Cursor, lineTail.matchHere? false c =
      (spanOrder .blank 1 none true c.rest).findSome? fun i =>
        if lineEnd.holds (c.skip i) then some ⟨c, c.skip i, []⟩ else none := by
    intro c
    have hseq : lineTail.matchHere? false c =
        (span .blank 1 none true).run ⟨c, []⟩ fun q =>
          if lineEnd.holds q.cursor then some ⟨c, q.cursor, q.groups⟩ else none := rfl
    rw [hseq, run_span]
  rw [hrun] at h
  obtain ⟨i, -, hi, hm, hlater⟩ := exists_longest h
  obtain rfl : ⟨c, c.skip i, []⟩ = m := by
    split at hm
    · exact Option.some.inj hm
    · simp at hm
  rw [Option.eq_none_iff_forall_ne_some]
  intro m' hm'
  rw [hrun] at hm'
  obtain ⟨j, hleast, hj, hm', -⟩ := exists_longest hm'
  have hlength : i + j ≤ spanLength .blank c.rest none := by
    rw [spanLength_none] at hi hj ⊢
    have hsum := length_takeWhile_drop hi
    have hj : j ≤ ((c.rest.drop i).takeWhile CharSet.blank.mem).length := hj
    omega
  have hnone := hlater (i + j) (by omega) hlength
  rw [Cursor.skip_skip] at hm'
  split at hm'
  · rename_i hend
    simp [hend] at hnone
  · simp at hm'

theorem lex_lineTail (t : List Char) : lex (lineTail.remove t) = lex t := by
  have hp : lineTail.Advances := (advances_stretch1 _).seq_left
  rw [remove, replaceBy_eq_rewrite hp]
  refine lexFrom_rewrite hp ?_ (Cursor.start t)
  rintro c m u y hm hrest hne ⟨v, _, rfl, hv, hplace⟩ hlast hnext
  obtain ⟨rfl, hend⟩ := reads_place.mp hplace
  obtain ⟨-, hv⟩ := reads_blanks1.mp hv
  rw [append_nil] at hne hlast ⊢
  have hopen : openWord m.last.before = [] := by
    rw [hlast]
    exact openWord_reverse_append hne (fun d hd => isWord_of_isBlank (hv d hd)) _
  rw [hopen] at hnext
  rw [nil_append, lexFrom_append_blanks hne hv]
  have hstop := lineTail_longest hm
  cases y with
  | nil => rw [hlast, Cursor.past, rewrite_nil hp]; simp
  | cons d y =>
    obtain rfl : d = '\n' := by simpa [holds] using hend
    rw [hlast, Cursor.past] at hstop hnext ⊢
    rw [rewrite_cons_of_none hp _ hstop] at hnext ⊢
    rw [lexFrom_blank rfl] at hnext ⊢
    rw [← lex] at hnext
    rw [← hnext]
    rfl

theorem lex_tidy (t : List Char) : lex (tidy t) = lex t := by
  rw [tidy, lex_blanks1, lex_aroundClosing, lex_aroundOpening, lex_lineTail, lex_lineLead]

/-! ## Splitting at a sign -/

/-- The lexemes of pieces, when a word is open in front of the first one. -/
def lexPieces (carry : List Char) : List (List Char) → List (List Lexeme)
  | [] => []
  | piece :: rest => lexFrom carry piece :: rest.map lex

theorem lexPieces_nil (pieces : List (List Char)) : lexPieces [] pieces = pieces.map lex := by
  cases pieces <;> rfl

theorem map_lex_split_around (hw : isWord c = false) (hb : isBlank c = false) (t : List Char) :
    ((blanks ++ char c ++ blanks).split t).map lex = (lex t).splitOn (.sign c) := by
  have hp : (blanks ++ char c ++ blanks).Advances := advances_of_needs rfl
  have key : ∀ d : Cursor,
      lexPieces (openWord d.before) ((blanks ++ char c ++ blanks).between d) =
        (lexFrom (openWord d.before) d.rest).splitOn (.sign c) := by
    intro d
    induction d using scan_induction hp with
    | done before pos =>
      rw [between_nil hp, lexPieces, lexFrom_nil, ← append_nil (closeWord _),
        splitOn_append_of_notMem (sign_notMem_closeWord c _)]
      rfl
    | hit d m u y hm hne hrest hread hlast hnext =>
      obtain ⟨hwords, hlex⟩ := lex_of_reads_around hw hb hread
      have hopen : openWord m.last.before = [] := by
        rw [hlast]
        exact openWord_reverse_append hne hwords _
      have hnext : ((blanks ++ char c ++ blanks).between m.last).map lex =
          (lex y).splitOn (.sign c) := by
        rw [hopen, lexPieces_nil] at hnext
        rw [hnext, hlast]
        rfl
      rw [between_of_matchHere? hp hm, lexPieces, hnext, hrest,
        lexFrom_append_of_not_isWord hne hwords, hlex,
        splitOn_append_of_notMem (sign_notMem_closeWord c _), singleton_append,
        splitOn_cons_self]
      simp
    | miss before x rest pos hm hnext =>
      have hx : x ≠ c := by
        rintro rfl
        have hread : (blanks ++ char x ++ blanks).Reads before [x] rest :=
          ⟨[x], [], rfl, ⟨[], [x], rfl, by simp, by simp⟩, by simp⟩
        have := matchHere?_isSome (c := ⟨before, x :: rest, pos⟩) rfl rfl hread
        simp [hm] at this
      obtain ⟨u, more, hu, hbetween⟩ := between_cons_of_none hp hm
      rw [hu, lexPieces] at hnext
      rw [hbetween, lexPieces]
      cases hxw : isWord x with
      | true =>
        rw [lexFrom_word hxw, lexFrom_word hxw]
        rwa [openWord_cons_word hxw] at hnext
      | false =>
        have hstep : ∀ z, lexFrom (openWord before) (x :: z) =
            (closeWord (openWord before) ++ lex [x]) ++ lex z := fun z => by
          rw [append_assoc]
          exact lexFrom_append_of_not_isWord (cons_ne_nil x []) (by simp [hxw]) _ z
        have hnot : Lexeme.sign c ∉ closeWord (openWord before) ++ lex [x] := by
          intro hmem
          rcases mem_append.mp hmem with hmem | hmem
          · exact sign_notMem_closeWord c _ hmem
          · exact hx (mem_singleton.mp (mem_of_sign_mem_lex hmem)).symm
        have hnext : lex u :: more.map lex = (lex rest).splitOn (.sign c) := by
          rwa [openWord_cons_of_not hxw] at hnext
        rw [hstep, hstep, splitOn_append_of_notMem hnot, ← hnext]
        rfl
  rw [split_eq_between hp, ← lexPieces_nil]
  exact key (Cursor.start t)

end Header

end MockGen
