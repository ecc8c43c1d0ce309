import MockGen.Proofs.Header.Spacing

/-!
# Stars and the words next to them

Setting stars apart puts a space between a word and a star, and drawing them near takes away the
white space in front of a star.
-/

namespace MockGen

open Text
open List hiding lex

variable {t : List Char}

namespace Text

/-- A space goes between neighbours `x` and `y` with `a x` and `b y`. -/
def setApart (a b : Char → Bool) : List Char → List Char
  | [] => []
  | [x] => [x]
  | x :: y :: rest =>
    if a x && b y then x :: ' ' :: setApart a b (y :: rest) else x :: setApart a b (y :: rest)

section

variable {a b : Char → Bool}

theorem setApart_pair {x y : Char} (hx : a x = true) (hy : b y = true) (rest : List Char) :
    setApart a b (x :: y :: rest) = x :: ' ' :: setApart a b (y :: rest) := by
  simp [setApart, hx, hy]

theorem setApart_cons_of_not {x : Char} {rest : List Char}
    (h : ∀ y ∈ rest.head?, ¬(a x = true ∧ b y = true)) :
    setApart a b (x :: rest) = x :: setApart a b rest := by
  cases rest with
  | nil => rfl
  | cons y rest =>
    have hxy : (a x && b y) = false := by
      simpa [Bool.and_eq_false_iff, not_and_or] using h y rfl
    simp [setApart, hxy]

theorem head?_setApart (t : List Char) : (setApart a b t).head? = t.head? := by
  match t with
  | [] => rfl
  | [x] => rfl
  | x :: y :: rest =>
    rw [setApart]
    split <;> rfl

theorem mem_setApart {c : Char} (h : c ∈ setApart a b t) : c ∈ t ∨ c = ' ' := by
  induction t with
  | nil => exact Or.inl h
  | cons x rest ih =>
    cases rest with
    | nil => exact Or.inl h
    | cons y rest =>
      have hrest : ∀ {u : List Char}, c ∈ x :: u → (c ∈ u → c ∈ y :: rest ∨ c = ' ') →
          c ∈ x :: y :: rest ∨ c = ' ' := by
        intro u hu htail
        rcases mem_cons.mp hu with rfl | hu
        · exact Or.inl (by simp)
        · exact (htail hu).imp_left (mem_cons_of_mem x)
      rw [setApart] at h
      split at h
      · refine hrest h fun hu => ?_
        rcases mem_cons.mp hu with rfl | hu
        · exact Or.inr rfl
        · exact ih hu
      · exact hrest h ih

theorem lex_setApart (hab : ∀ x y, a x = true → b y = true → isWord x = false ∨ isWord y = false)
    (t : List Char) : lex (setApart a b t) = lex t := by
  have key : ∀ (t carry : List Char), lexFrom carry (setApart a b t) = lexFrom carry t := by
    intro t
    induction t with
    | nil => exact fun _ => rfl
    | cons x rest ih =>
      intro carry
      have hcons : lexFrom carry (x :: setApart a b rest) = lexFrom carry (x :: rest) := by
        cases hx : isWord x with
        | true => rw [lexFrom_word hx, lexFrom_word hx, ih]
        | false =>
          cases hb : isBlank x with
          | true => rw [lexFrom_blank hb, lexFrom_blank hb, lex, ih, lex]
          | false => rw [lexFrom_sign hx hb, lexFrom_sign hx hb, lex, ih, lex]
      cases rest with
      | nil => rfl
      | cons y rest =>
        by_cases hxy : a x = true ∧ b y = true
        · have hspace : lexFrom carry (x :: ' ' :: setApart a b (y :: rest)) =
              lexFrom carry [x] ++ lex (setApart a b (y :: rest)) := by
            rw [← lex_blank (c := ' ') rfl]
            exact lexFrom_append (by simp [isWord_of_isBlank (c := ' ') rfl]) carry [x]
          rw [setApart_pair hxy.1 hxy.2, ← hcons, hspace]
          rcases hab x y hxy.1 hxy.2 with hx | hy
          · rw [lexFrom_of_not_isWord hx, lexFrom_of_not_isWord hx, append_assoc,
              ← lex_append_of_getLast (by simp [hx])]
            rfl
          · refine (lexFrom_append (fun c hc => ?_) carry [x]).symm
            rw [head?_setApart] at hc
            obtain rfl : y = c := by simpa using hc
            exact hy
        · rw [setApart_cons_of_not (by simpa using hxy)]
          exact hcons
  exact key t []

theorem isChain_setApart {R : Char → Char → Prop} (hleft : ∀ x, R x ' ') (hright : ∀ y, R ' ' y)
    (h : t.IsChain fun x y => R x y ∨ (a x = true ∧ b y = true)) : (setApart a b t).IsChain R := by
  induction t with
  | nil => exact List.IsChain.nil
  | cons x rest ih =>
    cases rest with
    | nil => exact List.IsChain.singleton x
    | cons y rest =>
      obtain ⟨hxy, hrest⟩ := isChain_cons_cons.mp h
      have hhead : (setApart a b (y :: rest)).head? = some y := head?_setApart _
      have hchain := ih hrest
      obtain ⟨more, hmore⟩ : ∃ more, setApart a b (y :: rest) = y :: more := by
        cases hset : setApart a b (y :: rest) with
        | nil => simp [hset] at hhead
        | cons z more => exact ⟨more, by simpa [hset] using hhead⟩
      by_cases hpair : a x = true ∧ b y = true
      · rw [setApart_pair hpair.1 hpair.2, hmore]
        rw [hmore] at hchain
        exact isChain_cons_cons.mpr ⟨hleft x, isChain_cons_cons.mpr ⟨hright y, hchain⟩⟩
      · rw [setApart_cons_of_not (by simpa using hpair), hmore]
        rw [hmore] at hchain
        exact isChain_cons_cons.mpr ⟨hxy.resolve_right hpair, hchain⟩

end

end Text

namespace Pattern

theorem rewrite_eq_setApart {p : Pattern} {f : Match → List Char} {a b : Char → Bool}
    (hp : p.Advances) (hab : ∀ y, b y = true → a y = false)
    (hreads : ∀ before u rest, p.Reads before u rest → ∃ x y, u = [x, y] ∧ a x = true ∧ b y = true)
    (hmatch : ∀ before x y rest pos, a x = true → b y = true → ∃ m,
      p.matchHere? false ⟨before, x :: y :: rest, pos⟩ = some m ∧
      m.last = ⟨y :: x :: before, rest, pos + 2⟩ ∧ f m = [x, ' ', y]) (c : Cursor) :
    p.rewrite f c = setApart a b c.rest := by
  induction c using scan_induction hp with
  | done before pos => exact rewrite_nil hp f before pos
  | hit c m u more hm hu hrest hread hlast hnext =>
    obtain ⟨x, y, rfl, hx, hy⟩ := hreads _ _ _ hread
    obtain ⟨before, _, pos⟩ := c
    obtain rfl : _ = x :: y :: more := hrest
    obtain ⟨m', hm', hlast', hf⟩ := hmatch before x y more pos hx hy
    obtain rfl : m = m' := Option.some.inj (hm.symm.trans hm')
    rw [rewrite_of_matchHere? hp f hm, hf, hnext, hlast', setApart_pair hx hy,
      setApart_cons_of_not (x := y) (by simp [hab y hy])]
    rfl
  | miss before x rest pos hm hnext =>
    have hnot : ∀ y ∈ rest.head?, ¬(a x = true ∧ b y = true) := by
      rintro y hy ⟨hx, hby⟩
      obtain ⟨more, rfl⟩ := head?_eq_some_iff.mp hy
      obtain ⟨m, hm', -⟩ := hmatch before x y more pos hx hby
      simp [hm] at hm'
    rw [rewrite_cons_of_none hp f hm, setApart_cons_of_not hnot, hnext]

end Pattern

namespace Header

open Pattern

variable {u : List Char}

theorem starAfterWord_replaceBy (t : List Char) :
    starAfterWord.replaceBy (fun m => m.group 1 ++ [' ', '*']) t =
      setApart isWord (· == '*') t := by
  have hp : starAfterWord.Advances := advances_of_needs rfl
  rw [replaceBy_eq_rewrite hp]
  refine rewrite_eq_setApart hp ?_ ?_ ?_ (Cursor.start t)
  · intro y hy
    rw [beq_iff_eq.mp hy]
    rfl
  · rintro before _ rest ⟨v, w, rfl, ⟨x, rfl, hx⟩, hw⟩
    exact ⟨x, '*', by rw [reads_char.mp hw]; rfl, hx, rfl⟩
  · intro before x y rest pos hx hy
    obtain rfl : y = '*' := beq_iff_eq.mp hy
    exact ⟨⟨⟨before, x :: '*' :: rest, pos⟩, ⟨'*' :: x :: before, rest, pos + 2⟩,
        [(1, ⟨before, x :: '*' :: rest, pos⟩, ⟨x :: before, '*' :: rest, pos + 1⟩)]⟩,
      by simp [matchHere?, starAfterWord, run_one (s := .word) hx, run_char], rfl,
      by simp [Match.group, Cursor.upTo]⟩

theorem starBeforeWord_replaceBy (t : List Char) :
    starBeforeWord.replaceBy (fun m => '*' :: ' ' :: m.group 1) t =
      setApart (· == '*') isWord t := by
  have hp : starBeforeWord.Advances := advances_of_needs rfl
  rw [replaceBy_eq_rewrite hp]
  refine rewrite_eq_setApart hp ?_ ?_ ?_ (Cursor.start t)
  · intro y hy
    rw [beq_eq_false_iff_ne]
    rintro rfl
    simp [isWord] at hy
  · rintro before _ rest ⟨v, w, rfl, hv, ⟨y, rfl, hy⟩⟩
    exact ⟨'*', y, by rw [reads_char.mp hv]; rfl, rfl, hy⟩
  · intro before x y rest pos hx hy
    obtain rfl : x = '*' := beq_iff_eq.mp hx
    exact ⟨⟨⟨before, '*' :: y :: rest, pos⟩, ⟨y :: '*' :: before, rest, pos + 2⟩,
        [(1, ⟨'*' :: before, y :: rest, pos + 1⟩, ⟨y :: '*' :: before, rest, pos + 2⟩)]⟩,
      by simp [matchHere?, starBeforeWord, run_one (s := .word) hy, run_char], rfl,
      by simp [Match.group, Cursor.upTo]⟩

def StarTouches (x y : Char) : Prop :=
  x = '*' ∧ isWord y = true

def WordTouches (x y : Char) : Prop :=
  isWord x = true ∧ y = '*'

theorem lex_starBeforeWord (t : List Char) :
    lex (starBeforeWord.replaceBy (fun m => '*' :: ' ' :: m.group 1) t) = lex t := by
  rw [starBeforeWord_replaceBy]
  refine lex_setApart (fun x y hx _ => ?_) t
  rw [beq_iff_eq.mp hx]
  exact Or.inl rfl

theorem isChain_starBeforeWord (t : List Char) :
    (starBeforeWord.replaceBy (fun m => '*' :: ' ' :: m.group 1) t).IsChain
      fun x y => ¬StarTouches x y := by
  rw [starBeforeWord_replaceBy]
  refine isChain_setApart (by simp [StarTouches, isWord]) (by simp [StarTouches]) ?_
  refine (pairwise_of_forall fun x y => ?_).isChain
  by_cases h : StarTouches x y
  · exact Or.inr ⟨beq_iff_eq.mpr h.1, h.2⟩
  · exact Or.inl h

theorem mem_separateStars {c : Char} (h : c ∈ separateStars t) : c ∈ t ∨ c = ' ' := by
  rw [separateStars, starBeforeWord_replaceBy, starAfterWord_replaceBy] at h
  rcases mem_setApart h with h | h
  · exact mem_setApart h
  · exact Or.inr h

theorem lex_separateStars (t : List Char) : lex (separateStars t) = lex t := by
  rw [separateStars, lex_starBeforeWord, starAfterWord_replaceBy]
  refine lex_setApart (fun x y _ hy => ?_) t
  rw [beq_iff_eq.mp hy]
  exact Or.inr rfl

theorem isChain_separateStars (t : List Char) :
    (separateStars t).IsChain fun x y => ¬StarTouches x y ∧ ¬WordTouches x y := by
  have hword : (setApart isWord (· == '*') t).IsChain fun x y => ¬WordTouches x y := by
    refine isChain_setApart (by simp [WordTouches]) (by simp [WordTouches, isWord]) ?_
    refine (pairwise_of_forall fun x y => ?_).isChain
    by_cases h : WordTouches x y
    · exact Or.inr ⟨h.1, beq_iff_eq.mpr h.2⟩
    · exact Or.inl h
  rw [separateStars, starBeforeWord_replaceBy, starAfterWord_replaceBy]
  refine isChain_setApart (by simp [StarTouches, WordTouches, isWord])
    (by simp [StarTouches, WordTouches, isWord]) (hword.imp fun x y hxy => ?_)
  by_cases h : StarTouches x y
  · exact Or.inr ⟨beq_iff_eq.mpr h.1, h.2⟩
  · exact Or.inl ⟨h, hxy⟩

/-! ## Drawing stars near -/

/-- Taking away the white space in front of stars turns `t` into `u`, wherever `t` stands. -/
def Draws (t u : List Char) : Prop :=
  ∀ before pos, blanksBeforeStar.rewrite (fun _ => ['*']) ⟨before, t, pos⟩ = u

theorem blanksBeforeStar_advances : blanksBeforeStar.Advances :=
  advances_of_needs rfl

theorem Draws.replace_eq (h : Draws t u) : blanksBeforeStar.replace "*" t = u := by
  rw [Pattern.replace, replaceBy_eq_rewrite blanksBeforeStar_advances]
  exact h [] 0

theorem draws_nil : Draws [] [] :=
  fun before pos => rewrite_nil blanksBeforeStar_advances _ before pos

theorem Draws.cons {x : Char} {t u : List Char} (h : Draws t u)
    (hx : isBlank x = true → ∀ y ∈ t.head?, y ≠ '*' ∧ isBlank y = false) :
    Draws (x :: t) (x :: u) := by
  intro before pos
  have hnone : blanksBeforeStar.matchHere? false ⟨before, x :: t, pos⟩ = none := by
    rw [Option.eq_none_iff_forall_ne_some]
    intro m hm
    obtain ⟨_, rest, hrest, ⟨v, _, rfl, hv, hstar⟩, -⟩ := matchHere?_sound hm
    obtain rfl := reads_char.mp hstar
    obtain ⟨hne, hv⟩ := reads_blanks1.mp hv
    cases v with
    | nil => exact hne rfl
    | cons b v =>
      obtain ⟨rfl, ht⟩ : x = b ∧ t = v ++ '*' :: rest := by simpa using hrest
      have hnext := hx (hv x (by simp))
      cases v with
      | nil => exact (hnext '*' (by simp [ht])).1 rfl
      | cons b v =>
        have := (hnext b (by simp [ht])).2
        simp [hv b (by simp)] at this
  rw [rewrite_cons_of_none blanksBeforeStar_advances _ hnone, h]

theorem Draws.space_star (h : Draws t u) : Draws (' ' :: '*' :: t) ('*' :: u) := by
  intro before pos
  have hmatch : blanksBeforeStar.matchHere? false ⟨before, ' ' :: '*' :: t, pos⟩ =
      some ⟨⟨before, ' ' :: '*' :: t, pos⟩, ⟨'*' :: ' ' :: before, t, pos + 2⟩, []⟩ := by
    have horder : spanOrder .blank 1 none true (' ' :: '*' :: t) = [1] := by
      have hlength : spanLength .blank (' ' :: '*' :: t) none = 1 := rfl
      rw [spanOrder, hlength]
      rfl
    rw [matchHere?, blanksBeforeStar, run_append, blanks1, stretch1, run_span, horder]
    simp [Cursor.skip, Cursor.past, run_char]
  rw [rewrite_of_matchHere? blanksBeforeStar_advances _ hmatch, h]
  rfl

theorem Draws.letters {w : List Char} (h : Draws t u) (hw : ∀ c ∈ w, isBlank c = false) :
    Draws (w ++ t) (w ++ u) := by
  induction w with
  | nil => exact h
  | cons c w ih =>
    have hc : isBlank c = false := hw c (by simp)
    exact (ih fun d hd => hw d (by simp [hd])).cons (by simp [hc])

theorem draws_runs {runs : List (List Char)}
    (hruns : ∀ r ∈ runs, r ≠ [] ∧ ∀ c ∈ r, c = '*') :
    Draws (runs.flatMap (' ' :: ·)) runs.flatten := by
  induction runs with
  | nil => exact draws_nil
  | cons r runs ih =>
    obtain ⟨hne, hstar⟩ := hruns r (by simp)
    have ih := ih fun r hr => hruns r (by simp [hr])
    cases r with
    | nil => exact absurd rfl hne
    | cons c r =>
      obtain rfl := hstar c (by simp)
      rw [flatMap_cons, flatten_cons]
      refine (ih.letters (w := r) fun d hd => ?_).space_star
      rw [hstar d (by simp [hd])]
      rfl

theorem Draws.words {ws : List (List Char)} (h : Draws t u)
    (hws : ∀ w ∈ ws, w ≠ [] ∧ ∀ c ∈ w, isWord c = true) :
    Draws (ws.flatMap (' ' :: ·) ++ t) (ws.flatMap (' ' :: ·) ++ u) := by
  induction ws with
  | nil => exact h
  | cons w ws ih =>
    obtain ⟨hne, hword⟩ := hws w (by simp)
    have ih := ih fun w hw => hws w (by simp [hw])
    simp only [flatMap_cons, cons_append, append_assoc]
    refine (ih.letters fun c hc => isBlank_of_isWord (hword c hc)).cons fun _ y hy => ?_
    cases w with
    | nil => exact absurd rfl hne
    | cons c w =>
      obtain rfl : c = y := by simpa using hy
      have hc := hword c (by simp)
      refine ⟨?_, isBlank_of_isWord hc⟩
      rintro rfl
      simp [isWord] at hc

end Header

end MockGen
