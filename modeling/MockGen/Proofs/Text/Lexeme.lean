import MockGen.Text.Basic
import Mathlib.Data.List.Basic
import Mathlib.Data.List.TakeWhile
import Mathlib.Tactic.Cases

/-!
# Lexemes

A text seen as words and signs, with the white space between them left out.  What is kept between
two stretches of a text is the word that is open where they meet.
-/

namespace MockGen.Text

open List

variable {c : Char} {w u t y x : List Char}

/-! ## White space and words -/

theorem blankRanges_disjoint :
    (blankRanges.all fun b => wordRanges.all fun w => b.2 < w.1 || w.2 < b.1) = true := by
  decide +kernel

theorem isWord_of_isBlank (h : isBlank c = true) : isWord c = false := by
  by_cases hc : c.toNat < 128
  · simp only [isBlank, hc, if_true] at h
    simp only [isWord, hc, if_true]
    simp only [Bool.or_eq_true, Bool.and_eq_true, decide_eq_true_eq] at h
    simp only [Bool.or_eq_false_iff, Bool.and_eq_false_iff, decide_eq_false_iff_not,
      beq_eq_false_iff_ne]
    omega
  · simp only [isBlank, hc, if_false, inRanges, any_eq_true, Bool.and_eq_true,
      decide_eq_true_eq] at h
    obtain ⟨b, hb, hlow, hhigh⟩ := h
    simp only [isWord, hc, if_false, inRanges, any_eq_false, Bool.and_eq_true,
      decide_eq_true_eq]
    intro w hw
    have hapart := all_eq_true.mp (all_eq_true.mp blankRanges_disjoint b hb) w hw
    simp only [Bool.or_eq_true, decide_eq_true_eq] at hapart
    omega

theorem isBlank_of_isWord (h : isWord c = true) : isBlank c = false := by
  cases hb : isBlank c with
  | false => rfl
  | true => simp [isWord_of_isBlank hb] at h

/-! ## Lexemes -/

/-- A word, or a character that is neither a letter nor white space. -/
inductive Lexeme where
  | word (letters : List Char)
  | sign (c : Char)
  deriving Repr, DecidableEq

/-- The word that ends here, when `carry` holds its letters, last first. -/
def closeWord (carry : List Char) : List Lexeme :=
  if carry.isEmpty then [] else [.word carry.reverse]

@[simp] theorem closeWord_nil : closeWord [] = [] := rfl

@[simp] theorem closeWord_cons (c : Char) (carry : List Char) :
    closeWord (c :: carry) = [.word (c :: carry).reverse] := rfl

/-- The lexemes of a text when `carry` holds the letters of the open word, last first. -/
def lexFrom (carry : List Char) : List Char → List Lexeme
  | [] => closeWord carry
  | c :: rest =>
    if isWord c then lexFrom (c :: carry) rest
    else if isBlank c then closeWord carry ++ lexFrom [] rest
    else closeWord carry ++ .sign c :: lexFrom [] rest

def lex (t : List Char) : List Lexeme :=
  lexFrom [] t

/-- The open word at a place, last letter first, given what lies before the place. -/
def openWord (before : List Char) : List Char :=
  before.takeWhile isWord

@[simp] theorem lexFrom_nil (carry : List Char) : lexFrom carry [] = closeWord carry := rfl

@[simp] theorem lex_nil : lex [] = [] := rfl

theorem lexFrom_word (h : isWord c = true) (carry rest : List Char) :
    lexFrom carry (c :: rest) = lexFrom (c :: carry) rest := by
  simp [lexFrom, h]

theorem lexFrom_blank (h : isBlank c = true) (carry rest : List Char) :
    lexFrom carry (c :: rest) = closeWord carry ++ lex rest := by
  simp [lexFrom, lex, h, isWord_of_isBlank h]

theorem lexFrom_sign (hw : isWord c = false) (hb : isBlank c = false) (carry rest : List Char) :
    lexFrom carry (c :: rest) = closeWord carry ++ .sign c :: lex rest := by
  simp [lexFrom, lex, hw, hb]

theorem lex_blank (h : isBlank c = true) (rest : List Char) : lex (c :: rest) = lex rest :=
  lexFrom_blank h [] rest

theorem lex_sign (hw : isWord c = false) (hb : isBlank c = false) (rest : List Char) :
    lex (c :: rest) = .sign c :: lex rest :=
  lexFrom_sign hw hb [] rest

theorem lexFrom_of_not_isWord (h : isWord c = false) (carry rest : List Char) :
    lexFrom carry (c :: rest) = closeWord carry ++ lex (c :: rest) := by
  cases hb : isBlank c <;> simp [lexFrom, lex, h, hb]

theorem lexFrom_append_letters (h : ∀ c ∈ w, isWord c = true) (carry rest : List Char) :
    lexFrom carry (w ++ rest) = lexFrom (w.reverse ++ carry) rest := by
  induction w generalizing carry with
  | nil => rfl
  | cons c w ih =>
    rw [cons_append, lexFrom_word (h c (by simp)), ih fun d hd => h d (by simp [hd])]
    simp

theorem lex_append_blanks (h : ∀ c ∈ u, isBlank c = true) (rest : List Char) :
    lex (u ++ rest) = lex rest := by
  induction u with
  | nil => rfl
  | cons c u ih =>
    rw [cons_append, lex_blank (h c (by simp)), ih fun d hd => h d (by simp [hd])]

theorem lexFrom_append_blanks (hu : u ≠ []) (h : ∀ c ∈ u, isBlank c = true)
    (carry rest : List Char) : lexFrom carry (u ++ rest) = closeWord carry ++ lex rest := by
  cases u with
  | nil => exact absurd rfl hu
  | cons c u =>
    rw [cons_append, lexFrom_blank (h c (by simp)),
      lex_append_blanks fun d hd => h d (by simp [hd])]

theorem lex_eq_nil_iff : lex t = [] ↔ ∀ c ∈ t, isBlank c = true := by
  have key : ∀ carry, lexFrom carry t = [] ↔ carry = [] ∧ ∀ c ∈ t, isBlank c = true := by
    induction t with
    | nil => intro carry; cases carry <;> simp
    | cons c t ih =>
      intro carry
      cases hw : isWord c with
      | true =>
        rw [lexFrom_word hw, ih]
        simp only [cons_ne_nil, false_and, mem_cons, forall_eq_or_imp, false_iff, not_and]
        rintro - hb
        simp [isWord_of_isBlank hb] at hw
      | false =>
        cases hb : isBlank c with
        | true =>
          rw [lexFrom_blank hb, append_eq_nil_iff, lex, ih]
          cases carry <;> simp [hb]
        | false => simp [lexFrom_sign hw hb, hb]
  simpa [lex] using key []

theorem lexFrom_append (hy : ∀ c ∈ y.head?, isWord c = false) (carry x : List Char) :
    lexFrom carry (x ++ y) = lexFrom carry x ++ lex y := by
  induction x generalizing carry with
  | nil =>
    cases y with
    | nil => simp
    | cons c y => exact lexFrom_of_not_isWord (hy c rfl) carry y
  | cons c x ih =>
    rw [cons_append]
    cases hw : isWord c with
    | true => rw [lexFrom_word hw, lexFrom_word hw, ih]
    | false =>
      cases hb : isBlank c with
      | true => rw [lexFrom_blank hb, lexFrom_blank hb, lex, lex, ih, append_assoc]
      | false => rw [lexFrom_sign hw hb, lexFrom_sign hw hb, lex, lex, ih]; simp [lex]

theorem lex_append_sign (hw : isWord c = false) (hb : isBlank c = false) (x y : List Char) :
    lex (x ++ c :: y) = lex x ++ .sign c :: lex y := by
  rw [lex, lexFrom_append (by simp [hw]), lex_sign hw hb]
  rfl

theorem lex_append_blank (hb : isBlank c = true) (x y : List Char) :
    lex (x ++ c :: y) = lex x ++ lex y := by
  rw [lex, lexFrom_append (by simp [isWord_of_isBlank hb]), lex_blank hb]
  rfl

theorem lex_append_of_getLast (hx : ∀ c ∈ x.getLast?, isWord c = false) (y : List Char) :
    lex (x ++ y) = lex x ++ lex y := by
  rcases eq_nil_or_concat x with rfl | ⟨x, c, rfl⟩
  · rfl
  · have hw : isWord c = false := hx c (by simp)
    rw [concat_eq_append, append_assoc, singleton_append]
    cases hb : isBlank c with
    | true => rw [lex_append_blank hb, lex_append_blank hb]; simp
    | false => rw [lex_append_sign hw hb, lex_append_sign hw hb]; simp

theorem lex_append_word (hw : ∀ c ∈ w, isWord c = true) (hne : w ≠ [])
    (hy : ∀ c ∈ y.head?, isWord c = false) : lex (w ++ y) = .word w :: lex y := by
  have hclose : closeWord w.reverse = [.word w] := by
    simp [closeWord, hne]
  have hlex : lexFrom [] w = closeWord w.reverse := by
    simpa using lexFrom_append_letters hw [] []
  rw [lex, lexFrom_append hy, hlex, hclose]
  rfl

theorem lex_letters (hw : ∀ c ∈ w, isWord c = true) (hne : w ≠ []) : lex w = [.word w] := by
  simpa using lex_append_word (y := []) hw hne (by simp)

theorem exists_lex_eq_word (h : isWord c = true) (t : List Char) :
    ∃ w more, lex (c :: t) = .word w :: more := by
  have key : ∀ carry, carry ≠ [] → ∃ w more, lexFrom carry t = .word w :: more := by
    induction t with
    | nil =>
      rintro (_ | ⟨c, carry⟩) hne
      · exact absurd rfl hne
      · exact ⟨_, [], rfl⟩
    | cons d t ih =>
      intro carry hne
      cases hw : isWord d with
      | true => rw [lexFrom_word hw]; exact ih _ (by simp)
      | false =>
        rw [lexFrom_of_not_isWord hw]
        cases carry with
        | nil => exact absurd rfl hne
        | cons c carry => exact ⟨_, _, rfl⟩
  rw [lex, lexFrom_word h]
  exact key _ (by simp)

theorem sign_mem_lex (hc : c ∈ t) (hw : isWord c = false) (hb : isBlank c = false) :
    Lexeme.sign c ∈ lex t := by
  obtain ⟨x, y, rfl⟩ := append_of_mem hc
  simp [lex_append_sign hw hb]

theorem word_mem_lex (hx : ∀ c ∈ x.getLast?, isWord c = false) (hw : ∀ c ∈ w, isWord c = true)
    (hne : w ≠ []) (hy : ∀ c ∈ y.head?, isWord c = false) :
    Lexeme.word w ∈ lex (x ++ (w ++ y)) := by
  rw [lex_append_of_getLast hx, lex_append_word hw hne hy]
  simp

/-! ## From lexemes back to the text -/

theorem sign_notMem_closeWord (c : Char) (carry : List Char) : .sign c ∉ closeWord carry := by
  cases carry <;> simp

theorem lexFrom_eq_append_sign {carry : List Char} {A B : List Lexeme}
    (h : lexFrom carry t = A ++ .sign c :: B) :
    ∃ x y, t = x ++ c :: y ∧ lexFrom carry x = A ∧ lex y = B := by
  -- The closed word has no sign, so it belongs to what stands in front.
  have inFront : ∀ {carry : List Char} {L A : List Lexeme},
      closeWord carry ++ L = A ++ .sign c :: B →
        ∃ A', A = closeWord carry ++ A' ∧ L = A' ++ .sign c :: B := by
    intro carry L A h
    rcases List.append_eq_append_iff.mp h with ⟨A', hA, hL⟩ | ⟨C, hC, hL⟩
    · exact ⟨A', hA, hL⟩
    · cases C with
      | nil => exact ⟨[], by simpa using hC.symm, by simpa using hL.symm⟩
      | cons l C =>
        obtain rfl : l = .sign c := by simpa using (List.cons.inj hL).1.symm
        exact absurd (hC ▸ by simp) (sign_notMem_closeWord c carry)
  induction t generalizing carry A with
  | nil =>
    exact absurd (show Lexeme.sign c ∈ closeWord carry by rw [← lexFrom_nil, h]; simp)
      (sign_notMem_closeWord c carry)
  | cons d t ih =>
    cases hw : isWord d with
    | true =>
      rw [lexFrom_word hw] at h
      obtain ⟨x, y, rfl, hx, hy⟩ := ih h
      exact ⟨d :: x, y, rfl, by rw [lexFrom_word hw, hx], hy⟩
    | false =>
      cases hb : isBlank d with
      | true =>
        rw [lexFrom_blank hb] at h
        obtain ⟨A', rfl, hL⟩ := inFront h
        obtain ⟨x, y, rfl, hx, hy⟩ := ih hL
        exact ⟨d :: x, y, rfl, by rw [lexFrom_blank hb, lex, hx], hy⟩
      | false =>
        rw [lexFrom_sign hw hb] at h
        obtain ⟨A', rfl, hL⟩ := inFront h
        cases A' with
        | nil =>
          obtain ⟨hd, hB⟩ := List.cons.inj hL
          obtain rfl : d = c := by simpa using hd
          exact ⟨[], t, rfl, by simp, hB⟩
        | cons l A' =>
          obtain ⟨rfl, hrest⟩ := List.cons.inj hL
          obtain ⟨x, y, rfl, hx, hy⟩ := ih hrest
          exact ⟨d :: x, y, rfl, by rw [lexFrom_sign hw hb, lex, hx], hy⟩

theorem lex_eq_append_sign {A B : List Lexeme} (h : lex t = A ++ .sign c :: B) :
    ∃ x y, t = x ++ c :: y ∧ lex x = A ∧ lex y = B :=
  lexFrom_eq_append_sign h

theorem mem_of_sign_mem_lex (h : .sign c ∈ lex t) : c ∈ t := by
  obtain ⟨A, B, hlex⟩ := append_of_mem h
  obtain ⟨x, y, rfl, -⟩ := lex_eq_append_sign hlex
  simp

theorem isSign_of_mem_lex (h : .sign c ∈ lex t) : isWord c = false ∧ isBlank c = false := by
  have key : ∀ (t carry : List Char), .sign c ∈ lexFrom carry t →
      isWord c = false ∧ isBlank c = false := by
    intro t
    induction t with
    | nil => exact fun carry h => absurd h (sign_notMem_closeWord c carry)
    | cons d t ih =>
      intro carry h
      cases hw : isWord d with
      | true => exact ih _ (by rwa [lexFrom_word hw] at h)
      | false =>
        cases hb : isBlank d with
        | true =>
          rw [lexFrom_blank hb, mem_append] at h
          exact ih [] (h.resolve_left (sign_notMem_closeWord c carry))
        | false =>
          rw [lexFrom_sign hw hb, mem_append, mem_cons] at h
          rcases h.resolve_left (sign_notMem_closeWord c carry) with hc | hc
          · obtain rfl : c = d := by simpa using hc
            exact ⟨hw, hb⟩
          · exact ih [] hc
  exact key t [] h

theorem lex_eq_word_cons {L : List Lexeme} (h : lex t = .word w :: L) :
    ∃ u y, t = u ++ (w ++ y) ∧ (∀ c ∈ u, isBlank c = true) ∧ (∀ c ∈ w, isWord c = true) ∧
      w ≠ [] ∧ (∀ c ∈ y.head?, isWord c = false) ∧ lex y = L := by
  have key : ∀ (t carry : List Char), carry ≠ [] → lexFrom carry t = .word w :: L →
      ∃ v y, w = carry.reverse ++ v ∧ t = v ++ y ∧ (∀ c ∈ v, isWord c = true) ∧
        (∀ c ∈ y.head?, isWord c = false) ∧ lex y = L := by
    intro t
    induction t with
    | nil =>
      rintro (_ | ⟨c, carry⟩) hne h
      · exact absurd rfl hne
      · obtain ⟨hw, rfl⟩ := List.cons.inj h
        exact ⟨[], [], by simpa using (Lexeme.word.inj hw).symm, rfl, by simp, by simp, rfl⟩
    | cons d t ih =>
      intro carry hne h
      cases hd : isWord d with
      | true =>
        rw [lexFrom_word hd] at h
        obtain ⟨v, y, hw, rfl, hv, hy, hL⟩ := ih _ (by simp) h
        exact ⟨d :: v, y, by simpa using hw, rfl, by simpa [hd] using hv, hy, hL⟩
      | false =>
        rw [lexFrom_of_not_isWord hd] at h
        cases carry with
        | nil => exact absurd rfl hne
        | cons c carry =>
          obtain ⟨hw, hL⟩ := List.cons.inj h
          exact ⟨[], d :: t, by simpa using (Lexeme.word.inj hw).symm, rfl, by simp,
            by simp [hd], hL⟩
  induction t with
  | nil => simp at h
  | cons d t ih =>
    cases hd : isWord d with
    | true =>
      rw [lex, lexFrom_word hd] at h
      obtain ⟨v, y, hw, rfl, hv, hy, hL⟩ := key t [d] (by simp) h
      obtain rfl : w = d :: v := by simpa using hw
      exact ⟨[], y, rfl, by simp, by simpa [hd] using hv, by simp, hy, hL⟩
    | false =>
      cases hb : isBlank d with
      | true =>
        rw [lex_blank hb] at h
        obtain ⟨u, y, rfl, hu, hrest⟩ := ih h
        exact ⟨d :: u, y, rfl, by simpa [hb] using hu, hrest⟩
      | false => simp [lex_sign hd hb] at h

theorem lex_eq_append_word {A B : List Lexeme} (h : lex t = A ++ .word w :: B) :
    ∃ x y, t = x ++ (w ++ y) ∧ (∀ c ∈ x.getLast?, isWord c = false) ∧
      (∀ c ∈ w, isWord c = true) ∧ w ≠ [] ∧ (∀ c ∈ y.head?, isWord c = false) ∧
      lex x = A ∧ lex y = B := by
  induction A generalizing t with
  | nil =>
    obtain ⟨u, y, rfl, hu, hw, hne, hy, hB⟩ := lex_eq_word_cons h
    exact ⟨u, y, rfl, fun c hc => isWord_of_isBlank (hu c (mem_of_getLast? hc)), hw, hne, hy,
      lex_eq_nil_iff.mpr hu, hB⟩
  | cons l A ih =>
    cases l with
    | word v =>
      obtain ⟨u, z, rfl, hu, hv, hvne, hz, hlex⟩ := lex_eq_word_cons h
      obtain ⟨x, y, rfl, hx, hw, hne, hy, hA, hB⟩ := ih hlex
      have hxne : x ≠ [] := by
        rintro rfl
        obtain ⟨c, w, rfl⟩ := exists_cons_of_ne_nil hne
        have := hz c rfl
        rw [hw c (by simp)] at this
        cases this
      refine ⟨u ++ (v ++ x), y, by simp, ?_, hw, hne, hy, ?_, hB⟩
      · rwa [getLast?_append_of_ne_nil _ (by simp [hxne]), getLast?_append_of_ne_nil _ hxne]
      · rw [head?_append_of_ne_nil _ hxne] at hz
        rw [lex_append_blanks hu, lex_append_word hv hvne hz, hA]
    | sign d =>
      obtain ⟨hd, hb⟩ := isSign_of_mem_lex (t := t) (c := d) (by simp [h])
      obtain ⟨u, z, rfl, hu, hlex⟩ := lex_eq_append_sign (A := []) h
      obtain ⟨x, y, rfl, hx, hw, hne, hy, hA, hB⟩ := ih hlex
      refine ⟨u ++ d :: x, y, by simp, ?_, hw, hne, hy, ?_, hB⟩
      · rw [getLast?_append_of_ne_nil _ (cons_ne_nil d x)]
        cases x with
        | nil => simpa using hd
        | cons e x => simpa using hx
      · rw [lex_append_sign hd hb, hu, hA]
        rfl

/-! ## Trimming -/

theorem stripStart_append_blanks (h : ∀ c ∈ u, isBlank c = true) (t : List Char) :
    stripStart (u ++ t) = stripStart t :=
  dropWhile_append_of_pos h

theorem stripEnd_append_blanks (h : ∀ c ∈ u, isBlank c = true) (t : List Char) :
    stripEnd (t ++ u) = stripEnd t := by
  rw [stripEnd, stripEnd, reverse_append,
    dropWhile_append_of_pos fun c hc => h c (mem_reverse.mp hc)]

theorem stripStart_cons (h : isBlank c = false) (t : List Char) : stripStart (c :: t) = c :: t := by
  simp [stripStart, h]

theorem stripEnd_concat (h : isBlank c = false) (t : List Char) :
    stripEnd (t ++ [c]) = t ++ [c] := by
  simp [stripEnd, h]

theorem exists_strip_eq (t : List Char) :
    ∃ u v, t = u ++ (strip t ++ v) ∧ (∀ c ∈ u, isBlank c = true) ∧ ∀ c ∈ v, isBlank c = true := by
  refine ⟨t.takeWhile isBlank, ((stripStart t).reverse.takeWhile isBlank).reverse, ?_, ?_, ?_⟩
  · rw [strip, stripEnd, ← reverse_append, takeWhile_append_dropWhile,
      reverse_reverse, stripStart, takeWhile_append_dropWhile]
  · exact fun c hc => mem_takeWhile_imp hc
  · exact fun c hc => mem_takeWhile_imp (mem_reverse.mp hc)

theorem strip_subset (h : c ∈ strip t) : c ∈ t := by
  obtain ⟨u, v, ht, -⟩ := exists_strip_eq t
  rw [ht]
  simp [h]

@[simp] theorem lex_strip (t : List Char) : lex (strip t) = lex t := by
  obtain ⟨u, v, ht, hu, hv⟩ := exists_strip_eq t
  have hhead : ∀ c ∈ v.head?, isWord c = false := fun c hc =>
    isWord_of_isBlank (hv c (mem_of_mem_head? hc))
  conv => rhs; rw [ht, lex_append_blanks hu, lex, lexFrom_append hhead, lex_eq_nil_iff.mpr hv]
  simp [lex]

theorem strip_eq_nil_of_lex (h : lex t = []) : strip t = [] := by
  rw [strip, ← append_nil t, stripStart_append_blanks (lex_eq_nil_iff.mp h)]
  rfl

theorem strip_append_cons (hc : isBlank c = false) (hy : ∀ d ∈ y, isBlank d = true)
    (x : List Char) : strip (x ++ c :: y) = stripStart x ++ [c] := by
  have hstart : stripStart (x ++ c :: y) = (stripStart x ++ [c]) ++ y := by
    rw [stripStart, stripStart, dropWhile_append]
    split
    · rename_i hx
      rw [isEmpty_iff.mp hx]
      simp [hc]
    · simp
  rw [strip, hstart, stripEnd_append_blanks hy, stripEnd_concat hc]

theorem strip_eq_of_lex (h : lex t = [.word w]) : strip t = w := by
  obtain ⟨u, y, rfl, hu, hw, hne, -, hy⟩ := lex_eq_word_cons h
  obtain ⟨v, c, rfl⟩ : ∃ v c, w = v ++ [c] := by
    rcases eq_nil_or_concat w with rfl | ⟨v, c, rfl⟩
    · exact absurd rfl hne
    · exact ⟨v, c, concat_eq_append⟩
  have hblank : ∀ d ∈ v ++ [c], isBlank d = false := fun d hd =>
    isBlank_of_isWord (hw d hd)
  rw [append_assoc, singleton_append, ← append_assoc,
    strip_append_cons (hblank c (by simp)) (lex_eq_nil_iff.mp hy), stripStart_append_blanks hu]
  cases v with
  | nil => rfl
  | cons d v => rw [stripStart_cons (hblank d (by simp))]

end MockGen.Text
