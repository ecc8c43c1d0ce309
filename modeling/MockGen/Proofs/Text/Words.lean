import MockGen.Proofs.Text.Lexeme
import Mathlib.Data.List.Chain

/-!
# Words and pieces

Words, pieces at a separator and joined pieces, as they show in the lexemes of a text.
-/

namespace MockGen.Text

open List

variable {t u w : List Char} {α : Type}

theorem hasPart_iff {part : List Char} : hasPart part t = true ↔ part <:+: t := by
  induction t with
  | nil => rw [hasPart, List.isEmpty_iff, List.infix_nil]
  | cons c t ih =>
    rw [hasPart, Bool.or_eq_true, List.isPrefixOf_iff_prefix, ih, infix_cons_iff]

/-- The characters of a text, from its bytes where each of these is one.  Long texts that were put
together are fast to evaluate this way. -/
def spelled (s : String) : List Char :=
  let bytes := s.toByteArray.data.toList
  let chars := bytes.map fun b => Char.ofNat b.toNat
  if chars.flatMap String.utf8EncodeChar = bytes then chars else s.toList

theorem spelled_eq (s : String) : spelled s = s.toList := by
  unfold spelled
  dsimp only
  split
  case isTrue hbytes =>
    rw [← String.ofList_inj, String.ofList_toList, ← String.toByteArray_inj,
      String.toByteArray_ofList]
    apply ByteArray.ext
    rw [List.utf8Encode, hbytes, data_toByteArray, Array.toArray_toList]
  case isFalse => rfl

/-! ## Stretches without white space -/

theorem wordsFrom_append_blank {b : Char} (hb : isBlank b = true) (carry x y : List Char) :
    wordsFrom carry (x ++ b :: y) = wordsFrom carry x ++ words y := by
  induction x generalizing carry with
  | nil => cases carry <;> simp [wordsFrom, words, hb]
  | cons c x ih =>
    rw [cons_append, wordsFrom, wordsFrom]
    split
    · split
      · exact ih []
      · rw [ih []]; rfl
    · exact ih _

theorem words_append_blank {b : Char} (hb : isBlank b = true) (x y : List Char) :
    words (x ++ b :: y) = words x ++ words y :=
  wordsFrom_append_blank hb [] x y

theorem words_blanks (h : ∀ c ∈ u, isBlank c = true) : words u = [] := by
  induction u with
  | nil => rfl
  | cons c u ih =>
    rw [← nil_append (c :: u), words_append_blank (h c (by simp)), ih fun d hd =>
      h d (by simp [hd])]
    rfl

theorem wordsFrom_letters (h : ∀ c ∈ w, isBlank c = false) (carry : List Char) :
    wordsFrom carry w = wordsFrom (w.reverse ++ carry) [] := by
  induction w generalizing carry with
  | nil => rfl
  | cons c w ih =>
    have hc : isBlank c = false := h c (by simp)
    have hstep : wordsFrom carry (c :: w) = wordsFrom (c :: carry) w := by
      simp [wordsFrom, hc]
    rw [hstep, ih fun d hd => h d (by simp [hd])]
    simp

theorem words_letters (hne : w ≠ []) (h : ∀ c ∈ w, isBlank c = false) : words w = [w] := by
  rw [words, wordsFrom_letters h]
  simp [wordsFrom, hne]

theorem words_blanks_append (hu : ∀ c ∈ u, isBlank c = true) (t : List Char) :
    words (u ++ t) = words t := by
  induction u with
  | nil => rfl
  | cons b u ih =>
    rw [cons_append, ← nil_append (b :: _), words_append_blank (hu b (by simp))]
    exact ih fun c hc => hu c (by simp [hc])

theorem words_append_blanks {v : List Char} (hv : ∀ c ∈ v, isBlank c = true) (t : List Char) :
    words (t ++ v) = words t := by
  cases v with
  | nil => rw [append_nil]
  | cons b v =>
    have hrest : words v = [] := words_blanks fun c hc => hv c (by simp [hc])
    rw [words_append_blank (hv b (by simp)), hrest, append_nil]

theorem words_strip (t : List Char) : words (strip t) = words t := by
  obtain ⟨u, v, ht, hu, hv⟩ := exists_strip_eq t
  conv => rhs; rw [ht, words_blanks_append hu, words_append_blanks hv]

theorem mem_words (h : w ∈ words t) : w ≠ [] ∧ w <:+: t ∧ ∀ c ∈ w, isBlank c = false := by
  have key : ∀ (t carry : List Char), (∀ c ∈ carry, isBlank c = false) → w ∈ wordsFrom carry t →
      w ≠ [] ∧ w <:+: carry.reverse ++ t ∧ ∀ c ∈ w, isBlank c = false := by
    intro t
    induction t with
    | nil =>
      intro carry hcarry h
      rw [wordsFrom] at h
      split at h
      · simp at h
      · rename_i hne
        obtain rfl : w = carry.reverse := by simpa using h
        exact ⟨by simpa using hne, by simp, fun c hc => hcarry c (mem_reverse.mp hc)⟩
    | cons c t ih =>
      intro carry hcarry h
      have later : w ∈ wordsFrom [] t → w ≠ [] ∧ w <:+: carry.reverse ++ c :: t ∧
          ∀ c ∈ w, isBlank c = false := by
        intro h
        obtain ⟨hne, hw, hblank⟩ := ih [] (by simp) h
        exact ⟨hne, hw.trans ⟨carry.reverse ++ [c], [], by simp⟩, hblank⟩
      rw [wordsFrom] at h
      split at h
      · split at h
        · exact later h
        · rename_i hne
          rcases mem_cons.mp h with rfl | h
          · exact ⟨by simpa using hne, ⟨[], c :: t, by simp⟩,
              fun c hc => hcarry c (mem_reverse.mp hc)⟩
          · exact later h
      · rename_i hc
        have := ih (c :: carry) (by simpa [hc] using hcarry) h
        simpa using this
  simpa using key t [] (by simp) h

theorem flatMap_lex_words (t : List Char) : (words t).flatMap lex = lex t := by
  have key : ∀ (t carry : List Char), (wordsFrom carry t).flatMap lex =
      lex (carry.reverse ++ t) := by
    intro t
    induction t with
    | nil => intro carry; cases carry <;> simp [wordsFrom]
    | cons c t ih =>
      intro carry
      rw [wordsFrom]
      split
      · rename_i hc
        rw [lex_append_blank hc]
        split
        · rename_i hcarry
          rw [ih [], List.isEmpty_iff.mp hcarry]
          simp
        · rw [flatMap_cons, ih []]
          simp
      · rw [ih (c :: carry)]
        simp
  exact key t []

theorem isChain_of_isInfix {R : α → α → Prop} {l k : List α} (h : l.IsChain R) (hpart : k <:+: l) :
    k.IsChain R :=
  List.IsChain.infix h hpart

/-! ## Different elements -/

theorem exists_distinct_cons [BEq α] (x : α) (xs : List α) :
    ∃ rest, distinct (x :: xs) = x :: rest := by
  have key : ∀ xs seen : List α, ∃ front,
      xs.foldl (fun seen x => if seen.contains x then seen else x :: seen) (seen ++ [x]) =
        front ++ [x] := by
    intro xs
    induction xs with
    | nil => exact fun seen => ⟨seen, rfl⟩
    | cons y xs ih =>
      intro seen
      rw [foldl_cons]
      split
      · exact ih seen
      · exact ih (y :: seen)
  obtain ⟨front, hfront⟩ := key xs []
  refine ⟨front.reverse, ?_⟩
  rw [distinct, foldl_cons]
  exact (congrArg List.reverse hfront).trans reverse_concat

theorem head_mem_distinct [BEq α] (x : α) (xs : List α) : x ∈ distinct (x :: xs) := by
  obtain ⟨rest, hrest⟩ := exists_distinct_cons x xs
  rw [hrest]
  exact mem_cons_self

theorem distinct_subset [BEq α] (xs : List α) : distinct xs ⊆ xs := by
  have key : ∀ (xs seen : List α),
      xs.foldl (fun seen x => if seen.contains x then seen else x :: seen) seen ⊆ xs ++ seen := by
    intro xs
    induction xs with
    | nil => exact fun seen => List.Subset.refl seen
    | cons y xs ih =>
      intro seen
      rw [foldl_cons]
      split
      · exact fun x hx => mem_cons_of_mem y (ih seen hx)
      · intro x hx
        have := ih (y :: seen) hx
        simp only [cons_append, mem_append, mem_cons] at this ⊢
        tauto
  intro x hx
  simpa using key xs [] (mem_reverse.mp hx)

theorem mem_distinct [BEq α] [LawfulBEq α] {x : α} {xs : List α} : x ∈ distinct xs ↔ x ∈ xs := by
  have key : ∀ (xs seen : List α),
      x ∈ xs.foldl (fun seen x => if seen.contains x then seen else x :: seen) seen ↔
        x ∈ xs ∨ x ∈ seen := by
    intro xs
    induction xs with
    | nil => simp
    | cons y xs ih =>
      intro seen
      rw [foldl_cons, ih]
      split
      · rename_i hy
        grind [contains_iff_mem]
      · grind
  rw [distinct, mem_reverse, key]
  simp

theorem nodup_distinct [BEq α] [LawfulBEq α] (xs : List α) : (distinct xs).Nodup := by
  have key : ∀ (xs seen : List α), seen.Nodup →
      (xs.foldl (fun seen x => if seen.contains x then seen else x :: seen) seen).Nodup := by
    intro xs
    induction xs with
    | nil => exact fun _ h => h
    | cons x xs ih =>
      intro seen h
      rw [foldl_cons]
      split
      case isTrue => exact ih _ h
      case isFalse hx =>
        rw [contains_iff_mem] at hx
        exact ih _ (nodup_cons.mpr ⟨hx, h⟩)
  exact ((reverse_perm _).nodup_iff).mpr (key xs [] nodup_nil)

theorem distinct_eq_self [BEq α] [LawfulBEq α] {xs : List α} (h : xs.Nodup) : distinct xs = xs := by
  have key : ∀ (xs seen : List α), xs.Nodup → (∀ x ∈ xs, x ∉ seen) →
      xs.foldl (fun seen x => if seen.contains x then seen else x :: seen) seen =
        xs.reverse ++ seen := by
    intro xs
    induction xs with
    | nil => intros; rfl
    | cons x xs ih =>
      intro seen hnodup hseen
      obtain ⟨hx, hnodup⟩ := nodup_cons.mp hnodup
      have hnew : seen.contains x = false := by
        rw [← Bool.not_eq_true, contains_iff_mem]
        exact hseen x (by simp)
      rw [foldl_cons, hnew, if_neg (by simp), ih _ hnodup]
      · simp
      · intro y hy hmem
        rcases mem_cons.mp hmem with rfl | hmem
        · exact hx hy
        · exact hseen y (by simp [hy]) hmem
  rw [distinct, key xs [] h (by simp)]
  simp

section

variable {α : Type} [BEq α]

theorem distinct_concat (xs : List α) (x : α) :
    distinct (xs ++ [x]) =
      if (distinct xs).any (x == ·) then distinct xs else distinct xs ++ [x] := by
  rw [distinct, foldl_append, distinct, any_reverse, ← contains_eq_any_beq]
  simp only [foldl_cons, foldl_nil]
  split
  · rfl
  · rw [reverse_cons]

theorem exists_of_mem_distinct {x : α} {xs : List α} (h : x ∈ xs) :
    x ∈ distinct xs ∨ ∃ d ∈ distinct xs, (x == d) = true := by
  induction xs using List.reverseRecOn with
  | nil => cases h
  | append_singleton xs y ih =>
    rw [distinct_concat]
    rcases mem_append.mp h with h | h
    · split
      · exact ih h
      · rcases ih h with hx | ⟨d, hd, hxd⟩
        · exact Or.inl (mem_append_left _ hx)
        · exact Or.inr ⟨d, mem_append_left _ hd, hxd⟩
    · rw [mem_singleton.mp h]
      split
      case isTrue hseen => exact Or.inr (any_eq_true.mp hseen)
      case isFalse => exact Or.inl (by simp)

theorem pairwise_distinct (xs : List α) :
    (distinct xs).Pairwise fun a b => (b == a) = false := by
  induction xs using List.reverseRecOn with
  | nil => exact List.Pairwise.nil
  | append_singleton xs y ih =>
    rw [distinct_concat]
    split
    case isTrue => exact ih
    case isFalse hnew =>
      refine pairwise_append.mpr ⟨ih, pairwise_singleton _ _, fun a ha b hb => ?_⟩
      rw [mem_singleton.mp hb]
      by_contra hsame
      exact hnew (any_eq_true.mpr ⟨a, ha, by simpa using hsame⟩)

theorem distinct_of_pairwise {xs : List α} (h : xs.Pairwise fun a b => (b == a) = false) :
    distinct xs = xs := by
  induction xs using List.reverseRecOn with
  | nil => rfl
  | append_singleton xs y ih =>
    obtain ⟨hfront, -, hlast⟩ := pairwise_append.mp h
    have hnew : xs.any (y == ·) = false := by
      rw [any_eq_false]
      intro a ha
      rw [hlast a ha y (by simp)]
      exact Bool.false_ne_true
    rw [distinct_concat, ih hfront, hnew, if_neg Bool.false_ne_true]

theorem distinct_append_eq {xs more : List α} (hxs : xs.Pairwise fun a b => (b == a) = false)
    (hmore : ∀ m ∈ more, ∃ x ∈ xs, (m == x) = true) : distinct (xs ++ more) = xs := by
  induction more using List.reverseRecOn with
  | nil => rw [append_nil, distinct_of_pairwise hxs]
  | append_singleton more m ih =>
    have hold : (xs.any (m == ·)) = true := any_eq_true.mpr (hmore m (by simp))
    rw [← append_assoc, distinct_concat, ih fun m hm => hmore m (by simp [hm]), hold,
      if_pos rfl]

end

/-! ## Pieces at a separator -/

theorem splitFrom_append_cons (sep : Char) (carry x y : List Char) :
    splitFrom sep carry (x ++ sep :: y) = splitFrom sep carry x ++ splitAt sep y := by
  induction x generalizing carry with
  | nil => simp [splitFrom, splitAt]
  | cons c x ih =>
    by_cases hc : c = sep
    · simp [splitFrom, hc, ih]
    · simp [splitFrom, hc, ih]

theorem splitAt_append_cons (sep : Char) (x y : List Char) :
    splitAt sep (x ++ sep :: y) = splitAt sep x ++ splitAt sep y :=
  splitFrom_append_cons sep [] x y

theorem splitAt_of_notMem {sep : Char} {x : List Char} (h : sep ∉ x) : splitAt sep x = [x] := by
  have key : ∀ (x carry : List Char), sep ∉ x →
      splitFrom sep carry x = [carry.reverse ++ x] := by
    intro x
    induction x with
    | nil => simp [splitFrom]
    | cons c x ih =>
      intro carry h
      obtain ⟨hc, hx⟩ := ne_and_not_mem_of_not_mem_cons h
      simp [splitFrom, hc.symm, ih _ hx]
  exact key x [] h

theorem splitOn_append_of_notMem [BEq α] [LawfulBEq α] {a : α} {P : List α} (h : a ∉ P)
    (L : List α) : (P ++ L).splitOn a = (L.splitOn a).modifyHead (P ++ ·) := by
  induction P with
  | nil => cases hL : L.splitOn a <;> simp [hL]
  | cons x P ih =>
    have hx : (x == a) = false := by
      simp only [beq_eq_false_iff_ne]
      rintro rfl
      exact h (by simp)
    have hP : (P ++ L).splitOn a = (L.splitOn a).modifyHead (P ++ ·) :=
      ih fun hmem => h (by simp [hmem])
    rw [splitOn_eq_splitOnP] at hP ⊢
    rw [cons_append, splitOnP_cons_eq_if_modifyHead, hx, hP]
    simp [modifyHead_modifyHead, Function.comp_def]

theorem splitOn_cons_self [BEq α] [LawfulBEq α] (a : α) (L : List α) :
    (a :: L).splitOn a = [] :: L.splitOn a := by
  rw [splitOn_eq_splitOnP, splitOn_eq_splitOnP, splitOnP_cons_eq_if_modifyHead]
  simp

theorem intercalate_cons (sep l : List α) (ls : List (List α)) :
    sep.intercalate (l :: ls) = l ++ ls.flatMap (sep ++ ·) := by
  induction ls generalizing l with
  | nil => simp
  | cons m ls ih => rw [intercalate_cons_cons, ih]; simp

theorem mem_or_mem_of_mem_intercalate {sep : List α} {ls : List (List α)} {a : α}
    (h : a ∈ sep.intercalate ls) : a ∈ sep ∨ ∃ l ∈ ls, a ∈ l := by
  cases ls with
  | nil => simp at h
  | cons l ls =>
    rw [intercalate_cons, mem_append, mem_flatMap] at h
    rcases h with h | ⟨m, hm, h⟩
    · exact Or.inr ⟨l, by simp, h⟩
    · rcases mem_append.mp h with h | h
      · exact Or.inl h
      · exact Or.inr ⟨m, by simp [hm], h⟩

section

variable {sep : Char} (hw : isWord sep = false) (hb : isBlank sep = false)

include hw hb

theorem splitOn_lex_append (x y : List Char) (hx : sep ∉ x) :
    (lex (x ++ sep :: y)).splitOn (.sign sep) = lex x :: (lex y).splitOn (.sign sep) := by
  have hx : ∀ l ∈ lex x, (l == Lexeme.sign sep) = false := fun l hl =>
    beq_eq_false_iff_ne.mpr fun hsep => hx (mem_of_sign_mem_lex (hsep ▸ hl))
  rw [lex_append_sign hw hb, splitOn_eq_splitOnP, splitOnP_append_cons _ _ (by simp),
    splitOnP_eq_singleton hx]
  rfl

omit hw hb in
theorem splitOn_lex_of_notMem (ht : sep ∉ t) : (lex t).splitOn (.sign sep) = [lex t] := by
  rw [splitOn_eq_splitOnP, splitOnP_eq_singleton]
  exact fun l hl => beq_eq_false_iff_ne.mpr fun hsep => ht (mem_of_sign_mem_lex (hsep ▸ hl))

theorem map_lex_splitAt (t : List Char) :
    (splitAt sep t).map lex = (lex t).splitOn (.sign sep) := by
  have key : ∀ (t carry : List Char), sep ∉ carry →
      (splitFrom sep carry t).map lex = (lex (carry.reverse ++ t)).splitOn (.sign sep) := by
    intro t
    induction t with
    | nil =>
      intro carry hcarry
      rw [append_nil, splitOn_lex_of_notMem (by simpa using hcarry)]
      rfl
    | cons c t ih =>
      intro carry hcarry
      rw [splitFrom]
      split
      · rename_i hc
        obtain rfl : c = sep := by simpa using hc
        rw [splitOn_lex_append hw hb _ _ (by simpa using hcarry), map_cons, ih [] (by simp)]
        simp
      · rename_i hc
        rw [ih (c :: carry) (by simp at hc; simp [hcarry, Ne.symm hc])]
        simp
  exact key t [] (by simp)

theorem lex_join (pieces : List (List Char)) :
    lex (join [sep, ' '] pieces) = [Lexeme.sign sep].intercalate (pieces.map lex) := by
  induction pieces with
  | nil => rfl
  | cons piece rest ih =>
    cases rest with
    | nil => simp [join]
    | cons next rest =>
      have hjoin : join [sep, ' '] (piece :: next :: rest) =
          piece ++ sep :: ' ' :: join [sep, ' '] (next :: rest) := by
        simp [join]
      rw [hjoin, lex_append_sign hw hb, lex_blank rfl, ih]
      simp [List.intercalate]

end

/-! ## Trailing copies of a character -/

theorem dropTrailing_concat_self (c : Char) (t : List Char) :
    dropTrailing c (t ++ [c]) = dropTrailing c t := by
  simp [dropTrailing]

theorem dropTrailing_eq_self {c : Char} (h : t.getLast? ≠ some c) : dropTrailing c t = t := by
  induction t using List.reverseRecOn with
  | nil => rfl
  | append_singleton t d =>
    have hd : d ≠ c := by simpa using h
    simp [dropTrailing, hd]

theorem exists_dropTrailing_append (c : Char) (t : List Char) :
    ∃ n, t = dropTrailing c t ++ List.replicate n c ∧
      (dropTrailing c t).getLast? ≠ some c := by
  induction t using List.reverseRecOn with
  | nil => exact ⟨0, rfl, nofun⟩
  | append_singleton t d ih =>
    by_cases hd : d = c
    · obtain ⟨n, heq, hlast⟩ := ih
      rw [hd, dropTrailing_concat_self]
      refine ⟨n + 1, ?_, hlast⟩
      rw [replicate_succ', ← append_assoc, ← heq]
    · have hlast : (t ++ [d]).getLast? ≠ some c := by simpa using hd
      rw [dropTrailing_eq_self hlast]
      exact ⟨0, (append_nil _).symm, hlast⟩

end MockGen.Text
