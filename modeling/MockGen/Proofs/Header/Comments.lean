import MockGen.Header.Comments
import MockGen.Proofs.Text.Words

/-!
# What removing comments leaves

Removing comments leaves a text without opening marks as it is.  Elsewhere it takes out line by line
and block by block what stands between other text, where no mark stands on a boundary.  Nothing is
added or moved, and what stays holds no mark of a line comment.
-/

namespace MockGen.Header

open List Text
open Bool hiding not_or

variable {t u v : List Char}

theorem head?_ne_of_apart {a b c : Char} (h : ¬[a, b] <:+: c :: t) :
    (c == a && t.head? == some b) = false := by
  rw [and_eq_false_imp, beq_iff_eq]
  rintro rfl
  rw [beq_eq_false_iff_ne]
  intro hhead
  obtain ⟨t, rfl⟩ := head?_eq_some_iff.mp hhead
  exact h ⟨[], t, rfl⟩

theorem apart_of_cons {part : List Char} {c : Char} (h : ¬part <:+: c :: t) : ¬part <:+: t :=
  fun hpart => h (hpart.trans (suffix_cons c t).isInfix)

section

variable {t : List Char}

theorem dropOpeners_eq_self (h : ¬['/', '/'] <:+: t) (star : Bool) :
    dropOpeners false star t = t := by
  induction t generalizing star with
  | nil => rfl
  | cons c t ih =>
    have hslash := head?_ne_of_apart h
    rw [dropOpeners, ih (apart_of_cons h)]
    cases hc : c == '/' <;> simp_all

theorem dropBlocks_eq_self (h : ¬['/', '*'] <:+: t) : dropBlocks false 0 t = t := by
  induction t with
  | nil => rfl
  | cons c t ih =>
    have hslash := head?_ne_of_apart h
    rw [dropBlocks, ih (apart_of_cons h)]
    simp [hslash]

theorem dropLineComments_eq_self (h : ¬['/', '/'] <:+: t) : dropLineComments false t = t := by
  induction t with
  | nil => rfl
  | cons c t ih =>
    have hslash := head?_ne_of_apart h
    rw [dropLineComments, ih (apart_of_cons h)]
    simp [hslash]

end

theorem removeComments_eq_self (hline : ¬['/', '/'] <:+: t) (hblock : ¬['/', '*'] <:+: t) :
    removeComments t = t := by
  rw [removeComments, dropOpeners_eq_self hline, dropBlocks_eq_self hblock,
    dropLineComments_eq_self hline]

/-! ## Comments between other text -/

def lastLine (t : List Char) : List Char :=
  (t.reverse.takeWhile (· != '\n')).reverse

theorem suffix_lastLine {l : List Char} (hl : l <:+ t) (hline : '\n' ∉ l) : l <:+ lastLine t := by
  obtain ⟨x, rfl⟩ := hl
  have hall : ∀ c ∈ l.reverse, (c != '\n') = true := by
    intro c hc
    rw [bne_iff_ne]
    rintro rfl
    exact hline (mem_reverse.mp hc)
  rw [lastLine, reverse_append, takeWhile_append_of_pos hall, reverse_append,
    reverse_reverse]
  exact suffix_append _ _

theorem exists_mark_of_lastLine (h : ['/', '/'] <:+: lastLine t) :
    ∃ x l, t = x ++ '/' :: '/' :: l ∧ '\n' ∉ l := by
  obtain ⟨x, l, hl⟩ := h
  have hline : '\n' ∉ lastLine t := by
    intro hmem
    simpa using mem_takeWhile_imp (mem_reverse.mp hmem)
  obtain ⟨y, hy⟩ : lastLine t <:+ t := by
    rw [← reverse_prefix, lastLine, reverse_reverse]
    exact List.takeWhile_prefix _
  refine ⟨y ++ x, l, ?_, fun hmem => hline ?_⟩
  · rw [← hy, ← hl]
    simp
  · rw [← hl]
    exact mem_append_right _ hmem

theorem dropLineComments_append (inside : Bool) (hinside : inside = true → '\n' ∈ u)
    (hu : ∀ l, l <:+ u → '\n' ∉ l → ¬['/', '/'] <:+: l)
    (hv : u.getLast? = some '/' → v.head? ≠ some '/') :
    dropLineComments inside (u ++ v) = dropLineComments inside u ++ dropLineComments false v := by
  induction u generalizing inside with
  | nil =>
    cases inside with
    | false => rfl
    | true => cases hinside rfl
  | cons c u ih =>
    have hu' : ∀ l, l <:+ u → '\n' ∉ l → ¬['/', '/'] <:+: l :=
      fun l hl => hu l (hl.trans (suffix_cons c u))
    have hv' : u.getLast? = some '/' → v.head? ≠ some '/' := by
      intro hlast
      refine hv ?_
      rw [getLast?_cons, hlast]
      rfl
    rw [cons_append, dropLineComments, dropLineComments]
    by_cases hskip : (inside && c != '\n') = true
    · rw [if_pos hskip, if_pos hskip]
      obtain ⟨hin, hc⟩ := (and_eq_true _ _).mp hskip
      refine ih true (fun _ => ?_) hu' hv'
      exact (mem_cons.mp (hinside hin)).resolve_left (bne_iff_ne.mp hc).symm
    · rw [if_neg hskip, if_neg hskip]
      by_cases hmark : (c == '/' && (u ++ v).head? == some '/') = true
      · -- The mark stands in `u`, and so does the end of its line.
        obtain ⟨hc, hhead⟩ := (and_eq_true _ _).mp hmark
        obtain rfl := beq_iff_eq.mp hc
        cases u with
        | nil => exact absurd (beq_iff_eq.mp hhead) (hv rfl)
        | cons d u =>
          have hline : '\n' ∈ d :: u := by
            by_contra hline
            obtain rfl : d = '/' := by simpa using hhead
            refine hu _ suffix_rfl ?_ ⟨[], u, rfl⟩
            simpa using hline
          rw [if_pos hmark, if_pos (by simpa using hhead)]
          exact ih true (fun _ => hline) hu' hv'
      · have hmark' : ¬(c == '/' && u.head? == some '/') = true := by
          intro h
          obtain ⟨hc, hhead⟩ := (and_eq_true _ _).mp h
          refine hmark ((and_eq_true _ _).mpr ⟨hc, ?_⟩)
          rw [head?_append, beq_iff_eq.mp hhead]
          rfl
        rw [if_neg hmark, if_neg hmark', cons_append]
        exact congrArg (c :: ·) (ih false nofun hu' hv')

theorem dropLineComments_inside (hu : '\n' ∉ u) (hv : ∀ c ∈ v.head?, c = '\n') :
    dropLineComments true (u ++ v) = dropLineComments false v := by
  induction u with
  | nil =>
    cases v with
    | nil => rfl
    | cons c v =>
      obtain rfl := hv c rfl
      rfl
  | cons c u ih =>
    rw [mem_cons, not_or] at hu
    rw [cons_append, dropLineComments, if_pos (by simpa using Ne.symm hu.1), ih hu.2]

theorem dropLineComments_mark (inside : Bool) (t : List Char) :
    dropLineComments inside ('/' :: '/' :: t) = dropLineComments true t := by
  cases inside <;> simp [dropLineComments]

theorem dropLineComments_note (hu : '\n' ∉ u) (hv : ∀ c ∈ v.head?, c = '\n') :
    dropLineComments false ('/' :: '/' :: (u ++ v)) = dropLineComments false v := by
  rw [dropLineComments_mark, dropLineComments_inside hu hv]

/-- A mark with no end of line behind it takes away what follows in its line. -/
theorem dropLineComments_append_of_mark {x l w : List Char} (hl : '\n' ∉ l) (hw : '\n' ∉ w)
    (hv : ∀ c ∈ v.head?, c = '\n') (inside : Bool) :
    dropLineComments inside (x ++ '/' :: '/' :: l ++ (w ++ v)) =
      dropLineComments inside (x ++ '/' :: '/' :: l) ++ dropLineComments false v := by
  induction x generalizing inside with
  | nil =>
    have hnil : dropLineComments true (l ++ []) = [] := dropLineComments_inside hl nofun
    have hline : '\n' ∉ l ++ w := fun h => (mem_append.mp h).elim hl hw
    rw [nil_append, cons_append, cons_append, dropLineComments_mark, dropLineComments_mark,
      ← append_assoc, dropLineComments_inside hline hv, ← append_nil l, hnil, nil_append]
  | cons c x ih =>
    have hhead : (x ++ '/' :: '/' :: l ++ (w ++ v)).head? = (x ++ '/' :: '/' :: l).head? := by
      cases x <;> rfl
    rw [cons_append, cons_append, dropLineComments, dropLineComments, hhead]
    split_ifs
    · exact ih true
    · exact ih true
    · exact congrArg (c :: ·) (ih false)

theorem head?_dropLineComments {inside : Bool} :
    ∀ c ∈ (dropLineComments inside t).head?, c = '\n' ∨ inside = false ∧ t.head? = some c := by
  induction t generalizing inside with
  | nil => nofun
  | cons d t ih =>
    intro c hc
    rw [dropLineComments] at hc
    split at hc
    · exact .inl ((ih c hc).resolve_right nofun)
    case isFalse hskip =>
      split at hc
      · exact .inl ((ih c hc).resolve_right nofun)
      · cases hc
        cases inside with
        | false => exact .inr ⟨rfl, rfl⟩
        | true => exact .inl (by simpa using hskip)

/-- What follows a slash that stays is the next character, which is no slash. -/
theorem infix_of_dropLineComments {a : Char} {inside : Bool}
    (h : [a, '/'] <:+: dropLineComments inside t) : a ≠ '/' ∧ [a, '/'] <:+: t := by
  induction t generalizing inside with
  | nil => simp [dropLineComments] at h
  | cons c t ih =>
    have ih {inside : Bool} (h : [a, '/'] <:+: dropLineComments inside t) :=
      (ih h).imp_right (·.trans (suffix_cons c t).isInfix)
    rw [dropLineComments] at h
    split_ifs at h with _ hmark
    · exact ih h
    · exact ih h
    · rcases infix_cons_iff.mp h with ⟨rest, hrest⟩ | h
      · obtain ⟨rfl, htail⟩ := List.cons.inj hrest
        have hhead : (dropLineComments false t).head? = some '/' := by
          rw [← htail]
          rfl
        obtain hline | ⟨-, hslash⟩ := head?_dropLineComments '/' hhead
        · exact absurd hline (by decide)
        · obtain ⟨t, rfl⟩ := head?_eq_some_iff.mp hslash
          exact ⟨fun ha => hmark (by simp [ha]), [], t, rfl⟩
      · exact ih h

theorem dropBlocks_append (hu : ¬['/', '*'] <:+: u)
    (hv : u.getLast? = some '/' → v.head? ≠ some '*') :
    dropBlocks false 0 (u ++ v) = u ++ dropBlocks false 0 v := by
  induction u with
  | nil => rfl
  | cons c u ih =>
    have hopen : (c == '/' && (u ++ v).head? == some '*') = false := by
      cases u with
      | nil =>
        rw [and_eq_false_imp]
        intro hc
        rw [beq_iff_eq.mp hc] at hv
        exact beq_eq_false_iff_ne.mpr (hv rfl)
      | cons d u => exact head?_ne_of_apart (t := d :: u) hu
    have hv' : u.getLast? = some '/' → v.head? ≠ some '*' := by
      intro hlast
      refine hv ?_
      rw [getLast?_cons, hlast]
      rfl
    rw [cons_append, dropBlocks, hopen]
    exact congrArg (c :: ·) (ih (apart_of_cons hu) hv')

theorem dropBlocks_inside (hu : ¬['*', '/'] <:+: u)
    (hv : u.getLast? = some '*' → v.head? ≠ some '/') :
    dropBlocks true 0 (u ++ v) = dropBlocks true 0 v := by
  induction u with
  | nil => rfl
  | cons c u ih =>
    have hclose : (c == '*' && (u ++ v).head? == some '/') = false := by
      cases u with
      | nil =>
        rw [and_eq_false_imp]
        intro hc
        rw [beq_iff_eq.mp hc] at hv
        exact beq_eq_false_iff_ne.mpr (hv rfl)
      | cons d u => exact head?_ne_of_apart (t := d :: u) hu
    have hv' : u.getLast? = some '*' → v.head? ≠ some '/' := by
      intro hlast
      refine hv ?_
      rw [getLast?_cons, hlast]
      rfl
    rw [cons_append, dropBlocks, hclose]
    exact ih (apart_of_cons hu) hv'

theorem dropBlocks_open (h : ['*', '/'] <:+: t) :
    dropBlocks false 0 ('/' :: '*' :: t) = dropBlocks true 0 t := by
  rw [dropBlocks]
  simp only [false_eq_true, if_false, head?_cons, drop_succ_cons, drop_zero,
    hasPart_iff.mpr h, beq_self_eq_true, Bool.and_self, if_true]
  rw [dropBlocks]

theorem dropBlocks_block (hu : ¬['*', '/'] <:+: u) (v : List Char) :
    dropBlocks false 0 ('/' :: '*' :: (u ++ '*' :: '/' :: v)) = dropBlocks false 0 v := by
  rw [dropBlocks_open ⟨u, v, by simp⟩, dropBlocks_inside hu (fun _ => by simp)]
  rfl

/-! ## What is left of a text -/

theorem dropOpeners_sublist (inside star : Bool) (t : List Char) :
    (dropOpeners inside star t).Sublist t := by
  induction t generalizing inside star with
  | nil => exact .slnil
  | cons c t ih =>
    rw [dropOpeners]
    split_ifs
    · exact (ih true false).cons c
    · exact (ih true false).cons c
    · exact (ih false (c == '*')).cons_cons c

theorem dropBlocks_sublist (inside : Bool) (skip : Nat) (t : List Char) :
    (dropBlocks inside skip t).Sublist t := by
  induction t generalizing inside skip with
  | nil => exact .slnil
  | cons c t ih =>
    cases skip with
    | succ skip => exact (ih inside skip).cons c
    | zero =>
      simp only [dropBlocks]
      split_ifs
      · exact (ih false 1).cons c
      · exact (ih true 0).cons c
      · exact (ih true 1).cons c
      · exact (ih false 0).cons_cons c

theorem dropLineComments_sublist (inside : Bool) (t : List Char) :
    (dropLineComments inside t).Sublist t := by
  induction t generalizing inside with
  | nil => exact .slnil
  | cons c t ih =>
    rw [dropLineComments]
    split_ifs
    · exact (ih true).cons c
    · exact (ih true).cons c
    · exact (ih false).cons_cons c

theorem removeComments_sublist (t : List Char) : (removeComments t).Sublist t :=
  (dropLineComments_sublist _ _).trans
    ((dropBlocks_sublist _ _ _).trans (dropOpeners_sublist _ _ t))

/-- The text holds a block comment with both its marks, which share no character. -/
def HasBlock (t : List Char) : Prop :=
  ∃ u body v, t = u ++ ['/', '*'] ++ body ++ ['*', '/'] ++ v

theorem hasBlock_cons {c : Char} : HasBlock (c :: t) ↔
    (c == '/' && t.head? == some '*' && hasPart ['*', '/'] (t.drop 1)) = true ∨
      HasBlock t := by
  constructor
  · rintro ⟨u, body, v, heq⟩
    cases u with
    | nil =>
      obtain ⟨rfl, rfl⟩ := List.cons.inj heq
      have hpart : hasPart ['*', '/'] (body ++ ['*', '/'] ++ v) = true :=
        hasPart_iff.mpr ⟨body, v, rfl⟩
      exact .inl (by simpa using hpart)
    | cons d u => exact .inr ⟨u, body, v, (List.cons.inj heq).2⟩
  · rintro (hopen | ⟨u, body, v, rfl⟩)
    · obtain ⟨hmark, hpart⟩ := (and_eq_true _ _).mp hopen
      obtain ⟨hc, hhead⟩ := (and_eq_true _ _).mp hmark
      obtain ⟨t, rfl⟩ := head?_eq_some_iff.mp (beq_iff_eq.mp hhead)
      obtain ⟨body, v, rfl⟩ := hasPart_iff.mp hpart
      exact ⟨[], body, v, by simp [beq_iff_eq.mp hc]⟩
    · exact ⟨c :: u, body, v, rfl⟩

theorem dropBlocks_eq_self_iff : dropBlocks false 0 t = t ↔ ¬HasBlock t := by
  induction t with
  | nil => simp [dropBlocks, HasBlock]
  | cons c t ih =>
    rw [hasBlock_cons, not_or, ← ih]
    simp only [dropBlocks, false_eq_true, if_false]
    split_ifs with hopen
    · refine iff_of_false (fun heq => ?_) (fun h => h.1 hopen)
      have hle := (dropBlocks_sublist true 1 t).length_le
      rw [heq, length_cons] at hle
      omega
    · rw [cons_inj_right]
      exact (and_iff_right hopen).symm

theorem removeComments_sublist_and_eq_self_iff (t : List Char) :
    (removeComments t).Sublist t ∧ ¬['/', '/'] <:+: removeComments t ∧
      (removeComments t = t ↔ ¬['/', '/'] <:+: t ∧ ¬HasBlock t) := by
  refine ⟨removeComments_sublist t, fun h => (infix_of_dropLineComments h).1 rfl, fun heq => ?_,
    fun h => ?_⟩
  · have hline : ¬['/', '/'] <:+: t := by
      rw [← heq]
      exact fun h => (infix_of_dropLineComments h).1 rfl
    refine ⟨hline, dropBlocks_eq_self_iff.mp ?_⟩
    -- Each pass only removes, so the second one keeps all that the third one leaves.
    refine (dropBlocks_sublist false 0 t).antisymm ?_
    rw [removeComments, dropOpeners_eq_self hline] at heq
    have hsub := dropLineComments_sublist false (dropBlocks false 0 t)
    rwa [heq] at hsub
  · rw [removeComments, dropOpeners_eq_self h.1, dropBlocks_eq_self_iff.mpr h.2,
      dropLineComments_eq_self h.1]

end MockGen.Header
