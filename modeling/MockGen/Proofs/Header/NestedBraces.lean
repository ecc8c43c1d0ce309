import MockGen.Proofs.Header.Bodies

/-!
# Flattening nested groups

A group with at most two levels of groups inside is emptied; of a deeper one only the groups inside
are dealt with.  So each outermost group of a balanced text is emptied just when its braces nest at
most three deep, and any deeper text keeps groups inside one another.
-/

namespace MockGen.Header

open List

/-- How deep the braces of a text nest, when `level` groups are open in front of it. -/
def nesting : (level : Nat) → List Char → Nat
  | level, [] => level
  | level, c :: rest =>
    if c = '\x7b' then nesting (level + 1) rest
    else if c = '\x7d' then max level (nesting (level - 1) rest)
    else nesting level rest

/-- The text with each outermost group emptied, when `level` groups are open in front of it. -/
def emptied : (level : Nat) → List Char → List Char
  | _, [] => []
  | 0, c :: rest =>
    if c = '\x7b' then '\x7b' :: ' ' :: '\x7d' :: emptied 1 rest else c :: emptied 0 rest
  | level + 1, c :: rest =>
    if c = '\x7b' then emptied (level + 2) rest
    else if c = '\x7d' then emptied level rest
    else emptied (level + 1) rest

theorem le_nesting (level : Nat) (t : List Char) : level ≤ nesting level t := by
  induction t generalizing level with
  | nil => exact Nat.le_refl _
  | cons c t ih =>
    rw [nesting]
    split
    · exact Nat.le_of_succ_le (ih (level + 1))
    · split
      · exact Nat.le_max_left _ _
      · exact ih level

theorem nesting_open (level : Nat) (t : List Char) :
    nesting level ('\x7b' :: t) = nesting (level + 1) t :=
  rfl

theorem nesting_close (level : Nat) (t : List Char) :
    nesting (level + 1) ('\x7d' :: t) = max (level + 1) (nesting level t) :=
  rfl

theorem nesting_cons {c : Char} (hopen : c ≠ '\x7b') (hclose : c ≠ '\x7d') (level : Nat)
    (t : List Char) : nesting level (c :: t) = nesting level t := by
  rw [nesting, if_neg hopen, if_neg hclose]

section

variable (limit level : Nat) (t : List Char)

theorem groupLength?_open : groupLength? limit level ('\x7b' :: t) =
    if level < limit then (groupLength? limit (level + 1) t).map (· + 1) else none := by
  cases level <;> rfl

theorem groupLength?_close : groupLength? limit (level + 1) ('\x7d' :: t) =
    (groupLength? limit level t).map (· + 1) :=
  rfl

theorem groupLength?_cons {c : Char} (hopen : c ≠ '\x7b') (hclose : c ≠ '\x7d') :
    groupLength? limit level (c :: t) = (groupLength? limit level t).map (· + 1) := by
  cases level <;> simp [groupLength?, hopen, hclose]

end

namespace Balanced

variable {x a : List Char}

theorem nesting_append (hx : Balanced x) (level : Nat) (y : List Char) :
    nesting level (x ++ y) = max (level + nesting 0 x) (nesting level y) := by
  induction hx generalizing level y with
  | nil => exact (Nat.max_eq_right (le_nesting level y)).symm
  | cons hopen hclose _ ih =>
    rw [cons_append, nesting_cons hopen hclose, nesting_cons hopen hclose, ih]
  | @group a t _ _ iha iht =>
    rw [cons_append, append_assoc, cons_append, nesting_open, nesting_open, iha, iha,
      nesting_close, nesting_close, iht]
    have := le_nesting level y
    omega

theorem nesting_group (ha : Balanced a) (t : List Char) :
    nesting 0 ('\x7b' :: (a ++ '\x7d' :: t)) = max (nesting 0 a + 1) (nesting 0 t) := by
  rw [nesting_open, ha.nesting_append, nesting_close]
  omega

theorem groupLength?_append {limit level : Nat} (hx : Balanced x) (hlevel : level ≤ limit)
    (y : List Char) :
    groupLength? limit level (x ++ y) =
      if level + nesting 0 x ≤ limit then (groupLength? limit level y).map (· + x.length)
      else none := by
  induction hx generalizing level y with
  | nil => simp [nesting, hlevel]
  | @cons c t hopen hclose _ ih =>
    rw [nesting_cons hopen hclose, cons_append, groupLength?_cons _ _ _ hopen hclose,
      ih hlevel]
    split
    · rw [Option.map_map]
      rfl
    · rfl
  | @group a t ha _ iha iht =>
    rw [ha.nesting_group, cons_append, append_assoc, cons_append, groupLength?_open]
    by_cases hlt : level < limit
    · rw [if_pos hlt, iha hlt]
      by_cases hdeep : level + 1 + nesting 0 a ≤ limit
      · rw [if_pos hdeep, groupLength?_close, iht hlevel]
        by_cases hafter : level + nesting 0 t ≤ limit
        · rw [if_pos hafter, if_pos (by omega)]
          cases groupLength? limit level y with
          | none => rfl
          | some n =>
            simp only [Option.map_some, length_cons, length_append, Option.some.injEq]
            omega
        · rw [if_neg hafter, if_neg (by omega)]
          rfl
      · rw [if_neg hdeep, if_neg (by omega)]
        rfl
    · rw [if_neg hlt, if_neg (by omega)]

theorem flattenFrom_length (x y : List Char) : flattenFrom x.length (x ++ y) = flattenFrom 0 y := by
  induction x with
  | nil => rfl
  | cons c x ih => rw [length_cons, cons_append, flattenFrom, ih]

theorem flattenFrom_group (ha : Balanced a) (y : List Char) :
    flattenFrom 0 ('\x7b' :: (a ++ '\x7d' :: y)) =
      if nesting 0 a ≤ 2 then '\x7b' :: ' ' :: '\x7d' :: flattenFrom 0 y
      else '\x7b' :: flattenFrom 0 (a ++ '\x7d' :: y) := by
  have hlength : groupLength? 2 0 (a ++ '\x7d' :: y) =
      if nesting 0 a ≤ 2 then some (1 + a.length) else none := by
    rw [ha.groupLength?_append (Nat.zero_le 2), Nat.zero_add]
    rfl
  have hskip : flattenFrom (1 + a.length) (a ++ '\x7d' :: y) = flattenFrom 0 y := by
    have := flattenFrom_length (a ++ ['\x7d']) y
    rwa [length_append, append_assoc, Nat.add_comm] at this
  rw [flattenFrom, if_pos (by simp), hlength]
  by_cases hdeep : nesting 0 a ≤ 2
  · simp only [if_pos hdeep, hskip]
  · simp only [if_neg hdeep]

theorem flattenFrom_append (hx : Balanced x) (y : List Char) :
    flattenFrom 0 (x ++ y) = flattenFrom 0 x ++ flattenFrom 0 y := by
  induction hx generalizing y with
  | nil => rfl
  | cons hopen _ _ ih =>
    rw [cons_append, flattenFrom, flattenFrom, if_neg (by simp [hopen]),
      if_neg (by simp [hopen]), ih, cons_append]
  | @group a t ha _ iha iht =>
    have hclose : ∀ z, flattenFrom 0 ('\x7d' :: z) = '\x7d' :: flattenFrom 0 z := fun _ => rfl
    rw [cons_append, append_assoc, cons_append, ha.flattenFrom_group,
      ha.flattenFrom_group]
    split
    · rw [iht]
      rfl
    · rw [iha, iha, hclose, hclose, iht]
      simp

theorem emptied_append (hx : Balanced x) (y : List Char) :
    emptied 0 (x ++ y) = emptied 0 x ++ emptied 0 y ∧
      ∀ level, emptied (level + 1) (x ++ y) = emptied (level + 1) y := by
  induction hx generalizing y with
  | nil => exact ⟨rfl, fun _ => rfl⟩
  | cons hopen hclose _ ih =>
    refine ⟨?_, fun level => ?_⟩
    · rw [cons_append, emptied, emptied, if_neg hopen, if_neg hopen, (ih y).1,
        cons_append]
    · rw [cons_append, emptied, if_neg hopen, if_neg hclose, (ih y).2]
  | @group a t _ _ iha iht =>
    have hclose : ∀ level z, emptied (level + 1) ('\x7d' :: z) = emptied level z := fun _ _ => rfl
    have hopen : ∀ z, emptied 0 ('\x7b' :: z) = '\x7b' :: ' ' :: '\x7d' :: emptied 1 z :=
      fun _ => rfl
    refine ⟨?_, fun level => ?_⟩
    · rw [cons_append, append_assoc, cons_append, hopen, hopen, (iha _).2, (iha _).2,
        hclose, hclose, (iht y).1]
      rfl
    · rw [cons_append, append_assoc, cons_append, emptied, if_pos rfl, (iha _).2,
        hclose, (iht y).2]

theorem emptied_group (ha : Balanced a) (y : List Char) :
    emptied 0 ('\x7b' :: (a ++ '\x7d' :: y)) = '\x7b' :: ' ' :: '\x7d' :: emptied 0 y := by
  rw [emptied, if_pos rfl, (ha.emptied_append _).2]
  rfl

theorem nesting_emptied (hx : Balanced x) : nesting 0 (emptied 0 x) ≤ 1 := by
  induction hx with
  | nil => exact Nat.zero_le 1
  | cons hopen hclose _ ih =>
    rw [emptied, if_neg hopen, nesting_cons hopen hclose]
    exact ih
  | @group a t ha _ _ iht =>
    rw [ha.emptied_group]
    exact Nat.max_le.mpr ⟨Nat.le_refl 1, iht⟩

theorem flattenBraces_eq_emptied (hx : Balanced x) (h : nesting 0 x ≤ 3) :
    flattenBraces x = emptied 0 x := by
  rw [flattenBraces]
  induction hx with
  | nil => rfl
  | cons hopen hclose _ ih =>
    rw [nesting_cons hopen hclose] at h
    rw [flattenFrom, if_neg (by simp [hopen]), emptied, if_neg hopen, ih h]
  | @group a t ha _ _ iht =>
    rw [ha.nesting_group, Nat.max_le] at h
    rw [ha.flattenFrom_group, if_pos (Nat.le_of_succ_le_succ h.1), ha.emptied_group, iht h.2]

theorem flattenBraces (hx : Balanced x) : Balanced (flattenBraces x) := by
  rw [Header.flattenBraces]
  induction hx with
  | nil => exact .nil
  | cons hopen hclose _ ih =>
    rw [flattenFrom, if_neg (by simp [hopen])]
    exact .cons hopen hclose ih
  | @group a t ha _ iha iht =>
    rw [ha.flattenFrom_group, ha.flattenFrom_append]
    split
    · exact .group (.cons (by decide) (by decide) .nil) iht
    · exact .group iha iht

theorem nesting_flattenBraces (hx : Balanced x) :
    nesting 0 (Header.flattenBraces x) = min (nesting 0 x) (max 1 (nesting 0 x - 2)) := by
  induction hx with
  | nil => rfl
  | cons hopen hclose _ ih =>
    rw [Header.flattenBraces, flattenFrom, if_neg (by simp [hopen]), nesting_cons hopen hclose,
      nesting_cons hopen hclose]
    exact ih
  | @group a t ha _ iha iht =>
    have hinner := ha.flattenBraces
    rw [Header.flattenBraces] at iha iht hinner ⊢
    rw [ha.nesting_group, ha.flattenFrom_group]
    split
    · have hempty : nesting 0 ('\x7b' :: ' ' :: '\x7d' :: flattenFrom 0 t) =
          max 1 (nesting 0 (flattenFrom 0 t)) := rfl
      rw [hempty, iht]
      omega
    · have hclose : flattenFrom 0 ('\x7d' :: t) = '\x7d' :: flattenFrom 0 t := rfl
      rw [ha.flattenFrom_append, hclose, hinner.nesting_group, iha, iht]
      omega

end Balanced

/-- A balanced text has each outermost group emptied, and else stays as it is, just when its braces
nest at most three deep. -/
theorem flattenBraces_eq_emptied_iff {t : List Char} (h : Balanced t) :
    (flattenBraces t = emptied 0 t ↔ nesting 0 t ≤ 3) ∧
      nesting 0 (flattenBraces t) = min (nesting 0 t) (max 1 (nesting 0 t - 2)) := by
  have hnesting := h.nesting_flattenBraces
  refine ⟨⟨fun heq => ?_, h.flattenBraces_eq_emptied⟩, hnesting⟩
  rw [heq] at hnesting
  have := h.nesting_emptied
  omega

theorem flattenBraces_three_levels :
    nesting 0 "a\x7bb\x7bc\x7bd\x7de\x7d\x7df".toList = 3 ∧
    flattenBraces "a\x7bb\x7bc\x7bd\x7de\x7d\x7df".toList = "a\x7b \x7df".toList := by
  have htext : "a\x7bb\x7bc\x7bd\x7de\x7d\x7df".toList = 'a' :: '\x7b' :: (('b' :: '\x7b' ::
      (('c' :: '\x7b' :: (['d'] ++ '\x7d' :: ['e'])) ++ '\x7d' :: [])) ++ '\x7d' :: ['f']) := by
    simp
  have hbalanced : Balanced "a\x7bb\x7bc\x7bd\x7de\x7d\x7df".toList := by
    rw [htext]
    repeat' first | exact .nil | refine .group ?_ ?_ | refine .cons (by decide) (by decide) ?_
  have hnesting : nesting 0 "a\x7bb\x7bc\x7bd\x7de\x7d\x7df".toList = 3 := by decide +kernel
  refine ⟨hnesting, ?_⟩
  rw [(flattenBraces_eq_emptied_iff hbalanced).1.mpr (Nat.le_of_eq hnesting)]
  decide +kernel

/-- One level more, and the outermost group keeps what it holds. -/
theorem flattenBraces_four_levels :
    flattenBraces
      "f() \x7b if (a) \x7b while (b) \x7b if (c) \x7b d(1); \x7d \x7d \x7d \x7d".toList =
      "f() \x7b if (a) \x7b \x7d \x7d".toList ∧
    emptied 0 "f() \x7b if (a) \x7b while (b) \x7b if (c) \x7b d(1); \x7d \x7d \x7d \x7d".toList =
      "f() \x7b \x7d".toList := by
  decide +kernel

end MockGen.Header
