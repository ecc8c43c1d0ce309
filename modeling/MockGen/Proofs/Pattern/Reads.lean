import MockGen.Pattern.Match
import Mathlib.Data.List.Basic
import Mathlib.Tactic.Cases

/-!
# What a match can read

`Pattern.Reads` describes, without backtracking, the texts that a pattern may read between what lies
behind a place and what follows.  Every match of the matcher is one of those, so a text in which no
such reading exists is left alone.
-/

namespace MockGen

open List Cursor Nat

variable {rest u : List Char}

namespace Cursor

/-- The place behind `u`, in front of `rest`. -/
def past (c : Cursor) (u rest : List Char) : Cursor :=
  ⟨u.reverse ++ c.before, rest, c.pos + u.length⟩

@[simp] theorem past_before (c : Cursor) (u rest : List Char) :
    (c.past u rest).before = u.reverse ++ c.before := rfl

@[simp] theorem past_rest (c : Cursor) (u rest : List Char) : (c.past u rest).rest = rest := rfl

@[simp] theorem past_pos (c : Cursor) (u rest : List Char) :
    (c.past u rest).pos = c.pos + u.length := rfl

@[simp] theorem past_nil (c : Cursor) : c.past [] c.rest = c := rfl

@[simp] theorem past_past (c : Cursor) (u v rest more : List Char) :
    (c.past u rest).past v more = c.past (u ++ v) more := by
  simp [past, Nat.add_assoc]

theorem upTo_past {c : Cursor} (h : c.rest = u ++ rest) : c.upTo (c.past u rest) = u := by
  simp [upTo, h]

def skip (c : Cursor) (i : Nat) : Cursor :=
  c.past (c.rest.take i) (c.rest.drop i)

@[simp] theorem skip_zero (c : Cursor) : c.skip 0 = c := by
  simp [skip]

theorem skip_length {c : Cursor} (h : c.rest = u ++ rest) : c.skip u.length = c.past u rest := by
  simp [skip, h]

theorem skip_succ (before rest : List Char) (x : Char) (pos i : Nat) :
    (⟨before, x :: rest, pos⟩ : Cursor).skip (i + 1) =
      (⟨x :: before, rest, pos + 1⟩ : Cursor).skip i := by
  simp [skip, past]
  omega

theorem skip_skip (c : Cursor) (i j : Nat) : (c.skip i).skip j = c.skip (i + j) := by
  have htake : c.rest.take i ++ (c.rest.drop i).take j = c.rest.take (i + j) :=
    take_add.symm
  simp only [skip, past_past, past_rest, htake, drop_drop]

theorem next?_eq_some {c d : Cursor} {x : Char} (h : c.next? = some (x, d)) :
    ∃ rest, c.rest = x :: rest ∧ d = c.past [x] rest := by
  obtain ⟨before, rest, pos⟩ := c
  cases rest with
  | nil => simp [next?] at h
  | cons y rest =>
    simp only [next?, Option.some.injEq, Prod.mk.injEq] at h
    obtain ⟨rfl, rfl⟩ := h
    exact ⟨rest, rfl, rfl⟩

@[simp] theorem next?_cons (before rest : List Char) (x : Char) (pos : Nat) :
    (⟨before, x :: rest, pos⟩ : Cursor).next? = some (x, ⟨x :: before, rest, pos + 1⟩) := rfl

end Cursor

theorem Anchor.holds_pos (a : Anchor) (before rest : List Char) (m n : Nat) :
    a.holds ⟨before, rest, m⟩ = a.holds ⟨before, rest, n⟩ := by
  cases a <;> rfl

namespace Pattern

inductive Repeats (R : List Char → List Char → List Char → Prop) :
    Nat → List Char → List Char → List Char → Prop
  | zero (before rest : List Char) : Repeats R 0 before [] rest
  | succ {n : Nat} {before v w rest : List Char} (first : R before v (w ++ rest))
      (more : Repeats R n (v.reverse ++ before) w rest) : Repeats R (n + 1) before (v ++ w) rest

/-- Whether `p` may read `u` at a place with `before` behind it, nearest first, and `rest` after
`u`.  Upper bounds on repetition, references to groups and refused assertions are left open. -/
def Reads : Pattern → (before u rest : List Char) → Prop
  | empty, _, u, _ => u = []
  | never, _, _, _ => False
  | one s, _, u, _ => ∃ c, u = [c] ∧ s.mem c = true
  | span s least _ _, _, u, _ => least ≤ u.length ∧ ∀ c ∈ u, s.mem c = true
  | seq p q, before, u, rest =>
    ∃ v w, u = v ++ w ∧ p.Reads before v (w ++ rest) ∧ q.Reads (v.reverse ++ before) w rest
  | alt p q, before, u, rest => p.Reads before u rest ∨ q.Reads before u rest
  | many p least _ _, before, u, rest => ∃ n, least ≤ n ∧ Repeats p.Reads n before u rest
  | group _ p, before, u, rest => p.Reads before u rest
  | same _ _, _, _, _ => True
  | place a, before, u, rest => u = [] ∧ a.holds ⟨before, rest, before.length⟩ = true
  | ahead p wanted, before, u, rest =>
    u = [] ∧ (wanted = true → ∃ v w, rest = v ++ w ∧ p.Reads before v w)
  | behind _ _ _, _, u, _ => u = []
  | once p, before, u, rest => p.Reads before u rest
  | possessive p least _, before, u, rest => ∃ n, least ≤ n ∧ Repeats p.Reads n before u rest
  | given _ p q, before, u, rest => p.Reads before u rest ∨ q.Reads before u rest

variable {most : Option Nat} {s cs : CharSet} {i least fuel : Nat} {β : Type} {x : β}
  {k : Progress → Option β} {R : List Char → List Char → List Char → Prop}

/-! ## Readings by the form of the pattern -/

section

variable {p q : Pattern} {s : CharSet} {before u rest : List Char}

@[simp] theorem reads_append : (p ++ q).Reads before u rest ↔
    ∃ v w, u = v ++ w ∧ p.Reads before v (w ++ rest) ∧ q.Reads (v.reverse ++ before) w rest :=
  Iff.rfl

@[simp] theorem reads_orElse :
    (p <|> q : Pattern).Reads before u rest ↔ p.Reads before u rest ∨ q.Reads before u rest :=
  Iff.rfl

@[simp] theorem reads_one : (one s).Reads before u rest ↔ ∃ c, u = [c] ∧ s.mem c = true :=
  Iff.rfl

@[simp] theorem reads_group {number : Nat} :
    (group number p).Reads before u rest ↔ p.Reads before u rest :=
  Iff.rfl

@[simp] theorem reads_place {a : Anchor} : (place a).Reads before u rest ↔
    u = [] ∧ a.holds ⟨before, rest, before.length⟩ = true :=
  Iff.rfl

@[simp] theorem reads_char {c : Char} : (char c).Reads before u rest ↔ u = [c] := by
  simp [char, CharSet.mem]

@[simp] theorem reads_text {w : String} : (text w).Reads before u rest ↔ u = w.toList := by
  rw [text]
  induction w.toList generalizing before u with
  | nil => exact Iff.rfl
  | cons c w ih =>
    rw [foldr_cons]
    constructor
    · rintro ⟨v, v', rfl, hv, hv'⟩
      rw [reads_char.mp hv, ih.mp hv']
      rfl
    · rintro rfl
      exact ⟨[c], w, rfl, reads_char.mpr rfl, ih.mpr rfl⟩

@[simp] theorem reads_oneOf {ws : List String} :
    (oneOf ws).Reads before u rest ↔ ∃ w ∈ ws, u = w.toList := by
  induction ws with
  | nil => simp [oneOf, Reads]
  | cons w ws ih =>
    cases ws with
    | nil => simp [oneOf]
    | cons next ws =>
      have hor : (oneOf (w :: next :: ws)).Reads before u rest ↔
          (text w).Reads before u rest ∨ (oneOf (next :: ws)).Reads before u rest := Iff.rfl
      rw [hor, ih, reads_text]
      simp

@[simp] theorem reads_stretch :
    (stretch s).Reads before u rest ↔ ∀ c ∈ u, s.mem c = true := by
  simp [stretch, Reads]

@[simp] theorem reads_starLazy :
    (starLazy s).Reads before u rest ↔ ∀ c ∈ u, s.mem c = true := by
  simp [starLazy, Reads]

@[simp] theorem reads_stretch1 :
    (stretch1 s).Reads before u rest ↔ u ≠ [] ∧ ∀ c ∈ u, s.mem c = true := by
  simp [stretch1, Reads, one_le_iff_ne_zero]

@[simp] theorem reads_blanks :
    blanks.Reads before u rest ↔ ∀ c ∈ u, Text.isBlank c = true :=
  reads_stretch

@[simp] theorem reads_blanks1 :
    blanks1.Reads before u rest ↔ u ≠ [] ∧ ∀ c ∈ u, Text.isBlank c = true :=
  reads_stretch1

end

section

variable {β : Type} {p q : Pattern} {s : CharSet} {groups : List (Nat × Cursor × Cursor)}
  {k : Progress → Option β}

@[simp] theorem run_append (r : Progress) : (p ++ q).run r k = p.run r fun r' => q.run r' k := rfl

@[simp] theorem run_group (number : Nat) (r : Progress) : (group number p).run r k =
    p.run r fun r' => k { r' with groups := (number, r.cursor, r'.cursor) :: r'.groups } := rfl

theorem run_one {c : Char} (hc : s.mem c = true) (before rest : List Char) (pos : Nat) :
    (one s).run ⟨⟨before, c :: rest, pos⟩, groups⟩ k =
      k ⟨⟨c :: before, rest, pos + 1⟩, groups⟩ := by
  simp [run, hc]

theorem run_char (c : Char) (before rest : List Char) (pos : Nat) :
    (char c).run ⟨⟨before, c :: rest, pos⟩, groups⟩ k =
      k ⟨⟨c :: before, rest, pos + 1⟩, groups⟩ :=
  run_one (by simp [CharSet.mem]) before rest pos

end

/-! ## Stretches -/

/-- The number of characters that a stretch of `s` can read. -/
def spanLength (s : CharSet) : List Char → Option Nat → Nat
  | [], _ => 0
  | c :: rest, most =>
    if most != some 0 && s.mem c then spanLength s rest (most.map (· - 1)) + 1 else 0

theorem spanLength_le (s : CharSet) (rest : List Char) (most : Option Nat) :
    spanLength s rest most ≤ rest.length := by
  induction rest generalizing most with
  | nil => simp [spanLength]
  | cons c rest ih =>
    rw [spanLength]
    split
    · have := ih (most.map (· - 1))
      simp only [length_cons]
      omega
    · omega

@[simp] theorem spanLength_none (s : CharSet) (rest : List Char) :
    spanLength s rest none = (rest.takeWhile s.mem).length := by
  induction rest with
  | nil => rfl
  | cons c rest ih =>
    by_cases hc : s.mem c = true
    · simp [spanLength, hc, ih]
    · simp [spanLength, hc]

theorem mem_of_mem_take_spanLength (hi : i ≤ spanLength s rest most) :
    ∀ c ∈ rest.take i, s.mem c = true := by
  induction rest generalizing most i with
  | nil => simp
  | cons d rest ih =>
    cases i with
    | zero => simp
    | succ i =>
      rw [spanLength] at hi
      split at hi
      · rename_i hd
        intro c hc
        rcases mem_cons.mp (by simpa using hc) with rfl | hc
        · simp_all
        · have hi : i ≤ spanLength s rest (most.map (· - 1)) := by omega
          exact ih hi c hc
      · omega

theorem spanPlaces_eq (s : CharSet) (rest before : List Char) (pos : Nat) (most : Option Nat)
    (seen : List Cursor) :
    spanPlaces s rest before pos most seen =
      (List.range (spanLength s rest most)).reverse.map
        (fun i => (⟨before, rest, pos⟩ : Cursor).skip (i + 1)) ++ seen := by
  induction rest generalizing before pos most seen with
  | nil => simp [spanPlaces, spanLength]
  | cons c rest ih =>
    rw [spanPlaces, spanLength]
    split
    · rw [ih, range_succ_eq_map]
      simp [Function.comp_def, skip_succ]
    · simp

/-- The numbers of characters that a stretch tries, in order. -/
def spanOrder (s : CharSet) (least : Nat) (most : Option Nat) (greedy : Bool) (rest : List Char) :
    List Nat :=
  let numbers := List.range' least (spanLength s rest most + 1 - least)
  if greedy then numbers.reverse else numbers

theorem mem_spanOrder {greedy : Bool} :
    i ∈ spanOrder s least most greedy rest ↔ least ≤ i ∧ i ≤ spanLength s rest most := by
  cases greedy <;> simp [spanOrder] <;> omega

theorem range'_succ_start (a n : Nat) :
    List.range' (a + 1) n = (List.range' a n).map (· + 1) := by
  induction n generalizing a with
  | zero => rfl
  | succ n ih => simp [range'_succ, ih (a + 1)]

theorem spanLazy_eq (s : CharSet) (k : Cursor → Option β) (rest before : List Char)
    (pos least : Nat) (most : Option Nat) :
    spanLazy s k rest before pos least most =
      (List.range' least (spanLength s rest most + 1 - least)).findSome?
        fun i => k ((⟨before, rest, pos⟩ : Cursor).skip i) := by
  induction rest generalizing before pos least most with
  | nil =>
    cases least with
    | zero => simp [spanLazy, spanLength, range'_succ]
    | succ least => simp [spanLazy, spanLength]
  | cons c rest ih =>
    rw [spanLazy, spanLength]
    by_cases hc : (most != some 0 && s.mem c) = true
    · rw [if_pos hc, if_pos hc, ih]
      cases least with
      | zero =>
        rw [Nat.sub_zero, Nat.sub_zero, range'_succ (n := spanLength _ _ _ + 1),
          range'_succ_start, findSome?_cons, findSome?_map]
        simp [skip_succ, Function.comp_def]
        rfl
      | succ least =>
        rw [Nat.add_sub_cancel, Nat.add_sub_add_right, range'_succ_start, findSome?_map]
        simp [skip_succ, Function.comp_def]
    · rw [if_neg hc, if_neg hc]
      cases least with
      | zero => cases hk : k ⟨before, c :: rest, pos⟩ <;> simp [range'_succ, hk]
      | succ least => simp

theorem run_span (s : CharSet) (least : Nat) (most : Option Nat) (greedy : Bool) (p : Progress)
    (k : Progress → Option β) :
    (span s least most greedy).run p k =
      (spanOrder s least most greedy p.cursor.rest).findSome?
        fun i => k { p with cursor := p.cursor.skip i } := by
  obtain ⟨⟨before, rest, pos⟩, groups⟩ := p
  cases greedy with
  | false => simp [run, spanLazy_eq, spanOrder]
  | true =>
    have hplaces : spanPlaces s rest before pos most [⟨before, rest, pos⟩] =
        (List.range' 0 (spanLength s rest most + 1)).reverse.map
          (⟨before, rest, pos⟩ : Cursor).skip := by
      rw [spanPlaces_eq, ← range_eq_range', range_succ_eq_map]
      simp [Function.comp_def]
    have hleast : (spanLength s rest most + 1) - ((spanLength s rest most + 1) - least) =
        min least (spanLength s rest most + 1) := by omega
    simp only [run, if_true, hplaces, spanOrder]
    rw [length_map, length_reverse, length_range', ← map_take,
      take_reverse, length_range', hleast, drop_range', findSome?_map]
    rcases Nat.le_total least (spanLength s rest most + 1) with h | h
    · simp [Nat.min_eq_left h, Function.comp_def]
    · simp [Nat.min_eq_right h, Nat.sub_eq_zero_of_le h]

theorem exists_longest {f : Nat → Option β}
    (h : (spanOrder s least most true rest).findSome? f = some x) :
    ∃ i, least ≤ i ∧ i ≤ spanLength s rest most ∧ f i = some x ∧
      ∀ j, i < j → j ≤ spanLength s rest most → f j = none := by
  obtain ⟨before, i, after, horder, hi, hbefore⟩ := findSome?_eq_some_iff.mp h
  have hmem : i ∈ spanOrder s least most true rest := by simp [horder]
  obtain ⟨hleast, hmost⟩ := mem_spanOrder.mp hmem
  refine ⟨i, hleast, hmost, hi, fun j hij hj => ?_⟩
  have hsorted : (spanOrder s least most true rest).Pairwise (· > ·) := by
    simp only [spanOrder, if_true, pairwise_reverse]
    exact pairwise_lt_range'
  rw [horder, pairwise_append] at hsorted
  have hjmem : j ∈ spanOrder s least most true rest := mem_spanOrder.mpr ⟨by omega, hj⟩
  rw [horder, mem_append, mem_cons] at hjmem
  rcases hjmem with hj | rfl | hj
  · exact hbefore j hj
  · omega
  · have := rel_of_pairwise_cons hsorted.2.1 hj
    omega

theorem length_takeWhile_drop (hi : i ≤ (rest.takeWhile s.mem).length) :
    i + ((rest.drop i).takeWhile s.mem).length = (rest.takeWhile s.mem).length := by
  induction rest generalizing i with
  | nil => simp at hi; simp [hi]
  | cons c rest ih =>
    cases i with
    | zero => simp
    | succ i =>
      by_cases hc : s.mem c = true
      · simp only [takeWhile_cons, hc, if_true, length_cons] at hi ⊢
        have := ih (i := i) (by omega)
        simp only [drop_succ_cons]
        omega
      · simp [hc] at hi

/-! ## Every match is a reading -/

/-- What a step of matching may read, whatever its continuation makes of it. -/
def Sound {β : Type} (R : List Char → List Char → List Char → Prop)
    (step : Progress → (Progress → Option β) → Option β) : Prop :=
  ∀ (p : Progress) (k : Progress → Option β) (x : β), step p k = some x →
    ∃ u rest groups, p.cursor.rest = u ++ rest ∧ R p.cursor.before u rest ∧
      k ⟨p.cursor.past u rest, groups⟩ = some x

theorem iterate_sound {step : Progress → (Progress → Option β) → Option β} (hstep : Sound R step)
    (greedy : Bool) {p : Progress} (hfuel : least ≤ fuel)
    (h : iterate step greedy fuel least most p k = some x) :
    ∃ n u rest groups, least ≤ n ∧ p.cursor.rest = u ++ rest ∧
      Repeats R n p.cursor.before u rest ∧ k ⟨p.cursor.past u rest, groups⟩ = some x := by
  have stop : ∀ {p : Progress}, k p = some x → ∃ n u rest groups, 0 ≤ n ∧
      p.cursor.rest = u ++ rest ∧ Repeats R n p.cursor.before u rest ∧
      k ⟨p.cursor.past u rest, groups⟩ = some x := fun {p} h =>
    ⟨0, [], p.cursor.rest, p.groups, Nat.le_refl _, rfl, .zero _ _, h⟩
  induction fuel generalizing least most p with
  | zero =>
    obtain rfl : least = 0 := by omega
    exact stop h
  | succ fuel ih =>
    have again : ∀ {least : Nat} {u rest : List Char} {groups},
        p.cursor.rest = u ++ rest → R p.cursor.before u rest → least ≤ fuel →
        iterate step greedy fuel least (most.map (· - 1))
          ⟨p.cursor.past u rest, groups⟩ k = some x →
        ∃ n u rest groups, least + 1 ≤ n ∧ p.cursor.rest = u ++ rest ∧
          Repeats R n p.cursor.before u rest ∧ k ⟨p.cursor.past u rest, groups⟩ = some x := by
      intro least u rest groups hrest hread hfuel h
      obtain ⟨n, v, more, groups, hn, hv, hrep, hk⟩ := ih hfuel h
      obtain rfl : rest = v ++ more := by simpa using hv
      exact ⟨n + 1, u ++ v, more, groups, by omega, by simpa using hrest, .succ hread hrep,
        by simpa using hk⟩
    cases least with
    | succ least =>
      obtain ⟨u, rest, groups, hrest, hread, hk⟩ := hstep p _ x h
      exact again hrest hread (by omega) hk
    | zero =>
      have more : (step p fun q => if q.cursor.pos == p.cursor.pos then k q
          else iterate step greedy fuel 0 (most.map (· - 1)) q k) = some x →
          ∃ n u rest groups, 0 ≤ n ∧ p.cursor.rest = u ++ rest ∧
            Repeats R n p.cursor.before u rest ∧ k ⟨p.cursor.past u rest, groups⟩ = some x := by
        intro h
        obtain ⟨u, rest, groups, hrest, hread, hk⟩ := hstep p _ x h
        split at hk
        · refine ⟨1, u ++ [], rest, groups, by omega, by simpa using hrest,
            .succ (by simpa using hread) (.zero _ _), by simpa using hk⟩
        · obtain ⟨n, v, more, groups, -, h⟩ := again hrest hread (zero_le _) hk
          exact ⟨n, v, more, groups, zero_le _, h⟩
      rw [iterate] at h
      split at h
      · exact stop h
      · dsimp only at h
        split at h
        · split at h
          · rename_i found hmore
            exact more (hmore.trans h)
          · exact stop h
        · split at h
          · rename_i found hstop
            exact stop (hstop.trans h)
          · exact more h

theorem exhaust_sound {step : Progress → Option Progress}
    (hstep : ∀ p q, step p = some q → ∃ u rest, p.cursor.rest = u ++ rest ∧
      R p.cursor.before u rest ∧ q.cursor = p.cursor.past u rest) {p q : Progress}
    (hfuel : least ≤ fuel) (h : exhaust step fuel least most p = some q) :
    ∃ n u rest, least ≤ n ∧ p.cursor.rest = u ++ rest ∧ Repeats R n p.cursor.before u rest ∧
      q.cursor = p.cursor.past u rest := by
  have stop : ∀ {p : Progress}, p = q → ∃ n u rest, 0 ≤ n ∧ p.cursor.rest = u ++ rest ∧
      Repeats R n p.cursor.before u rest ∧ q.cursor = p.cursor.past u rest := by
    rintro p rfl
    exact ⟨0, [], p.cursor.rest, Nat.le_refl _, rfl, .zero _ _, rfl⟩
  induction fuel generalizing least most p with
  | zero =>
    obtain rfl : least = 0 := by omega
    exact stop (by simpa [exhaust] using h)
  | succ fuel ih =>
    have again : ∀ {least : Nat} {r : Progress}, step p = some r → least ≤ fuel →
        exhaust step fuel least (most.map (· - 1)) r = some q →
        ∃ n u rest, least + 1 ≤ n ∧ p.cursor.rest = u ++ rest ∧
          Repeats R n p.cursor.before u rest ∧ q.cursor = p.cursor.past u rest := by
      intro least r hr hfuel h
      obtain ⟨u, rest, hrest, hread, hcursor⟩ := hstep p r hr
      obtain ⟨n, v, more, hn, hv, hrep, hq⟩ := ih hfuel h
      obtain rfl : rest = v ++ more := by simpa [hcursor] using hv
      rw [hcursor] at hrep hq
      exact ⟨n + 1, u ++ v, more, by omega, by simpa using hrest, .succ hread hrep,
        by simpa using hq⟩
    cases least with
    | succ least =>
      rw [exhaust] at h
      split at h
      · rename_i r hr
        exact again hr (by omega) h
      · simp at h
    | zero =>
      rw [exhaust] at h
      split at h
      · exact stop (by simpa using h)
      · split at h
        · rename_i r hr
          split at h
          · obtain rfl : r = q := by simpa using h
            obtain ⟨u, rest, hrest, hread, hcursor⟩ := hstep p r hr
            exact ⟨1, u ++ [], rest, by omega, by simpa using hrest,
              .succ (by simpa using hread) (.zero _ _), by simpa using hcursor⟩
          · obtain ⟨n, v, more, -, h⟩ := again hr (zero_le _) h
            exact ⟨n, v, more, zero_le _, h⟩
        · exact stop (by simpa using h)

theorem readText_sound {f : Folding} {t : List Char} {c d : Cursor} (h : readText f t c = some d) :
    ∃ u rest, c.rest = u ++ rest ∧ d = c.past u rest := by
  induction t generalizing c with
  | nil =>
    obtain rfl : c = d := by simpa [readText] using h
    exact ⟨[], c.rest, rfl, rfl⟩
  | cons e t ih =>
    rw [readText] at h
    split at h
    · rename_i x next hnext
      split at h
      · obtain ⟨rest, hrest, rfl⟩ := next?_eq_some hnext
        obtain ⟨u, more, hu, rfl⟩ := ih h
        obtain rfl : rest = u ++ more := by simpa using hu
        exact ⟨x :: u, more, by simpa using hrest, by simp⟩
      · simp at h
    · simp at h

theorem run_one_sound {s : Progress} (h : (one cs).run s k = some x) :
    ∃ c rest, s.cursor.rest = c :: rest ∧ cs.mem c = true ∧
      k ⟨s.cursor.past [c] rest, s.groups⟩ = some x := by
  rw [run] at h
  split at h
  · rename_i c next hnext
    obtain ⟨rest, hrest, rfl⟩ := next?_eq_some hnext
    split at h
    · rename_i hc
      exact ⟨c, rest, hrest, hc, h⟩
    · simp at h
  · simp at h

theorem run_span_sound {greedy : Bool} {s : Progress}
    (h : (span cs least most greedy).run s k = some x) :
    ∃ u rest, s.cursor.rest = u ++ rest ∧ least ≤ u.length ∧ (∀ c ∈ u, cs.mem c = true) ∧
      k ⟨s.cursor.past u rest, s.groups⟩ = some x := by
  rw [run_span] at h
  obtain ⟨i, hi, hk⟩ := exists_of_findSome?_eq_some h
  obtain ⟨hleast, hmost⟩ := mem_spanOrder.mp hi
  have hlen := spanLength_le cs s.cursor.rest most
  refine ⟨s.cursor.rest.take i, s.cursor.rest.drop i, by simp, ?_, ?_, hk⟩
  · rw [length_take]
    omega
  · exact mem_of_mem_take_spanLength hmost

theorem run_sound (p : Pattern) : ∀ {β : Type}, Sound (β := β) p.Reads p.run := by
  induction p with
  | empty =>
    intro β s k x h
    exact ⟨[], s.cursor.rest, s.groups, rfl, rfl, h⟩
  | never =>
    intro β s k x h
    simp [run] at h
  | one cs =>
    intro β s k x h
    obtain ⟨c, rest, hrest, hc, hk⟩ := run_one_sound h
    exact ⟨[c], rest, s.groups, hrest, ⟨c, rfl, hc⟩, hk⟩
  | span cs least most greedy =>
    intro β s k x h
    obtain ⟨u, rest, hrest, hleast, hmem, hk⟩ := run_span_sound h
    exact ⟨u, rest, s.groups, hrest, ⟨hleast, hmem⟩, hk⟩
  | seq a b iha ihb =>
    intro β s k x h
    obtain ⟨u, rest, groups, hrest, ha, h⟩ := iha s _ x h
    obtain ⟨v, more, groups, hmore, hb, hk⟩ := ihb _ _ x h
    obtain rfl : rest = v ++ more := by simpa using hmore
    exact ⟨u ++ v, more, groups, by simpa using hrest, ⟨u, v, rfl, ha, hb⟩, by simpa using hk⟩
  | alt a b iha ihb =>
    intro β s k x h
    rw [run] at h
    split at h
    · rename_i found hfound
      obtain ⟨u, rest, groups, hrest, ha, hk⟩ := iha s k x (hfound.trans h)
      exact ⟨u, rest, groups, hrest, Or.inl ha, hk⟩
    · obtain ⟨u, rest, groups, hrest, hb, hk⟩ := ihb s k x h
      exact ⟨u, rest, groups, hrest, Or.inr hb, hk⟩
  | many a least most greedy ih =>
    intro β s k x h
    have hfuel : least ≤ repetitions least most s.cursor.rest + 1 := by
      cases most <;> simp [repetitions] <;> omega
    obtain ⟨n, u, rest, groups, hn, hrest, hrep, hk⟩ := iterate_sound ih greedy hfuel h
    exact ⟨u, rest, groups, hrest, ⟨n, hn, hrep⟩, hk⟩
  | group number a ih =>
    intro β s k x h
    obtain ⟨u, rest, groups, hrest, ha, hk⟩ := ih s _ x h
    exact ⟨u, rest, _, hrest, ha, hk⟩
  | same number f =>
    intro β s k x h
    rw [run] at h
    split at h
    · split at h
      · rename_i next hnext
        obtain ⟨u, rest, hrest, rfl⟩ := readText_sound hnext
        exact ⟨u, rest, s.groups, hrest, trivial, h⟩
      · simp at h
    · simp at h
  | place a =>
    intro β s k x h
    rw [run] at h
    split at h
    · rename_i ha
      refine ⟨[], s.cursor.rest, s.groups, rfl, ⟨rfl, ?_⟩, h⟩
      rw [← ha]
      exact a.holds_pos _ _ _ _
    · simp at h
  | ahead a wanted ih =>
    intro β s k x h
    rw [run] at h
    split at h
    · rename_i q hq
      split at h
      · obtain ⟨u, rest, groups, hrest, ha, -⟩ := ih s some q hq
        exact ⟨[], s.cursor.rest, q.groups, rfl, ⟨rfl, fun _ => ⟨u, rest, hrest, ha⟩⟩, h⟩
      · simp at h
    · split at h
      · simp at h
      · rename_i hwanted
        exact ⟨[], s.cursor.rest, s.groups, rfl, ⟨rfl, fun hw => absurd hw hwanted⟩, h⟩
  | behind width a wanted ih =>
    intro β s k x h
    rw [run] at h
    split at h
    · rename_i q hq
      split at h
      · exact ⟨[], s.cursor.rest, q.groups, rfl, rfl, h⟩
      · simp at h
    · split at h
      · simp at h
      · exact ⟨[], s.cursor.rest, s.groups, rfl, rfl, h⟩
  | once a ih =>
    intro β s k x h
    rw [run] at h
    split at h
    · rename_i q hq
      obtain ⟨u, rest, groups, hrest, ha, hsome⟩ := ih s some q hq
      obtain rfl : ⟨s.cursor.past u rest, groups⟩ = q := Option.some.inj hsome
      exact ⟨u, rest, groups, hrest, ha, h⟩
    · simp at h
  | possessive a least most ih =>
    intro β s k x h
    rw [run] at h
    split at h
    · rename_i q hq
      have hstep : ∀ p q, a.run p some = some q → ∃ u rest, p.cursor.rest = u ++ rest ∧
          a.Reads p.cursor.before u rest ∧ q.cursor = p.cursor.past u rest := by
        intro p q hpq
        obtain ⟨u, rest, groups, hrest, ha, hsome⟩ := ih p some q hpq
        obtain rfl : ⟨p.cursor.past u rest, groups⟩ = q := Option.some.inj hsome
        exact ⟨u, rest, hrest, ha, rfl⟩
      have hfuel : least ≤ repetitions least most s.cursor.rest + 1 := by
        cases most <;> simp [repetitions] <;> omega
      obtain ⟨n, u, rest, hn, hrest, hrep, hcursor⟩ := exhaust_sound hstep hfuel hq
      obtain ⟨cursor, groups⟩ := q
      obtain rfl : cursor = s.cursor.past u rest := hcursor
      exact ⟨u, rest, groups, hrest, ⟨n, hn, hrep⟩, h⟩
    · simp at h
  | given number a b iha ihb =>
    intro β s k x h
    rw [run] at h
    split at h
    · obtain ⟨u, rest, groups, hrest, ha, hk⟩ := iha s k x h
      exact ⟨u, rest, groups, hrest, Or.inl ha, hk⟩
    · obtain ⟨u, rest, groups, hrest, hb, hk⟩ := ihb s k x h
      exact ⟨u, rest, groups, hrest, Or.inr hb, hk⟩

/-! ## Every reading is found -/

/-- Patterns without bounds, references, assertions on other patterns and repetition of patterns:
the matcher finds every reading of those. -/
def isSimple : Pattern → Bool
  | empty => true
  | never => true
  | one _ => true
  | span _ _ most _ => most == none
  | seq p q => p.isSimple && q.isSimple
  | alt p q => p.isSimple && q.isSimple
  | group _ p => p.isSimple
  | place _ => true
  | _ => false

theorem run_complete (p : Pattern) (hp : p.isSimple = true) {s : Progress}
    (hrest : s.cursor.rest = u ++ rest) (hread : p.Reads s.cursor.before u rest)
    (hk : ∀ groups, (k ⟨s.cursor.past u rest, groups⟩).isSome = true) :
    (p.run s k).isSome = true := by
  induction p generalizing s k u rest with
  | empty =>
    obtain rfl : u = [] := hread
    obtain rfl : s.cursor.rest = rest := hrest
    exact hk s.groups
  | never => exact hread.elim
  | one cs =>
    obtain ⟨c, rfl, hc⟩ := hread
    obtain ⟨⟨before, rest', pos⟩, groups⟩ := s
    obtain rfl : rest' = c :: rest := hrest
    simpa [run, hc, Cursor.past] using hk groups
  | span cs least most greedy =>
    obtain ⟨hleast, hmem⟩ := hread
    obtain rfl : most = none := by simpa [isSimple] using hp
    rw [run_span, findSome?_isSome_iff]
    refine ⟨u.length, mem_spanOrder.mpr ⟨hleast, ?_⟩, ?_⟩
    · rw [spanLength_none, hrest, takeWhile_append_of_pos hmem]
      simp
    · rw [skip_length hrest]
      exact hk s.groups
  | seq a b iha ihb =>
    obtain ⟨ha, hb⟩ : a.isSimple = true ∧ b.isSimple = true := by simpa [isSimple] using hp
    obtain ⟨v, w, rfl, hv, hw⟩ := hread
    refine iha ha (by simpa using hrest) hv fun groups => ?_
    exact ihb hb rfl hw fun groups => by simpa using hk groups
  | alt a b iha ihb =>
    obtain ⟨ha, hb⟩ : a.isSimple = true ∧ b.isSimple = true := by simpa [isSimple] using hp
    rw [run]
    cases hfound : a.run s k with
    | some x => rfl
    | none =>
      rcases hread with hread | hread
      · have := iha ha hrest hread hk
        simp [hfound] at this
      · exact ihb hb hrest hread hk
  | group number a ih =>
    exact ih (by simpa [isSimple] using hp) hrest hread fun groups => hk _
  | place a =>
    obtain ⟨rfl, ha⟩ := hread
    obtain rfl : s.cursor.rest = rest := hrest
    rw [run, if_pos]
    · exact hk s.groups
    · rw [← ha]
      exact a.holds_pos _ _ _ _
  | _ => simp [isSimple] at hp

end Pattern

end MockGen
