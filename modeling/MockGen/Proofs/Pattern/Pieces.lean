import MockGen.Proofs.Pattern.Reads

/-!
# Cutting a text at the matches of a pattern

A text without a reading of the pattern stays whole.  For a pattern that never reads nothing, the
pieces are given step by step: a place without a match passes on its character, and a match is
followed by the pieces behind it.
-/

namespace MockGen

open List Cursor

/-- Whether every member of a set of characters satisfies `q`, as far as its form shows. -/
def CharSet.isWithin (q : Char → Bool) : CharSet → Bool
  | single c => q c
  | none => true
  | union s t => s.isWithin q && t.isWithin q
  | _ => false

variable {q : Char → Bool}

theorem CharSet.of_isWithin {s : CharSet} (h : s.isWithin q = true) {c : Char}
    (hc : s.mem c = true) : q c = true := by
  induction s with
  | single d =>
    obtain rfl : c = d := by simpa [mem] using hc
    exact h
  | none => simp [mem] at hc
  | union s t ihs iht =>
    obtain ⟨hs, ht⟩ := (Bool.and_eq_true _ _).mp h
    rcases (Bool.or_eq_true _ _).mp hc with hc | hc
    · exact ihs hs hc
    · exact iht ht hc
  | _ => cases h

namespace Pattern

variable {p : Pattern} {c : Cursor} {m : Match} {advance : Bool} {pos fuel : Nat}
  {rest before t u : List Char} {x : Char}

/-! ## Matches -/

theorem matchHere?_sound (h : p.matchHere? advance c = some m) :
    ∃ u rest, c.rest = u ++ rest ∧ p.Reads c.before u rest ∧ m.first = c ∧
      m.last = c.past u rest := by
  obtain ⟨u, rest, groups, hrest, hread, hm⟩ := run_sound p _ _ _ h
  split at hm
  · simp at hm
  · obtain rfl := Option.some.inj hm
    exact ⟨u, rest, hrest, hread, rfl, rfl⟩

theorem findFrom?_sound (h : p.findFrom? advance rest before pos = some m) :
    ∃ x u y, rest = x ++ (u ++ y) ∧ p.Reads (x.reverse ++ before) u y ∧
      m.first = (⟨before, rest, pos⟩ : Cursor).past x (u ++ y) ∧ m.last = m.first.past u y := by
  induction rest generalizing advance before pos with
  | nil =>
    obtain ⟨u, rest, hrest, hread, hfirst, hlast⟩ := matchHere?_sound h
    exact ⟨[], u, rest, hrest, hread, by rw [hfirst, ← hrest]; rfl, by rw [hfirst, hlast]⟩
  | cons c rest ih =>
    rw [findFrom?] at h
    split at h
    · rename_i m' hm'
      obtain rfl := Option.some.inj h
      obtain ⟨u, rest', hrest, hread, hfirst, hlast⟩ := matchHere?_sound hm'
      exact ⟨[], u, rest', hrest, hread, by rw [hfirst, ← hrest]; rfl, by rw [hfirst, hlast]⟩
    · obtain ⟨x, u, y, hrest, hread, hfirst, hlast⟩ := ih h
      refine ⟨c :: x, u, y, by rw [hrest]; rfl, by simpa using hread, ?_, hlast⟩
      rw [hfirst]
      simp [Cursor.past]
      omega

theorem exists_matchHere?_of_findFrom? (h : p.findFrom? advance rest before pos = some m) :
    ∃ advance c, p.matchHere? advance c = some m := by
  induction rest generalizing advance before pos with
  | nil => exact ⟨_, _, h⟩
  | cons c rest ih =>
    rw [findFrom?] at h
    split at h
    · rename_i m' hm'
      obtain rfl := Option.some.inj h
      exact ⟨_, _, hm'⟩
    · exact ih h

theorem exists_matchHere?_of_mem_allMatches (h : m ∈ p.allMatches t) :
    ∃ advance c, p.matchHere? advance c = some m := by
  have key : ∀ (fuel : Nat) (advance : Bool) (c : Cursor),
      .hit m ∈ p.piecesFrom fuel advance c → ∃ advance c, p.matchHere? advance c = some m := by
    intro fuel
    induction fuel with
    | zero => simp [piecesFrom]
    | succ fuel ih =>
      intro advance c hmem
      rw [piecesFrom] at hmem
      split at hmem
      · simp at hmem
      · rename_i m' hm'
        rcases mem_cons.mp hmem with hmem | hmem
        · cases hmem
        · rcases mem_cons.mp hmem with hmem | hmem
          · obtain rfl := Piece.hit.inj hmem
            exact exists_matchHere?_of_findFrom? hm'
          · exact ih _ _ hmem
  obtain ⟨piece, hpiece, hm⟩ := mem_filterMap.mp h
  cases piece with
  | kept u => simp at hm
  | hit m' =>
    obtain rfl : m' = m := by simpa using hm
    exact key _ _ _ hpiece

theorem matchHere?_isSome (hp : p.isSimple = true) (hrest : c.rest = u ++ rest)
    (hread : p.Reads c.before u rest) : (p.matchHere? false c).isSome = true :=
  run_complete p hp hrest hread fun _ => rfl

/-- No place of the text has a reading of the pattern. -/
def Absent (p : Pattern) (t : List Char) : Prop :=
  ∀ x u y, t = x ++ (u ++ y) → ¬ p.Reads x.reverse u y

namespace Absent

variable {t : List Char}

theorem find?_eq_none (h : p.Absent t) : p.find? t = none := by
  rw [Option.eq_none_iff_forall_ne_some]
  intro m hm
  obtain ⟨x, u, y, hrest, hread, -⟩ := findFrom?_sound hm
  exact h x u y hrest (by simpa using hread)

theorem occursIn_eq_false (h : p.Absent t) : p.occursIn t = false := by
  rw [occursIn, h.find?_eq_none]
  rfl

theorem pieces_eq (h : p.Absent t) : p.pieces t = [.kept t] := by
  have hfind : p.findFrom? false t [] 0 = none := h.find?_eq_none
  simp only [pieces, piecesFrom, Cursor.start, hfind]

theorem allMatches_eq_nil (h : p.Absent t) : p.allMatches t = [] := by
  simp [allMatches, h.pieces_eq]

theorem replaceBy_eq (h : p.Absent t) (f : Match → List Char) : p.replaceBy f t = t := by
  simp [replaceBy, h.pieces_eq]

theorem replace_eq (h : p.Absent t) (new : String) : p.replace new t = t :=
  h.replaceBy_eq _

theorem remove_eq (h : p.Absent t) : p.remove t = t :=
  h.replaceBy_eq _

theorem split_eq (h : p.Absent t) : p.split t = [t] := by
  simp [split, h.pieces_eq]

end Absent

theorem kept_isInfix (h : .kept u ∈ p.piecesFrom fuel advance c) : u <:+: c.rest := by
  induction fuel generalizing advance c with
  | zero =>
    obtain rfl : u = c.rest := by simpa [piecesFrom] using h
    exact infix_rfl
  | succ fuel ih =>
    rw [piecesFrom] at h
    split at h
    · obtain rfl : u = c.rest := by simpa using h
      exact infix_rfl
    · rename_i m hm
      obtain ⟨x, v, y, hrest, -, hfirst, hlast⟩ := findFrom?_sound hm
      simp only [mem_cons, Piece.kept.injEq, reduceCtorEq, false_or] at h
      rcases h with rfl | h
      · exact (List.take_prefix _ _).isInfix
      · refine (ih h).trans ?_
        rw [hlast, hfirst, hrest]
        exact ⟨x ++ v, [], by simp⟩

theorem infix_of_mem_split (h : u ∈ p.split t) : u <:+: t := by
  obtain ⟨piece, hpiece, hu⟩ := mem_filterMap.mp h
  cases piece with
  | kept v =>
    obtain rfl : v = u := by simpa using hu
    exact kept_isInfix hpiece
  | hit m => simp at hu

/-! ## Characters that every reading has -/

/-- Whether every reading has a character that satisfies `q`, as far as the form of the pattern
shows. -/
def needs (q : Char → Bool) : Pattern → Bool
  | one s => s.isWithin q
  | span s least _ _ => 0 < least && s.isWithin q
  | seq p r => p.needs q || r.needs q
  | alt p r => p.needs q && r.needs q
  | many p least _ _ => 0 < least && p.needs q
  | group _ p => p.needs q
  | once p => p.needs q
  | possessive p least _ => 0 < least && p.needs q
  | given _ p r => p.needs q && r.needs q
  | _ => false

theorem Repeats.exists_mem {R : List Char → List Char → List Char → Prop}
    (hR : ∀ before u rest, R before u rest → ∃ c ∈ u, q c = true) {n : Nat} (hn : 0 < n)
    (h : Repeats R n before u rest) : ∃ c ∈ u, q c = true := by
  cases h with
  | zero => omega
  | succ first more =>
    obtain ⟨c, hc, hq⟩ := hR _ _ _ first
    exact ⟨c, mem_append_left _ hc, hq⟩

theorem Reads.exists_mem (hp : p.needs q = true) (h : p.Reads before u rest) :
    ∃ c ∈ u, q c = true := by
  induction p generalizing before u rest with
  | one s =>
    obtain ⟨c, rfl, hc⟩ := h
    exact ⟨c, by simp, CharSet.of_isWithin hp hc⟩
  | span s least most greedy =>
    obtain ⟨hleast, hs⟩ : 0 < least ∧ s.isWithin q = true := by simpa [needs] using hp
    obtain ⟨hlen, hmem⟩ := h
    cases u with
    | nil => simp at hlen; omega
    | cons c u => exact ⟨c, by simp, CharSet.of_isWithin hs (hmem c (by simp))⟩
  | seq a b iha ihb =>
    obtain ⟨v, w, rfl, ha, hb⟩ := h
    rcases (Bool.or_eq_true _ _).mp hp with hp | hp
    · obtain ⟨c, hc, hq⟩ := iha hp ha
      exact ⟨c, mem_append_left _ hc, hq⟩
    · obtain ⟨c, hc, hq⟩ := ihb hp hb
      exact ⟨c, mem_append_right _ hc, hq⟩
  | alt a b iha ihb =>
    obtain ⟨ha, hb⟩ : a.needs q = true ∧ b.needs q = true := by simpa [needs] using hp
    rcases h with h | h
    · exact iha ha h
    · exact ihb hb h
  | many a least most greedy ih =>
    obtain ⟨hleast, ha⟩ : 0 < least ∧ a.needs q = true := by simpa [needs] using hp
    obtain ⟨n, hn, hrep⟩ := h
    exact hrep.exists_mem (fun _ _ _ => ih ha) (by omega)
  | group number a ih => exact ih hp h
  | once a ih => exact ih hp h
  | possessive a least most ih =>
    obtain ⟨hleast, ha⟩ : 0 < least ∧ a.needs q = true := by simpa [needs] using hp
    obtain ⟨n, hn, hrep⟩ := h
    exact hrep.exists_mem (fun _ _ _ => ih ha) (by omega)
  | given number a b iha ihb =>
    obtain ⟨ha, hb⟩ : a.needs q = true ∧ b.needs q = true := by simpa [needs] using hp
    rcases h with h | h
    · exact iha ha h
    · exact ihb hb h
  | _ => simp [needs] at hp

theorem absent_of_needs (hp : p.needs q = true) (ht : ∀ c ∈ t, q c = false) : p.Absent t := by
  rintro x u y rfl hread
  obtain ⟨c, hc, hq⟩ := hread.exists_mem hp
  have := ht c (by simp [hc])
  simp [hq] at this

/-! ## Parts in a row -/

/-- The patterns that a pattern runs one after the other. -/
def parts : Pattern → List Pattern
  | empty => []
  | seq p q => p.parts ++ q.parts
  | group _ p => p.parts
  | p => [p]

/-- Readings of several patterns one after the other. -/
def ReadsAll : List Pattern → (before u rest : List Char) → Prop
  | [], _, u, _ => u = []
  | p :: ps, before, u, rest =>
    ∃ v w, u = v ++ w ∧ p.Reads before v (w ++ rest) ∧ ReadsAll ps (v.reverse ++ before) w rest

theorem readsAll_append {ps qs : List Pattern} :
    ReadsAll (ps ++ qs) before u rest ↔ ∃ v w, u = v ++ w ∧ ReadsAll ps before v (w ++ rest) ∧
      ReadsAll qs (v.reverse ++ before) w rest := by
  induction ps generalizing before u with
  | nil =>
    constructor
    · intro h
      exact ⟨[], u, rfl, rfl, h⟩
    · rintro ⟨v, w, rfl, rfl, h⟩
      exact h
  | cons p ps ih =>
    constructor
    · rintro ⟨v, _, rfl, hp, hrest⟩
      obtain ⟨w, w', rfl, hps, hqs⟩ := ih.mp hrest
      exact ⟨v ++ w, w', by simp, ⟨v, w, rfl, by simpa using hp, hps⟩, by simpa using hqs⟩
    · rintro ⟨_, w', rfl, ⟨v, w, rfl, hp, hps⟩, hqs⟩
      exact ⟨v, w ++ w', by simp, by simpa using hp, ih.mpr ⟨w, w', rfl, hps, by simpa using hqs⟩⟩

theorem readsAll_singleton : ReadsAll [p] before u rest ↔ p.Reads before u rest := by
  constructor
  · rintro ⟨v, w, rfl, hp, rfl⟩
    simpa using hp
  · intro h
    exact ⟨u, [], by simp, by simpa using h, rfl⟩

theorem readsAll_parts (p : Pattern) : ReadsAll p.parts before u rest ↔ p.Reads before u rest := by
  induction p generalizing before u rest with
  | empty => exact Iff.rfl
  | seq a b iha ihb =>
    rw [parts, readsAll_append]
    constructor
    · rintro ⟨v, w, rfl, ha, hb⟩
      exact ⟨v, w, rfl, iha.mp ha, ihb.mp hb⟩
    · rintro ⟨v, w, rfl, ha, hb⟩
      exact ⟨v, w, rfl, iha.mpr ha, ihb.mpr hb⟩
  | group number a ih => exact ih
  | _ => exact readsAll_singleton

theorem absent_of_parts {L : List Pattern} (hL : L <:+: p.parts)
    (ht : ∀ x u y, t = x ++ (u ++ y) → ¬ ReadsAll L x.reverse u y) : p.Absent t := by
  rintro x u y rfl hread
  obtain ⟨front, back, hparts⟩ := hL
  rw [← readsAll_parts, ← hparts, readsAll_append] at hread
  obtain ⟨_, w, rfl, hread, -⟩ := hread
  obtain ⟨v, v', rfl, -, hread⟩ := readsAll_append.mp hread
  refine ht (x ++ v) v' (w ++ y) (by simp) ?_
  simpa using hread

/-! ## Step by step -/

def Advances (p : Pattern) : Prop :=
  ∀ before u rest, p.Reads before u rest → u ≠ []

theorem advances_of_needs (hp : p.needs (fun _ => true) = true) : p.Advances := by
  rintro before u rest hread rfl
  obtain ⟨c, hc, -⟩ := hread.exists_mem hp
  simp at hc

theorem advances_stretch1 (s : CharSet) : (stretch1 s).Advances := by
  rintro before u rest ⟨hleast, -⟩ rfl
  simp at hleast

theorem Advances.seq_left {q : Pattern} (hp : p.Advances) : (p ++ q).Advances := by
  rintro before u rest ⟨v, w, rfl, hv, -⟩ hu
  exact hp _ _ _ hv (append_eq_nil_iff.mp hu).1

theorem Advances.seq_right {q : Pattern} (hp : p.Advances) : (q ++ p).Advances := by
  rintro before u rest ⟨v, w, rfl, -, hw⟩ hu
  exact hp _ _ _ hw (append_eq_nil_iff.mp hu).2

/-- The pieces of the text from a place on. -/
def cut (p : Pattern) (c : Cursor) : List Piece :=
  p.piecesFrom (c.rest.length + 1) false c

/-- Passes a character on to the piece in front. -/
def pass (x : Char) : List Piece → List Piece
  | .kept u :: more => .kept (x :: u) :: more
  | pieces => pieces

section

variable (hp : p.Advances)

include hp

theorem matchHere?_advances (h : p.matchHere? advance c = some m) :
    ∃ u rest, u ≠ [] ∧ c.rest = u ++ rest ∧ p.Reads c.before u rest ∧ m.first = c ∧
      m.last = c.past u rest := by
  obtain ⟨u, rest, hrest, hread, hfirst, hlast⟩ := matchHere?_sound h
  exact ⟨u, rest, hp _ _ _ hread, hrest, hread, hfirst, hlast⟩

theorem findFrom?_advances (h : p.findFrom? false rest before pos = some m) :
    m.isEmpty = false ∧ m.last.rest.length < rest.length := by
  obtain ⟨x, u, y, hrest, hread, hfirst, hlast⟩ := findFrom?_sound h
  have hu : 0 < u.length := length_pos_iff.mpr (hp _ _ _ hread)
  constructor
  · simp only [Match.isEmpty, hlast, past_pos, beq_eq_false_iff_ne]
    omega
  · rw [hlast, hrest]
    simp only [past_rest, length_append]
    omega

theorem matchHere?_nil (before : List Char) (pos : Nat) :
    p.matchHere? false ⟨before, [], pos⟩ = none := by
  rw [Option.eq_none_iff_forall_ne_some]
  intro m hm
  obtain ⟨u, rest, hu, hrest, -⟩ := matchHere?_advances hp hm
  simp [hu] at hrest

theorem scan_induction {motive : Cursor → Prop}
    (done : ∀ before pos, motive ⟨before, [], pos⟩)
    (hit : ∀ c m u y, p.matchHere? false c = some m → u ≠ [] → c.rest = u ++ y →
      p.Reads c.before u y → m.last = c.past u y → motive m.last → motive c)
    (miss : ∀ before x rest pos, p.matchHere? false ⟨before, x :: rest, pos⟩ = none →
      motive ⟨x :: before, rest, pos + 1⟩ → motive ⟨before, x :: rest, pos⟩)
    (c : Cursor) : motive c := by
  generalize hn : c.rest.length = n
  induction n using Nat.strongRecOn generalizing c with
  | _ n ih =>
    subst hn
    cases hm : p.matchHere? false c with
    | some m =>
      obtain ⟨u, y, hu, hrest, hread, -, hlast⟩ := matchHere?_advances hp hm
      refine hit c m u y hm hu hrest hread hlast (ih _ ?_ m.last rfl)
      have := length_pos_iff.mpr hu
      rw [hlast, hrest, past_rest, length_append]
      omega
    | none =>
      obtain ⟨before, rest, pos⟩ := c
      cases rest with
      | nil => exact done before pos
      | cons x rest => exact miss before x rest pos hm (ih rest.length (by simp) _ rfl)

theorem piecesFrom_congr {fuel' : Nat} (hfuel : c.rest.length < fuel)
    (hfuel' : c.rest.length < fuel') : p.piecesFrom fuel false c = p.piecesFrom fuel' false c := by
  induction fuel generalizing fuel' c with
  | zero => omega
  | succ fuel ih =>
    obtain ⟨fuel', rfl⟩ : ∃ n, fuel' = n + 1 := ⟨fuel' - 1, by omega⟩
    rw [piecesFrom, piecesFrom]
    cases hfind : p.findFrom? false c.rest c.before c.pos with
    | none => rfl
    | some m =>
      obtain ⟨hempty, hshort⟩ := findFrom?_advances hp hfind
      have hnext : p.piecesFrom fuel false m.last = p.piecesFrom fuel' false m.last :=
        ih (by omega) (by omega)
      simp only [hempty, hnext]

theorem piecesFrom_eq_cut (hfuel : c.rest.length < fuel) : p.piecesFrom fuel false c = p.cut c :=
  piecesFrom_congr hp hfuel (Nat.lt_succ_self _)

theorem pieces_eq_cut (t : List Char) : p.pieces t = p.cut (Cursor.start t) :=
  piecesFrom_eq_cut hp (by simp [Cursor.start]; omega)

theorem cut_nil (before : List Char) (pos : Nat) :
    p.cut ⟨before, [], pos⟩ = [.kept []] := by
  simp [cut, piecesFrom, findFrom?, matchHere?_nil hp]

theorem cut_of_matchHere? (h : p.matchHere? false c = some m) :
    p.cut c = .kept [] :: .hit m :: p.cut m.last := by
  have hfirst : m.first = c := by
    obtain ⟨u, rest, -, -, -, hfirst, -⟩ := matchHere?_advances hp h
    exact hfirst
  have hfind : p.findFrom? false c.rest c.before c.pos = some m := by
    obtain ⟨before, rest', pos⟩ := c
    cases rest' with
    | nil => exact h
    | cons x rest' => simp [findFrom?, h]
  obtain ⟨hempty, hshort⟩ := findFrom?_advances hp hfind
  rw [cut, piecesFrom, hfind]
  simp only [hempty, piecesFrom_eq_cut hp hshort, hfirst]
  simp [Cursor.upTo]

theorem cut_cons_of_none (h : p.matchHere? false ⟨before, x :: rest, pos⟩ = none) :
    p.cut ⟨before, x :: rest, pos⟩ = pass x (p.cut ⟨x :: before, rest, pos + 1⟩) := by
  have hfind : p.findFrom? false (x :: rest) before pos =
      p.findFrom? false rest (x :: before) (pos + 1) := by
    rw [findFrom?, h]
  rw [cut, cut, piecesFrom, piecesFrom, hfind]
  cases hnext : p.findFrom? false rest (x :: before) (pos + 1) with
  | none => rfl
  | some m =>
    obtain ⟨hempty, hshort⟩ := findFrom?_advances hp hnext
    have hpos : m.first.pos - pos = (m.first.pos - (pos + 1)) + 1 := by
      obtain ⟨y, u, z, -, -, hfirst, -⟩ := findFrom?_sound hnext
      rw [hfirst]
      simp only [past_pos]
      omega
    simp only [hempty, pass, length_cons]
    rw [piecesFrom_eq_cut hp hshort, piecesFrom_eq_cut hp (Nat.lt_succ_of_lt hshort)]
    simp [Cursor.upTo, hpos]

end

/-! ## Replacing, splitting and listing, step by step -/

/-- The text from a place on with every match replaced. -/
def rewrite (p : Pattern) (f : Match → List Char) (c : Cursor) : List Char :=
  (p.cut c).flatMap fun
    | .kept u => u
    | .hit m => f m

/-- The pieces between the matches from a place on. -/
def between (p : Pattern) (c : Cursor) : List (List Char) :=
  (p.cut c).filterMap fun
    | .kept u => some u
    | .hit _ => none

def hits (p : Pattern) (c : Cursor) : List Match :=
  (p.cut c).filterMap fun
    | .kept _ => none
    | .hit m => some m

theorem exists_cut_eq (p : Pattern) (c : Cursor) : ∃ u more, p.cut c = .kept u :: more := by
  rw [cut, piecesFrom]
  split
  · exact ⟨_, _, rfl⟩
  · exact ⟨_, _, rfl⟩

theorem exists_between_eq (p : Pattern) (c : Cursor) : ∃ u more, p.between c = u :: more := by
  obtain ⟨u, more, hcut⟩ := exists_cut_eq p c
  exact ⟨u, _, by rw [between, hcut]; rfl⟩

section

variable (hp : p.Advances)

include hp

theorem replaceBy_eq_rewrite (f : Match → List Char) (t : List Char) :
    p.replaceBy f t = p.rewrite f (Cursor.start t) := by
  rw [replaceBy, pieces_eq_cut hp]
  rfl

theorem split_eq_between (t : List Char) : p.split t = p.between (Cursor.start t) := by
  rw [split, pieces_eq_cut hp]
  rfl

theorem rewrite_nil (f : Match → List Char) (before : List Char) (pos : Nat) :
    p.rewrite f ⟨before, [], pos⟩ = [] := by
  simp [rewrite, cut_nil hp]

theorem rewrite_cons_of_none (f : Match → List Char)
    (h : p.matchHere? false ⟨before, x :: rest, pos⟩ = none) :
    p.rewrite f ⟨before, x :: rest, pos⟩ = x :: p.rewrite f ⟨x :: before, rest, pos + 1⟩ := by
  rw [rewrite, rewrite, cut_cons_of_none hp h]
  obtain ⟨u, more, hcut⟩ := exists_cut_eq p ⟨x :: before, rest, pos + 1⟩
  simp [hcut, pass]

theorem rewrite_of_matchHere? (f : Match → List Char) (h : p.matchHere? false c = some m) :
    p.rewrite f c = f m ++ p.rewrite f m.last := by
  simp [rewrite, cut_of_matchHere? hp h]

theorem between_nil (before : List Char) (pos : Nat) :
    p.between ⟨before, [], pos⟩ = [[]] := by
  simp [between, cut_nil hp]

theorem between_cons_of_none (h : p.matchHere? false ⟨before, x :: rest, pos⟩ = none) :
    ∃ u more, p.between ⟨x :: before, rest, pos + 1⟩ = u :: more ∧
      p.between ⟨before, x :: rest, pos⟩ = (x :: u) :: more := by
  obtain ⟨u, more, hcut⟩ := exists_cut_eq p ⟨x :: before, rest, pos + 1⟩
  exact ⟨u, _, by rw [between, hcut]; rfl, by rw [between, cut_cons_of_none hp h, hcut]; rfl⟩

theorem exists_matchHere?_of_between {v : List Char} {more : List (List Char)}
    (h : p.between c = [] :: v :: more) : ∃ m, p.matchHere? false c = some m := by
  cases hm : p.matchHere? false c with
  | some m => exact ⟨m, rfl⟩
  | none =>
    obtain ⟨before, rest, pos⟩ := c
    cases rest with
    | nil => simp [between_nil hp] at h
    | cons x rest =>
      obtain ⟨u, more, -, hbetween⟩ := between_cons_of_none hp hm
      simp [hbetween] at h

theorem between_of_matchHere? (h : p.matchHere? false c = some m) :
    p.between c = [] :: p.between m.last := by
  simp [between, cut_of_matchHere? hp h]

theorem allMatches_eq_hits (t : List Char) : p.allMatches t = p.hits (Cursor.start t) := by
  rw [allMatches, pieces_eq_cut hp]
  rfl

theorem hits_nil (before : List Char) (pos : Nat) : p.hits ⟨before, [], pos⟩ = [] := by
  rw [hits, cut_nil hp]
  rfl

theorem hits_cons_of_none (h : p.matchHere? false ⟨before, x :: rest, pos⟩ = none) :
    p.hits ⟨before, x :: rest, pos⟩ = p.hits ⟨x :: before, rest, pos + 1⟩ := by
  obtain ⟨u, more, hcut⟩ := exists_cut_eq p ⟨x :: before, rest, pos + 1⟩
  rw [hits, hits, cut_cons_of_none hp h, hcut]
  rfl

theorem hits_of_matchHere? (h : p.matchHere? false c = some m) : p.hits c = m :: p.hits m.last := by
  rw [hits, cut_of_matchHere? hp h]
  rfl

end

end Pattern

end MockGen
