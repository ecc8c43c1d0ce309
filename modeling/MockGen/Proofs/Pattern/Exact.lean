import MockGen.Proofs.Pattern.Pieces

/-!
# Patterns whose matches are known exactly

A reading relation is exact for a pattern if every match is one of its readings and each of them is
found.  Unlike `Pattern.Reads` it may speak of what does not follow a place.
-/

namespace MockGen.Pattern

open Option

/-- The matcher reads with `p` what `R` allows, and finds a way on behind each of those readings. -/
structure Exact (p : Pattern) (R : List Char → List Char → List Char → Prop) : Prop where
  sound : ∀ {β : Type}, Sound (β := β) R p.run
  complete : ∀ {β : Type} {s : Progress} {k : Progress → Option β} {u rest : List Char},
    s.cursor.rest = u ++ rest → R s.cursor.before u rest →
      (∀ groups, (k ⟨s.cursor.past u rest, groups⟩).isSome = true) → (p.run s k).isSome = true

variable {t : List Char}

theorem exact_of_isSimple {p : Pattern} (hp : p.isSimple = true) : p.Exact p.Reads :=
  ⟨run_sound p, run_complete p hp⟩

theorem run_opt {β : Type} (p : Pattern) (s : Progress) (k : Progress → Option β) :
    (opt p).run s k = (p.run s k).or (k s) := by
  change iterate p.run true 2 0 (some 1) s k = _
  have hlast : (fun q : Progress => if q.cursor.pos == s.cursor.pos then k q
      else iterate p.run true 1 0 ((some 1).map (· - 1)) q k) = k := by
    funext q
    split <;> rfl
  rw [iterate]
  simp only [hlast]
  cases p.run s k <;> rfl

namespace Exact

variable {p q : Pattern} {R S : List Char → List Char → List Char → Prop}

theorem append (hp : p.Exact R) (hq : q.Exact S) :
    (p ++ q).Exact fun before u rest =>
      ∃ v w, u = v ++ w ∧ R before v (w ++ rest) ∧ S (v.reverse ++ before) w rest := by
  constructor
  · intro β s k x h
    obtain ⟨v, _, _, hrest, hv, hk⟩ := hp.sound s _ x h
    obtain ⟨w, rest, groups, hmore, hw, hk⟩ := hq.sound _ k x hk
    obtain rfl : _ = w ++ rest := hmore
    exact ⟨v ++ w, rest, groups, by simpa using hrest, ⟨v, w, rfl, hv, hw⟩, by simpa using hk⟩
  · rintro β s k _ rest hrest ⟨v, w, rfl, hv, hw⟩ hk
    refine hp.complete (by simpa using hrest) hv fun groups => ?_
    exact hq.complete rfl hw fun groups => by simpa using hk groups

theorem opt (hp : p.Exact R) :
    (Pattern.opt p).Exact fun before u rest => R before u rest ∨ u = [] := by
  constructor
  · intro β s k x h
    rw [run_opt, or_eq_some_iff] at h
    rcases h with h | ⟨-, h⟩
    · obtain ⟨u, rest, groups, hrest, hu, hk⟩ := hp.sound s k x h
      exact ⟨u, rest, groups, hrest, Or.inl hu, hk⟩
    · exact ⟨[], s.cursor.rest, s.groups, rfl, Or.inr rfl, h⟩
  · intro β s k u rest hrest hu hk
    rw [run_opt, isSome_or, Bool.or_eq_true]
    rcases hu with hu | rfl
    · exact Or.inl (hp.complete hrest hu hk)
    · obtain rfl : s.cursor.rest = rest := hrest
      exact Or.inr (hk s.groups)

theorem orElse (hp : p.Exact R) (hq : q.Exact S) :
    (p <|> q : Pattern).Exact fun before u rest => R before u rest ∨ S before u rest := by
  have hrun : ∀ {β : Type} (s : Progress) (k : Progress → Option β),
      (p <|> q : Pattern).run s k = (p.run s k).or (q.run s k) := by
    intro β s k
    change (alt p q).run s k = _
    rw [run]
    cases p.run s k <;> rfl
  constructor
  · intro β s k x h
    rw [hrun, or_eq_some_iff] at h
    rcases h with h | ⟨-, h⟩
    · obtain ⟨u, rest, groups, hrest, hu, hk⟩ := hp.sound s k x h
      exact ⟨u, rest, groups, hrest, Or.inl hu, hk⟩
    · obtain ⟨u, rest, groups, hrest, hu, hk⟩ := hq.sound s k x h
      exact ⟨u, rest, groups, hrest, Or.inr hu, hk⟩
  · intro β s k u rest hrest hu hk
    rw [hrun, isSome_or, Bool.or_eq_true]
    exact hu.imp (hp.complete hrest · hk) (hq.complete hrest · hk)

theorem exists_of_mem_allMatches (hp : p.Exact R) {m : Match} (h : m ∈ p.allMatches t) :
    ∃ before rest, R before m.text rest := by
  obtain ⟨advance, c, hmatch⟩ := exists_matchHere?_of_mem_allMatches h
  obtain ⟨u, rest, groups, hrest, hread, hm⟩ := hp.sound _ _ m hmatch
  split at hm
  · cases hm
  · obtain rfl := Option.some.inj hm
    refine ⟨c.before, rest, ?_⟩
    rw [Match.text, Cursor.upTo_past hrest]
    exact hread

theorem notAhead (hp : p.Exact R) : (ahead p false).Exact fun before u rest =>
    u = [] ∧ ∀ v w, rest = v ++ w → ¬R before v w := by
  have hrun : ∀ {β : Type} (s : Progress) (k : Progress → Option β), (ahead p false).run s k =
      if (p.run s some).isSome then none else k s := by
    intro β s k
    rw [run]
    cases p.run s some <;> rfl
  constructor
  · intro β s k x h
    rw [hrun] at h
    split at h
    · cases h
    · next hnone =>
      refine ⟨[], s.cursor.rest, s.groups, rfl, ⟨rfl, fun v w hrest hread => hnone ?_⟩, h⟩
      exact hp.complete hrest hread fun _ => rfl
  · rintro β s k _ rest hrest ⟨rfl, hnot⟩ hk
    obtain rfl : s.cursor.rest = rest := hrest
    rw [hrun, if_neg]
    · exact hk s.groups
    · intro hfound
      obtain ⟨q, hq⟩ := isSome_iff_exists.mp hfound
      obtain ⟨v, w, _, hrest, hread, -⟩ := hp.sound s some q hq
      exact hnot v w hrest hread

theorem occursIn_iff (hp : p.Exact R) :
    p.occursIn t = true ↔ ∃ x u y, t = x ++ (u ++ y) ∧ R x.reverse u y := by
  have hhere : ∀ {c : Cursor}, (p.matchHere? false c).isSome = true ↔
      ∃ u rest, c.rest = u ++ rest ∧ R c.before u rest := by
    intro c
    constructor
    · intro h
      obtain ⟨m, hm⟩ := isSome_iff_exists.mp h
      obtain ⟨u, rest, _, hrest, hread, -⟩ := hp.sound _ _ m hm
      exact ⟨u, rest, hrest, hread⟩
    · rintro ⟨u, rest, hrest, hread⟩
      exact hp.complete hrest hread fun _ => rfl
  have key : ∀ (t before : List Char) (pos : Nat),
      (p.findFrom? false t before pos).isSome = true ↔
        ∃ x u y, t = x ++ (u ++ y) ∧ R (x.reverse ++ before) u y := by
    intro t
    induction t with
    | nil =>
      intro before pos
      refine hhere.trans ⟨?_, ?_⟩
      · rintro ⟨u, rest, hrest, hread⟩
        exact ⟨[], u, rest, hrest, hread⟩
      · rintro ⟨x, u, y, ht, hread⟩
        obtain ⟨rfl, hrest⟩ := List.append_eq_nil_iff.mp ht.symm
        exact ⟨u, y, hrest.symm, hread⟩
    | cons c t ih =>
      intro before pos
      rw [findFrom?]
      split
      · next m hm =>
        obtain ⟨u, rest, hrest, hread⟩ := hhere.mp (isSome_iff_exists.mpr ⟨m, hm⟩)
        exact ⟨fun _ => ⟨[], u, rest, hrest, hread⟩, fun _ => rfl⟩
      · next hnone =>
        rw [ih]
        constructor
        · rintro ⟨x, u, y, rfl, hread⟩
          exact ⟨c :: x, u, y, rfl, by simpa using hread⟩
        · rintro ⟨x, u, y, ht, hread⟩
          cases x with
          | nil =>
            have hsome : (p.matchHere? false ⟨before, c :: t, pos⟩).isSome = true :=
              hhere.mpr ⟨u, y, ht, hread⟩
            rw [hnone] at hsome
            cases hsome
          | cons d x =>
            obtain ⟨rfl, rfl⟩ := List.cons.inj ht
            exact ⟨x, u, y, rfl, by simpa using hread⟩
  rw [occursIn, find?]
  simpa using key t [] 0

end Exact

theorem occursIn_iff {p : Pattern} (hp : p.isSimple = true) :
    p.occursIn t = true ↔ ∃ x u y, t = x ++ (u ++ y) ∧ p.Reads x.reverse u y :=
  (exact_of_isSimple hp).occursIn_iff

end MockGen.Pattern
