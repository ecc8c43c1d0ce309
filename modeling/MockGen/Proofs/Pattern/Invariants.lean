import MockGen.Proofs.Pattern.Search

/-!
# Invariants of replacing and splitting

A scan moves over a match or over one character, so what both steps keep holds at its end.
-/

namespace MockGen.Pattern

open List

variable {p : Pattern} (hp : p.Advances) {I : List Char → Cursor → Prop} {t : List Char}
  {Q : List Char → Prop}

include hp

theorem replaceBy_invariant {f : Match → List Char}
    (hit : ∀ text c m u y, p.matchHere? false c = some m → c.rest = u ++ y →
      p.Reads c.before u y → m.last = c.past u y → I text c → I (text ++ f m) m.last)
    (miss : ∀ text before x rest pos, p.matchHere? false ⟨before, x :: rest, pos⟩ = none →
      I text ⟨before, x :: rest, pos⟩ → I (text ++ [x]) ⟨x :: before, rest, pos + 1⟩)
    (done : ∀ text c, c.rest = [] → I text c → Q text) (h : I [] (Cursor.start t)) :
    Q (p.replaceBy f t) := by
  have key : ∀ c text, I text c → Q (text ++ p.rewrite f c) := by
    intro c
    induction c using scan_induction hp with
    | done before pos =>
      intro text h
      rw [rewrite_nil hp, append_nil]
      exact done text _ rfl h
    | hit c m u y hm hu hrest hread hlast ih =>
      intro text h
      rw [rewrite_of_matchHere? hp f hm, ← append_assoc]
      exact ih _ (hit text c m u y hm hrest hread hlast h)
    | miss before x rest pos hm ih =>
      intro text h
      rw [rewrite_cons_of_none hp f hm, ← singleton_append, ← append_assoc]
      exact ih _ (miss text before x rest pos hm h)
  rw [replaceBy_eq_rewrite hp]
  exact key _ [] h

theorem replace_preserves {new : String}
    (hit : ∀ x before u y, p.Reads before u y → Q (x ++ (u ++ y)) → Q (x ++ (new.toList ++ y)))
    (h : Q t) : Q (p.replace new t) := by
  refine replaceBy_invariant hp (I := fun text c => Q (text ++ c.rest)) ?_ ?_ ?_ h
  · intro text c m u y hm hrest hread hlast hQ
    rw [hrest] at hQ
    rw [hlast, append_assoc]
    exact hit text _ u y hread hQ
  · intro text before x rest pos hm hQ
    simpa using hQ
  · intro text c hrest hQ
    rwa [hrest, append_nil] at hQ

theorem split_invariant {P : List Char → Prop}
    (hit : ∀ piece c m u y, p.matchHere? false c = some m → c.rest = u ++ y →
      p.Reads c.before u y → m.last = c.past u y → I piece c → P piece ∧ I [] m.last)
    (miss : ∀ piece before x rest pos, p.matchHere? false ⟨before, x :: rest, pos⟩ = none →
      I piece ⟨before, x :: rest, pos⟩ → I (piece ++ [x]) ⟨x :: before, rest, pos + 1⟩)
    (done : ∀ piece c, c.rest = [] → I piece c → P piece) (h : I [] (Cursor.start t)) :
    ∀ piece ∈ p.split t, P piece := by
  have key : ∀ c piece, I piece c →
      ∃ u more, p.between c = u :: more ∧ P (piece ++ u) ∧ ∀ w ∈ more, P w := by
    intro c
    induction c using scan_induction hp with
    | done before pos =>
      intro piece h
      refine ⟨[], [], between_nil hp before pos, ?_, by simp⟩
      rw [append_nil]
      exact done piece _ rfl h
    | hit c m u y hm hu hrest hread hlast ih =>
      intro piece h
      obtain ⟨hpiece, hnext⟩ := hit piece c m u y hm hrest hread hlast h
      obtain ⟨v, more, hbetween, hv, hmore⟩ := ih [] hnext
      refine ⟨[], _, between_of_matchHere? hp hm, by rwa [append_nil], ?_⟩
      rw [hbetween]
      exact forall_mem_cons.mpr ⟨hv, hmore⟩
    | miss before x rest pos hm ih =>
      intro piece h
      obtain ⟨u, more, hbetween, hu, hmore⟩ := ih _ (miss piece before x rest pos hm h)
      obtain ⟨u', more', hnext, hthis⟩ := between_cons_of_none hp hm
      obtain ⟨rfl, rfl⟩ := cons_eq_cons.mp (hnext.symm.trans hbetween)
      exact ⟨_, _, hthis, by simpa using hu, hmore⟩
  obtain ⟨u, more, hbetween, hu, hmore⟩ := key _ [] h
  rw [split_eq_between hp, hbetween]
  exact forall_mem_cons.mpr ⟨hu, hmore⟩

end MockGen.Pattern
