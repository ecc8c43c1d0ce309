import MockGen.Proofs.Pattern.Pieces

/-!
# Where a search ends and what a stretch takes

A search passes over the places at which no reading starts.  A greedy stretch takes the longest text
from which the match goes on, and a lazy one the shortest.
-/

namespace MockGen.Pattern

open List Option

variable {p : Pattern} {c : Cursor} {least : Nat}

/-! ## Passing over places -/

/-- No reading of the pattern starts in `x`, where `before` lies behind it and `y` follows. -/
def Passes (p : Pattern) (before x y : List Char) : Prop :=
  ∀ a b u rest, x = a ++ b → b ≠ [] → b ++ y = u ++ rest → ¬p.Reads (a.reverse ++ before) u rest

theorem matchHere?_eq_none {advance : Bool}
    (h : ∀ u rest, c.rest = u ++ rest → ¬p.Reads c.before u rest) :
    p.matchHere? advance c = none := by
  rw [eq_none_iff_forall_ne_some]
  intro m hm
  obtain ⟨u, rest, hrest, hread, -⟩ := matchHere?_sound hm
  exact h u rest hrest hread

theorem not_reads_of_matchHere? (hp : p.isSimple = true) (h : p.matchHere? false c = none)
    {u y : List Char} (hrest : c.rest = u ++ y) : ¬p.Reads c.before u y := by
  intro hread
  have hsome := matchHere?_isSome hp hrest hread
  rw [h] at hsome
  cases hsome

namespace Passes

variable {before x y : List Char}

theorem head {c : Char} (h : p.Passes before (c :: x) y) {u rest : List Char}
    (hrest : c :: (x ++ y) = u ++ rest) : ¬p.Reads before u rest :=
  h [] (c :: x) u rest rfl (cons_ne_nil c x) hrest

theorem tail {c : Char} (h : p.Passes before (c :: x) y) : p.Passes (c :: before) x y := by
  intro a b u rest hx hb hrest hread
  refine h (c :: a) b u rest (by rw [hx]; rfl) hb hrest ?_
  simpa using hread

theorem findFrom?_append (h : p.Passes before x y) (pos : Nat) :
    p.findFrom? false (x ++ y) before pos =
      p.findFrom? false y (x.reverse ++ before) (pos + x.length) := by
  induction x generalizing before pos with
  | nil => rfl
  | cons c x ih =>
    have hnone : p.matchHere? false ⟨before, c :: (x ++ y), pos⟩ = none :=
      matchHere?_eq_none fun u rest hrest => h.head hrest
    rw [cons_append, findFrom?, hnone]
    simp only [ih h.tail, reverse_cons, append_assoc, singleton_append,
      length_cons, Nat.add_assoc, Nat.add_comm 1]

theorem exists_cut_append (hp : p.Advances) (h : p.Passes before x y) (pos : Nat) :
    ∃ u more, p.cut ⟨x.reverse ++ before, y, pos + x.length⟩ = .kept u :: more ∧
      p.cut ⟨before, x ++ y, pos⟩ = .kept (x ++ u) :: more := by
  induction x generalizing before pos with
  | nil =>
    obtain ⟨u, more, hcut⟩ := exists_cut_eq p ⟨before, y, pos⟩
    exact ⟨u, more, hcut, hcut⟩
  | cons c x ih =>
    have hnone : p.matchHere? false ⟨before, c :: (x ++ y), pos⟩ = none :=
      matchHere?_eq_none fun u rest hrest => h.head hrest
    obtain ⟨u, more, hbehind, hcut⟩ := ih h.tail (pos + 1)
    refine ⟨u, more, ?_, by rw [cons_append, cut_cons_of_none hp hnone, hcut]; rfl⟩
    rw [← hbehind]
    simp only [reverse_cons, append_assoc, singleton_append, length_cons, Nat.add_assoc,
      Nat.add_comm 1]

theorem rewrite_append (hp : p.Advances) (h : p.Passes before x y) (f : Match → List Char)
    (pos : Nat) :
    p.rewrite f ⟨before, x ++ y, pos⟩ =
      x ++ p.rewrite f ⟨x.reverse ++ before, y, pos + x.length⟩ := by
  obtain ⟨u, more, hbehind, hcut⟩ := h.exists_cut_append hp pos
  rw [rewrite, hcut, rewrite, hbehind]
  exact append_assoc x u _

theorem hits_append (hp : p.Advances) (h : p.Passes before x y) (pos : Nat) :
    p.hits ⟨before, x ++ y, pos⟩ = p.hits ⟨x.reverse ++ before, y, pos + x.length⟩ := by
  obtain ⟨u, more, hbehind, hcut⟩ := h.exists_cut_append hp pos
  rw [hits, hcut, hits, hbehind]
  rfl

end Passes

theorem find?_eq_some {x y : List Char} {m : Match} (h : p.Passes [] x y)
    (hm : p.matchHere? false ⟨x.reverse, y, x.length⟩ = some m) : p.find? (x ++ y) = some m := by
  rw [find?, h.findFrom?_append]
  simp only [append_nil, Nat.zero_add]
  cases y with
  | nil => exact hm
  | cons c y => rw [findFrom?, hm]

theorem exists_matchHere?_eq (hp : p.isSimple = true) {before u y : List Char}
    (hread : p.Reads before u y)
    (hunique : ∀ v z, u ++ y = v ++ z → p.Reads before v z → z = y) (pos : Nat) :
    ∃ m, p.matchHere? false ⟨before, u ++ y, pos⟩ = some m ∧
      m.last = (⟨before, u ++ y, pos⟩ : Cursor).past u y := by
  obtain ⟨m, hm⟩ := isSome_iff_exists.mp
    (matchHere?_isSome (c := ⟨before, u ++ y, pos⟩) hp rfl hread)
  obtain ⟨v, z, htext, hreads, -, hlast⟩ := matchHere?_sound hm
  obtain rfl := hunique v z htext hreads
  obtain rfl : u = v := append_cancel_right htext
  exact ⟨m, hm, hlast⟩

/-! ## What a stretch takes -/

section

variable {β : Type} {s : CharSet} {q : Progress} {k : Progress → Option β} {u y : List Char}
  {result : β}

theorem run_one_past {c : Char} (hrest : q.cursor.rest = c :: y) (hc : s.mem c = true) :
    (one s).run q k = k ⟨q.cursor.past [c] y, q.groups⟩ := by
  obtain ⟨⟨before, _, pos⟩, groups⟩ := q
  obtain rfl : _ = c :: y := hrest
  exact run_one hc before y pos

theorem run_one_eq_none (h : ∀ c ∈ q.cursor.rest.head?, s.mem c = false) :
    (one s).run q k = none := by
  rw [eq_none_iff_forall_ne_some]
  intro result hresult
  obtain ⟨c, y, hrest, hc, -⟩ := run_one_sound hresult
  rw [h c (by rw [hrest]; rfl)] at hc
  cases hc

theorem run_text {w : String} (h : q.cursor.rest = w.toList ++ y) :
    (text w).run q k = k ⟨q.cursor.past w.toList y, q.groups⟩ := by
  rw [text]
  generalize w.toList = w at *
  induction w generalizing q with
  | nil =>
    obtain ⟨⟨before, _, pos⟩, groups⟩ := q
    obtain rfl : _ = y := h
    rfl
  | cons c w ih =>
    rw [foldr_cons]
    change (char c ++ _).run q k = _
    rw [run_append, char, run_one_past (c := c) (y := w ++ y) h (by simp [CharSet.mem]),
      ih (by rfl)]
    simp

theorem run_place {a : Anchor} (h : a.holds q.cursor = true) : (place a).run q k = k q := by
  rw [run, if_pos h]

theorem run_orElse_left {p' : Pattern} (h : p.run q k = some result) :
    (p <|> p' : Pattern).run q k = some result := by
  change (alt p p').run q k = some result
  rw [run, h]

theorem run_span_longest (hrest : q.cursor.rest = u ++ y) (hleast : least ≤ u.length)
    (hu : ∀ c ∈ u, s.mem c = true)
    (hlonger : ∀ v w, y = v ++ w → v ≠ [] → (∀ c ∈ v, s.mem c = true) →
      k ⟨q.cursor.past (u ++ v) w, q.groups⟩ = none)
    (hk : k ⟨q.cursor.past u y, q.groups⟩ = some result) :
    (span s least none true).run q k = some result := by
  have hlength : u.length ≤ spanLength s q.cursor.rest none := by
    rw [spanLength_none, hrest, takeWhile_append_of_pos hu, length_append]
    omega
  have hsome : ((span s least none true).run q k).isSome = true := by
    rw [run_span, findSome?_isSome_iff]
    refine ⟨u.length, mem_spanOrder.mpr ⟨hleast, hlength⟩, ?_⟩
    rw [Cursor.skip_length hrest, hk]
    rfl
  obtain ⟨found, hfound⟩ := isSome_iff_exists.mp hsome
  rw [run_span] at hfound
  obtain ⟨i, -, hi, hki, hnone⟩ := exists_longest hfound
  have hle : ¬i < u.length := by
    intro hlt
    have := hnone u.length hlt hlength
    rw [Cursor.skip_length hrest, hk] at this
    cases this
  obtain ⟨j, rfl⟩ : ∃ j, i = u.length + j := ⟨i - u.length, by omega⟩
  have htake : q.cursor.rest.take (u.length + j) = u ++ y.take j := by
    rw [hrest, take_length_add_append]
  have hdrop : q.cursor.rest.drop (u.length + j) = y.drop j := by
    rw [hrest, drop_length_add_append]
  rw [Cursor.skip, htake, hdrop] at hki
  by_cases hv : y.take j = []
  · have hj : y.drop j = y := by
      have := take_append_drop j y
      rwa [hv, nil_append] at this
    rw [hv, hj, append_nil, hk] at hki
    rw [run_span, hfound, ← hki]
  · have hmem : ∀ c ∈ y.take j, s.mem c = true := by
      intro c hc
      refine mem_of_mem_take_spanLength hi c ?_
      rw [htake]
      exact mem_append_right u hc
    rw [hlonger _ _ (take_append_drop j y).symm hv hmem] at hki
    cases hki

theorem run_span_exact (hrest : q.cursor.rest = u ++ y) (hleast : least ≤ u.length)
    (hu : ∀ c ∈ u, s.mem c = true) (hy : ∀ c ∈ y.head?, s.mem c = false)
    (hk : k ⟨q.cursor.past u y, q.groups⟩ = some result) :
    (span s least none true).run q k = some result := by
  refine run_span_longest hrest hleast hu (fun v w heq hne hmem => ?_) hk
  obtain ⟨c, v, rfl⟩ := exists_cons_of_ne_nil hne
  have hc := hy c (by rw [heq]; rfl)
  rw [hmem c (by simp)] at hc
  cases hc

theorem run_starLazy_shortest (hrest : q.cursor.rest = u ++ y)
    (hu : ∀ c ∈ u, s.mem c = true)
    (hshorter : ∀ v w, u = v ++ w → w ≠ [] → k ⟨q.cursor.past v (w ++ y), q.groups⟩ = none)
    (hk : k ⟨q.cursor.past u y, q.groups⟩ = some result) :
    (starLazy s).run q k = some result := by
  have hlength : u.length ≤ spanLength s q.cursor.rest none := by
    rw [spanLength_none, hrest, takeWhile_append_of_pos hu, length_append]
    omega
  have hsplit : spanOrder s 0 none false q.cursor.rest = List.range' 0 u.length ++
      u.length :: List.range' (u.length + 1) (spanLength s q.cursor.rest none - u.length) := by
    have hsum : spanLength s q.cursor.rest none + 1 - 0 =
        u.length + (spanLength s q.cursor.rest none - u.length + 1) := by omega
    rw [spanOrder, hsum, ← range'_append, range'_succ]
    simp
  have hbefore : ∀ i ∈ List.range' 0 u.length, k ⟨q.cursor.skip i, q.groups⟩ = none := by
    intro i hi
    have hlt : i < u.length := by simpa using hi
    have htake : q.cursor.rest.take i = u.take i := by
      rw [hrest, take_append_of_le_length (by omega)]
    have hdrop : q.cursor.rest.drop i = u.drop i ++ y := by
      rw [hrest, drop_append_of_le_length (by omega)]
    rw [Cursor.skip, htake, hdrop]
    refine hshorter _ _ (take_append_drop i u).symm ?_
    rw [Ne, drop_eq_nil_iff]
    omega
  rw [starLazy, run_span, hsplit, findSome?_append, findSome?_cons,
    Cursor.skip_length hrest, hk, findSome?_eq_none_iff.mpr hbefore]
  rfl

end

theorem matchHere?_stretch_longest {s : CharSet} {m : Match}
    (h : (p ++ span s least none true).matchHere? false c = some m) :
    ∀ x ∈ m.last.rest.head?, s.mem x = false := by
  obtain ⟨u, rest, groups, -, -, hm⟩ := run_sound p _ _ _ h
  rw [run_span] at hm
  obtain ⟨i, -, hi, hthis, hlater⟩ := exists_longest hm
  obtain rfl := Option.some.inj hthis
  intro x hx
  by_contra hmem
  rw [Bool.not_eq_false] at hmem
  -- One more character would fit.
  rw [spanLength_none] at hi
  have hsum := length_takeWhile_drop hi
  obtain ⟨y, hdrop⟩ := head?_eq_some_iff.mp hx
  have hdrop : (c.past u rest).rest.drop i = x :: y := hdrop
  rw [hdrop, takeWhile_cons, if_pos hmem, length_cons] at hsum
  have hnone := hlater (i + 1) (Nat.lt_succ_self i) (by rw [spanLength_none]; omega)
  cases hnone

end MockGen.Pattern
