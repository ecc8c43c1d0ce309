import MockGen.Header.Inline
import MockGen.Proofs.Pattern.Search

/-!
# Groups in braces

A pass over a text replaces every innermost group, and a balanced group is gone after as many passes
as it has pairs of braces.  What stands behind it is changed by every pass, too: it stays as it is
only if no brace in it closes behind one that opens.
-/

namespace MockGen.Header

open Text Pattern List

/-! ## One pass -/

def Braceless (t : List Char) : Prop :=
  '\x7b' ∉ t ∧ '\x7d' ∉ t

instance (t : List Char) : Decidable (Braceless t) :=
  inferInstanceAs (Decidable (_ ∧ _))

/-- An innermost group with the white space in front of it. -/
structure Innermost (w v : List Char) : Prop where
  blank : ∀ c ∈ w, isBlank c = true
  braceless : Braceless v

variable {t : List Char}

theorem reads_innermostBody {before u rest : List Char} : innermostBody.Reads before u rest ↔
    ∃ w v, u = w ++ '\x7b' :: (v ++ ['\x7d']) ∧ Innermost w v := by
  constructor
  · rintro ⟨_, z, rfl, ⟨_, v, rfl, ⟨w, x, rfl, hw, hx⟩, hv⟩, hz⟩
    obtain rfl := reads_char.mp hx
    obtain rfl := reads_char.mp hz
    have hv := reads_stretch.mp hv
    refine ⟨w, v, by simp, reads_blanks.mp hw, fun hmem => ?_, fun hmem => ?_⟩
    · exact absurd (hv _ hmem) (by decide)
    · exact absurd (hv _ hmem) (by decide)
  · rintro ⟨w, v, rfl, hw, hopen, hclose⟩
    refine ⟨w ++ '\x7b' :: v, ['\x7d'], by simp, ⟨w ++ ['\x7b'], v, by simp,
      ⟨w, ['\x7b'], rfl, reads_blanks.mpr hw, reads_char.mpr rfl⟩, ?_⟩, reads_char.mpr rfl⟩
    refine reads_stretch.mpr fun c hc => ?_
    have hne : c ≠ '\x7b' ∧ c ≠ '\x7d' := ⟨fun h => hopen (h ▸ hc), fun h => hclose (h ▸ hc)⟩
    simp [CharSet.mem, CharSet.ofString, hne.1, hne.2]

theorem innermostBody_advances : innermostBody.Advances :=
  advances_of_needs rfl

theorem append_cons_inj {a : Char} {x x' z z' : List Char} (hx : a ∉ x) (hx' : a ∉ x')
    (h : x ++ a :: z = x' ++ a :: z') : x = x' ∧ z = z' := by
  induction x generalizing x' with
  | nil =>
    cases x' with
    | nil => simpa using h
    | cons b x' => exact absurd (by simp [(List.cons.inj h).1]) hx'
  | cons b x ih =>
    cases x' with
    | nil => exact absurd (by simp [(List.cons.inj h).1]) hx
    | cons b' x' =>
      have htail : x ++ a :: z = x' ++ a :: z' := (List.cons.inj h).2
      obtain ⟨rfl, rfl⟩ :=
        ih (fun hmem => hx (by simp [hmem])) (fun hmem => hx' (by simp [hmem])) htail
      exact ⟨by rw [(List.cons.inj h).1], rfl⟩

namespace Innermost

variable {w v w' v' y y' : List Char}

theorem open_notMem (h : Innermost w v) : '\x7b' ∉ w :=
  fun hmem => absurd (h.blank _ hmem) (by decide)

theorem rest_eq (h : Innermost w v) (h' : Innermost w' v')
    (heq : w ++ '\x7b' :: (v ++ '\x7d' :: y) = w' ++ '\x7b' :: (v' ++ '\x7d' :: y')) : y = y' := by
  obtain ⟨-, hv⟩ := append_cons_inj h.open_notMem h'.open_notMem heq
  exact (append_cons_inj h.braceless.2 h'.braceless.2 hv).2

theorem exists_matchHere? (h : Innermost w v) (before y : List Char) (pos : Nat) :
    ∃ m, innermostBody.matchHere? false ⟨before, w ++ '\x7b' :: (v ++ '\x7d' :: y), pos⟩ = some m ∧
      m.last.rest = y := by
  have hunique : ∀ u z, (w ++ '\x7b' :: (v ++ ['\x7d'])) ++ y = u ++ z →
      innermostBody.Reads before u z → z = y := by
    intro u z htext hread
    obtain ⟨w', v', rfl, h'⟩ := reads_innermostBody.mp hread
    exact h'.rest_eq h (by simpa using htext.symm)
  obtain ⟨m, hm, hlast⟩ :=
    exists_matchHere?_eq rfl (reads_innermostBody.mpr ⟨w, v, rfl, h⟩) hunique pos
  exact ⟨m, by simpa using hm, by rw [hlast]; rfl⟩

end Innermost

/-- One pass: every innermost group becomes a semicolon. -/
def dropInnermost (t : List Char) : List Char :=
  innermostBody.replace ";" t

theorem rewrite_innermostBody (new : List Char) (c d : Cursor) (h : c.rest = d.rest) :
    innermostBody.rewrite (fun _ => new) c = innermostBody.rewrite (fun _ => new) d := by
  have hp := innermostBody_advances
  induction c using scan_induction hp generalizing d with
  | done before pos =>
    obtain ⟨before', rest', pos'⟩ := d
    obtain rfl : [] = rest' := h
    rw [rewrite_nil hp, rewrite_nil hp]
  | hit c m u y hm hu hrest hread hlast ih =>
    obtain ⟨w, v, rfl, hin⟩ := reads_innermostBody.mp hread
    have hd : d.rest = w ++ '\x7b' :: (v ++ '\x7d' :: y) := by rw [← h, hrest]; simp
    obtain ⟨before', _, pos'⟩ := d
    obtain rfl : _ = w ++ '\x7b' :: (v ++ '\x7d' :: y) := hd
    obtain ⟨m', hm', hlast'⟩ := hin.exists_matchHere? before' y pos'
    rw [rewrite_of_matchHere? hp _ hm, rewrite_of_matchHere? hp _ hm',
      ih m'.last (by rw [hlast, hlast']; rfl)]
  | miss before x rest pos hm ih =>
    obtain ⟨before', _, pos'⟩ := d
    obtain rfl : x :: rest = _ := h
    have hm' : innermostBody.matchHere? false ⟨before', x :: rest, pos'⟩ = none := by
      rw [Option.eq_none_iff_forall_ne_some]
      intro m' hm'
      obtain ⟨u, y, hrest, hread, -⟩ := matchHere?_sound hm'
      obtain ⟨w, v, rfl, hin⟩ := reads_innermostBody.mp hread
      have hsome := matchHere?_isSome (c := ⟨before, x :: rest, pos⟩) rfl hrest
        (reads_innermostBody.mpr ⟨w, v, rfl, hin⟩)
      rw [hm] at hsome
      cases hsome
    rw [rewrite_cons_of_none hp _ hm, rewrite_cons_of_none hp _ hm',
      ih ⟨x :: before', rest, pos' + 1⟩ rfl]

theorem rewrite_eq_dropInnermost (c : Cursor) :
    innermostBody.rewrite (fun _ => ";".toList) c = dropInnermost c.rest := by
  rw [dropInnermost, Pattern.replace, replaceBy_eq_rewrite innermostBody_advances]
  exact rewrite_innermostBody _ _ _ rfl

@[simp] theorem dropInnermost_nil : dropInnermost [] = [] := rfl

theorem dropInnermost_group {w v : List Char} (h : Innermost w v) (y : List Char) :
    dropInnermost (w ++ '\x7b' :: (v ++ '\x7d' :: y)) = ';' :: dropInnermost y := by
  have hp := innermostBody_advances
  obtain ⟨m, hm, hlast⟩ := h.exists_matchHere? [] y 0
  have hstart := rewrite_eq_dropInnermost ⟨[], w ++ '\x7b' :: (v ++ '\x7d' :: y), 0⟩
  rw [rewrite_of_matchHere? hp _ hm, rewrite_eq_dropInnermost, hlast] at hstart
  exact hstart.symm

theorem dropInnermost_cons {c : Char}
    (h : ∀ w v y, Innermost w v → c :: t ≠ w ++ '\x7b' :: (v ++ '\x7d' :: y)) :
    dropInnermost (c :: t) = c :: dropInnermost t := by
  have hp := innermostBody_advances
  have hnone : innermostBody.matchHere? false ⟨[], c :: t, 0⟩ = none := by
    rw [Option.eq_none_iff_forall_ne_some]
    intro m hm
    obtain ⟨u, y, hrest, hread, -⟩ := matchHere?_sound hm
    obtain ⟨w, v, rfl, hin⟩ := reads_innermostBody.mp hread
    exact h w v y hin (by simpa using hrest)
  have hstart := rewrite_eq_dropInnermost ⟨[], c :: t, 0⟩
  rw [rewrite_cons_of_none hp _ hnone, rewrite_eq_dropInnermost] at hstart
  exact hstart.symm

theorem dropInnermost_cons_of_ne {c : Char} (hblank : isBlank c = false) (hopen : c ≠ '\x7b')
    (t : List Char) : dropInnermost (c :: t) = c :: dropInnermost t := by
  refine dropInnermost_cons ?_
  rintro (_ | ⟨d, w⟩) v y hin heq
  · exact hopen (List.cons.inj heq).1
  · obtain ⟨rfl, -⟩ := List.cons.inj heq
    rw [hin.blank c (by simp)] at hblank
    cases hblank

theorem dropBodies_succ (times : Nat) (t : List Char) :
    dropBodies (times + 1) t = dropBodies times (dropInnermost t) :=
  rfl

/-! ## Texts without groups -/

/-- A brace that opens, and one behind it that closes. -/
def HasGroup (t : List Char) : Prop :=
  ∃ x v y, t = x ++ '\x7b' :: (v ++ '\x7d' :: y)

theorem HasGroup.exists_innermost (h : HasGroup t) :
    ∃ x v y, t = x ++ '\x7b' :: (v ++ '\x7d' :: y) ∧ Braceless v := by
  obtain ⟨x, v, y, rfl⟩ := h
  generalize hn : v.length = n
  induction n using Nat.strongRecOn generalizing x v y with
  | _ n ih =>
    subst hn
    by_cases hopen : '\x7b' ∈ v
    · obtain ⟨a, b, rfl⟩ := append_of_mem hopen
      obtain ⟨x', v', y', htext, hv'⟩ :=
        ih b.length (by simp; omega) (x ++ '\x7b' :: a) b y rfl
      exact ⟨x', v', y', by simpa using htext, hv'⟩
    · by_cases hclose : '\x7d' ∈ v
      · obtain ⟨a, b, rfl⟩ := append_of_mem hclose
        obtain ⟨x', v', y', htext, hv'⟩ :=
          ih a.length (by simp) x a (b ++ '\x7d' :: y) rfl
        exact ⟨x', v', y', by simpa using htext, hv'⟩
      · exact ⟨x, v, y, rfl, hopen, hclose⟩

theorem dropInnermost_eq_self (h : ¬HasGroup t) : dropInnermost t = t := by
  refine Absent.replace_eq ?_ ";"
  rintro x u y rfl hread
  obtain ⟨w, v, rfl, -⟩ := reads_innermostBody.mp hread
  exact h ⟨x ++ w, v, y, by simp⟩

theorem length_dropInnermost (t : List Char) : (dropInnermost t).length ≤ t.length ∧
    (HasGroup t → (dropInnermost t).length < t.length) := by
  generalize hn : t.length = n
  induction n using Nat.strongRecOn generalizing t with
  | _ n ih =>
    subst hn
    by_cases hstart : ∃ w v y, Innermost w v ∧ t = w ++ '\x7b' :: (v ++ '\x7d' :: y)
    · obtain ⟨w, v, y, hin, rfl⟩ := hstart
      have hy := (ih y.length (by simp; omega) y rfl).1
      rw [dropInnermost_group hin]
      simp only [length_append, length_cons]
      exact ⟨by omega, fun _ => by omega⟩
    · push Not at hstart
      cases t with
      | nil => exact ⟨Nat.le_refl _, fun ⟨x, v, y, h⟩ => by simp at h⟩
      | cons c t =>
        obtain ⟨hle, hlt⟩ := ih t.length (by simp) t rfl
        rw [dropInnermost_cons hstart]
        refine ⟨Nat.succ_le_succ hle, fun hgroup => Nat.succ_lt_succ (hlt ?_)⟩
        obtain ⟨x, v, y, htext, hv⟩ := hgroup.exists_innermost
        cases x with
        | nil => exact absurd htext (hstart [] v y ⟨by simp, hv⟩)
        | cons d x => exact ⟨x, v, y, (List.cons.inj htext).2⟩

theorem length_dropBodies_le (times : Nat) (t : List Char) :
    (dropBodies times t).length ≤ t.length := by
  induction times generalizing t with
  | zero => exact Nat.le_refl _
  | succ times ih => exact Nat.le_trans (ih _) (length_dropInnermost t).1

theorem length_dropBodies_lt {times : Nat} (htimes : 0 < times) (h : HasGroup t) :
    (dropBodies times t).length < t.length := by
  cases times with
  | zero => exact absurd htimes (Nat.lt_irrefl 0)
  | succ times =>
    exact Nat.lt_of_le_of_lt (length_dropBodies_le times _) ((length_dropInnermost t).2 h)

theorem dropBodies_eq_self (h : ¬HasGroup t) (times : Nat) : dropBodies times t = t := by
  induction times with
  | zero => rfl
  | succ times ih => rw [dropBodies_succ, dropInnermost_eq_self h, ih]

/-! ## Balanced texts -/

inductive Balanced : List Char → Prop
  | nil : Balanced []
  | cons {c : Char} {t : List Char} (hopen : c ≠ '\x7b') (hclose : c ≠ '\x7d') (ht : Balanced t) :
      Balanced (c :: t)
  | group {a t : List Char} (ha : Balanced a) (ht : Balanced t) :
      Balanced ('\x7b' :: (a ++ '\x7d' :: t))

namespace Balanced

variable {x : List Char}

theorem of_braceless (h : Braceless x) : Balanced x := by
  induction x with
  | nil => exact .nil
  | cons c x ih =>
    obtain ⟨hopen, hclose⟩ := h
    rw [mem_cons, not_or] at hopen hclose
    exact .cons (Ne.symm hopen.1) (Ne.symm hclose.1) (ih ⟨hopen.2, hclose.2⟩)

theorem append {y : List Char} (hx : Balanced x) (hy : Balanced y) : Balanced (x ++ y) := by
  induction hx with
  | nil => exact hy
  | cons hopen hclose _ ih => exact .cons hopen hclose ih
  | @group a t ha _ _ ih =>
    rw [cons_append, append_assoc, cons_append]
    exact .group ha ih

theorem open_notMem_of_braceless (hx : Balanced x) {v y z : List Char} (hv : Braceless v)
    (h : x ++ y = v ++ '\x7d' :: z) : '\x7b' ∉ x := by
  induction hx generalizing v with
  | nil => exact not_mem_nil
  | @cons c t hopen hclose _ ih =>
    cases v with
    | nil => exact absurd (List.cons.inj h).1 hclose
    | cons d v =>
      have hv' : Braceless v :=
        ⟨fun hmem => hv.1 (by simp [hmem]), fun hmem => hv.2 (by simp [hmem])⟩
      rw [mem_cons, not_or]
      exact ⟨Ne.symm hopen, ih hv' (List.cons.inj h).2⟩
  | group _ _ _ _ =>
    cases v with
    | nil => exact absurd (List.cons.inj h).1 (by decide)
    | cons d v => exact absurd (by simp [← (List.cons.inj h).1]) hv.1

theorem braceless (hx : Balanced x) (h : '\x7b' ∉ x) : Braceless x := by
  refine ⟨h, ?_⟩
  induction hx with
  | nil => exact not_mem_nil
  | cons hopen hclose _ ih =>
    rw [mem_cons, not_or] at h ⊢
    exact ⟨Ne.symm hclose, ih h.2⟩
  | group _ _ _ _ => simp at h

theorem dropInnermost_open (hx : Balanced x) (hopen : '\x7b' ∈ x) (y : List Char) :
    dropInnermost ('\x7b' :: (x ++ y)) = '\x7b' :: dropInnermost (x ++ y) := by
  refine dropInnermost_cons ?_
  rintro (_ | ⟨d, w⟩) v z hin heq
  · exact hx.open_notMem_of_braceless hin.braceless (List.cons.inj heq).2 hopen
  · obtain ⟨rfl, -⟩ := List.cons.inj heq
    exact hin.open_notMem (by simp)

theorem exists_dropInnermost_append (hx : Balanced x) (y : List Char) :
    ∃ x', Balanced x' ∧ dropInnermost (x ++ y) = x' ++ dropInnermost y ∧
      x'.count '\x7b' ≤ x.count '\x7b' ∧ ('\x7b' ∈ x → x'.count '\x7b' < x.count '\x7b') := by
  induction hx generalizing y with
  | nil => exact ⟨[], .nil, rfl, Nat.le_refl _, by simp⟩
  | @cons c t hopen hclose _ ih =>
    obtain ⟨t', ht', hdrop, hle, hlt⟩ := ih y
    by_cases hstart : ∃ w v z, Innermost w v ∧ c :: (t ++ y) = w ++ '\x7b' :: (v ++ '\x7d' :: z)
    · -- the character is white space in front of a group and goes with it
      obtain ⟨w, v, z, hin, heq⟩ := hstart
      cases w with
      | nil => exact absurd (List.cons.inj heq).1 hopen
      | cons d w =>
        have hin' : Innermost w v := ⟨fun e he => hin.blank e (by simp [he]), hin.braceless⟩
        refine ⟨t', ht', ?_, ?_, ?_⟩
        · have htail : t ++ y = w ++ '\x7b' :: (v ++ '\x7d' :: z) := (List.cons.inj heq).2
          rw [cons_append, heq, dropInnermost_group hin, ← hdrop, htail,
            dropInnermost_group hin']
        · rwa [count_cons_of_ne hopen]
        · rw [count_cons_of_ne hopen, mem_cons]
          exact fun h => hlt (h.resolve_left (Ne.symm hopen))
    · push Not at hstart
      refine ⟨c :: t', .cons hopen hclose ht', ?_, ?_, ?_⟩
      · rw [cons_append, dropInnermost_cons hstart, hdrop, cons_append]
      · rwa [count_cons_of_ne hopen, count_cons_of_ne hopen]
      · rw [count_cons_of_ne hopen, count_cons_of_ne hopen, mem_cons]
        exact fun h => hlt (h.resolve_left (Ne.symm hopen))
  | @group a t ha _ iha iht =>
    obtain ⟨t', ht', hdrop, hle, -⟩ := iht y
    by_cases hopen : '\x7b' ∈ a
    · obtain ⟨a', ha', hdropa, -, hlta⟩ := iha ('\x7d' :: (t ++ y))
      refine ⟨'\x7b' :: (a' ++ '\x7d' :: t'), .group ha' ht', ?_, ?_⟩
      · simp only [cons_append, append_assoc]
        rw [ha.dropInnermost_open hopen, hdropa, dropInnermost_cons_of_ne (by decide) (by decide),
          hdrop]
      · have := hlta hopen
        simp only [count_cons_self, count_append, count_cons_of_ne
          (show '\x7d' ≠ '\x7b' by decide)]
        exact ⟨by omega, fun _ => by omega⟩
    · refine ⟨';' :: t', .cons (by decide) (by decide) ht', ?_, ?_⟩
      · have hgroup := dropInnermost_group (w := []) ⟨by simp, ha.braceless hopen⟩ (t ++ y)
        simp only [cons_append, append_assoc, nil_append] at hgroup ⊢
        rw [hgroup, hdrop]
      · simp only [count_cons_self, count_append, count_cons_of_ne
          (show '\x7d' ≠ '\x7b' by decide), count_cons_of_ne (show ';' ≠ '\x7b' by decide)]
        exact ⟨by omega, fun _ => by omega⟩

theorem countPairsFrom_open (level total : Nat) (y : List Char) :
    countPairsFrom (level + 1) total true ('\x7b' :: y) =
      countPairsFrom ((level + 1 : Nat) + 1) (total + 1) true y := by
  have hlevel : ((level : Int) + 1 + 1 == 0) = false := by
    rw [beq_eq_false_iff_ne]
    omega
  rw [countPairsFrom]
  simp [hlevel]

theorem countPairsFrom_close (level total : Nat) (y : List Char) :
    countPairsFrom ((level + 1 : Nat) + 1) total true ('\x7d' :: y) =
      countPairsFrom (level + 1) total true y := by
  have hlevel : ((level : Int) + 1 == 0) = false := by
    rw [beq_eq_false_iff_ne]
    omega
  rw [countPairsFrom]
  simp [hlevel]

theorem countPairsFrom_append (hx : Balanced x) (level total : Nat) (y : List Char) :
    countPairsFrom (level + 1) total true (x ++ y) =
      countPairsFrom (level + 1) (total + x.count '\x7b') true y := by
  induction hx generalizing level total y with
  | nil => rfl
  | @cons c t hopen hclose _ ih =>
    have hlevel : ((level : Int) + 1 == 0) = false := by
      rw [beq_eq_false_iff_ne]
      omega
    rw [cons_append, countPairsFrom]
    simp only [beq_eq_false_iff_ne.mpr hopen, beq_eq_false_iff_ne.mpr hclose, Bool.true_or,
      Bool.true_and, hlevel, Bool.false_eq_true, if_false, count_cons_of_ne hopen]
    exact ih level total y
  | @group a t _ _ iha iht =>
    rw [cons_append, append_assoc, countPairsFrom_open, iha (level + 1),
      cons_append, countPairsFrom_close, iht level]
    simp only [count_cons_self, count_append,
      count_cons_of_ne (show '\x7d' ≠ '\x7b' by decide)]
    congr 1
    omega

end Balanced

theorem countPairs_body {s a : List Char} (hs : Braceless s) (ha : Balanced a) (y : List Char) :
    countPairs (s ++ '\x7b' :: (a ++ '\x7d' :: y)) = a.count '\x7b' + 1 := by
  rw [countPairs]
  induction s with
  | nil =>
    have hstart : countPairsFrom 0 0 false ('\x7b' :: (a ++ '\x7d' :: y)) =
        countPairsFrom ((0 : Nat) + 1) 1 true (a ++ '\x7d' :: y) := rfl
    rw [nil_append, hstart, ha.countPairsFrom_append 0, countPairsFrom]
    simp [Nat.add_comm]
  | cons c s ih =>
    obtain ⟨hopen, hclose⟩ := hs
    rw [mem_cons, not_or] at hopen hclose
    rw [cons_append, countPairsFrom]
    simp only [beq_eq_false_iff_ne.mpr (Ne.symm hopen.1),
      beq_eq_false_iff_ne.mpr (Ne.symm hclose.1), Bool.or_false, Bool.false_and,
      Bool.false_eq_true, if_false]
    exact ih ⟨hopen.2, hclose.2⟩

/-! ## Counting pairs -/

/-- Braces are opened in the text, and as many are closed. -/
def Closes (p : List Char) : Prop :=
  '\x7b' ∈ p ∧ p.count '\x7d' = p.count '\x7b'

instance : DecidablePred Closes :=
  fun _ => inferInstanceAs (Decidable (_ ∧ _))

/-- The number that is found from `rest` on, when `done` has been read. -/
def pairsAfter (done rest : List Char) : Nat :=
  countPairsFrom (done.count '\x7b' - done.count '\x7d') (done.count '\x7b')
    (decide ('\x7b' ∈ done)) rest

theorem pairsAfter_nil {done : List Char} (h : ¬Closes done) : pairsAfter done [] = 0 := by
  rw [pairsAfter, countPairsFrom]
  split
  case isTrue hlevel =>
    rw [beq_iff_eq] at hlevel
    exact count_eq_zero.mpr fun hopen => h ⟨hopen, by omega⟩
  case isFalse => rfl

theorem pairsAfter_cons (done rest : List Char) (c : Char) : pairsAfter done (c :: rest) =
    if Closes (done ++ [c]) then (done ++ [c]).count '\x7b' else pairsAfter (done ++ [c]) rest := by
  rw [pairsAfter, countPairsFrom]
  have hlevel : (if c == '\x7b' then (done.count '\x7b' : Int) - done.count '\x7d' + 1
      else if c == '\x7d' then (done.count '\x7b' : Int) - done.count '\x7d' - 1
      else (done.count '\x7b' : Int) - done.count '\x7d') =
      (done ++ [c]).count '\x7b' - (done ++ [c]).count '\x7d' := by
    grind
  have htotal : (if c == '\x7b' then done.count '\x7b' + 1 else done.count '\x7b') =
      (done ++ [c]).count '\x7b' := by
    grind
  have hopened : (decide ('\x7b' ∈ done) || c == '\x7b') = decide ('\x7b' ∈ done ++ [c]) := by
    grind
  have hcloses : (decide ('\x7b' ∈ done ++ [c]) &&
      ((done ++ [c]).count '\x7b' - (done ++ [c]).count '\x7d' : Int) == 0) = true ↔
      Closes (done ++ [c]) := by
    rw [Bool.and_eq_true, decide_eq_true_iff, beq_iff_eq]
    exact and_congr_right fun _ => by omega
  simp only [hlevel, htotal, hopened, hcloses]
  rfl

/-- The characters are read one by one, until a start of the text closes. -/
theorem pairsAfter_shortest (done rest : List Char) (h : ¬Closes done) :
    (∃ p, p <+: rest ∧ Closes (done ++ p) ∧
        (∀ q, q <+: rest → Closes (done ++ q) → p.length ≤ q.length) ∧
        pairsAfter done rest = (done ++ p).count '\x7b') ∨
      (∀ p, p <+: rest → ¬Closes (done ++ p)) ∧ pairsAfter done rest = 0 := by
  induction rest generalizing done with
  | nil =>
    refine .inr ⟨fun p hp => ?_, pairsAfter_nil h⟩
    rwa [prefix_nil.mp hp, append_nil]
  | cons c rest ih =>
    -- What closes behind `done` begins with the next character.
    have hstart {q : List Char} (hq : q <+: c :: rest) (hclose : Closes (done ++ q)) :
        ∃ r, q = c :: r ∧ r <+: rest ∧ Closes (done ++ [c] ++ r) := by
      rcases prefix_cons_iff.mp hq with rfl | ⟨r, rfl, hr⟩
      · exact absurd (by simpa using hclose) h
      · exact ⟨r, rfl, hr, by simpa using hclose⟩
    rw [pairsAfter_cons]
    split
    case isTrue hclose =>
      refine .inl ⟨[c], by simp, hclose, fun q hq hq' => ?_, rfl⟩
      obtain ⟨r, rfl, -, -⟩ := hstart hq hq'
      simp
    case isFalse hopen =>
      rcases ih (done ++ [c]) hopen with ⟨p, hp, hclose, hleast, hcount⟩ | ⟨hnone, hcount⟩
      · refine .inl ⟨c :: p, by simpa using hp, by simpa using hclose, fun q hq hq' => ?_,
          by simpa using hcount⟩
        obtain ⟨r, rfl, hr, hr'⟩ := hstart hq hq'
        simpa using hleast r hr hr'
      · refine .inr ⟨fun q hq hq' => ?_, hcount⟩
        obtain ⟨r, -, hr, hr'⟩ := hstart hq hq'
        exact hnone r hr hr'

theorem countPairs_shortest (t : List Char) :
    (∃ p, p <+: t ∧ Closes p ∧ (∀ q, q <+: t → Closes q → p.length ≤ q.length) ∧
        countPairs t = p.count '\x7b') ∨
      (∀ p, p <+: t → ¬Closes p) ∧ countPairs t = 0 :=
  pairsAfter_shortest [] t (by decide)

theorem countPairs_ne_zero_of_closes {p : List Char} (hp : p <+: t) (h : Closes p) :
    countPairs t ≠ 0 := by
  rcases pairsAfter_shortest [] t (by decide) with ⟨q, -, hq, -, hcount⟩ | ⟨hnone, -⟩
  · have hcount : countPairs t = q.count '\x7b' := hcount
    rw [hcount]
    exact Nat.ne_of_gt (count_pos_iff.mpr hq.1)
  · exact absurd h (hnone p hp)

/-! ## Bodies -/

theorem dropInnermost_blanks {w a : List Char} (hw : ∀ c ∈ w, isBlank c = true) (ha : Balanced a)
    (hopen : '\x7b' ∈ a) (y : List Char) :
    dropInnermost (w ++ '\x7b' :: (a ++ y)) = w ++ '\x7b' :: dropInnermost (a ++ y) := by
  induction w with
  | nil => exact ha.dropInnermost_open hopen y
  | cons c w ih =>
    rw [cons_append, cons_append, dropInnermost_cons,
      ih fun d hd => hw d (by simp [hd])]
    intro w' v z hin heq
    have hnot : '\x7b' ∉ c :: w := fun hmem => absurd (hw _ hmem) (by decide)
    obtain ⟨-, hrest⟩ := append_cons_inj hnot hin.open_notMem (by simpa using heq)
    exact ha.open_notMem_of_braceless hin.braceless hrest hopen

theorem append_ne_of_braceless {s w y z : List Char} (hopen : '\x7b' ∉ s) (hne : s ≠ [])
    (hend : ∀ c ∈ s.getLast?, isBlank c = false) (hw : ∀ c ∈ w, isBlank c = true) :
    s ++ y ≠ w ++ '\x7b' :: z := by
  have hsub : ¬s ⊆ w := by
    intro hsub
    have hlast := getLast?_eq_some_getLast hne
    have hblank := hw _ (hsub (getLast_mem hne))
    rw [hend _ hlast] at hblank
    cases hblank
  intro heq
  rcases List.append_eq_append_iff.mp heq with ⟨b, rfl, -⟩ | ⟨b, rfl, hrest⟩
  · exact hsub (subset_append_left s b)
  · cases b with
    | nil => exact hsub (by simp)
    | cons e b =>
      obtain ⟨rfl, -⟩ := List.cons.inj hrest
      exact hopen (by simp)

section

variable {s : List Char} (hs : Braceless s) (hend : ∀ c ∈ s.getLast?, isBlank c = false)

include hs hend

theorem dropInnermost_append (y : List Char) : dropInnermost (s ++ y) = s ++ dropInnermost y := by
  induction s with
  | nil => rfl
  | cons c s ih =>
    rw [cons_append, cons_append, dropInnermost_cons]
    · congr 1
      refine ih ⟨fun h => hs.1 (by simp [h]), fun h => hs.2 (by simp [h])⟩ fun d hd => ?_
      refine hend d ?_
      cases s with
      | nil => simp at hd
      | cons e s => simpa using hd
    · intro w v z hin
      exact append_ne_of_braceless hs.1 (cons_ne_nil c s) hend hin.blank

theorem dropBodies_append (times : Nat) (y : List Char) :
    dropBodies times (s ++ y) = s ++ dropBodies times y := by
  induction times generalizing y with
  | zero => rfl
  | succ times ih => rw [dropBodies_succ, dropInnermost_append hs hend, ih, dropBodies_succ]

/-- As many passes as a body has pairs of braces turn it into a semicolon; they also go over what
stands behind it. -/
theorem dropBodies_body {w a : List Char} (hw : ∀ c ∈ w, isBlank c = true) (ha : Balanced a)
    {times : Nat} (htimes : a.count '\x7b' < times) (y : List Char) :
    dropBodies times (s ++ (w ++ '\x7b' :: (a ++ '\x7d' :: y))) =
      s ++ ';' :: dropBodies times y := by
  induction times generalizing a y with
  | zero => exact absurd htimes (Nat.not_lt_zero _)
  | succ times ih =>
    rw [dropBodies_succ, dropInnermost_append hs hend]
    by_cases hopen : '\x7b' ∈ a
    · obtain ⟨a', ha', hdrop, -, hlt⟩ := ha.exists_dropInnermost_append ('\x7d' :: y)
      have hcount := hlt hopen
      rw [dropInnermost_blanks hw ha hopen, hdrop,
        dropInnermost_cons_of_ne (by decide) (by decide), ih ha' (by omega), dropBodies_succ]
    · have hplain : Braceless (s ++ [';']) := by
        simpa [Braceless] using hs
      rw [dropInnermost_group ⟨hw, ha.braceless hopen⟩, ← singleton_append,
        ← append_assoc, dropBodies_append hplain (by simp; decide), dropBodies_succ]
      simp

end

end MockGen.Header
