import Mathlib.Logic.Relation
import MockGen.Proofs.Header.InlineSearch
import MockGen.Proofs.Pattern.Captures
import MockGen.Proofs.Pattern.Invariants

/-!
# The text in front of the inline functions

A search keeps what stands in front of its first match, unless it gives up at a later function whose
body is not closed: then all the text dealt with is left out.  It never gives up in a text whose
groups are closed, each before the next directive, and what it leaves is such a text again.
-/

namespace MockGen.Header

open Text Pattern Option
open List hiding find?

/-! ## Groups that are closed -/

/-- A character in front of a text with `n` closing braces to spare.  A directive may be left out
with its line, so it spares none for the text in front of it. -/
def turn (c : Char) (n : Nat) : Option Nat :=
  if c = '#' then some 0
  else if c = '\x7d' then some (n + 1)
  else if c = '\x7b' then if n = 0 then none else some (n - 1)
  else some n

/-- The closing braces that a text has to spare, if all its opening ones are closed, each before the
next directive. -/
def closers : List Char → Option Nat
  | [] => some 0
  | c :: t => (closers t).bind (turn c)

theorem closers_cons_eq_some {c : Char} {t : List Char} {n : Nat} :
    closers (c :: t) = some n ↔ ∃ k, closers t = some k ∧ turn c k = some n := by
  rw [closers, bind_eq_some_iff]

theorem turn_mono {c : Char} {n m k : Nat} (h : turn c n = some m) (hle : n ≤ k) :
    ∃ l, turn c k = some l ∧ m ≤ l := by
  unfold turn at h ⊢
  split_ifs at h ⊢ with _ _ _ hn hk
  · exact ⟨0, rfl, by simp_all⟩
  · exact ⟨k + 1, rfl, by simp_all; omega⟩
  · omega
  · exact ⟨k - 1, rfl, by simp_all; omega⟩
  · exact ⟨k, rfl, by simp_all⟩

theorem turn_le {c : Char} (hc : c ≠ '\x7d') {n m : Nat} (h : turn c n = some m) : m ≤ n := by
  unfold turn at h
  split_ifs at h <;> simp_all <;> omega

/-- What is closed in the first text is closed in the second, with no fewer braces to spare. -/
def Keeps (s t : List Char) : Prop :=
  ∀ n, closers s = some n → ∃ k, closers t = some k ∧ n ≤ k

namespace Keeps

variable {s t u : List Char}

theorem refl (t : List Char) : Keeps t t :=
  fun n h => ⟨n, h, Nat.le_refl n⟩

theorem trans (h : Keeps s t) (h' : Keeps t u) : Keeps s u := by
  intro n hn
  obtain ⟨k, hk, hle⟩ := h n hn
  obtain ⟨l, hl, hle'⟩ := h' k hk
  exact ⟨l, hl, Nat.le_trans hle hle'⟩

theorem append_left (h : Keeps s t) (x : List Char) : Keeps (x ++ s) (x ++ t) := by
  induction x with
  | nil => exact h
  | cons c x ih =>
    intro n hn
    obtain ⟨k, hk, hturn⟩ := closers_cons_eq_some.mp hn
    obtain ⟨l, hl, hle⟩ := ih k hk
    obtain ⟨m, hm, hle'⟩ := turn_mono hturn hle
    exact ⟨m, closers_cons_eq_some.mpr ⟨l, hl, hm⟩, hle'⟩

theorem isSome (h : Keeps s t) (hs : (closers s).isSome = true) : (closers t).isSome = true := by
  obtain ⟨n, hn⟩ := isSome_iff_exists.mp hs
  obtain ⟨k, hk, -⟩ := h n hn
  rw [hk]
  rfl

theorem drop (hu : '\x7d' ∉ u) (t : List Char) : Keeps (u ++ t) t := by
  induction u with
  | nil => exact refl t
  | cons c u ih =>
    rw [mem_cons, not_or] at hu
    intro n hn
    obtain ⟨k, hk, hturn⟩ := closers_cons_eq_some.mp hn
    obtain ⟨l, hl, hle⟩ := ih hu.2 k hk
    exact ⟨l, hl, Nat.le_trans (turn_le (Ne.symm hu.1) hturn) hle⟩

theorem group {w v : List Char} (h : Innermost w v) (y : List Char) :
    Keeps (w ++ '\x7b' :: (v ++ '\x7d' :: y)) (';' :: y) := by
  refine (drop (fun hmem => absurd (h.blank _ hmem) (by decide)) _).trans fun n hn => ?_
  obtain ⟨k, hk, hopen⟩ := closers_cons_eq_some.mp hn
  obtain ⟨l, hl, hle⟩ := drop h.braceless.2 _ k hk
  obtain ⟨m, hm, hclose⟩ := closers_cons_eq_some.mp hl
  refine ⟨m, closers_cons_eq_some.mpr ⟨m, hm, rfl⟩, ?_⟩
  have hopen : (if k = 0 then none else some (k - 1)) = some n := hopen
  have hclose : some (m + 1) = some l := hclose
  split_ifs at hopen
  simp only [Option.some.injEq] at hopen hclose
  omega

end Keeps

theorem isSome_closers_append {x t : List Char} (h : (closers (x ++ t)).isSome = true) :
    (closers t).isSome = true := by
  induction x with
  | nil => exact h
  | cons c x ih =>
    obtain ⟨n, hn⟩ := isSome_iff_exists.mp h
    obtain ⟨k, hk, -⟩ := closers_cons_eq_some.mp hn
    exact ih (isSome_iff_exists.mpr ⟨k, hk⟩)

theorem keeps_dropBodies (times : Nat) (t : List Char) : Keeps t (dropBodies times t) := by
  induction times generalizing t with
  | zero => exact Keeps.refl t
  | succ times ih =>
    refine Keeps.trans ?_ (ih (dropInnermost t))
    refine replace_preserves innermostBody_advances ?_ (Keeps.refl t)
    intro x before u y hread h
    obtain ⟨w, v, rfl, hin⟩ := reads_innermostBody.mp hread
    refine h.trans (Keeps.append_left ?_ x)
    simpa using Keeps.group hin y

theorem exists_closing_start {y : List Char} {n : Nat} (level : Nat) (h : closers y = some n)
    (hlevel : level < n) : ∃ p, p <+: y ∧ p.count '\x7d' = p.count '\x7b' + level + 1 := by
  induction y generalizing n level with
  | nil =>
    obtain rfl : 0 = n := Option.some.inj h
    omega
  | cons c y ih =>
    obtain ⟨k, hk, hturn⟩ := closers_cons_eq_some.mp h
    have hnext (m : Nat) (hm : m < k) (hcount : ∀ p, p.count '\x7d' = p.count '\x7b' + m + 1 →
        (c :: p).count '\x7d' = (c :: p).count '\x7b' + level + 1) :
        ∃ p, p <+: c :: y ∧ p.count '\x7d' = p.count '\x7b' + level + 1 := by
      obtain ⟨p, hp, hclose⟩ := ih m hk hm
      exact ⟨c :: p, by simpa using hp, hcount p hclose⟩
    unfold turn at hturn
    split_ifs at hturn with hhash hclose hopen hzero <;> obtain rfl := Option.some.inj hturn
    · omega
    · cases level with
      | zero => exact ⟨[c], by simp, by simp [hclose]⟩
      | succ level => exact hnext level (by omega) (by simp [hclose]; omega)
    · exact hnext (level + 1) (by omega) (by simp [hopen]; omega)
    · exact hnext level hlevel (by simp [hclose, hopen])

theorem countPairs_ne_zero {t : List Char} (hahead : (definitionAhead.matchStart? t).isSome = true)
    (hclosed : (closers t).isSome = true) : countPairs t ≠ 0 := by
  obtain ⟨m, hm⟩ := isSome_iff_exists.mp hahead
  obtain ⟨_, y, htext, ⟨s, _, rfl, hread, hchar⟩, -⟩ := matchHere?_sound hm
  obtain rfl := reads_char.mp hchar
  have hs : Braceless s := ⟨notMem_of_avoids (by decide) hread, notMem_of_avoids (by decide) hread⟩
  obtain rfl : t = s ++ '\x7b' :: y := by
    rw [show t = (Cursor.start t).rest from rfl, htext]
    simp
  obtain ⟨n, hn⟩ := isSome_iff_exists.mp (isSome_closers_append hclosed)
  obtain ⟨k, hk, hturn⟩ := closers_cons_eq_some.mp hn
  have hturn : (if k = 0 then none else some (k - 1)) = some n := hturn
  split_ifs at hturn
  obtain ⟨p, hp, hcount⟩ := exists_closing_start 0 hk (by omega)
  refine countPairs_ne_zero_of_closes (p := s ++ '\x7b' :: p) (by simpa using hp) ⟨by simp, ?_⟩
  simp [count_eq_zero.mpr hs.1, count_eq_zero.mpr hs.2, hcount]

/-! ## The text in front -/

/-- In every text that begins with `lead` the first match of each pattern, and the macro definition
that it may belong to, lie behind it. -/
def Settled (ps : List Pattern) (lead : List Char) : Prop :=
  ∀ p ∈ ps, ∀ y m, p.find? (lead ++ y) = some m → lead <+: (beforeDefine? m.before).getD m.before

/-- No match of the pattern has a closing brace. -/
def NeverCloses (p : Pattern) : Prop :=
  ∀ t m, p.find? t = some m → '\x7d' ∉ m.text

theorem neverCloses_of_avoids {p : Pattern} (hp : p.avoids '\x7d' = true) : NeverCloses p :=
  fun _ _ hm => notMem_of_avoids hp (find?_parts hm).2

section

variable {p : Pattern} (hp : NeverCloses p) {rest : List Char}

include hp

/-- A search in a text whose groups are closed does not give up: it is over, or it goes on behind
what is kept. -/
theorem inlineStep_of_closers (found : Bool) (done lead : List Char)
    (hclosed : (closers rest).isSome = true)
    (hlead : ∀ m, p.find? (lead ++ rest) = some m →
      lead <+: (beforeDefine? m.before).getD m.before) :
    inlineStep p found done (lead ++ rest) =
      .stop (if found then done ++ (lead ++ rest) else lead ++ rest) ∨
    ∃ kept source, inlineStep p found done (lead ++ rest) = .next (done ++ (lead ++ kept)) source ∧
      Keeps rest (kept ++ source) := by
  cases hfind : p.find? (lead ++ rest) with
  | none => exact Or.inl (inlineStep_of_find?_eq_none hfind found done)
  | some m =>
    right
    have hlead := hlead m hfind
    have hsplit := eq_of_find? hfind
    rw [inlineStep, hfind]
    dsimp only
    cases hdefine : beforeDefine? m.before with
    | some earlier =>
      -- The line of a macro definition is left out.
      rw [hdefine] at hlead
      obtain ⟨kept, rfl⟩ : lead <+: earlier := hlead
      obtain ⟨w, -, hbefore⟩ := eq_of_beforeDefine? hdefine
      refine ⟨kept, afterLine m.after, rfl, ?_⟩
      obtain ⟨line, hline⟩ := (drop_suffix 1 _).trans
        (dropWhile_suffix (· != '\n') (l := m.after))
      have hrest : rest = kept ++ '#' :: (("define".toList ++ w ++ m.text ++ line) ++
          afterLine m.after) := by
        rw [hbefore, ← hline] at hsplit
        simpa [afterLine] using hsplit
      rw [hrest]
      refine Keeps.append_left (fun n hn => ?_) kept
      obtain ⟨k, hk, hturn⟩ := closers_cons_eq_some.mp hn
      obtain rfl : 0 = n := Option.some.inj hturn
      obtain ⟨l, hl⟩ := isSome_iff_exists.mp
        (isSome_closers_append (isSome_iff_exists.mpr ⟨k, hk⟩))
      exact ⟨l, hl, Nat.zero_le l⟩
    | none =>
      rw [hdefine] at hlead
      obtain ⟨kept, hkept⟩ : lead <+: m.before := hlead
      rw [← hkept, append_assoc, append_cancel_left_eq] at hsplit
      have hafter : Keeps rest (kept ++ m.after) := by
        rw [hsplit]
        exact (Keeps.drop (hp _ _ hfind) m.after).append_left kept
      rw [← hkept]
      dsimp only
      by_cases hdeclaration : (declarationAhead.matchStart? m.after).isSome = true
      · rw [if_pos hdeclaration]
        exact ⟨kept, m.after, rfl, hafter⟩
      rw [if_neg hdeclaration]
      by_cases hdefinition : (definitionAhead.matchStart? m.after).isSome = true
      · rw [if_pos hdefinition]
        cases hpairs : countPairs m.after with
        | zero =>
          have hclosed := isSome_closers_append (hafter.isSome hclosed)
          exact absurd hpairs (countPairs_ne_zero hdefinition hclosed)
        | succ pairs =>
          exact ⟨kept, _, rfl, hafter.trans ((keeps_dropBodies _ _).append_left kept)⟩
      · rw [if_neg hdefinition]
        refine ⟨kept ++ m.text, m.after, by simp, ?_⟩
        rw [hsplit, append_assoc]
        exact Keeps.refl _

theorem inlineLoop_of_closers (done : List Char) {source : List Char}
    (hclosed : (closers source).isSome = true) (fuel : Nat) :
    ∃ t, inlineLoop p fuel true done source = done ++ t ∧ Keeps source t := by
  induction fuel generalizing done source with
  | zero => exact ⟨source, rfl, Keeps.refl source⟩
  | succ fuel ih =>
    rw [inlineLoop]
    rcases inlineStep_of_closers hp true done [] hclosed (fun _ _ => nil_prefix) with
      hstep | ⟨kept, next, hstep, hkeeps⟩
    · rw [nil_append] at hstep
      rw [hstep]
      exact ⟨source, rfl, Keeps.refl source⟩
    · rw [nil_append] at hstep
      rw [hstep]
      obtain ⟨t, ht, hnext⟩ :=
        @ih (done ++ kept) next (isSome_closers_append (hkeeps.isSome hclosed))
      exact ⟨kept ++ t, by simpa using ht, hkeeps.trans (hnext.append_left kept)⟩

theorem plainFunctions_of_closers {lead : List Char} (hclosed : (closers rest).isSome = true)
    (hlead : ∀ m, p.find? (lead ++ rest) = some m →
      lead <+: (beforeDefine? m.before).getD m.before) :
    ∃ t, plainFunctions p (lead ++ rest) = lead ++ t ∧ Keeps rest t := by
  rw [plainFunctions, inlineLoop]
  rcases inlineStep_of_closers hp false [] lead hclosed hlead with
    hstep | ⟨kept, next, hstep, hkeeps⟩
  · rw [hstep]
    exact ⟨rest, rfl, Keeps.refl rest⟩
  · rw [hstep]
    obtain ⟨t, ht, hnext⟩ := inlineLoop_of_closers hp (lead ++ kept)
      (isSome_closers_append (hkeeps.isSome hclosed)) (lead ++ rest).length
    exact ⟨kept ++ t, by simpa using ht, hkeeps.trans (hnext.append_left kept)⟩

end

theorem foldl_plainFunctions_of_closers {ps : List Pattern} (hps : ∀ p ∈ ps, NeverCloses p)
    {lead rest : List Char} (hlead : Settled ps lead) (hclosed : (closers rest).isSome = true) :
    ∃ t, ps.foldl (fun t p => plainFunctions p t) (lead ++ rest) = lead ++ t := by
  induction ps generalizing rest with
  | nil => exact ⟨rest, rfl⟩
  | cons p ps ih =>
    obtain ⟨t, ht, hkeeps⟩ :=
      plainFunctions_of_closers (hps p (by simp)) hclosed (hlead p (by simp) rest)
    rw [foldl_cons, ht]
    exact ih (fun q hq => hps q (by simp [hq])) (fun q hq => hlead q (by simp [hq]))
      (hkeeps.isSome hclosed)

/-! ## What is lost -/

/-- A search in the text goes on with what stands behind its match. -/
def GoesOn (p : Pattern) (source next : List Char) : Prop :=
  ∃ found done done', inlineStep p found done source = .next done' next

/-- A search takes `lead` away from the front of a text: its first match, or the macro definition
that this belongs to, is not behind it, or the search goes on and then gives up. -/
inductive Loses (p : Pattern) (lead source : List Char) : Prop
  | inFront {m : Match} (first : p.find? source = some m)
      (apart : ¬lead <+: (beforeDefine? m.before).getD m.before)
  | behind {last : List Char} (later : Relation.TransGen (GoesOn p) source last)
      (unclosed : Unclosed p last) (alone : plainFunctions p source = last)

section

variable {p : Pattern} {lead source : List Char}

theorem inlineLoop_keeps_or (fuel : Nat) (done source : List Char) :
    done <+: inlineLoop p fuel true done source ∨
      ∃ last, Relation.ReflTransGen (GoesOn p) source last ∧ Unclosed p last ∧
        inlineLoop p fuel true done source = last := by
  induction fuel generalizing done source with
  | zero => exact .inl (prefix_append _ _)
  | succ fuel ih =>
    rw [inlineLoop]
    cases hstep : inlineStep p true done source with
    | stop t =>
      rcases inlineStep_stop hstep with ⟨-, rfl⟩ | ⟨hunclosed, rfl⟩
      · exact .inl (prefix_append _ _)
      · exact .inr ⟨_, .refl, hunclosed, rfl⟩
    | next done' next =>
      obtain ⟨m, kept, -, hdone, -⟩ := inlineStep_next hstep
      refine (ih done' next).imp (fun h => ?_) ?_
      · exact (hdone ▸ prefix_append done kept).trans h
      · rintro ⟨last, hlater, hlast⟩
        exact ⟨last, .head ⟨_, _, _, hstep⟩ hlater, hlast⟩

theorem isPrefix_plainFunctions_or (hlead : lead <+: source) :
    lead <+: plainFunctions p source ∨ Loses p lead source := by
  cases hstep : inlineStep p false [] source with
  | stop t =>
    obtain rfl : t = source := by rcases inlineStep_stop hstep with ⟨-, h⟩ | ⟨-, h⟩ <;> exact h
    rw [plainFunctions, inlineLoop, hstep]
    exact .inl hlead
  | next done next =>
    obtain ⟨m, kept, hfind, rfl, hkept, -⟩ := inlineStep_next hstep
    by_cases hfirst : lead <+: (beforeDefine? m.before).getD m.before
    · have hloop : plainFunctions p source = inlineLoop p source.length true done next := by
        rw [plainFunctions, inlineLoop, hstep]
      rcases inlineLoop_keeps_or source.length done next with
        h | ⟨last, hlater, hunclosed, hlast⟩
      · exact .inl (hloop ▸ (hfirst.trans hkept).trans h)
      · exact .inr (.behind (.head' ⟨_, _, _, hstep⟩ hlater) hunclosed (hloop.trans hlast))
    · exact .inr (.inFront hfind hfirst)

/-- The text in front stays through the searches of some patterns, unless one of them takes it
away. -/
theorem isPrefix_foldl_or (ps : List Pattern) (hlead : lead <+: source) :
    lead <+: ps.foldl (fun t p => plainFunctions p t) source ∨
      ∃ before p after, ps = before ++ p :: after ∧
        Loses p lead (before.foldl (fun t p => plainFunctions p t) source) := by
  induction ps generalizing source with
  | nil => exact .inl hlead
  | cons p ps ih =>
    rcases isPrefix_plainFunctions_or (p := p) hlead with h | h
    · refine (ih h).imp_right ?_
      rintro ⟨before, q, after, rfl, hloses⟩
      exact ⟨p :: before, q, after, rfl, hloses⟩
    · exact .inr ⟨[], p, ps, rfl, h⟩

end

/-- A text is settled if it has no character of those that every match needs, and ends in one that
no match has. -/
theorem settled_of_needs {ps : List Pattern} {q : Char → Bool} {x : List Char} {d : Char}
    (hneeds : ∀ p ∈ ps, p.needs q = true) (havoids : ∀ p ∈ ps, p.avoids d = true)
    (hx : ∀ c ∈ x, q c = false) (hd : isBlank d = false ∧ d ∉ "#define".toList) :
    Settled ps (x ++ [d]) := by
  intro p hp y m hm
  have hpasses : p.Passes [] (x ++ [d]) y := by
    intro a b u tail hab hb htext hread
    have hnotMem : d ∉ u := notMem_of_avoids (havoids p hp) hread
    obtain ⟨c, hc, hq⟩ := hread.exists_mem (hneeds p hp)
    obtain rfl | ⟨b, e, rfl⟩ := eq_nil_or_concat b
    · exact hb rfl
    rw [concat_eq_append, ← append_assoc] at hab
    obtain ⟨rfl, he⟩ := append_inj' hab rfl
    obtain rfl := singleton_inj.mp he
    -- The reading ends in front of the last character.
    have hcb : c ∈ b := by
      rw [concat_eq_append, append_assoc] at htext
      rcases List.append_eq_append_iff.mp htext with ⟨z, rfl, hz⟩ | ⟨z, rfl, -⟩
      · cases z with
        | nil => simpa using hc
        | cons f z =>
          obtain rfl := (List.cons.inj hz).1
          exact absurd (by simp) hnotMem
      · exact mem_append_left z hc
    rw [hx c (mem_append_right a hcb)] at hq
    cases hq
  rw [find?, hpasses.findFrom?_append] at hm
  obtain ⟨z, u, tail, -, -, hfirst, -⟩ := findFrom?_sound hm
  have hbefore : m.before = x ++ [d] ++ z := by
    rw [Match.before, hfirst]
    simp
  cases hdefine : beforeDefine? m.before with
  | none => exact hbefore ▸ prefix_append _ _
  | some earlier =>
    obtain ⟨w, hw, heq⟩ := eq_of_beforeDefine? hdefine
    rw [hbefore] at heq
    rcases List.append_eq_append_iff.mp heq with ⟨v, rfl, -⟩ | ⟨v, hv, hdefined⟩
    · exact prefix_append _ _
    · obtain rfl | ⟨v, e, rfl⟩ := eq_nil_or_concat v
      · exact ⟨[], by simpa using hv⟩
      rw [concat_eq_append, ← append_assoc] at hv
      obtain rfl := singleton_inj.mp (append_inj' hv rfl).2
      have hmem : d ∈ "#define".toList ++ w := by
        rw [hdefined]
        simp
      rcases mem_append.mp hmem with hmem | hmem
      · exact absurd hmem hd.2
      · rw [hw d hmem] at hd
        cases hd.1

theorem exists_standard_needs : ∃ compiled,
    inlinePatterns Rules.standard.inlinePatterns = .ok compiled ∧ ∀ p ∈ compiled,
      p.needs (· == 'l') = true ∧ p.avoids ';' = true ∧ p.avoids '\x7d' = true := by
  have hall : (inlinePatterns Rules.standard.inlinePatterns).toOption.any (·.all fun p =>
      p.needs (· == 'l') && p.avoids ';' && p.avoids '\x7d') = true := by decide +kernel
  cases hpatterns : inlinePatterns Rules.standard.inlinePatterns with
  | error e =>
    rw [hpatterns] at hall
    cases hall
  | ok compiled =>
    rw [hpatterns] at hall
    refine ⟨compiled, rfl, fun p hp => ?_⟩
    simpa [and_assoc] using all_eq_true.mp hall p hp

/-- In a source without comments and line continuations the text in front of the inline functions
stays as it is, if no pattern can match there and the groups behind it are closed, each before the
next directive.  In general it stays unless the search of some pattern matches in it, or goes on
behind it and gives up. -/
theorem transformInlines_leading {patterns : Value} {compiled : List Pattern}
    (hpatterns : inlinePatterns patterns = .ok compiled) (hcloses : ∀ p ∈ compiled, NeverCloses p)
    {t : List Char} (hascii : ∀ c ∈ t, c.toNat < 128) (hline : ¬['/', '/'] <:+: t)
    (hblock : ¬['/', '*'] <:+: t) (hjoin : '\\' ∉ t) :
    (hasInline patterns t = false → transformInlines patterns t = .ok t) ∧
    (∀ lead rest, t = lead ++ rest → Settled compiled lead → (closers rest).isSome = true →
      ∃ more, transformInlines patterns t = .ok (lead ++ more)) ∧
    ∀ lead, lead <+: t → (∃ more, transformInlines patterns t = .ok (lead ++ more)) ∨
      ∃ before p after, compiled = before ++ p :: after ∧
        Loses p lead (before.foldl (fun t p => plainFunctions p t) t) := by
  rw [transformInlines_eq hascii hline hblock hjoin, hpatterns]
  refine ⟨fun hnone => ?_, ?_, fun lead hlead => ?_⟩
  · exact congrArg Except.ok
      (foldl_plainFunctions_eq_self ((hasInline_eq_false_iff hpatterns).mp hnone))
  · rintro lead rest rfl hlead hclosed
    obtain ⟨more, hmore⟩ := foldl_plainFunctions_of_closers hcloses hlead hclosed
    exact ⟨more, congrArg Except.ok hmore⟩
  · refine (isPrefix_foldl_or compiled hlead).imp_left ?_
    rintro ⟨more, hmore⟩
    exact ⟨more, congrArg Except.ok hmore.symm⟩

theorem transformInlines_leading_declaration : ∃ more,
    transformInlines Rules.standard.inlinePatterns
      ("int a;".toList ++ "\nstatic inline int f(void) \x7b\x7d\n#define N\n\x7d".toList) =
        .ok ("int a;".toList ++ more) := by
  obtain ⟨compiled, hpatterns, hcompiled⟩ := exists_standard_needs
  have hsettled : Settled compiled ("int a".toList ++ [';']) :=
    settled_of_needs (fun p hp => (hcompiled p hp).1) (fun p hp => (hcompiled p hp).2.1)
      (by decide) (by decide)
  have hcloses : ∀ p ∈ compiled, NeverCloses p :=
    fun p hp => neverCloses_of_avoids (hcompiled p hp).2.2
  exact (transformInlines_leading hpatterns hcloses (by decide +kernel) (by decide +kernel)
    (by decide +kernel) (by decide +kernel)).2.1 _ _ rfl hsettled (by decide)

/-- A declaration in front is lost when a later body is not closed, and `static` in front when the
keywords behind it leave it next to `__inline__`. -/
theorem transformInlines_drops_leading :
    (transformInlines Rules.standard.inlinePatterns
      "int a;\nstatic inline int f(void);\nstatic inline int g(void) \x7b".toList).toOption =
        some "int f(void);\nstatic inline int g(void) \x7b".toList ∧
    (transformInlines Rules.standard.inlinePatterns
      "static static inline __inline__ int f(void);".toList).toOption =
        some "int f(void);".toList := by
  decide +kernel

end MockGen.Header
