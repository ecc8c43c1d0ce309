import MockGen.Proofs.Header.Bodies
import MockGen.Proofs.Header.Comments
import MockGen.Proofs.Header.Plain

/-!
# Going through a header for inline functions

No step makes the text longer, and a pattern that does not occur leaves it as it is.
-/

namespace MockGen.Header

open Text Pattern List Nat

variable {t earlier : List Char} {p : Pattern}

/-! ## Sources -/

theorem replace_lineJoin_eq_self (h : '\\' ∉ t) : lineJoin.replace " " t = t := by
  refine Absent.replace_eq (absent_of_needs (q := (· == '\\')) rfl fun c hc => ?_) " "
  rw [beq_eq_false_iff_ne]
  rintro rfl
  exact h hc

/-- The patterns for inline functions, ready for matching. -/
def inlinePatterns (patterns : Value) : Except Fault (List Pattern) := do
  (← patterns.items).mapM inlinePattern

/-- Some pattern for inline functions matches in the text. -/
def hasInline (patterns : Value) (t : List Char) : Bool :=
  (inlinePatterns patterns).toOption.any fun compiled => compiled.any (·.occursIn t)

theorem hasInline_eq_false_iff {patterns : Value} {compiled : List Pattern}
    (h : inlinePatterns patterns = .ok compiled) :
    hasInline patterns t = false ↔ ∀ p ∈ compiled, p.occursIn t = false := by
  rw [hasInline, h]
  simp [Except.toOption]

/-- The text in which inline functions are looked for. -/
def inlineSource (source : List Char) : List Char :=
  lineJoin.replace " " (removeComments (clean source))

theorem transformInlines_eq_map (patterns : Value) (source : List Char) :
    transformInlines patterns source = (inlinePatterns patterns).map fun compiled =>
      compiled.foldl (fun t p => plainFunctions p t) (inlineSource source) := by
  rw [transformInlines, inlinePatterns]
  cases patterns.items with
  | error e => rfl
  | ok items =>
    cases hitems : items.mapM inlinePattern with
    | error e => simp [bind, Except.bind, hitems]; rfl
    | ok compiled => simp [bind, Except.bind, hitems]; rfl

theorem transformInlines_eq (hascii : ∀ c ∈ t, c.toNat < 128) (hline : ¬['/', '/'] <:+: t)
    (hblock : ¬['/', '*'] <:+: t) (hjoin : '\\' ∉ t) (patterns : Value) :
    transformInlines patterns t =
      (inlinePatterns patterns).map fun compiled =>
        compiled.foldl (fun t p => plainFunctions p t) t := by
  rw [transformInlines_eq_map, inlineSource, clean_eq_self hascii,
    removeComments_eq_self hline hblock, replace_lineJoin_eq_self hjoin]

/-! ## Steps -/

theorem find?_parts {m : Match} (h : p.find? t = some m) :
    t = m.before ++ (m.text ++ m.after) ∧ p.Reads m.before.reverse m.text m.after := by
  obtain ⟨x, u, y, ht, hread, hfirst, hlast⟩ := findFrom?_sound h
  have htext : m.text = u := by
    rw [Match.text, hlast]
    exact Cursor.upTo_past (by rw [hfirst]; rfl)
  rw [htext, Match.before, Match.after, hlast, hfirst, ht]
  exact ⟨by simp, by simpa using hread⟩

theorem eq_of_find? {m : Match} (h : p.find? t = some m) : t = m.before ++ (m.text ++ m.after) :=
  (find?_parts h).1

theorem eq_of_beforeDefine? (h : beforeDefine? t = some earlier) :
    ∃ w, (∀ c ∈ w, isBlank c = true) ∧ t = earlier ++ ("#define".toList ++ w) := by
  rw [beforeDefine?] at h
  split at h
  case isTrue hdefine =>
    obtain rfl := Option.some.inj h
    obtain ⟨s, hs⟩ := List.isPrefixOf_iff_prefix.mp hdefine
    refine ⟨(t.reverse.takeWhile isBlank).reverse, fun c hc => ?_, ?_⟩
    · exact mem_takeWhile_imp (mem_reverse.mp hc)
    · have hsplit := congrArg List.reverse (takeWhile_append_dropWhile (p := isBlank)
        (l := t.reverse))
      rw [reverse_append, reverse_reverse, ← hs, reverse_append,
        reverse_reverse] at hsplit
      rw [← hs, drop_left, ← append_assoc]
      exact hsplit.symm
  case isFalse => cases h

theorem isPrefix_of_beforeDefine? (h : beforeDefine? t = some earlier) : earlier <+: t := by
  obtain ⟨w, -, rfl⟩ := eq_of_beforeDefine? h
  exact prefix_append _ _

theorem length_afterLine_le (t : List Char) : (afterLine t).length ≤ t.length := by
  have := (dropWhile_suffix (· != '\n') (l := t)).length_le
  rw [afterLine, length_drop]
  omega

section

variable {p : Pattern} {found : Bool} {done source done' source' t : List Char}

/-- The first match belongs to a function whose body is not closed. -/
def Unclosed (p : Pattern) (source : List Char) : Prop :=
  ∃ m, p.find? source = some m ∧ beforeDefine? m.before = none ∧
    declarationAhead.matchStart? m.after = none ∧
    (definitionAhead.matchStart? m.after).isSome = true ∧ countPairs m.after = 0

/-- A search is over when nothing is found any more, or it gives up at a body that is not closed and
returns the rest of the text alone. -/
theorem inlineStep_stop (h : inlineStep p found done source = .stop t) :
    (p.find? source = none ∧ t = if found then done ++ source else source) ∨
      (Unclosed p source ∧ t = source) := by
  rw [inlineStep] at h
  cases hfind : p.find? source with
  | none =>
    rw [hfind] at h
    exact Or.inl ⟨rfl, (InlineStep.stop.inj h).symm⟩
  | some m =>
    simp only [hfind] at h
    split at h
    · cases h
    case h_2 hdefine =>
      split_ifs at h with hdeclaration hdefinition
      rw [Option.not_isSome_iff_eq_none] at hdeclaration
      split at h
      case h_1 hpairs =>
        exact Or.inr ⟨⟨m, hfind, hdefine, hdeclaration, hdefinition, hpairs⟩,
          (InlineStep.stop.inj h).symm⟩
      case h_2 => cases h

/-- A search that goes on keeps what stands in front of its match, up to a macro definition, and
goes on behind the match with a text that is no longer than what stands there. -/
theorem inlineStep_next (h : inlineStep p found done source = .next done' source') :
    ∃ m kept, p.find? source = some m ∧ done' = done ++ kept ∧
      (beforeDefine? m.before).getD m.before <+: kept ∧
      kept.length ≤ m.before.length + m.text.length ∧ source'.length ≤ m.after.length := by
  rw [inlineStep] at h
  cases hfind : p.find? source with
  | none =>
    rw [hfind] at h
    cases h
  | some m =>
    rw [hfind] at h
    dsimp only at h
    cases hdefine : beforeDefine? m.before with
    | some earlier =>
      rw [hdefine] at h
      obtain ⟨rfl, rfl⟩ := InlineStep.next.inj h
      have := (isPrefix_of_beforeDefine? hdefine).length_le
      exact ⟨m, earlier, rfl, rfl, by rw [hdefine]; exact prefix_rfl, by omega,
        length_afterLine_le _⟩
    | none =>
      have hbefore : (beforeDefine? m.before).getD m.before <+: m.before := by
        rw [hdefine]
        exact prefix_rfl
      rw [hdefine] at h
      dsimp only at h
      split at h
      · obtain ⟨rfl, rfl⟩ := InlineStep.next.inj h
        exact ⟨m, m.before, rfl, rfl, hbefore, by omega, le_refl _⟩
      · split at h
        · split at h
          · cases h
          · obtain ⟨rfl, rfl⟩ := InlineStep.next.inj h
            exact ⟨m, m.before, rfl, rfl, hbefore, by omega, length_dropBodies_le _ _⟩
        · obtain ⟨rfl, rfl⟩ := InlineStep.next.inj h
          exact ⟨m, m.before ++ m.text, rfl, by simp,
            hbefore.trans (prefix_append _ _), by simp, le_refl _⟩

end

/-- What a step leaves is no longer than what it was given. -/
def InlineStep.size : InlineStep → Nat
  | stop source => source.length
  | next done source => done.length + source.length

theorem size_inlineStep_le (p : Pattern) (found : Bool) (done source : List Char) :
    (inlineStep p found done source).size ≤ done.length + source.length := by
  cases hstep : inlineStep p found done source with
  | stop t =>
    rw [InlineStep.size]
    rcases inlineStep_stop hstep with ⟨-, rfl⟩ | ⟨-, rfl⟩
    · cases found <;> simp
    · exact le_add_left _ _
  | next done' source' =>
    obtain ⟨m, kept, hfind, rfl, -, hkept, hafter⟩ := inlineStep_next hstep
    have hsource := congrArg List.length (eq_of_find? hfind)
    simp only [InlineStep.size, length_append] at hsource ⊢
    omega

theorem length_inlineLoop_le (p : Pattern) (fuel : Nat) (found : Bool) (done source : List Char) :
    (inlineLoop p fuel found done source).length ≤ done.length + source.length := by
  induction fuel generalizing found done source with
  | zero => simp [inlineLoop]
  | succ fuel ih =>
    have hstep := size_inlineStep_le p found done source
    rw [inlineLoop]
    cases hnext : inlineStep p found done source with
    | stop t => simpa [hnext, InlineStep.size] using hstep
    | next done' source' =>
      rw [hnext] at hstep
      exact le_trans (ih true done' source') hstep

theorem length_plainFunctions_le (p : Pattern) (t : List Char) :
    (plainFunctions p t).length ≤ t.length := by
  rw [plainFunctions]
  simpa using length_inlineLoop_le p (t.length + 1) false [] t

theorem length_foldl_plainFunctions_le (ps : List Pattern) (t : List Char) :
    (ps.foldl (fun t p => plainFunctions p t) t).length ≤ t.length := by
  induction ps generalizing t with
  | nil => exact le_refl _
  | cons p ps ih => exact le_trans (ih _) (length_plainFunctions_le p t)

theorem inlineStep_of_find?_eq_none {source : List Char} (h : p.find? source = none)
    (found : Bool) (done : List Char) :
    inlineStep p found done source = .stop (if found then done ++ source else source) := by
  rw [inlineStep, h]

theorem find?_eq_none_iff : p.find? t = none ↔ p.occursIn t = false := by
  rw [occursIn, Option.isSome_eq_false_iff, Option.isNone_iff_eq_none]

theorem plainFunctions_eq_self (h : p.occursIn t = false) : plainFunctions p t = t := by
  rw [plainFunctions, inlineLoop, inlineStep_of_find?_eq_none (find?_eq_none_iff.mpr h)]
  rfl

theorem foldl_plainFunctions_eq_self {ps : List Pattern} (h : ∀ p ∈ ps, p.occursIn t = false) :
    ps.foldl (fun t p => plainFunctions p t) t = t := by
  induction ps with
  | nil => rfl
  | cons p ps ih =>
    rw [foldl_cons, plainFunctions_eq_self (h p (by simp)), ih fun q hq => h q (by simp [hq])]

end MockGen.Header
