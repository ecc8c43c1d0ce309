import MockGen.Format
import MockGen.Proofs.Outcome
import MockGen.Proofs.Text.Brackets

/-!
# Brackets in what a format makes of a text

The places of a format have no brackets, so the result is well nested if the format and what it
shows of the text are.  A format that does not cut the text shows all of its brackets.
-/

namespace MockGen

open Code Text List Outcome Bool

/-! ## Quoted texts -/

namespace Value

theorem isBracket_of_mem_toDigitsCore {fuel n : Nat} {digits : List Char}
    (hdigits : ∀ c ∈ digits, isBracket c = false) :
    ∀ c ∈ Nat.toDigitsCore 16 fuel n digits, isBracket c = false := by
  have hdigit : ∀ n < 16, isBracket n.digitChar = false := by decide
  induction fuel generalizing n digits with
  | zero => exact hdigits
  | succ fuel ih =>
    have hmore : ∀ c ∈ (n % 16).digitChar :: digits, isBracket c = false :=
      forall_mem_cons.mpr ⟨hdigit _ (Nat.mod_lt _ (by omega)), hdigits⟩
    unfold Nat.toDigitsCore
    dsimp only
    split
    · exact hmore
    · exact ih hmore

theorem brackets_quotedChar {plain : Char → Bool}
    (hplain : ∀ c, isBracket c = true → plain c = true) (quote c : Char) :
    brackets (quotedChar plain quote c) = brackets [c] := by
  have hhex : ∀ mark width, isBracket mark = false → brackets ('\\' :: mark ::
      (List.replicate (width - (Nat.toDigits 16 c.toNat).length) '0' ++
        Nat.toDigits 16 c.toNat)) = [] := by
    intro mark width hmark
    apply brackets_eq_nil
    simp only [forall_mem_cons, forall_mem_append]
    refine ⟨by decide, hmark, fun d hd => ?_, isBracket_of_mem_toDigitsCore nofun⟩
    rw [eq_of_mem_replicate hd]
    decide
  unfold quotedChar
  dsimp only
  split
  · rfl
  · split
    case isTrue h => rw [beq_iff_eq.mp h]; rfl
    case isFalse =>
      split
      case isTrue h => rw [beq_iff_eq.mp h]; rfl
      case isFalse =>
        split
        case isTrue h => rw [beq_iff_eq.mp h]; rfl
        case isFalse =>
          split
          · rfl
          case isFalse hc =>
            have hnone : brackets [c] = [] := by
              refine brackets_eq_nil (forall_mem_singleton.mpr ?_)
              exact eq_false_iff.mpr fun h => hc (hplain c h)
            rw [hnone]
            split_ifs <;> exact hhex _ _ (by decide)

theorem brackets_quotedWith {plain : Char → Bool}
    (hplain : ∀ c, isBracket c = true → plain c = true) (s : String) :
    brackets (quotedWith plain s).toList = brackets s.toList := by
  unfold quotedWith
  dsimp only
  split_ifs
  all_goals
    rw [String.toList_ofList, brackets_append, brackets_cons,
      brackets_flatMap (brackets_quotedChar hplain _)]
    exact append_nil _

end Value

namespace Format

/-! ## The places of a format -/

def places : (fuel : Nat) → List Char → List Spec
  | _, [] => []
  | 0, _ :: _ => []
  | fuel + 1, c :: rest =>
    if c != '%' then places fuel rest
    else
      match rest with
      | '%' :: rest => places fuel rest
      | rest =>
        match readSpec rest with
        | .ok (spec, rest) => spec :: places fuel rest
        | .error _ => []

variable {t rest : List Char} {spec : Spec} {arg : String}

theorem isBracket_of_isFlag (c : Char) (h : isFlag c = true) : isBracket c = false := by
  simp only [isFlag, or_eq_true, beq_iff_eq] at h
  rcases h with (((rfl | rfl) | rfl) | rfl) | rfl <;> decide

theorem isBracket_of_isDigit (c : Char) (h : isDigit c = true) : isBracket c = false := by
  have hbrackets : ∀ d ∈ ['(', '[', '\x7b', ')', ']', '\x7d'], isDigit d = false := by decide
  refine eq_false_iff.mpr fun hc => ?_
  rw [hbrackets c (isBracket_iff.mp hc)] at h
  exact false_ne_true h

theorem brackets_of_readNumber {largest n : Nat} (h : readNumber largest t = .ok (n, rest)) :
    brackets rest = brackets t := by
  unfold readNumber at h
  dsimp only at h
  split at h
  · cases h
  · cases h
    exact brackets_dropWhile isBracket_of_isDigit t

theorem brackets_of_readPrecision {precision : Option Nat}
    (h : readPrecision t = .ok (precision, rest)) : brackets rest = brackets t := by
  unfold readPrecision at h
  split at h
  · split at h
    · cases h
    · obtain ⟨⟨n, u⟩, hn, hpure⟩ := bind_eq_ok.mp h
      cases hpure
      rw [brackets_cons]
      exact brackets_of_readNumber hn
  · cases h
    rfl

theorem brackets_dropLengthMark (t : List Char) : brackets (dropLengthMark t) = brackets t := by
  cases t with
  | nil => rfl
  | cons c t =>
    rw [dropLengthMark]
    split
    case isTrue h =>
      simp only [or_eq_true, beq_iff_eq] at h
      rcases h with (rfl | rfl) | rfl <;> rfl
    case isFalse => rfl

theorem brackets_of_readSpec (h : readSpec t = .ok (spec, rest)) :
    brackets (spec.conversion :: rest) = brackets t := by
  unfold readSpec at h
  dsimp only at h
  split at h
  · cases h
  split at h
  · cases h
  obtain ⟨⟨width, u⟩, hwidth, h⟩ := bind_eq_ok.mp h
  obtain ⟨⟨precision, v⟩, hprecision, h⟩ := bind_eq_ok.mp h
  have hv : brackets v = brackets t := by
    rw [brackets_of_readPrecision hprecision, brackets_of_readNumber hwidth,
      brackets_dropWhile isBracket_of_isFlag]
  rw [← hv, ← brackets_dropLengthMark v]
  dsimp only at h
  split at h
  case h_1 c u heq =>
    cases h
    rw [heq]
  case h_2 => cases h

theorem isBracket_of_shown (h : shown spec arg = .ok t) : isBracket spec.conversion = false := by
  unfold shown at h
  dsimp only at h
  refine eq_false_iff.mpr fun hc => ?_
  have hletters : ∀ d ∈ ['(', '[', '\x7b', ')', ']', '\x7d'],
      (d == 's') = false ∧ (d == 'r') = false ∧ (d == 'a') = false ∧ (d == 'c') = false := by
    decide
  obtain ⟨hs, hr, ha, hc⟩ := hletters _ (isBracket_iff.mp hc)
  simp only [hs, hr, ha, hc, false_eq_true, if_false] at h
  split at h <;> cases h

theorem brackets_of_shown (hprecision : spec.precision = none) (h : shown spec arg = .ok t) :
    brackets t = brackets arg.toList := by
  have hfitted : ∀ u, brackets (fitted spec u) = brackets u := by
    intro u
    have hgap : brackets (List.replicate (spec.width - u.length) ' ') = [] := by
      refine brackets_eq_nil fun c hc => ?_
      rw [eq_of_mem_replicate hc]
      decide
    unfold fitted
    rw [hprecision]
    dsimp only
    split
    · rw [brackets_append, hgap, append_nil]
    · rw [brackets_append, hgap, nil_append]
  have hprintable : ∀ c ∈ ['(', '[', '\x7b', ')', ']', '\x7d'],
      isPrintable c = true ∧ (decide (c.toNat < 128) && isPrintable c) = true := by decide
  unfold shown at h
  dsimp only at h
  split at h
  · cases h
    exact hfitted _
  split at h
  · cases h
    rw [hfitted]
    exact Value.brackets_quotedWith (fun c hc => (hprintable c (isBracket_iff.mp hc)).1) arg
  split at h
  · cases h
    rw [hfitted]
    exact Value.brackets_quotedWith (fun c hc => (hprintable c (isBracket_iff.mp hc)).2) arg
  split at h
  · split at h
    case h_1 c heq =>
      cases h
      rw [hfitted, heq]
    case h_2 => cases h
  · split at h <;> cases h

/-! ## Formats -/

theorem places_of_readSpec {fuel : Nat} (hpercent : ∀ rest, t = '%' :: rest → False)
    (h : readSpec t = .ok (spec, rest)) :
    places (fuel + 1) ('%' :: t) = spec :: places fuel rest := by
  rw [places, if_neg (by decide), h]
  exact hpercent

theorem dueBehind_percent (due t : List Char) : dueBehind due ('%' :: t) = dueBehind due t :=
  dueBehind_cons due '%' t

theorem dueBehind_expandFrom {fuel : Nat} {used : Bool} {u : List Char}
    (hshown : ∀ spec ∈ places fuel t, ∀ v, shown spec arg = .ok v → Nested (String.ofList v))
    (h : expandFrom arg fuel used t = .ok u) (due : List Char) :
    dueBehind due u = dueBehind due t := by
  induction fuel generalizing used t u due with
  | zero =>
    cases t with
    | nil =>
      unfold expandFrom at h
      split at h <;> cases h
      rfl
    | cons c t => cases h
  | succ fuel ih =>
    cases t with
    | nil =>
      unfold expandFrom at h
      split at h <;> cases h
      rfl
    | cons c t =>
      unfold expandFrom at h
      split at h
      case isTrue hc =>
        unfold places at hshown
        rw [if_pos hc] at hshown
        obtain ⟨v, hv, hpure⟩ := bind_eq_ok.mp h
        cases hpure
        rw [dueBehind_cons, dueBehind_cons]
        exact congrArg _ (funext fun due => ih hshown hv due)
      case isFalse hc =>
        obtain rfl : c = '%' := by simpa using hc
        split at h
        case h_1 rest =>
          obtain ⟨v, hv, hpure⟩ := bind_eq_ok.mp h
          cases hpure
          simp only [dueBehind_percent]
          exact ih hshown hv due
        case h_2 hpercent =>
          obtain ⟨⟨spec, rest⟩, hspec, h⟩ := bind_eq_ok.mp h
          rw [places_of_readSpec hpercent hspec, forall_mem_cons] at hshown
          dsimp only at h
          split at h
          · cases h
          obtain ⟨v, hv, h⟩ := bind_eq_ok.mp h
          obtain ⟨x, hx, hpure⟩ := bind_eq_ok.mp h
          cases hpure
          have hplace : brackets t = brackets rest := by
            rw [← brackets_of_readSpec hspec, brackets_cons,
              brackets_eq_nil (forall_mem_singleton.mpr (isBracket_of_shown hv))]
            rfl
          have htext := (hshown.1 v hv).behind_eq (some due)
          rw [behind_ofList] at htext
          rw [dueBehind_percent, ← dueBehind_brackets due t, hplace, dueBehind_brackets,
            dueBehind_append]
          exact (congrArg (Option.bind · (dueBehind · x)) htext).trans (ih hshown.2 hx due)

theorem nested_expand {format : Value} {line : String} (hformat : ∀ s, format = .str s → Nested s)
    (harg : Nested arg) (hcut : ∀ s, format = .str s → ∀ spec ∈ places s.toList.length s.toList,
      ∀ n, spec.precision = some n → ∀ v, shown spec arg = .ok v → Nested (String.ofList v))
    (h : expand format arg = .ok line) : Nested line := by
  unfold expand at h
  split at h
  case h_2 => cases h
  case h_1 s =>
    cases hfrom : expandFrom arg s.toList.length false s.toList with
    | error fault =>
      rw [hfrom] at h
      cases h
    | ok u =>
      rw [hfrom] at h
      cases h
      constructor
      rw [String.toList_ofList, dueBehind_expandFrom (fun spec hspec v hv => ?_) hfrom]
      · exact (hformat s rfl).dueBehind_eq
      · cases hprecision : spec.precision with
        | none =>
          refine harg.of_brackets_eq ?_
          rw [String.toList_ofList]
          exact brackets_of_shown hprecision hv
        | some n => exact hcut s rfl spec hspec n hprecision v hv

end Format

end MockGen
