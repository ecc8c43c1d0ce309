import MockGen.Proofs.Header.DefaultReader
import MockGen.Proofs.Header.InlineLoop

/-!
# How the search for inline functions ends

A pattern that matches no empty text reads something with every match, so the rest of the text gets
shorter from step to step.
-/

namespace MockGen.Header

open Pattern

/-- The search of a pattern is over after `n` iterations, with the text `t`. -/
inductive InlineRun (p : Pattern) :
    (n : Nat) → (found : Bool) → (done source t : List Char) → Prop
  | stop {found : Bool} {done source t : List Char}
      (step : inlineStep p found done source = .stop t) : InlineRun p 1 found done source t
  | next {n : Nat} {found : Bool} {done source done' source' t : List Char}
      (step : inlineStep p found done source = .next done' source')
      (more : InlineRun p n true done' source' t) : InlineRun p (n + 1) found done source t

/-- The searches of some patterns, one on the text that the other leaves, are over after no more
iterations each than their text has places. -/
inductive InlineRuns : List Pattern → (source t : List Char) → Prop
  | nil (t : List Char) : InlineRuns [] t t
  | cons {p : Pattern} {ps : List Pattern} {n : Nat} {source next t : List Char}
      (run : InlineRun p n false [] source next) (bound : n ≤ source.length + 1)
      (more : InlineRuns ps next t) : InlineRuns (p :: ps) source t

def NeverEmpty (p : Pattern) : Prop :=
  ∀ t m, p.find? t = some m → m.text ≠ []

theorem neverEmpty_of_advances {p : Pattern} (hp : p.Advances) : NeverEmpty p :=
  fun _ _ hm => hp _ _ _ (find?_parts hm).2

section

variable {p : Pattern} {found : Bool} {done source : List Char}

theorem length_lt_of_inlineStep (hp : NeverEmpty p) {done' source' : List Char}
    (h : inlineStep p found done source = .next done' source') :
    source'.length < source.length := by
  obtain ⟨m, kept, hfind, -, -, -, hafter⟩ := inlineStep_next h
  have hsource := congrArg List.length (eq_of_find? hfind)
  have htext := List.length_pos_iff.mpr (hp _ _ hfind)
  simp only [List.length_append] at hsource
  omega

theorem exists_inlineRun (hp : NeverEmpty p) {fuel : Nat} (hfuel : source.length < fuel) :
    ∃ n ≤ source.length + 1,
      InlineRun p n found done source (inlineLoop p fuel found done source) := by
  induction fuel generalizing found done source with
  | zero => exact absurd hfuel (Nat.not_lt_zero _)
  | succ fuel ih =>
    rw [inlineLoop]
    cases hstep : inlineStep p found done source with
    | stop t => exact ⟨1, by omega, .stop hstep⟩
    | next done' source' =>
      have hless := length_lt_of_inlineStep hp hstep
      obtain ⟨n, hn, hrun⟩ := @ih true done' source' (by omega)
      exact ⟨n + 1, by omega, .next hstep hrun⟩

end

theorem inlineRuns_foldl {ps : List Pattern} (hps : ∀ p ∈ ps, NeverEmpty p) (t : List Char) :
    InlineRuns ps t (ps.foldl (fun t p => plainFunctions p t) t) := by
  induction ps generalizing t with
  | nil => exact .nil t
  | cons p ps ih =>
    obtain ⟨n, hn, hrun⟩ := exists_inlineRun (hps p (by simp)) (Nat.lt_succ_self t.length)
    exact .cons hrun hn (ih (fun q hq => hps q (by simp [hq])) _)

theorem exists_neverEmpty_standard : ∃ compiled,
    inlinePatterns Rules.standard.inlinePatterns = .ok compiled ∧ ∀ p ∈ compiled, NeverEmpty p := by
  have hneeds : (inlinePatterns Rules.standard.inlinePatterns).toOption.any
      (·.all (·.needs fun _ => true)) = true := by decide +kernel
  cases hpatterns : inlinePatterns Rules.standard.inlinePatterns with
  | error e =>
    rw [hpatterns] at hneeds
    cases hneeds
  | ok compiled =>
    rw [hpatterns] at hneeds
    refine ⟨compiled, rfl, fun p hp => neverEmpty_of_advances ?_⟩
    exact advances_of_needs (List.all_eq_true.mp hneeds p hp)

/-- With patterns that match no empty text, as the standard ones, every search for inline functions
comes to an end. -/
theorem transformInlines_ends :
    (∀ (patterns : Value) (compiled : List Pattern), inlinePatterns patterns = .ok compiled →
      (∀ p ∈ compiled, NeverEmpty p) →
      (∀ p ∈ compiled, ∀ found done source done' source',
        inlineStep p found done source = .next done' source' → source'.length < source.length) ∧
      ∀ source, ∃ t, transformInlines patterns source = .ok t ∧
        InlineRuns compiled (inlineSource source) t) ∧
    ∃ compiled, inlinePatterns Rules.standard.inlinePatterns = .ok compiled ∧
      ∀ p ∈ compiled, NeverEmpty p := by
  refine ⟨fun patterns compiled hpatterns hcompiled => ⟨?_, ?_⟩, exists_neverEmpty_standard⟩
  · exact fun p hp found done source done' source' => length_lt_of_inlineStep (hcompiled p hp)
  · intro source
    refine ⟨_, ?_, inlineRuns_foldl hcompiled (inlineSource source)⟩
    rw [transformInlines_eq_map, hpatterns]
    rfl

theorem transformInlines_ends_standard : ∃ compiled,
    inlinePatterns Rules.standard.inlinePatterns = .ok compiled ∧
    ∀ source, ∃ t, transformInlines Rules.standard.inlinePatterns source = .ok t ∧
      InlineRuns compiled (inlineSource source) t := by
  obtain ⟨hends, compiled, hpatterns, hcompiled⟩ := transformInlines_ends
  exact ⟨compiled, hpatterns, (hends _ _ hpatterns hcompiled).2⟩

end MockGen.Header
