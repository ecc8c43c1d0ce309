import MockGen.Proofs.Pattern.Exact
import MockGen.Proofs.Text.Lexeme
import MockGen.Header.Signature

/-!
# The shape of a declaration

What a match of the declaration pattern says about the text, and which texts have one.
-/

namespace MockGen.Header

open Text Pattern List

/-- The part in front of the parameter list: characters of a head, among them a letter. -/
def IsHead (h : List Char) : Prop :=
  (∀ c ∈ h, headChars.mem c = true) ∧ ∃ c ∈ h, isWord c = true

/-- A head and a parameter list in brackets, at the end of a line. -/
structure Declares (t h q rest : List Char) : Prop where
  text : t = h ++ '(' :: (q ++ ')' :: rest)
  head : IsHead h
  params : ∀ c ∈ q, paramChars.mem c = true
  lineEnd : ∀ c ∈ rest.head?, c = '\n'

theorem replaceFrom_eq_self {c : Char} {part new t : List Char} (h : c ∉ t) :
    replaceFrom (c :: part) new 0 t = t := by
  induction t with
  | nil => rfl
  | cons d t ih =>
    have hd : (c :: part).isPrefixOf (d :: t) = false := by
      have hcd : (c == d) = false := by
        rw [beq_eq_false_iff_ne]
        rintro rfl
        exact h (by simp)
      simp [List.isPrefixOf, hcd]
    rw [replaceFrom, hd, ih fun hmem => h (by simp [hmem])]
    rfl

theorem strip_brackets {x q z : List Char} (hz : ∀ c ∈ z, isBlank c = true) :
    Text.strip (x ++ '(' :: (q ++ ')' :: z)) = stripStart x ++ '(' :: (q ++ [')']) := by
  have hregroup : x ++ '(' :: (q ++ ')' :: z) = (x ++ '(' :: q) ++ ')' :: z := by simp
  have hstart : stripStart (x ++ '(' :: q) = stripStart x ++ '(' :: q := by
    rw [stripStart, stripStart, dropWhile_append]
    split
    · rename_i hnil
      rw [isEmpty_iff.mp hnil]
      rfl
    · rfl
  rw [hregroup, strip_append_cons rfl hz, hstart]
  simp

theorem headChars_word {c : Char} (h : isWord c = true) : headChars.mem c = true := by
  simp [headChars, CharSet.mem, Union.union, h]

theorem reads_head {before u rest : List Char} :
    (starLazy headChars ++ one .word ++ starLazy headChars).Reads before u rest ↔ IsHead u := by
  constructor
  · rintro ⟨_, w, rfl, ⟨v, _, rfl, hv, ⟨c, rfl, hc⟩⟩, hw⟩
    have hv := reads_starLazy.mp hv
    have hw := reads_starLazy.mp hw
    refine ⟨?_, c, by simp, hc⟩
    intro d hd
    simp only [mem_append, mem_singleton] at hd
    rcases hd with (hd | rfl) | hd
    · exact hv d hd
    · exact headChars_word hc
    · exact hw d hd
  · rintro ⟨hhead, c, hc, hword⟩
    obtain ⟨v, w, rfl⟩ := append_of_mem hc
    refine ⟨v ++ [c], w, by simp, ⟨v, [c], rfl, ?_, ⟨c, rfl, hword⟩⟩, ?_⟩
    · exact reads_starLazy.mpr fun d hd => hhead d (by simp [hd])
    · exact reads_starLazy.mpr fun d hd => hhead d (by simp [hd])

theorem holds_lineEnd {before rest : List Char} {pos : Nat} :
    Anchor.lineEnd.holds ⟨before, rest, pos⟩ = true ↔ ∀ c ∈ rest.head?, c = '\n' := by
  cases rest <;> simp [Anchor.holds]

theorem reads_declaration {before u rest : List Char} :
    declaration.Reads before u rest ↔ ∃ h q, u = h ++ '(' :: (q ++ [')']) ∧ IsHead h ∧
      (∀ c ∈ q, paramChars.mem c = true) ∧ ∀ c ∈ rest.head?, c = '\n' := by
  constructor
  · rintro ⟨_, e, rfl, ⟨_, c, rfl, ⟨_, q, rfl, ⟨h, o, rfl, hh, ho⟩, hq⟩, hc⟩, he⟩
    obtain ⟨rfl, hlast⟩ := reads_place.mp he
    obtain rfl := reads_char.mp ho
    obtain rfl := reads_char.mp hc
    exact ⟨h, q, by simp, reads_head.mp (reads_group.mp hh), reads_stretch.mp (reads_group.mp hq),
      holds_lineEnd.mp hlast⟩
  · rintro ⟨h, q, rfl, hh, hq, he⟩
    refine ⟨h ++ '(' :: (q ++ [')']), [], by simp, ⟨h ++ '(' :: q, [')'], by simp,
      ⟨h ++ ['('], q, by simp, ⟨h, ['('], rfl, ?_, reads_char.mpr rfl⟩, ?_⟩, reads_char.mpr rfl⟩,
      rfl, holds_lineEnd.mpr he⟩
    · exact reads_group.mpr (reads_head.mpr hh)
    · exact reads_group.mpr (reads_stretch.mpr hq)

theorem isSimple_declaration : declaration.isSimple = true := rfl

theorem occursIn_declaration {t : List Char} :
    declaration.occursIn t = true ↔ ∃ x h q rest,
      Declares (h ++ '(' :: (q ++ ')' :: rest)) h q rest ∧
        t = x ++ (h ++ '(' :: (q ++ ')' :: rest)) := by
  rw [occursIn_iff isSimple_declaration]
  constructor
  · rintro ⟨x, u, y, rfl, hread⟩
    obtain ⟨h, q, rfl, hh, hq, he⟩ := reads_declaration.mp hread
    exact ⟨x, h, q, y, ⟨rfl, hh, hq, he⟩, by simp⟩
  · rintro ⟨x, h, q, y, hdeclares, rfl⟩
    exact ⟨x, h ++ '(' :: (q ++ [')']), y, by simp, reads_declaration.mpr
      ⟨h, q, rfl, hdeclares.head, hdeclares.params, hdeclares.lineEnd⟩⟩

theorem matchHere?_declaration_isSome {c : Cursor} :
    (declaration.matchHere? false c).isSome = true ↔ ∃ h q rest, Declares c.rest h q rest := by
  constructor
  · intro hsome
    obtain ⟨m, hm⟩ := Option.isSome_iff_exists.mp hsome
    obtain ⟨u, rest, hrest, hread, -⟩ := matchHere?_sound hm
    obtain ⟨h, q, rfl, hh, hq, he⟩ := reads_declaration.mp hread
    exact ⟨h, q, rest, by simpa using hrest, hh, hq, he⟩
  · rintro ⟨h, q, rest, htext, hh, hq, he⟩
    have hread : declaration.Reads c.before (h ++ '(' :: (q ++ [')'])) rest :=
      reads_declaration.mpr ⟨h, q, rfl, hh, hq, he⟩
    exact matchHere?_isSome isSimple_declaration (by simpa using htext) hread

theorem matchStart?_declaration {t : List Char} {m : Match}
    (hm : declaration.matchStart? t = some m) :
    ∃ rest, Declares t (m.group 1) (m.group 2) rest := by
  have hrun : (starLazy headChars ++ one .word ++ starLazy headChars).run ⟨Cursor.start t, []⟩
      (fun r => (char '(').run { r with groups := (1, Cursor.start t, r.cursor) :: r.groups }
        fun r₂ => (stretch paramChars).run r₂ fun r₃ =>
          (char ')').run { r₃ with groups := (2, r₂.cursor, r₃.cursor) :: r₃.groups } fun r₄ =>
            (place .lineEnd).run r₄ fun q => some ⟨Cursor.start t, q.cursor, q.groups⟩) = some m :=
    hm
  obtain ⟨h, rest₁, groups, hrest₁, hhead, hm⟩ := run_sound _ _ _ _ hrun
  obtain ⟨c, rest₂, hrest₂, hc, hm⟩ := run_one_sound hm
  obtain ⟨q, rest₃, hrest₃, -, hq, hm⟩ := run_span_sound hm
  obtain ⟨d, rest₄, hrest₄, hd, hm⟩ := run_one_sound hm
  obtain rfl : c = '(' := by simpa [CharSet.mem] using hc
  obtain rfl : d = ')' := by simpa [CharSet.mem] using hd
  rw [run] at hm
  split at hm
  · rename_i hend
    have hm := Option.some.inj hm
    have hgroup₁ : m.group 1 = h := by
      rw [← hm]
      exact Cursor.upTo_past hrest₁
    have hgroup₂ : m.group 2 = q := by
      rw [← hm]
      exact Cursor.upTo_past hrest₃
    have htext : t = h ++ '(' :: (q ++ ')' :: rest₄) := by
      have h₁ : t = h ++ rest₁ := hrest₁
      have h₂ : rest₁ = '(' :: rest₂ := hrest₂
      have h₃ : rest₂ = q ++ rest₃ := hrest₃
      have h₄ : rest₃ = ')' :: rest₄ := hrest₄
      rw [h₁, h₂, h₃, h₄]
    rw [hgroup₁, hgroup₂]
    exact ⟨rest₄, htext, reads_head.mp hhead, hq, holds_lineEnd.mp hend⟩
  · simp at hm

end MockGen.Header
