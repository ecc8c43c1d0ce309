import MockGen.Proofs.Header.DefaultReader
import MockGen.Proofs.Header.Run
import MockGen.Proofs.Header.Spacing
import MockGen.Proofs.Pattern.Exact
import MockGen.Proofs.Pattern.Invariants

/-!
# The form of the statements of a header

Each replacement that brings white space into one form reaches one property of the text, and the
ones behind it keep what is reached.  So the statements have single spaces only, none at an end or
next to a bracket.
-/

namespace MockGen.Header

open Text Pattern List

/-! ## White space around a sign -/

def NoBlankBeside (d a b : Char) : Prop :=
  (b = d → isBlank a = false) ∧ (a = d → isBlank b = false)

def Edged (t : List Char) : Prop :=
  (∀ c ∈ t.head?, isBlank c = false) ∧ ∀ c ∈ t.getLast?, isBlank c = false

variable {t line : List Char} {r : Rules}

theorem Edged.replace {x u y : List Char} {d : Char} (h : Edged (x ++ (u ++ y))) (hne : u ≠ [])
    (hd : isBlank d = true → ∀ c ∈ u, isBlank c = true) : Edged (x ++ ([d] ++ y)) := by
  obtain ⟨hhead, hlast⟩ := h
  constructor
  · cases x with
    | cons a x => exact hhead
    | nil =>
      obtain ⟨e, u, rfl⟩ := exists_cons_of_ne_nil hne
      rintro _ ⟨⟩
      by_contra hblank
      have := hhead e rfl
      simp [hd (by simpa using hblank) e] at this
  · rcases eq_nil_or_concat y with rfl | ⟨y, b, rfl⟩
    · obtain ⟨u, e, rfl⟩ := (eq_nil_or_concat u).resolve_left hne
      intro c hc
      obtain rfl : d = c := by simpa using hc
      by_contra hblank
      have := hlast e (by simp)
      simp [hd (by simpa using hblank) e] at this
    · rw [concat_eq_append] at hlast ⊢
      simpa only [← append_assoc, getLast?_append_of_ne_nil _ (cons_ne_nil b [])]
        using hlast

section

variable {d x : Char} {before rest : List Char}

theorem advances_around (d : Char) : (blanks ++ char d ++ blanks).Advances :=
  advances_of_needs rfl

theorem reads_around {u y : List Char} :
    (blanks ++ char d ++ blanks).Reads before u y ↔ ∃ v w, u = v ++ d :: w ∧
      (∀ c ∈ v, isBlank c = true) ∧ ∀ c ∈ w, isBlank c = true := by
  constructor
  · rintro ⟨_, w, rfl, ⟨v, _, rfl, hv, hc⟩, hw⟩
    obtain rfl := reads_char.mp hc
    exact ⟨v, w, by simp, reads_blanks.mp hv, reads_blanks.mp hw⟩
  · rintro ⟨v, w, rfl, hv, hw⟩
    exact ⟨v ++ [d], w, by simp, ⟨v, [d], rfl, reads_blanks.mpr hv, reads_char.mpr rfl⟩,
      reads_blanks.mpr hw⟩

/-- The way to each `d` does not go through white space alone. -/
def Shielded (d : Char) (rest : List Char) : Prop :=
  ∀ v y, rest = v ++ d :: y → ∃ b ∈ v, isBlank b = false

theorem not_shielded_of_reads {u y : List Char}
    (h : (blanks ++ char d ++ blanks).Reads before u y) : ¬Shielded d (u ++ y) := by
  obtain ⟨v, w, rfl, hv, -⟩ := reads_around.mp h
  intro hshielded
  obtain ⟨b, hb, hnot⟩ := hshielded v (w ++ y) (by simp)
  rw [hv b hb] at hnot
  cases hnot

theorem shielded_of_matchHere? {pos : Nat}
    (h : (blanks ++ char d ++ blanks).matchHere? false ⟨before, rest, pos⟩ = none) :
    Shielded d rest := by
  rintro v y rfl
  by_contra hall
  have hv : ∀ c ∈ v, isBlank c = true := by
    intro c hc
    by_contra hblank
    exact hall ⟨c, hc, by simpa using hblank⟩
  exact not_reads_of_matchHere? rfl h (append_cons v d y)
    (reads_around.mpr ⟨v, [], rfl, hv, by simp⟩)

theorem Shielded.ne (h : Shielded d (x :: rest)) : x ≠ d := by
  rintro rfl
  simpa using h [] rest rfl

theorem Shielded.tail (h : Shielded d (x :: rest)) (hx : isBlank x = true) : Shielded d rest := by
  rintro v y rfl
  obtain ⟨b, hb, hnot⟩ := h (x :: v) y rfl
  rcases mem_cons.mp hb with rfl | hb
  · rw [hx] at hnot
    cases hnot
  · exact ⟨b, hb, hnot⟩

theorem isChain_replace_around {R : Char → Char → Prop} (hleft : ∀ a, R a d) (hright : ∀ b, R d b)
    (h : t.IsChain R) : ((blanks ++ char d ++ blanks).replace (String.ofList [d]) t).IsChain R := by
  refine replace_preserves (advances_around d) (fun x before u y _ hchain => ?_) h
  rw [String.toList_ofList]
  obtain ⟨hx, huy, -⟩ := isChain_append.mp hchain
  obtain ⟨-, hy, -⟩ := isChain_append.mp huy
  refine isChain_append.mpr ⟨hx, isChain_append.mpr ⟨by simp, hy, ?_⟩, ?_⟩
  · intro a ha b hb
    obtain rfl : d = a := by simpa using ha
    exact hright b
  · intro a ha b hb
    obtain rfl : d = b := by simpa using hb
    exact hleft a

theorem edged_replace_around (hd : isBlank d = false) (h : Edged t) :
    Edged ((blanks ++ char d ++ blanks).replace (String.ofList [d]) t) := by
  refine replace_preserves (advances_around d) (fun x before u y hread hedged => ?_) h
  rw [String.toList_ofList]
  exact hedged.replace (advances_around d _ _ _ hread) (by simp [hd])

theorem noBlankBeside_replace_around (hd : isBlank d = false) (t : List Char) :
    ((blanks ++ char d ++ blanks).replace (String.ofList [d]) t).IsChain (NoBlankBeside d) := by
  refine replaceBy_invariant (advances_around d) (Q := List.IsChain (NoBlankBeside d))
    (I := fun text c => text.IsChain (NoBlankBeside d) ∧ ∀ a ∈ text.getLast?,
      (isBlank a = true → Shielded d c.rest) ∧ (a = d → ∀ b ∈ c.rest.head?, isBlank b = false))
    ?_ ?_ (fun _ _ _ h => h.1) ⟨by simp, by simp⟩
  · rintro text c m u y hm hrest hread - ⟨hchain, hlast⟩
    rw [String.toList_ofList]
    refine ⟨isChain_append.mpr ⟨hchain, by simp, ?_⟩, ?_⟩
    · intro a ha b hb
      obtain rfl : d = b := by simpa using hb
      refine ⟨fun _ => ?_, fun _ => hd⟩
      by_contra hblank
      exact not_shielded_of_reads hread (hrest ▸ (hlast a ha).1 (by simpa using hblank))
    · intro a ha
      obtain rfl : d = a := by simpa using ha
      exact ⟨fun hblank => by simp [hd] at hblank, fun _ => matchHere?_stretch_longest hm⟩
  · rintro text before x rest pos hm ⟨hchain, hlast⟩
    have hshielded := shielded_of_matchHere? hm
    refine ⟨isChain_append.mpr ⟨hchain, by simp, ?_⟩, ?_⟩
    · intro a ha b hb
      obtain rfl : x = b := by simpa using hb
      exact ⟨fun h => absurd h hshielded.ne, fun h => (hlast a ha).2 h x rfl⟩
    · intro a ha
      obtain rfl : x = a := by simpa using ha
      exact ⟨hshielded.tail, fun h => absurd h hshielded.ne⟩

end

/-! ## Text in one form -/

/-- White space stands between other characters only, as single spaces, and not next to brackets. -/
structure Neat (t : List Char) : Prop where
  edged : Edged t
  spaces : ∀ c ∈ t, isBlank c = true → c = ' '
  single : t.IsChain fun a b => isBlank a = true → isBlank b = false
  opening : t.IsChain (NoBlankBeside '(')
  closing : t.IsChain (NoBlankBeside ')')

theorem head_lineLead (t : List Char) : ∀ c ∈ (lineLead.remove t).head?, isBlank c = false := by
  have hp : lineLead.Advances := (advances_stretch1 _).seq_right
  refine replaceBy_invariant hp (Q := fun text => ∀ c ∈ text.head?, isBlank c = false)
    (I := fun text c => (∀ a ∈ text.head?, isBlank a = false) ∧
      (text = [] → c.before = [] ∨ ∀ b ∈ c.rest.head?, isBlank b = false)) ?_ ?_
    (fun _ _ _ h => h.1) ⟨by simp, fun _ => .inl rfl⟩
  · rintro text c m u y hm hrest hread hlast ⟨hhead, -⟩
    rw [append_nil]
    exact ⟨hhead, fun _ => .inr (matchHere?_stretch_longest hm)⟩
  · rintro text before x rest pos hm ⟨hhead, hstart⟩
    refine ⟨?_, fun h => absurd h (by simp)⟩
    cases text with
    | cons a text => exact hhead
    | nil =>
      rcases hstart rfl with hbefore | hx
      · obtain rfl : before = [] := hbefore
        by_contra hblank
        refine not_reads_of_matchHere? (u := [x]) rfl hm rfl
          ⟨[], [x], rfl, reads_place.mpr ⟨rfl, rfl⟩, reads_blanks1.mpr ⟨by simp, ?_⟩⟩
        simpa using hblank
      · exact hx

theorem edged_lineTail (h : ∀ c ∈ t.head?, isBlank c = false) : Edged (lineTail.remove t) := by
  have hp : lineTail.Advances := (advances_stretch1 _).seq_left
  refine replaceBy_invariant hp (Q := Edged)
    (I := fun text c => (∀ a ∈ (text ++ c.rest).head?, isBlank a = false) ∧
      ∀ a ∈ text.getLast?, isBlank a = true → ∃ b ∈ c.rest, isBlank b = false) ?_ ?_ ?_ ⟨h, by simp⟩
  · rintro text c m u y hm hrest ⟨v, _, rfl, hv, hend⟩ hlast ⟨hhead, htail⟩
    obtain ⟨rfl, -⟩ := reads_place.mp hend
    obtain ⟨hne, hv⟩ := reads_blanks1.mp hv
    rw [hrest, append_nil] at hhead htail
    rw [hlast, append_nil]
    constructor
    · cases text with
      | cons a text => exact hhead
      | nil =>
        obtain ⟨b, v, rfl⟩ := exists_cons_of_ne_nil hne
        have hb := hhead b rfl
        rw [hv b (by simp)] at hb
        cases hb
    · intro a ha hblank
      obtain ⟨b, hb, hnot⟩ := htail a ha hblank
      rcases mem_append.mp hb with hb | hb
      · rw [hv b hb] at hnot
        cases hnot
      · exact ⟨b, hb, hnot⟩
  · rintro text before x rest pos hm ⟨hhead, -⟩
    refine ⟨by simpa using hhead, fun a ha hblank => ?_⟩
    obtain rfl : x = a := by simpa using ha
    by_contra hall
    have hrest : ∀ b ∈ x :: rest, isBlank b = true := by
      intro b hb
      rcases mem_cons.mp hb with rfl | hb
      · exact hblank
      · by_contra hnot
        exact hall ⟨b, hb, by simpa using hnot⟩
    exact not_reads_of_matchHere? (u := x :: rest) (y := []) rfl hm (by simp)
      ⟨x :: rest, [], by simp, reads_blanks1.mpr ⟨by simp, hrest⟩, reads_place.mpr ⟨rfl, rfl⟩⟩
  · rintro text c hrest ⟨hhead, htail⟩
    rw [hrest] at hhead htail
    refine ⟨by simpa using hhead, fun a ha => ?_⟩
    by_contra hblank
    simpa using htail a ha (by simpa using hblank)

theorem spaces_blanks1 (t : List Char) :
    (∀ c ∈ blanks1.replace " " t, isBlank c = true → c = ' ') ∧
      (blanks1.replace " " t).IsChain fun a b => isBlank a = true → isBlank b = false := by
  refine replaceBy_invariant (advances_stretch1 _) (Q := fun text =>
      (∀ c ∈ text, isBlank c = true → c = ' ') ∧
        text.IsChain fun a b => isBlank a = true → isBlank b = false)
    (I := fun text c => ((∀ c ∈ text, isBlank c = true → c = ' ') ∧
        text.IsChain fun a b => isBlank a = true → isBlank b = false) ∧
      ∀ a ∈ text.getLast?, isBlank a = true → ∀ b ∈ c.rest.head?, isBlank b = false) ?_ ?_
    (fun _ _ _ h => h.1) ⟨⟨by simp, by simp⟩, by simp⟩
  · rintro text c m u y hm hrest hread - ⟨⟨hspaces, hsingle⟩, hlast⟩
    obtain ⟨hne, hu⟩ := reads_blanks1.mp hread
    obtain ⟨b, u, rfl⟩ := exists_cons_of_ne_nil hne
    refine ⟨⟨?_, isChain_append.mpr ⟨hsingle, by simp, ?_⟩⟩, fun a _ _ =>
      matchHere?_stretch_longest (p := .empty) hm⟩
    · intro a ha hblank
      rcases mem_append.mp ha with ha | ha
      · exact hspaces a ha hblank
      · simpa using ha
    · intro a ha _ _ hblank
      have hb := hlast a ha hblank b (by rw [hrest]; rfl)
      rw [hu b (by simp)] at hb
      cases hb
  · rintro text before x rest pos hm ⟨⟨hspaces, hsingle⟩, hlast⟩
    have hx : isBlank x = false := by
      by_contra hblank
      exact not_reads_of_matchHere? (u := [x]) rfl hm rfl
        (reads_blanks1.mpr ⟨by simp, by simpa using hblank⟩)
    refine ⟨⟨?_, isChain_append.mpr ⟨hsingle, by simp, ?_⟩⟩, ?_⟩
    · intro a ha hblank
      rcases mem_append.mp ha with ha | ha
      · exact hspaces a ha hblank
      · rw [mem_singleton.mp ha, hx] at hblank
        cases hblank
    · intro a _ b hb _
      obtain rfl : x = b := by simpa using hb
      exact hx
    · intro a ha hblank
      obtain rfl : x = a := by simpa using ha
      rw [hx] at hblank
      cases hblank

theorem noBlankBeside_blanks1 {d : Char} (hd : isBlank d = false)
    (h : t.IsChain (NoBlankBeside d)) : (blanks1.replace " " t).IsChain (NoBlankBeside d) := by
  refine replace_preserves (advances_stretch1 _) (fun x before u y hread hchain => ?_) h
  obtain ⟨hne, hu⟩ := reads_blanks1.mp hread
  obtain ⟨hx, huy, hleft⟩ := isChain_append.mp hchain
  obtain ⟨-, hy, hright⟩ := isChain_append.mp huy
  refine isChain_append.mpr ⟨hx, isChain_append.mpr ⟨by simp, hy, ?_⟩, ?_⟩
  · intro a ha b hb
    obtain rfl : ' ' = a := by simpa using ha
    obtain ⟨u, e, rfl⟩ := (eq_nil_or_concat u).resolve_left hne
    have hblank := hu e (by simp)
    have hapart := hright e (by simp) b hb
    refine ⟨fun hbd => ?_, fun had => ?_⟩
    · rw [hapart.1 hbd] at hblank
      cases hblank
    · rw [← had] at hd
      cases hd
  · intro a ha b hb
    obtain rfl : ' ' = b := by simpa using hb
    obtain ⟨e, u, rfl⟩ := exists_cons_of_ne_nil hne
    have hblank := hu e (by simp)
    have hapart := hleft a ha e rfl
    refine ⟨fun hbd => ?_, fun had => ?_⟩
    · rw [← hbd] at hd
      cases hd
    · rw [hapart.2 had] at hblank
      cases hblank

theorem edged_blanks1 (h : Edged t) : Edged (blanks1.replace " " t) := by
  refine replace_preserves (advances_stretch1 _) (fun x before u y hread hedged => ?_) h
  obtain ⟨hne, hu⟩ := reads_blanks1.mp hread
  exact hedged.replace hne fun _ => hu

theorem neat_tidy (t : List Char) : Neat (tidy t) where
  edged := edged_blanks1 (edged_replace_around rfl (edged_replace_around rfl
    (edged_lineTail (head_lineLead t))))
  spaces := (spaces_blanks1 _).1
  single := (spaces_blanks1 _).2
  opening := by
    refine noBlankBeside_blanks1 rfl (isChain_replace_around (d := ')') ?_ ?_
      (noBlankBeside_replace_around rfl _))
    · exact fun a => ⟨fun h => absurd h (by decide), fun _ => rfl⟩
    · exact fun b => ⟨fun _ => rfl, fun h => absurd h (by decide)⟩
  closing := noBlankBeside_blanks1 rfl (noBlankBeside_replace_around rfl _)

/-! ## Lines -/

theorem edged_statementEnd (h : Edged t) :
    ∀ line ∈ statementEnd.split t, ';' ∉ line ∧ Edged line := by
  refine split_invariant (advances_around ';')
    (I := fun line c => ';' ∉ line ∧ (∀ a ∈ (line ++ c.rest).head?, isBlank a = false) ∧
      (∀ b ∈ c.rest.getLast?, isBlank b = false) ∧
      ∀ a ∈ line.getLast?, isBlank a = true → c.rest ≠ [] ∧ Shielded ';' c.rest) ?_ ?_ ?_
    ⟨by simp, h.1, h.2, by simp⟩
  · rintro line c m u y hm hrest hread hlast ⟨hnot, hhead, hend, htail⟩
    refine ⟨⟨hnot, ?_, ?_⟩, by simp, matchHere?_stretch_longest hm, ?_, by simp⟩
    · cases line with
      | nil => simp
      | cons a line => exact hhead
    · intro a ha
      by_contra hblank
      exact not_shielded_of_reads hread (hrest ▸ (htail a ha (by simpa using hblank)).2)
    · intro b hb
      rw [hlast] at hb
      refine hend b ?_
      rw [hrest, getLast?_append_of_ne_nil]
      · exact hb
      · rintro rfl
        cases hb
  · rintro line before x rest pos hm ⟨hnot, hhead, hend, -⟩
    have hshielded := shielded_of_matchHere? hm
    refine ⟨by simp [hnot, hshielded.ne.symm], by simpa using hhead, ?_, ?_⟩
    · intro b hb
      exact hend b (by cases rest with | nil => cases hb | cons e rest => exact hb)
    · intro a ha hblank
      obtain rfl : x = a := by simpa using ha
      refine ⟨?_, hshielded.tail hblank⟩
      rintro rfl
      have hx := hend x rfl
      rw [hblank] at hx
      cases hx
  · rintro line c hrest ⟨hnot, hhead, -, htail⟩
    refine ⟨hnot, by simpa [hrest] using hhead, fun a ha => ?_⟩
    by_contra hblank
    exact (htail a ha (by simpa using hblank)).1 hrest

/-- A text in one form that is not empty and has no semicolon. -/
structure NormalLine (line : List Char) : Prop extends Neat line where
  nonempty : line ≠ []
  noEnd : ';' ∉ line

/-- A word stands at the start of a line or behind a space, with a space behind it. -/
def HasWord (word line : List Char) : Prop :=
  word ++ [' '] <+: line ∨ ' ' :: (word ++ [' ']) <:+: line

theorem not_hasWord {word : String} (hword : (leadingWord word).isSimple = true)
    (h : (leadingWord word).occursIn line = false) : ¬HasWord word.toList line := by
  have hnone : ∀ x u y, line = x ++ (u ++ y) → ¬(leadingWord word).Reads x.reverse u y := by
    intro x u y hline hread
    rw [(occursIn_iff hword).mpr ⟨x, u, y, hline, hread⟩] at h
    cases h
  have hspace : ∀ before y, blanks1.Reads before [' '] y := fun before y =>
    reads_blanks1.mpr ⟨by simp, by decide⟩
  rintro (⟨y, rfl⟩ | ⟨x, y, rfl⟩)
  · refine hnone [] (word.toList ++ [' ']) y (by simp) ⟨word.toList, [' '], rfl, ?_, hspace _ _⟩
    exact ⟨[], word.toList, rfl, Or.inl (reads_place.mpr ⟨rfl, rfl⟩), reads_text.mpr rfl⟩
  · refine hnone x (' ' :: (word.toList ++ [' '])) y (by simp)
      ⟨' ' :: word.toList, [' '], rfl, ?_, hspace _ _⟩
    exact ⟨[' '], word.toList, rfl, Or.inr (hspace _ _), reads_text.mpr rfl⟩

theorem of_keepsLine (h : keepsLine r line = true) :
    line ≠ [] ∧ (r.includeExterns = false → ¬HasWord "extern".toList line) ∧
      (r.includeInlines = false → ¬HasWord "inline".toList line) := by
  simp only [keepsLine, Bool.and_eq_true, Bool.not_eq_true', Bool.or_eq_true] at h
  obtain ⟨⟨⟨hne, -⟩, houter⟩, hinline⟩ := h
  refine ⟨?_, fun hr => not_hasWord rfl (houter.resolve_left (by simp [hr])),
    fun hr => not_hasWord rfl (hinline.resolve_left (by simp [hr]))⟩
  rintro rfl
  cases hne

theorem normalLine_of_mem_statementsOf {cpp : Bool} (h : line ∈ statementsOf r cpp t) :
    NormalLine line ∧ keepsLine r line = true := by
  obtain ⟨hmem, hkeeps⟩ := mem_filter.mp h
  obtain ⟨text, hsplit⟩ : ∃ text, line ∈ statementEnd.split (tidy text) := by
    cases cpp with
    | true => exact ⟨_, hmem⟩
    | false => exact ⟨_, mem_distinct.mp hmem⟩
  have hneat := neat_tidy text
  have hpart := infix_of_mem_split hsplit
  obtain ⟨hend, hedged⟩ := edged_statementEnd hneat.edged line hsplit
  exact ⟨{ edged := hedged
           spaces := fun c hc => hneat.spaces c (hpart.subset hc)
           single := hneat.single.infix hpart
           opening := hneat.opening.infix hpart
           closing := hneat.closing.infix hpart
           nonempty := (of_keepsLine hkeeps).1
           noEnd := hend }, hkeeps⟩

theorem nodup_statementsOf (r : Rules) (t : List Char) : (statementsOf r false t).Nodup := by
  refine List.Pairwise.filter _ ((pairwise_distinct _).imp ?_)
  rintro a b h rfl
  rw [beq_self_eq_true] at h
  cases h

/-- The regular expressions in the rules can be read, as far as they are used. -/
structure Readable (r : Rules) : Prop where
  inlines : r.includeInlines = true → ∃ items, r.inlinePatterns.items = .ok items ∧
    ∀ v ∈ items, (readPattern v).isOk = true
  strippables : r.strippables.truthy = true →
    ∃ t, strippableText r.strippables = .ok t ∧ (patternOf t).isOk = true

theorem exists_removeAll {items : List Value} (h : ∀ v ∈ items, (readPattern v).isOk = true)
    (t : List Char) : ∃ u, removeAll items t = .ok u := by
  induction items generalizing t with
  | nil => exact ⟨t, rfl⟩
  | cons v items ih =>
    have hv := h v (by simp)
    rw [removeAll]
    cases hp : readPattern v with
    | error e =>
      rw [hp] at hv
      cases hv
    | ok p => exact ih (fun w hw => h w (by simp [hw])) (p.remove t)

theorem Readable.exists_strip (hr : Readable r) (t : List Char) :
    ∃ u, strip r.strippables t = .ok u := by
  rw [strip]
  cases htruthy : r.strippables.truthy with
  | false => exact ⟨t, rfl⟩
  | true =>
    obtain ⟨text, htext, hread⟩ := hr.strippables htruthy
    rw [if_pos rfl, htext]
    change ∃ u, (patternOf text >>= fun p => pure (p.replaceBy (fun m => m.group 1) t)) = .ok u
    cases hp : patternOf text with
    | error e =>
      rw [hp] at hread
      cases hread
    | ok p => exact ⟨_, rfl⟩

theorem Readable.exists_reduced (hr : Readable r) (source : List Char) (cpp : Bool) :
    ∃ t, reduced r source cpp = .ok t := by
  have hrest : ∀ t, ∃ u, (strip r.strippables (dropDefinitions cpp t) >>= fun v =>
      pure (pointerVariable.replace ";" v)) = .ok u := by
    intro t
    obtain ⟨u, hu⟩ := hr.exists_strip (dropDefinitions cpp t)
    exact ⟨_, by rw [hu]; rfl⟩
  rw [reduced]
  cases hinclude : r.includeInlines with
  | false => exact hrest (clean source)
  | true =>
    obtain ⟨items, hitems, hread⟩ := hr.inlines hinclude
    obtain ⟨u, hu⟩ := exists_removeAll hread (clean source)
    obtain ⟨v, hv⟩ := hrest u
    refine ⟨v, ?_⟩
    rw [if_pos rfl, hitems]
    exact (congrArg (· >>= fun t => strip r.strippables (dropDefinitions cpp t) >>= fun w =>
      pure (pointerVariable.replace ";" w)) hu).trans hv

/-- Whatever is read with rules whose patterns can be read: the statements are lines in one form,
different from each other unless the braces are kept, and without the words that are left out. -/
theorem statements_normal {r : Rules} (hr : Readable r) (source : List Char) (cpp : Bool)
    (s : Reading) : ∃ lines s', (statements r source cpp).run s = (.ok lines, s') ∧
      (∀ line ∈ lines, NormalLine line) ∧ (cpp = false → lines.Nodup) ∧
      (r.includeExterns = false → ∀ line ∈ lines, ¬HasWord "extern".toList line) ∧
      (r.includeInlines = false → ∀ line ∈ lines, ¬HasWord "inline".toList line) := by
  obtain ⟨t, ht⟩ := hr.exists_reduced source cpp
  refine ⟨_, _, by rw [statements_run, ht], ?_, ?_, ?_, ?_⟩
  · exact fun line hline => (normalLine_of_mem_statementsOf hline).1
  · rintro rfl
    exact nodup_statementsOf r _
  · exact fun houter line hline =>
      (of_keepsLine (normalLine_of_mem_statementsOf hline).2).2.1 houter
  · exact fun hinline line hline =>
      (of_keepsLine (normalLine_of_mem_statementsOf hline).2).2.2 hinline

theorem statements_normal_inlines : ∃ lines s',
    (statements { Rules.standard with includeInlines := true }
      "extern  int f ( int\ta ) ;\n inline int g ( void ) \x7b \x7d".toList false).run
        ⟨⟨"m", []⟩, [], []⟩ = (.ok lines, s') ∧ (∀ line ∈ lines, NormalLine line) ∧ lines.Nodup ∧
      ∀ line ∈ lines, ¬HasWord "extern".toList line := by
  have hreadable : Readable { Rules.standard with includeInlines := true } :=
    ⟨fun _ => ⟨_, rfl, by decide +kernel⟩, fun _ => ⟨_, rfl, by decide +kernel⟩⟩
  obtain ⟨lines, s', hrun, hnormal, hnodup, houter, -⟩ := statements_normal hreadable
    "extern  int f ( int\ta ) ;\n inline int g ( void ) \x7b \x7d".toList false ⟨⟨"m", []⟩, [], []⟩
  exact ⟨lines, s', hrun, hnormal, hnodup rfl, houter rfl⟩

end MockGen.Header
