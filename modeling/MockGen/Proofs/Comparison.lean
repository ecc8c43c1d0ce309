import MockGen.Settings
import MockGen.Proofs.Outcome
import MockGen.Proofs.Pattern.Captures
import MockGen.Proofs.Text.Brackets

/-!
# The names of assertions

Helper files give assertions that are words; the options give any text, and so what can be said of
an assertion has to hold of words and of the kinds in the options.
-/

namespace MockGen

open Code List Text Outcome ReadM

variable {Q P : String → Prop} {known : Comparisons} {found : Comparison}

/-- What holds of words, and goes over to texts that are put together or lose their stars. -/
structure Comparisons.Spreads (P : String → Prop) : Prop where
  word : ∀ {t : String}, (∀ d ∈ t.toList, isWord d = true) → P t
  append : ∀ {t u : String}, P t → P u → P (t ++ u)
  dropStars : ∀ {t : String}, P t → P (String.ofList (t.toList.filter (· != '*')))

/-- What holds of the names of assertions: those that are words, and those that are made of a kind
for which `Q` holds. -/
structure Comparisons.Makes (Q P : String → Prop) : Prop where
  empty : P ""
  word : ∀ {t : String}, (∀ d ∈ t.toList, isWord d = true) →
    "UNITY_TEST_ASSERT_EQUAL".toList <+: t.toList → P t
  kind : ∀ {k : String}, Q k → P ("UNITY_TEST_ASSERT_EQUAL_" ++ k)
  array : ∀ {k : String}, Q k → P ("UNITY_TEST_ASSERT_EQUAL_" ++ k ++ "_ARRAY")
  starred : ∀ {k : String}, Q k →
    P ("UNITY_TEST_ASSERT_EQUAL_" ++ String.ofList (k.toList.filter (· != '*')) ++ "_ARRAY")

namespace Comparisons

variable {table : List (String × String)} {type : String}

theorem Spreads.makes (h : Spreads P) : Makes P P where
  empty := h.word (by simp)
  word ht _ := h.word ht
  kind hk := h.append (h.word (by decide)) hk
  array hk := h.append (h.append (h.word (by decide)) hk) (h.word (by decide))
  starred hk := h.append (h.append (h.word (by decide)) (h.dropStars hk)) (h.word (by decide))

theorem Spreads.lacks {c : Char} (hc : isWord c = false) : Spreads (Lacks c) where
  word h := ⟨fun hmem => Bool.false_ne_true (hc.symm.trans (h c hmem))⟩
  append := .append
  dropStars h := .ofList fun hmem => h.notMem (mem_of_mem_filter hmem)

theorem Spreads.nested : Spreads Nested where
  word {t} h := by
    have hbrackets : ∀ d ∈ ['(', '[', '\x7b', ')', ']', '\x7d'], isWord d = false := by
      decide
    refine .of_brackets_eq_nil (brackets_eq_nil fun c hc => Bool.eq_false_iff.mpr fun hb => ?_)
    exact Bool.false_ne_true ((hbrackets c (isBracket_iff.mp hb)).symm.trans (h c hc))
  append := .append
  dropStars {t} h := by
    refine h.of_brackets_eq ?_
    rw [String.toList_ofList]
    exact brackets_filter_ne (by decide) _

/-- All assertions in the table are of one sort. -/
def Named (P : String → Prop) (table : List (String × String)) : Prop :=
  ∀ entry ∈ table, P entry.2

theorem Named.nil : Named P [] :=
  fun _ hentry => nomatch hentry

theorem Named.put {assertion : String} (h : Named P table) (hassertion : P assertion) :
    Named P (put type assertion table) := by
  induction table with
  | nil => simpa [Named, Comparisons.put] using hassertion
  | cons entry table ih =>
    obtain ⟨hentry, htable⟩ := forall_mem_cons.mp h
    unfold Comparisons.put
    split
    · exact forall_mem_cons.mpr ⟨hassertion, htable⟩
    · exact forall_mem_cons.mpr ⟨hentry, ih htable⟩

theorem Named.update {more : List (String × String)} (h : Named P table) (hmore : Named P more) :
    Named P (update table more) := by
  unfold Comparisons.update
  induction more generalizing table with
  | nil => exact h
  | cons entry more ih =>
    obtain ⟨hentry, hmore⟩ := forall_mem_cons.mp hmore
    exact ih (h.put hentry) hmore

section

variable (hP : Makes Q P) {result : List (String × String)}

include hP

/-! ## Assertions that the options name -/

theorem named_of_entriesFor {kind : Value} (hkind : Q kind.display) (htable : Named P table)
    (h : entriesFor type kind table = .ok result) : Named P result := by
  unfold entriesFor at h
  obtain ⟨starred, -, h⟩ := bind_eq_ok.mp h
  split at h
  · obtain ⟨text, htext, hpure⟩ := bind_eq_ok.mp h
    cases hpure
    cases kind <;> cases htext
    exact htable.put (hP.starred hkind)
  · cases h
    exact (htable.put (hP.kind hkind)).put (hP.array hkind)

theorem named_of_addEntry {entry : Value × Value} (hkind : Q entry.2.display)
    (htable : Named P table) (h : addEntry table entry = .ok result) : Named P result := by
  unfold addEntry at h
  split at h
  · exact named_of_entriesFor hP hkind htable h
  · cases h

theorem named_of_foldlM {entries : List (Value × Value)}
    (hkinds : ∀ entry ∈ entries, Q entry.2.display) (htable : Named P table)
    (h : entries.foldlM addEntry table = .ok result) : Named P result := by
  induction entries generalizing table with
  | nil =>
    cases h
    exact htable
  | cons entry entries ih =>
    obtain ⟨hentry, hkinds⟩ := forall_mem_cons.mp hkinds
    rw [foldlM_cons] at h
    obtain ⟨next, hnext, h⟩ := bind_eq_ok.mp h
    exact ih hkinds (named_of_addEntry hP hentry htable hnext) h

/-! ## Assertions that helper files define -/

theorem of_mem_definitions {ending : String}
    (hending : ∀ d ∈ ending.toList, isWord d = true) {n : Nat}
    (hsimple : (definition ending n).isSimple = true) {t : List Char}
    {entry : List Char × List Char} (h : entry ∈ definitions ending n t) :
    P (String.ofList entry.1) := by
  have hmore : ∀ n u, ¬(moreParameters n).Captures 1 u := by
    intro n u
    induction n with
    | zero => exact id
    | succ n ih => simp [moreParameters, parameter, Pattern.blanks, ih]
  obtain ⟨m, hm, rfl⟩ := mem_map.mp h
  rcases Pattern.captures_of_mem_allMatches hsimple hm 1 with hnone | hgroup
  · rw [hnone]
    exact hP.empty
  · obtain ⟨before, rest, hreads⟩ : ∃ before rest, (Pattern.text "UNITY_TEST_ASSERT_EQUAL_" ++
        .group 2 (.stretch1 .word ++ .text ending)).Reads before (m.group 1) rest := by
      simpa [definition, parameter, Pattern.blanks, Pattern.blanks1, hmore] using hgroup
    obtain ⟨_, rest', hname, hstart, hrest⟩ := Pattern.reads_append.mp hreads
    obtain ⟨word, _, rfl, hword, hend⟩ := Pattern.reads_append.mp (Pattern.reads_group.mp hrest)
    rw [Pattern.reads_text] at hstart hend
    subst hstart hend
    have hwords : ∀ d ∈ m.group 1, isWord d = true := by
      rw [hname]
      simp only [forall_mem_append]
      exact ⟨by decide, (Pattern.reads_stretch1.mp hword).2, hending⟩
    have hstart : "UNITY_TEST_ASSERT_EQUAL".toList <+: m.group 1 := by
      rw [hname]
      exact .trans (by decide) (prefix_append "UNITY_TEST_ASSERT_EQUAL_".toList _)
    exact hP.word (by simpa using hwords) (by simpa using hstart)

theorem named_ofHelperText (source : List Char) : Named P (ofHelperText source) := by
  have key : ∀ (entries : List (List Char × List Char)) (table : List (String × String)),
      (∀ entry ∈ entries, P (String.ofList entry.1)) → Named P table →
      Named P (entries.foldl (fun table (entry : List Char × List Char) =>
        put (String.ofList entry.2) (String.ofList entry.1) table) table) := by
    intro entries
    induction entries with
    | nil => exact fun table _ htable => htable
    | cons entry entries ih =>
      intro table hentries htable
      obtain ⟨hentry, hentries⟩ := forall_mem_cons.mp hentries
      exact ih _ hentries (htable.put hentry)
  refine key _ [] (forall_mem_append.mpr ⟨?_, ?_⟩) .nil
  · intro entry hentry
    exact of_mem_definitions hP (by decide) (by decide) (mem_of_mem_filter hentry)
  · intro entry hentry
    obtain ⟨defined, hdefined, rfl⟩ := mem_map.mp hentry
    have hname := of_mem_definitions hP (by decide) (by decide) hdefined
    exact hname

/-! ## All assertions -/

theorem named_of_ofHelperFiles {o : Options} {w w' : Workspace}
    (h : (ofHelperFiles o).run w = (.ok table, w')) : Named P table := by
  unfold ofHelperFiles at h
  obtain ⟨source, u, -, h⟩ := run_bind_eq_ok.mp h
  cases source with
  | some source =>
    cases h
    exact named_ofHelperText hP _
  | none =>
    cases h
    exact .nil

theorem of_find (htable : Named P known.table) (hfallback : P known.fallback)
    (h : known.find type = .ok found) : P found.assertion := by
  have hlookup : ∀ {key assertion : String}, known.table.lookup key = some assertion →
      P assertion := by
    intro key assertion hlookup
    obtain ⟨front, back, hsplit, -⟩ := lookup_eq_some_iff.mp hlookup
    exact htable (key, assertion) (by rw [hsplit]; simp)
  unfold find at h
  dsimp only at h
  split at h
  case h_1 assertion _ hform =>
    cases h
    exact hlookup hform
  case h_2 assertion _ hother =>
    cases h
    exact hlookup hother
  case h_3 =>
    split at h
    · cases h
      exact hP.word (by decide) (by decide)
    · split at h
      · cases h
      · cases h
        exact hfallback

end

end Comparisons

theorem Comparisons.named_of_ofOptions (hP : Makes Q P) {o : Options} {w w' : Workspace}
    (h : (ofOptions o).run w = (.ok known, w')) (hkinds : ∀ entry ∈ o.treatAs, Q entry.2.display) :
    Named P known.table ∧ P known.fallback := by
  unfold ofOptions at h
  obtain ⟨named, u, hnamed, h⟩ := run_bind_eq_ok.mp h
  obtain ⟨defined, v, hdefined, hpure⟩ := run_bind_eq_ok.mp h
  rw [run_lift] at hnamed
  cases hpure
  constructor
  · exact (named_of_foldlM hP hkinds .nil (Prod.mk.inj hnamed).1).update
      (named_of_ofHelperFiles hP hdefined)
  · dsimp only
    split <;> exact hP.word (by decide) (by decide)

theorem Settings.of_comparison (hP : Comparisons.Makes Q P) {s : Settings} {a : Argument}
    (h : s.comparison a = .ok found)
    (hknown : ∀ known ∈ s.comparisons, Comparisons.Named P known.table ∧ P known.fallback) :
    P found.assertion := by
  unfold comparison at h
  split at h
  · cases h
    exact hP.word (by decide) (by decide)
  · split at h
    case h_1 known hsome =>
      obtain ⟨htable, hfallback⟩ := hknown known hsome
      exact Comparisons.of_find hP htable hfallback h
    case h_2 =>
      cases h
      exact hP.word (by decide) (by decide)

end MockGen
