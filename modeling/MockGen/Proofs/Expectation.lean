import MockGen.Proofs.Comparison.Lookup
import MockGen.Proofs.Plugin.Spelling
import MockGen.Proofs.Text.Lacks

/-!
# The check of a parameter

Comparing pointers is an option that changes no check, so that pointers are compared themselves only
where the type or the table of comparisons asks for it; and counting elements changes no check of a
value.
-/

namespace MockGen

open Code List String Outcome ReadM Comparisons

/-! ## Checks of pointers -/

namespace Expectation

variable {s : Settings} {e : Elements} {a : Argument} {c : Comparison}

theorem verify?_eq_map (he : elements? s = .ok (some e)) (f : String) (a : Argument) :
    verify? s f a = (s.comparison a).map fun c => some (checked s e f a c) := by
  rw [verify?, he]
  change (verifyBy s e f a >>= fun text => .ok (some text)) = _
  rw [verifyBy]
  cases s.comparison a with
  | error fault => rfl
  | ok c => rfl

theorem elements?_of_arrays (h : s.arrays = false) : elements? s = .ok (some .single) := by
  rw [elements?, h]
  rfl

/-- The assertion that a parameter is the expected pointer itself. -/
def pointerAssertion (a : Argument) : String :=
  let expected := callField ("Expected_" ++ a.name)
  let actual := a.name
  "UNITY_TEST_ASSERT_EQUAL_PTR" ++ s!"({expected}, {actual}, cmock_line, CMockStringMismatch);"

theorem pointerAssertion_eq (a : Argument) : pointerAssertion a =
    sameValues "UNITY_TEST_ASSERT_EQUAL_PTR" (callField ("Expected_" ++ a.name)) a.name := by
  unfold pointerAssertion sameValues
  simp only [toString_text, String.append_assoc]

/-- The check that a parameter is the expected pointer itself. -/
def pointerCheck (s : Settings) (f : String) (a : Argument) : String :=
  let n := a.name
  let ignored := callField ("IgnoreArg_" ++ n)
  lines (
    only s.ignoreArg [s!"  if (!{ignored})"] ++
    ["  \x7b", s!"    UNITY_SET_DETAILS(CMockString_{f},CMockString_{n});"] ++
    ["    " ++ pointerAssertion a] ++
    ["  \x7d"])

/-- The comparison of pointers themselves. -/
def samePointers : Comparison :=
  ⟨"UNITY_TEST_ASSERT_EQUAL_PTR", .direct⟩

theorem compared_samePointers (e : Elements) (a : Argument) :
    compared e samePointers a = ["    " ++ pointerAssertion a] := by
  have hmemory : ("UNITY_TEST_ASSERT_EQUAL_PTR" == "UNITY_TEST_ASSERT_EQUAL_MEMORY") = false := by
    decide
  have hmemories :
      ("UNITY_TEST_ASSERT_EQUAL_PTR" == "UNITY_TEST_ASSERT_EQUAL_MEMORY_ARRAY") = false := by decide
  have harray : Text.hasPart "_ARRAY".toList "UNITY_TEST_ASSERT_EQUAL_PTR".toList = false := by
    decide
  rw [pointerAssertion_eq]
  unfold compared samePointers
  dsimp only
  rw [hmemory, hmemories, harray]
  simp only [Access.text, empty_append, Bool.false_eq_true, if_false]

theorem ne_of_starts {t u : String} {x y : List Char} (hlength : x.length = y.length) (hne : x ≠ y)
    (ht : x <+: t.toList) (hu : y <+: u.toList) : t ≠ u := by
  rintro rfl
  exact hne ((prefix_of_prefix_length_le ht hu hlength.le).eq_of_length hlength)

theorem starts_append {x : List Char} {t : String} (h : x <+: t.toList) (u : String) :
    x <+: (t ++ u).toList := by
  rw [toList_append]
  exact h.trans (prefix_append _ _)

theorem sameMemory_ne (expected actual size : String) (a : Argument) :
    sameMemory expected actual size ≠ pointerAssertion a := by
  refine ne_of_starts (x := "UNITY_TEST_ASSERT_EQUAL_M".toList)
    (y := "UNITY_TEST_ASSERT_EQUAL_P".toList) (by decide) (by decide) ?_ ?_
  · unfold sameMemory
    simp only [toString_text, String.append_assoc]
    exact starts_append (by decide) _
  · rw [pointerAssertion_eq]
    unfold sameValues
    simp only [toString_text, String.append_assoc]
    exact starts_append (by decide) _

theorem nullGuarded_ne (e : Elements) (a : Argument) (expected asserted actual check : String) :
    lines (nullGuarded e a expected asserted actual check) ≠
      lines ["    " ++ pointerAssertion a] := by
  refine ne_of_starts (x := "    i".toList) (y := "    U".toList) (by decide) (by decide) ?_ ?_
  · unfold nullGuarded
    simp only [toString_text, String.append_assoc, cons_append, lines_cons]
    exact starts_append (by decide) _
  · rw [pointerAssertion_eq]
    unfold sameValues
    simp only [toString_text, String.append_assoc, lines_cons]
    rw [← String.append_assoc]
    exact starts_append (by decide) _

theorem sameElements_ne (assertion : String) (a : Argument) :
    sameElements assertion ("&" ++ callField ("Expected_" ++ a.name)) ("&" ++ a.name) "1" ≠
      pointerAssertion a := by
  intro h
  rw [pointerAssertion_eq] at h
  have hcount := congrArg (fun t : String => t.toList.count '&') h
  simp only [sameElements, sameValues, callField, toString_text, toList_append,
    count_append] at hcount
  simp at hcount
  omega

theorem eq_of_sameValues (h : sameValues c.assertion
    (c.access.text ++ callField ("Expected_" ++ a.name)) (c.access.text ++ a.name) =
      pointerAssertion a) : c = samePointers := by
  obtain ⟨assertion, access⟩ := c
  rw [pointerAssertion_eq] at h
  cases access with
  | direct =>
    rw [← toList_inj] at h
    simp only [sameValues, Access.text, empty_append, toString_text, String.append_assoc,
      toList_append] at h
    obtain rfl := toList_inj.mp (append_cancel_right h)
    rfl
  | pointee =>
    have hcount := congrArg (fun t : String => t.toList.count '*') h
    simp only [sameValues, Access.text, callField, toString_text,
      toList_append, count_append] at hcount
    simp at hcount
    omega
  | address =>
    have hcount := congrArg (fun t : String => t.toList.count '&') h
    simp only [sameValues, Access.text, callField, toString_text,
      toList_append, count_append] at hcount
    simp at hcount
    omega

theorem eq_of_compared
    (h : lines (compared .single c a) = lines ["    " ++ pointerAssertion a]) :
    c = samePointers := by
  have hline : ∀ {t : String}, lines ["    " ++ t] = lines ["    " ++ pointerAssertion a] →
      t = pointerAssertion a := by
    intro t ht
    rw [← toList_inj] at ht ⊢
    simpa using ht
  unfold compared at h
  dsimp only at h
  split at h
  · exact absurd (hline h) (sameMemory_ne _ _ _ a)
  · split at h
    · split at h
      · exact absurd (hline h) (sameMemory_ne _ _ _ a)
      · exact absurd h (nullGuarded_ne _ a _ _ _ _)
    · split at h
      · split at h
        case isTrue haddress =>
          rw [beq_iff_eq.mp haddress] at h
          exact absurd (hline h) (sameElements_ne _ a)
        case isFalse => exact absurd h (nullGuarded_ne _ a _ _ _ _)
      · exact eq_of_sameValues (hline h)

theorem checked_eq_pointerCheck_iff (s : Settings) (f : String) (c : Comparison) (a : Argument) :
    checked s .single f a c = pointerCheck s f a ↔ c = samePointers := by
  unfold checked pointerCheck
  dsimp only
  constructor
  · intro h
    simp only [lines_append] at h
    refine eq_of_compared (a := a) ?_
    rw [← toList_inj] at h ⊢
    simp only [toList_append] at h
    exact append_cancel_left (append_cancel_right h)
  · rintro rfl
    rw [compared_samePointers]

theorem comparison_eq_samePointers_iff (hptr : a.isPtr = true) (hmode : s.pointers ≠ .always) :
    s.comparison a = .ok samePointers ↔ Text.hasPart ['*', '*'] a.type.toList = true ∨
      ∃ known ∈ s.comparisons, known.find a.type = .ok samePointers := by
  have hvalues : ⟨"UNITY_TEST_ASSERT_EQUAL", .direct⟩ ≠ samePointers := by decide
  have halways : (s.pointers == .always) = false := beq_eq_false_iff_ne.mpr hmode
  unfold Settings.comparison
  rw [hptr, halways, Bool.true_and, Bool.or_false]
  split
  case isTrue hstars => exact ⟨fun _ => .inl hstars, fun _ => rfl⟩
  case isFalse hstars =>
    rw [or_iff_right hstars]
    cases s.comparisons with
    | none => simp [hvalues]
    | some known => simp

end Expectation

/-- A pointer is compared itself exactly if its type has two stars in a row or its helper says so.
Asking for pointers to be compared makes no difference: the check is the one of what they point
to. -/
theorem Expectation.verify?_comparePtr_iff {o : Options} (known : Option Comparisons)
    (hmode : o.get ":when_ptr" = .str ":compare_ptr") (harray : o.hasPlugin ":array" = false)
    (f : String) {a : Argument} (hptr : a.isPtr = true) :
    let s := Settings.ofOptions o known
    (verify? s f a = .ok (some (pointerCheck s f a)) ↔
      Text.hasPart ['*', '*'] a.type.toList = true ∨
        ∃ table ∈ known, table.find a.type = .ok samePointers) ∧
    verify? s f a = verify? { s with pointers := .data } f a := by
  intro s
  have hpointers : s.pointers = .pointers := congrArg PointerMode.ofValue hmode
  have hmodes : s.pointers ≠ .always := by rw [hpointers]; decide
  have hsingle : elements? s = .ok (some .single) := elements?_of_arrays harray
  constructor
  · rw [verify?_eq_map hsingle]
    refine Iff.trans ?_ (comparison_eq_samePointers_iff hptr hmodes)
    cases s.comparison a with
    | error fault => exact ⟨nofun, nofun⟩
    | ok c =>
      simp only [Except.map, Except.ok.injEq, Option.some.injEq]
      exact checked_eq_pointerCheck_iff s f c a
  · have hsame : s.comparison a = { s with pointers := .data }.comparison a := by
      unfold Settings.comparison
      rw [hpointers]
      rfl
    rw [verify?_eq_map hsingle, verify?_eq_map (elements?_of_arrays harray), hsame]
    rfl

theorem Job.Alike.exists_run_eq_ok {α β : Type} {R : α → β → Prop} {x : Job α} {y : Job β}
    (h : Job.Alike R x y) {w w' : Workspace} {a : α} (hx : x.run w = (.ok a, w')) :
    ∃ b, y.run w = (.ok b, w') ∧ R a b := by
  have hw := h w
  rw [hx] at hw
  generalize y.run w = q at hw
  obtain ⟨b, v⟩ := q
  obtain ⟨hout, rfl : w' = v⟩ := hw
  cases hout with
  | ok hab => exact ⟨_, rfl, hab⟩

theorem Comparisons.exists_of_resolve (given : Value) {P : Options → Comparisons → Bool}
    (h : ((do
        let o ← Options.resolve given
        let known ← ofOptions o
        return P o known : Job Bool).run { strippables := [] }).1.toOption.any id = true) :
    ∃ o known w w', (Options.resolve given).run { strippables := [] } = (.ok o, w) ∧
      (ofOptions o).run w = (.ok known, w') ∧ P o known = true := by
  obtain ⟨_, _, h, hP⟩ := Job.exists_run_of_any h
  obtain ⟨o, w, hresolve, h⟩ := run_bind_eq_ok.mp h
  obtain ⟨known, _, hknown, hpure⟩ := run_bind_eq_ok.mp h
  cases hpure
  exact ⟨o, known, w, _, hresolve, hknown, hP⟩

/-- A type that the options compare as a pointer. -/
theorem Expectation.verify?_comparePtr_iff_gate :
    let given := Value.record [(":when_ptr", .str ":compare_ptr"),
      (":treat_as", .record [("GATE*", .str "PTR")])]
    let gate : Argument := ⟨"GATE*", "gate", true, false, false, false, false⟩
    ∃ o known w w', (Options.resolve given).run { strippables := [] } = (.ok o, w) ∧
      (Comparisons.ofOptions o).run w = (.ok known, w') ∧
      o.get ":when_ptr" = .str ":compare_ptr" ∧ o.hasPlugin ":array" = false ∧
      let s := Settings.ofOptions o (some known)
      verify? s "open" gate = .ok (some (pointerCheck s "open" gate)) := by
  intro given gate
  obtain ⟨o, known, w, w', hresolve, hknown, hP⟩ := exists_of_resolve given
    (P := fun o known => o.get ":when_ptr" == .str ":compare_ptr" && !o.hasPlugin ":array" &&
      (known.find gate.type).toOption == some samePointers) (by decide +kernel)
  simp only [Bool.and_eq_true, Bool.not_eq_true', Value.beq_str, beq_iff_eq] at hP
  obtain ⟨⟨hmode, harray⟩, hfind⟩ := hP
  exact ⟨o, known, w, w', hresolve, hknown, hmode, harray,
    (verify?_comparePtr_iff (some known) hmode harray "open" rfl).1.mpr
      (.inr ⟨known, rfl, eq_ok_of_toOption hfind⟩)⟩

/-- Asked to compare pointers, the check of a pointer to numbers compares a number. -/
theorem Expectation.verify?_comparePtr_numbers :
    let given := Value.record [(":when_ptr", .str ":compare_ptr")]
    let cells : Argument := ⟨"int*", "cells", true, false, false, false, false⟩
    let text := lines [
      "  \x7b",
      "    UNITY_SET_DETAILS(CMockString_fill,CMockString_cells);",
      "    if (cmock_call_instance->Expected_cells == NULL)",
      "      \x7b UNITY_TEST_ASSERT_NULL(cells, cmock_line, CMockStringExpNULL); \x7d",
      "    else",
      "      \x7b UNITY_TEST_ASSERT_EQUAL_INT_ARRAY(cmock_call_instance->Expected_cells, cells, " ++
        "1, cmock_line, CMockStringMismatch); \x7d",
      "  \x7d"]
    ∃ o known w w', (Options.resolve given).run { strippables := [] } = (.ok o, w) ∧
      (Comparisons.ofOptions o).run w = (.ok known, w') ∧
      o.get ":when_ptr" = .str ":compare_ptr" ∧ o.hasPlugin ":array" = false ∧
      let s := Settings.ofOptions o (some known)
      verify? s "fill" cells = .ok (some text) ∧ text ≠ pointerCheck s "fill" cells := by
  intro given cells text
  obtain ⟨o, known, w, w', hresolve, hknown, hP⟩ := exists_of_resolve given
    (P := fun o known => o.get ":when_ptr" == .str ":compare_ptr" && !o.hasPlugin ":array" &&
      (verify? (.ofOptions o (some known)) "fill" cells).toOption == some (some text) &&
      text != pointerCheck (.ofOptions o (some known)) "fill" cells) (by decide +kernel)
  simp only [Bool.and_eq_true, Bool.not_eq_true', Value.beq_str, beq_iff_eq, bne_iff_ne] at hP
  obtain ⟨⟨⟨hmode, harray⟩, hverify⟩, hne⟩ := hP
  exact ⟨o, known, w, w', hresolve, hknown, hmode, harray, eq_ok_of_toOption hverify, hne⟩

/-! ## Checks of values -/

/-- Options that differ in whether elements are counted know the same comparisons, up to the one for
types that are not known. -/
theorem Comparisons.ofOptions_alike {u v : Value} {o o' : Options} (h : Options.Differ u v o o')
    (harray : o.hasPlugin ":array" = false) (harray' : o'.hasPlugin ":array" = true) :
    Job.Alike (fun known known' => known.fallback = "UNITY_TEST_ASSERT_EQUAL_MEMORY" ∧
        known' = { known with fallback := "UNITY_TEST_ASSERT_EQUAL_MEMORY_ARRAY" })
      (ofOptions o) (ofOptions o') := by
  unfold ofOptions ofHelperFiles
  rw [h.treatAs, h.helperText, harray, harray', h.flag ":memcmp_if_unknown" (by decide)]
  refine .bind (.refl _) ?_
  rintro named _ rfl
  refine .bind (.refl _) ?_
  rintro defined _ rfl
  exact .pure ⟨rfl, rfl⟩

namespace Expectation

variable {a : Argument} {c : Comparison}

theorem depth_of_value (e : Elements) (hptr : a.isPtr = false) : depth e a = "1" := by
  rw [depth, hptr, Bool.and_false]
  rfl

theorem compared_counted (hptr : a.isPtr = false) (haccess : c.access ≠ .pointee)
    (hc : c ≠ ⟨"UNITY_TEST_ASSERT_EQUAL_MEMORY_ARRAY", .direct⟩) :
    compared .single c a = compared .counted c a := by
  obtain ⟨assertion, access⟩ := c
  unfold compared nullGuarded
  dsimp only
  rw [depth_of_value .single hptr, depth_of_value .counted hptr]
  split
  · rfl
  · split
    case isTrue hmemories =>
      split
      case isTrue => rfl
      case isFalse haddress =>
        cases access with
        | direct => exact absurd (congrArg (Comparison.mk · .direct) (beq_iff_eq.mp hmemories)) hc
        | pointee => exact absurd rfl haccess
        | address => exact absurd rfl haddress
    case isFalse => rfl

theorem compared_memory (a : Argument) :
    compared .single ⟨"UNITY_TEST_ASSERT_EQUAL_MEMORY", .address⟩ a =
      compared .counted ⟨"UNITY_TEST_ASSERT_EQUAL_MEMORY_ARRAY", .address⟩ a := by
  have hmemory :
      ("UNITY_TEST_ASSERT_EQUAL_MEMORY_ARRAY" == "UNITY_TEST_ASSERT_EQUAL_MEMORY") = false := by
    decide
  unfold compared
  dsimp only
  rw [hmemory]
  rfl

theorem verify?_counted {s s' : Settings} {known : Comparisons} (harrays : s.arrays = false)
    (harrays' : s'.arrays = true) (hdata : s'.pointers = .data)
    (hignore : s.ignoreArg = s'.ignoreArg) (hknown : s.comparisons = some known)
    (hknown' : s'.comparisons =
      some { known with fallback := "UNITY_TEST_ASSERT_EQUAL_MEMORY_ARRAY" })
    (hfallback : known.fallback = "UNITY_TEST_ASSERT_EQUAL_MEMORY") (hptr : a.isPtr = false)
    (htype : '*' ∉ a.type.toList)
    (hhelper : known.find a.type ≠ .ok ⟨"UNITY_TEST_ASSERT_EQUAL_MEMORY_ARRAY", .direct⟩)
    (f : String) : verify? s f a = verify? s' f a := by
  have hcounted : elements? s' = .ok (some .counted) := by
    rw [elements?, harrays', hdata]
    rfl
  have hcomparison : s.comparison a = known.find a.type := by
    rw [Settings.comparison, hptr, hknown]
    rfl
  have hcomparison' : s'.comparison a =
      { known with fallback := "UNITY_TEST_ASSERT_EQUAL_MEMORY_ARRAY" }.find a.type := by
    rw [Settings.comparison, hptr, hknown']
    rfl
  have hchecked : ∀ {c c' : Comparison}, compared .single c a = compared .counted c' a →
      checked s .single f a c = checked s' .counted f a c' := by
    intro c c' h
    rw [checked, checked, hignore, h]
  rw [verify?_eq_map (elements?_of_arrays harrays), verify?_eq_map hcounted, hcomparison,
    hcomparison']
  rcases find_of_star_notMem known htype
      "UNITY_TEST_ASSERT_EQUAL_MEMORY_ARRAY" with
    ⟨c, haccess, hfind, hfind'⟩ | ⟨hfind, hfind'⟩ | ⟨fault, hfind, hfind'⟩
  · have hc : c ≠ ⟨"UNITY_TEST_ASSERT_EQUAL_MEMORY_ARRAY", .direct⟩ := by
      rintro rfl
      exact hhelper hfind
    rw [hfind, hfind', Except.map, Except.map, hchecked (compared_counted hptr haccess hc)]
  · rw [hfind, hfind', hfallback, Except.map, Except.map, hchecked (compared_memory a)]
  · rw [hfind, hfind']
    rfl

/-- The check of a parameter under options, with the comparisons that they and their helper files
name. -/
def verifyUnder (o : Options) (f : String) (a : Argument) : Job (Option String) := do
  let known ← Comparisons.ofOptions o
  verify? (.ofOptions o (some known)) f a

end Expectation

open Expectation in
/-- Counting the elements behind pointers leaves the checks of values as they are: the same text, or
the same fault. -/
theorem Expectation.verifyUnder_array {names names' : List String} {o o' : Options}
    (hdiffer : Options.Differ (.texts names) (.texts names') o o')
    (hwithout : ":array" ∉ names)
    (hadded : ∀ name, name ∈ names' ↔ name = ":array" ∨ name ∈ names)
    (hmode : o.get ":when_ptr" = .str ":compare_data") (f : String) {a : Argument}
    (hptr : a.isPtr = false) (htype : '*' ∉ a.type.toList) (w : Workspace)
    (hhelper : ∀ known w', (Comparisons.ofOptions o).run w = (.ok known, w') →
      known.find a.type ≠ .ok ⟨"UNITY_TEST_ASSERT_EQUAL_MEMORY_ARRAY", .direct⟩) :
    (verifyUnder o f a).run w = (verifyUnder o' f a).run w := by
  have hplugin : ∀ name, o'.hasPlugin name = (name == ":array" || o.hasPlugin name) := by
    intro name
    rw [Options.hasPlugin, Options.hasPlugin, hdiffer.plugins_eq, hdiffer.plugins_eq',
      Bool.eq_iff_iff, Bool.or_eq_true, beq_iff_eq, contains_iff_mem, contains_iff_mem]
    exact hadded name
  have harray : o.hasPlugin ":array" = false := by
    rw [Options.hasPlugin, hdiffer.plugins_eq, Bool.eq_false_iff, Ne, contains_iff_mem]
    exact hwithout
  have harray' : o'.hasPlugin ":array" = true := hplugin ":array"
  have hmode' : o'.get ":when_ptr" = .str ":compare_data" := by
    rw [← hdiffer.get ":when_ptr" (by decide), hmode]
  have halike := ofOptions_alike hdiffer harray harray' w
  unfold verifyUnder
  rw [run_bind, run_bind]
  generalize hrun : (Comparisons.ofOptions o).run w = run at halike
  generalize (Comparisons.ofOptions o').run w = run' at halike
  obtain ⟨outcome, u⟩ := run
  obtain ⟨outcome', u'⟩ := run'
  obtain ⟨hout, rfl : u = u'⟩ := halike
  cases hout with
  | error fault => rfl
  | ok hknown =>
    obtain ⟨hfallback, rfl⟩ := hknown
    dsimp only
    rw [run_lift, run_lift]
    refine congrArg (·, u) (verify?_counted harray harray' (congrArg PointerMode.ofValue hmode')
      (hplugin ":ignore_arg").symm rfl rfl hfallback hptr htype (hhelper _ _ hrun) f)

/-- A value that is compared by its memory, where elements are counted and where they are not. -/
theorem Expectation.verifyUnder_array_level :
    let given (plugins : List Value) := Value.map [(.str ":plugins", .list plugins)]
    let level : Argument := ⟨"LEVEL", "level", false, false, false, false, false⟩
    ∃ o o' w,
      (Options.resolve (given [.str ":ignore_arg"])).run { strippables := [] } = (.ok o, w) ∧
      (Options.resolve (given [.str ":ignore_arg", .str ":array"])).run { strippables := [] } =
        (.ok o', w) ∧
      (verifyUnder o "fill" level).run w = (verifyUnder o' "fill" level).run w ∧
      ∃ text w', (verifyUnder o "fill" level).run w = (.ok (some text), w') := by
  intro given level
  obtain ⟨o, known, w, w', hresolve, hknown, hP⟩ := exists_of_resolve
    (given [.str ":ignore_arg"]) (P := fun o known => o.get ":when_ptr" == .str ":compare_data" &&
      (known.find level.type).toOption == some ⟨"UNITY_TEST_ASSERT_EQUAL_MEMORY", .address⟩ &&
      (verify? (.ofOptions o (some known)) "fill" level).toOption.any Option.isSome)
    (by decide +kernel)
  simp only [Bool.and_eq_true, Value.beq_str, beq_iff_eq] at hP
  obtain ⟨⟨hmode, hfind⟩, hverify⟩ := hP
  have hnames : Options.pluginNames [.str ":ignore_arg"] = .ok [":ignore_arg"] :=
    eq_ok_of_toOption (by decide)
  have hnames' : Options.pluginNames [.str ":ignore_arg", .str ":array"] =
      .ok [":ignore_arg", ":array"] :=
    eq_ok_of_toOption (by decide)
  obtain ⟨o', hresolve', hdiffer⟩ :=
    (@Options.resolve_alike [] [] (by simp) _ _ _ _ hnames hnames' (by decide)).exists_run_eq_ok
      hresolve
  refine ⟨o, o', w, hresolve, hresolve', verifyUnder_array hdiffer (by decide) ?_ hmode "fill" rfl
    (by decide) w ?_, ?_⟩
  · simp [or_comm]
  · intro known' w'' hrun
    rw [hknown] at hrun
    cases hrun
    rw [eq_ok_of_toOption hfind]
    exact fun h => Access.noConfusion (congrArg Comparison.access (Except.ok.inj h))
  · obtain ⟨text, hverify, htext⟩ := exists_of_any hverify
    obtain ⟨text, rfl⟩ := Option.isSome_iff_exists.mp htext
    refine ⟨text, w', run_bind_eq_ok.mpr ⟨known, w', hknown, ?_⟩⟩
    rw [run_lift, hverify]

end MockGen
