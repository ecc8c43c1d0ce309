import MockGen.Proofs.Comparison
import Mathlib.Data.List.Infix
import Mathlib.Data.List.Nodup

/-!
# The table of comparisons

What the options name is written into it one after the other, and the last write to a type counts.
A type also writes what pointers to it are compared by, and so an entry for a pointer takes effect
unless its type comes behind it.
-/

namespace MockGen.Comparisons

open List Outcome

variable {entries : List (String × Value)}

/-! ## The last write counts -/

theorem lookup_put (type assertion key : String) (table : List (String × String)) :
    (put type assertion table).lookup key =
      if key = type then some assertion else table.lookup key := by
  induction table with
  | nil =>
    by_cases h : key = type
    · simp [put, h]
    · simp [put, h, beq_eq_false_iff_ne.mpr h]
  | cons entry table ih =>
    obtain ⟨other, old⟩ := entry
    rw [put]
    by_cases hother : other = type
    · subst hother
      by_cases h : key = other
      · simp [h]
      · simp [h, beq_eq_false_iff_ne.mpr h, List.lookup_cons]
    · have hkey : key = other → key ≠ type := fun h => h ▸ hother
      rw [if_neg (by simpa using hother), List.lookup_cons, List.lookup_cons, ih]
      by_cases h : key = other
      · simp [h, hother]
      · simp [beq_eq_false_iff_ne.mpr h]

theorem lookup_update (table more : List (String × String)) (key : String) :
    (update table more).lookup key = (more.reverse.lookup key).or (table.lookup key) := by
  unfold update
  induction more generalizing table with
  | nil => rfl
  | cons entry more ih =>
    obtain ⟨type, assertion⟩ := entry
    rw [foldl_cons, ih, lookup_put, reverse_cons, List.lookup_append, Option.or_assoc]
    congr 1
    by_cases h : key = type
    · simp [h]
    · simp [h, List.lookup_cons, beq_eq_false_iff_ne.mpr h]

/-! ## What the options write -/

/-- The key under which a type stands in the table. -/
def key (type : String) : String :=
  String.ofList (joined type.toList)

/-- Whether a kind is marked as one of arrays. -/
def isStarred : Value → Bool
  | .str s => s.toList.contains '*'
  | _ => false

/-- The assertion for arrays of values of a kind. -/
def arrayAssertion (kind : Value) : String :=
  "UNITY_TEST_ASSERT_EQUAL_" ++ kind.display ++ "_ARRAY"

/-- The assertion that a kind names. -/
def assertionOf (kind : Value) : String :=
  if isStarred kind then
    "UNITY_TEST_ASSERT_EQUAL_" ++ String.ofList (kind.display.toList.filter (· != '*')) ++ "_ARRAY"
  else "UNITY_TEST_ASSERT_EQUAL_" ++ kind.display

/-- What an entry of the options writes: the assertion for its type and, unless the kind is one of
arrays, the assertion for pointers to the type. -/
def writes (entry : String × Value) : List (String × String) :=
  (key entry.1, assertionOf entry.2) ::
    if isStarred entry.2 then [] else [(key entry.1 ++ "*", arrayAssertion entry.2)]

theorem hasPart_star (t : List Char) : Text.hasPart "*".toList t = t.contains '*' := by
  rw [Bool.eq_iff_iff, Text.hasPart_iff, contains_iff_mem]
  exact singleton_infix_iff '*' t

theorem entriesFor_eq_ok {type : String} {kind : Value} {table result : List (String × String)}
    (h : entriesFor type kind table = .ok result) :
    result = update table (writes (type, kind)) := by
  unfold entriesFor at h
  obtain ⟨starred, hholds, h⟩ := bind_eq_ok.mp h
  split at h
  case isTrue hstarred =>
    subst hstarred
    obtain ⟨text, htext, hpure⟩ := bind_eq_ok.mp h
    cases hpure
    cases kind with
    | str s =>
      cases htext
      have hmarked : isStarred (.str text) = true := by
        rw [isStarred, ← hasPart_star]
        exact Except.ok.inj hholds
      simp only [writes, hmarked, assertionOf, if_true]
      rfl
    | _ => cases htext
  case isFalse hstarred =>
    cases h
    have hplain : isStarred kind = false := by
      cases kind with
      | str s =>
        rw [isStarred, ← hasPart_star]
        rw [Bool.not_eq_true] at hstarred
        exact (Except.ok.inj hholds).trans hstarred
      | _ => rfl
    simp only [writes, hplain, assertionOf, Bool.false_eq_true, if_false]
    rfl

/-- Entries of options, with types that are texts. -/
def optionEntries (entries : List (String × Value)) : List (Value × Value) :=
  entries.map fun entry => (.str entry.1, entry.2)

theorem ofTreatAs_eq_ok {table : List (String × String)}
    (h : ofTreatAs (optionEntries entries) = .ok table) :
    table = update [] (entries.flatMap writes) := by
  have key : ∀ start, (optionEntries entries).foldlM addEntry start = .ok table →
      table = update start (entries.flatMap writes) := by
    clear h
    induction entries with
    | nil =>
      intro start h
      cases h
      rfl
    | cons entry entries ih =>
      intro start h
      rw [optionEntries, map_cons, foldlM_cons] at h
      obtain ⟨next, hnext, h⟩ := bind_eq_ok.mp h
      obtain rfl := entriesFor_eq_ok hnext
      rw [ih _ h, flatMap_cons, update, update, update, foldl_append]
  exact key [] h

theorem exists_ofTreatAs_eq_ok (h : ∀ entry ∈ entries, ∃ kind, entry.2 = .str kind) :
    ∃ table, ofTreatAs (optionEntries entries) = .ok table := by
  have hstep : ∀ type kind table, ∃ result, entriesFor type (.str kind) table = .ok result := by
    intro type kind table
    unfold entriesFor
    cases hstar : Text.hasPart ['*'] kind.toList <;>
      simp [Value.holds, Value.actingText, hstar, bind, Except.bind, pure, Except.pure]
  have key : ∀ start, ∃ table, (optionEntries entries).foldlM addEntry start = .ok table := by
    induction entries with
    | nil => exact fun start => ⟨start, rfl⟩
    | cons entry entries ih =>
      intro start
      obtain ⟨⟨kind, hkind⟩, hkinds⟩ := forall_mem_cons.mp h
      obtain ⟨next, hnext⟩ := hstep entry.1 kind start
      obtain ⟨table, htable⟩ := ih hkinds next
      refine ⟨table, ?_⟩
      rw [optionEntries, map_cons, foldlM_cons]
      refine bind_eq_ok.mpr ⟨next, ?_, htable⟩
      rw [hkind]
      exact hnext
  exact key []

/-! ## Which entries take effect -/

theorem key_ne_star (type : String) : key type ++ "*" ≠ key type := by
  intro h
  have hlength := congrArg (fun s => s.toList.length) h
  simp at hlength

/-- Behind an entry, only types to which its own is a pointer write to its type. -/
theorem of_mem_writes {type : String} {back : List (String × Value)} {assertion : String}
    (hkeys : key type ∉ back.map fun entry => key entry.1)
    (h : (key type, assertion) ∈ back.flatMap writes) :
    ∃ later ∈ back, key later.1 ++ "*" = key type ∧ isStarred later.2 = false ∧
      assertion = arrayAssertion later.2 := by
  obtain ⟨later, hlater, hwrites⟩ := mem_flatMap.mp h
  refine ⟨later, hlater, ?_⟩
  rcases mem_cons.mp hwrites with heq | hderived
  · have hkey := (Prod.mk.inj heq).1
    exact absurd (mem_map.mpr ⟨later, hlater, hkey.symm⟩) hkeys
  · split at hderived
    · cases hderived
    case isFalse hplain =>
      obtain ⟨hkey, hassertion⟩ := Prod.mk.inj (mem_singleton.mp hderived)
      exact ⟨hkey.symm, Bool.not_eq_true _ ▸ hplain, hassertion⟩

/-- An entry of the options takes effect exactly if no type comes behind it to which its own type is
a pointer, and whose kind names another assertion for arrays; with kinds that are texts there is
always a table. -/
theorem lookup_ofTreatAs_iff (entries : List (String × Value))
    (hkeys : (entries.map fun entry => key entry.1).Nodup) :
    ((∀ entry ∈ entries, ∃ kind, entry.2 = .str kind) →
      ∃ table, ofTreatAs (optionEntries entries) = .ok table) ∧
    ∀ table, ofTreatAs (optionEntries entries) = .ok table →
      ∀ front type kind back, entries = front ++ (type, kind) :: back →
        (table.lookup (key type) = some (assertionOf kind) ↔
          ∀ later ∈ back, key later.1 ++ "*" = key type → isStarred later.2 = false →
            arrayAssertion later.2 = assertionOf kind) := by
  refine ⟨exists_ofTreatAs_eq_ok, ?_⟩
  rintro table htable front type kind back rfl
  rw [map_append, map_cons, nodup_append] at hkeys
  obtain ⟨hother, hback⟩ := nodup_cons.mp hkeys.2.1
  -- The writes in front of the entry, and the one for its array, are of no importance.
  have hown : (writes (type, kind)).reverse.lookup (key type) = some (assertionOf kind) := by
    have hne : (key type == key type ++ "*") = false :=
      beq_eq_false_iff_ne.mpr (key_ne_star type).symm
    unfold writes
    split <;> simp [List.lookup_cons, hne]
  have hlookup : table.lookup (key type) =
      some (((back.flatMap writes).reverse.lookup (key type)).getD (assertionOf kind)) := by
    rw [ofTreatAs_eq_ok htable, lookup_update, flatMap_append, flatMap_cons,
      reverse_append, reverse_append, List.lookup_append, List.lookup_append, hown]
    cases (back.flatMap writes).reverse.lookup (key type) <;> rfl
  have hlater : ∀ {assertion}, (back.flatMap writes).reverse.lookup (key type) = some assertion →
      ∃ later ∈ back, key later.1 ++ "*" = key type ∧ isStarred later.2 = false ∧
        assertion = arrayAssertion later.2 := by
    intro assertion h
    obtain ⟨l, r, hsplit, -⟩ := lookup_eq_some_iff.mp h
    refine of_mem_writes hother (mem_reverse.mp ?_)
    rw [hsplit]
    simp
  rw [hlookup, Option.some.injEq]
  constructor
  · intro heq later hmem hkey hplain
    have hwritten : (key type, arrayAssertion later.2) ∈ (back.flatMap writes).reverse := by
      refine mem_reverse.mpr (mem_flatMap.mpr ⟨later, hmem, ?_⟩)
      simp [writes, hplain, hkey]
    cases hback' : (back.flatMap writes).reverse.lookup (key type) with
    | none =>
      have hnone := lookup_eq_none_iff.mp hback' _ hwritten
      simp at hnone
    | some assertion =>
      obtain ⟨later', hmem', hkey', -, rfl⟩ := hlater hback'
      have hsame : key later'.1 = key later.1 := by
        have := hkey'.trans hkey.symm
        simpa using this
      obtain rfl := inj_on_of_nodup_map hback hmem' hmem hsame
      rwa [hback'] at heq
  · intro hall
    cases hback' : (back.flatMap writes).reverse.lookup (key type) with
    | none => rfl
    | some assertion =>
      obtain ⟨later, hmem, hkey, hplain, rfl⟩ := hlater hback'
      exact hall later hmem hkey hplain

theorem lookup_ofTreatAs_pointer_last :
    let entries := [("FOO", Value.str "INT"), ("FOO*", .str "STRING"), ("BAR", .str "HEX8*")]
    ∃ table, ofTreatAs (optionEntries entries) = .ok table ∧
      table.lookup (key "FOO*") = some (assertionOf (.str "STRING")) := by
  intro entries
  have hkeys : (entries.map fun entry => key entry.1).Nodup := by decide +kernel
  have heffect := lookup_ofTreatAs_iff entries hkeys
  obtain ⟨table, htable⟩ := heffect.1 (by simp [entries])
  refine ⟨table, htable, ?_⟩
  refine (heffect.2 table htable [("FOO", .str "INT")] "FOO*" (.str "STRING")
    [("BAR", .str "HEX8*")] rfl).mpr ?_
  intro later hlater hkey
  obtain rfl := mem_singleton.mp hlater
  exact absurd hkey (by decide +kernel)

/-- A type behind a pointer to it takes the place of what the options say about the pointer. -/
theorem lookup_ofTreatAs_pointer_first :
    ∃ table, ofTreatAs (optionEntries [("FOO*", .str "STRING"), ("FOO", .str "INT")]) = .ok table ∧
      table.lookup (key "FOO*") = some (arrayAssertion (.str "INT")) ∧
      arrayAssertion (.str "INT") ≠ assertionOf (.str "STRING") := by
  refine ⟨update [] ([("FOO*", .str "STRING"), ("FOO", .str "INT")].flatMap writes), rfl, ?_⟩
  decide +kernel

end MockGen.Comparisons
