import MockGen.Comparison
import MockGen.Proofs.Header.Comments
import MockGen.Proofs.Pattern.Exact

/-!
# How a type is looked up

The form in which it is looked up has lost its `const`, wherever that stood, so that a type is
compared like the same type with `const`.  What the table has for a type is for the type itself, for
pointers to it, or for what it points to behind all of its stars.
-/

namespace MockGen.Comparisons

open List Text
open String hiding append_assoc

/-! ## Taking `const` out of a type -/

/-- `const` behind white space, in front of which `front` is kept. -/
def constBehind? (front t : List Char) : Option (List Char × Nat) :=
  let gap := (t.takeWhile isBlank).length
  if "const".toList.isPrefixOf (t.drop gap) then
    let after := afterConst ((t.drop gap).drop "const".toList.length)
    some (front ++ after.1, front.length + gap + "const".toList.length + after.2)
  else none

variable {t x spelled kept : List Char} {c : Char}

theorem constHere?_cons (c : Char) (rest : List Char) :
    constHere? (c :: rest) =
      if isBlank c then constBehind? [] (c :: rest)
      else (constBehind? [c] rest).or (constBehind? [] (c :: rest)) := by
  unfold constHere?
  dsimp only
  split
  · rfl
  · cases h : constBehind? [c] rest with
    | none =>
      unfold constBehind? at h
      dsimp only at h
      rw [h]
      rfl
    | some found =>
      unfold constBehind? at h
      dsimp only at h
      rw [h]
      rfl

/-- Behind white space, the word `const` follows. -/
def ConstAhead (t : List Char) : Prop :=
  ∃ w rest, (∀ c ∈ w, isBlank c = true) ∧ t = w ++ ("const".toList ++ rest)

theorem constBehind?_append (front : List Char) {w : List Char}
    (hw : ∀ c ∈ w, isBlank c = true) (rest : List Char) :
    constBehind? front (w ++ ("const".toList ++ rest)) =
      some (front ++ (afterConst rest).1,
        front.length + w.length + "const".toList.length + (afterConst rest).2) := by
  have hgap : (w ++ ("const".toList ++ rest)).takeWhile isBlank = w := by
    have hword : ("const".toList ++ rest).takeWhile isBlank = [] := rfl
    rw [takeWhile_append_of_pos hw, hword, append_nil]
  unfold constBehind?
  dsimp only
  rw [hgap, drop_left, drop_left, if_pos]
  rw [List.isPrefixOf_iff_prefix]
  exact prefix_append _ _

theorem constBehind?_eq_none (front : List Char) (h : ¬ConstAhead t) :
    constBehind? front t = none := by
  unfold constBehind?
  dsimp only
  rw [if_neg]
  intro hword
  obtain ⟨rest, hrest⟩ := List.isPrefixOf_iff_prefix.mp hword
  refine h ⟨t.takeWhile isBlank, rest, fun c hc => mem_takeWhile_imp hc, ?_⟩
  conv_lhs => rw [← take_append_drop (t.takeWhile isBlank).length t]
  rw [hrest]
  congr 1
  exact (prefix_iff_eq_take.mp (List.takeWhile_prefix _)).symm

theorem constHere?_eq_none (h : ¬ConstAhead (c :: t)) (ht : ¬ConstAhead t) :
    constHere? (c :: t) = none := by
  rw [constHere?_cons, constBehind?_eq_none _ h, constBehind?_eq_none _ ht]
  split <;> rfl

theorem dropConst_eq_drop (skip : Nat) (t : List Char) :
    dropConst skip t = dropConst 0 (t.drop skip) := by
  induction t generalizing skip with
  | nil => rw [drop_nil, dropConst, dropConst]
  | cons c t ih =>
    cases skip with
    | zero => rfl
    | succ skip => rw [dropConst, ih, drop_succ_cons]

theorem dropConst_eq_self (h : ¬"const".toList <:+: t) : dropConst 0 t = t := by
  have hahead : ∀ {u : List Char}, ConstAhead u → "const".toList <:+: u := by
    rintro _ ⟨w, rest, -, rfl⟩
    exact ⟨w, rest, by rw [append_assoc]⟩
  induction t with
  | nil => rfl
  | cons c t ih =>
    have ht := Header.apart_of_cons h
    rw [dropConst, constHere?_eq_none (mt hahead h) (mt hahead ht)]
    exact congrArg (c :: ·) (ih ht)

/-- `const` at the front goes with the white space behind it. -/
theorem dropConst_front (hc : isBlank c = false) (t : List Char) :
    dropConst 0 ("const".toList ++ ' ' :: c :: t) = c :: dropConst 0 t := by
  have hafter : afterConst (' ' :: c :: t) = ([c], 2) := by
    have hgap : (' ' :: c :: t).takeWhile isBlank = [' '] := by
      rw [takeWhile_cons_of_pos (by decide), takeWhile_cons_of_neg (by simp [hc])]
    unfold afterConst
    simp [hgap]
  have hhere : constHere? ("const".toList ++ ' ' :: c :: t) = some ([c], 7) := by
    have hfirst : constBehind? ['c'] ("onst".toList ++ ' ' :: c :: t) = none := by
      refine constBehind?_eq_none _ ?_
      rintro ⟨w, rest, hw, heq⟩
      cases w with
      | nil => cases heq
      | cons d w =>
        obtain rfl := (List.cons.inj heq).1
        exact absurd (hw 'o' mem_cons_self) (by decide)
    have hword := constBehind?_append [] (w := []) (by simp) (' ' :: c :: t)
    rw [nil_append, hafter] at hword
    change constHere? ('c' :: ("onst".toList ++ ' ' :: c :: t)) = _
    rw [constHere?_cons, hfirst]
    exact hword
  change dropConst 0 ('c' :: ("onst".toList ++ ' ' :: c :: t)) = _
  rw [dropConst]
  change constHere? ('c' :: ("onst".toList ++ ' ' :: c :: t)) = _ at hhere
  rw [hhere]
  dsimp only
  rw [dropConst_eq_drop]
  rfl

theorem not_constAhead (hne : x ≠ []) (hlast : ∀ c ∈ x.getLast?, isBlank c = false)
    (hx : ¬"const".toList <:+: x) (tail : List Char) : ¬ConstAhead (x ++ ' ' :: tail) := by
  rintro ⟨w, rest, hw, heq⟩
  rcases List.append_eq_append_iff.mp heq with ⟨v, rfl, -⟩ | ⟨v, rfl, hv⟩
  · -- The white space in front of `const` would reach over the end of `x`.
    have hblank := hw _ (mem_append_left v (getLast_mem hne))
    rw [hlast _ (getLast?_eq_getLast_of_ne_nil hne)] at hblank
    cases hblank
  · rcases List.append_eq_append_iff.mp hv with ⟨u, rfl, -⟩ | ⟨u, hword, hu⟩
    · exact hx ⟨w, u, by rw [append_assoc]⟩
    · cases u with
      | nil =>
        rw [append_nil] at hword
        exact hx ⟨w, [], by rw [hword, append_nil]⟩
      | cons c u =>
        obtain rfl := (List.cons.inj hu).1
        exact absurd (hword ▸ mem_append_right v mem_cons_self : ' ' ∈ "const".toList)
          (by decide)

/-- `const` behind a type goes with the white space in front of it. -/
theorem dropConst_behind (hne : x ≠ []) (hlast : ∀ c ∈ x.getLast?, isBlank c = false)
    (hx : ¬"const".toList <:+: x) (rest : List Char) :
    dropConst 0 (x ++ ' ' :: ("const".toList ++ rest)) =
      x ++ ((afterConst rest).1 ++ dropConst 0 (rest.drop (afterConst rest).2)) := by
  induction x with
  | nil => exact absurd rfl hne
  | cons c x ih =>
    cases x with
    | nil =>
      have hword := constBehind?_append [c] (w := [' ']) (by decide) rest
      have hhere : constHere? (c :: ' ' :: ("const".toList ++ rest)) =
          some (c :: (afterConst rest).1, (afterConst rest).2 + 7) := by
        rw [constHere?_cons, hlast c rfl, if_neg Bool.false_ne_true, Nat.add_comm]
        change (constBehind? [c] ([' '] ++ ("const".toList ++ rest))).or (constBehind? [] _) = _
        rw [hword]
        rfl
      rw [singleton_append, dropConst, hhere]
      dsimp only
      rw [dropConst_eq_drop]
      rfl
    | cons d x =>
      have hx' := Header.apart_of_cons hx
      have hlast' : ∀ e ∈ (d :: x).getLast?, isBlank e = false := hlast
      have hnone : constHere? (c :: (d :: x ++ ' ' :: ("const".toList ++ rest))) = none :=
        constHere?_eq_none (not_constAhead (cons_ne_nil c _) hlast hx _)
          (not_constAhead (cons_ne_nil d x) hlast' hx' _)
      rw [cons_append, dropConst, hnone]
      exact congrArg (c :: ·) (ih (cons_ne_nil d x) hlast' hx')

/-! ## Names of function pointers -/

/-- The name of a type that stands for function pointers. -/
def IsPointerName (u : List Char) : Prop :=
  ∃ w d, u = "cmock_".toList ++ (w ++ ("_ptr".toList ++ d)) ∧
    (w ≠ [] ∧ ∀ c ∈ w, isWord c = true) ∧ d ≠ [] ∧ ∀ c ∈ d, isDigit c = true

theorem occursIn_functionPointer_iff :
    functionPointer.occursIn t = true ↔ ∃ u, IsPointerName u ∧ u <:+: t := by
  have hreads : ∀ {before u rest : List Char},
      functionPointer.Reads before u rest ↔ IsPointerName u := by
    intro before u rest
    simp only [functionPointer, Pattern.reads_append, Pattern.reads_text, Pattern.reads_stretch1,
      IsPointerName, CharSet.mem]
    constructor
    · rintro ⟨_, d, rfl, ⟨_, _, rfl, ⟨_, w, rfl, rfl, hw⟩, rfl⟩, hd⟩
      exact ⟨w, d, by simp, hw, hd⟩
    · rintro ⟨w, d, rfl, hw, hd⟩
      exact ⟨_, d, by simp, ⟨_, _, rfl, ⟨_, w, rfl, rfl, hw⟩, rfl⟩, hd⟩
  rw [Pattern.occursIn_iff (by decide)]
  constructor
  · rintro ⟨x, u, y, rfl, hread⟩
    exact ⟨u, hreads.mp hread, x, y, by rw [append_assoc]⟩
  · rintro ⟨u, hname, x, y, rfl⟩
    exact ⟨x, u, y, by rw [append_assoc], hreads.mpr hname⟩

/-- A sign separates the names on its two sides. -/
theorem occursIn_functionPointer_append (hc : isWord c = false)
    (hdigit : isDigit c = false) (x y : List Char) :
    functionPointer.occursIn (x ++ c :: y) =
      (functionPointer.occursIn x || functionPointer.occursIn y) := by
  have hname : ∀ {u}, IsPointerName u → c ∉ u ∧ u ≠ [] := by
    rintro _ ⟨w, d, rfl, ⟨-, hw⟩, -, hd⟩
    have hfixed : ∀ e ∈ "cmock_".toList ++ "_ptr".toList, isWord e = true := by decide
    refine ⟨fun hmem => ?_, cons_ne_nil _ _⟩
    simp only [mem_append] at hmem hfixed
    rcases hmem with hmem | hmem | hmem | hmem
    · exact absurd (hfixed c (.inl hmem)) (by simp [hc])
    · exact absurd (hw c hmem) (by simp [hc])
    · exact absurd (hfixed c (.inr hmem)) (by simp [hc])
    · exact absurd (hd c hmem) (by simp [hdigit])
  rw [Bool.eq_iff_iff, Bool.or_eq_true]
  simp only [occursIn_functionPointer_iff]
  constructor
  · rintro ⟨u, hu, hpart⟩
    obtain ⟨hmem, hne⟩ := hname hu
    have hstart : ∀ {v}, v <+: c :: y → c ∉ v → v = [] := by
      rintro (_ | ⟨d, v⟩) hv hd
      · rfl
      · obtain ⟨rfl, -⟩ := cons_prefix_cons.mp hv
        exact absurd mem_cons_self hd
    rcases infix_append_iff.mp hpart with hx | hy | ⟨v, w, rfl, hv, hw⟩
    · exact .inl ⟨u, hu, hx⟩
    · rcases infix_cons_iff.mp hy with hy | hy
      · exact absurd (hstart hy hmem) hne
      · exact .inr ⟨u, hu, hy⟩
    · obtain rfl := hstart hw fun h => hmem (mem_append_right v h)
      exact .inl ⟨_, hu, by rw [append_nil]; exact hv.isInfix⟩
  · rintro (⟨u, hu, hpart⟩ | ⟨u, hu, hpart⟩)
    · exact ⟨u, hu, hpart.trans (prefix_append x _).isInfix⟩
    · exact ⟨u, hu, hpart.trans ((suffix_cons c y).trans (suffix_append x _)).isInfix⟩

/-! ## Types with `const` -/

theorem find_eq_mapError (known : Comparisons) {s t : String}
    (hform : lookupForm s.toList = lookupForm t.toList)
    (hname : functionPointer.occursIn s.toList = functionPointer.occursIn t.toList) :
    known.find s = (known.find t).mapError fun _ => .untestableType s := by
  unfold find
  rw [hform, hname]
  dsimp only
  split
  · rfl
  · rfl
  · split
    · rfl
    · split <;> rfl

/-- A type as it stands without `const`. -/
structure IsBare (t : List Char) : Prop where
  ne_nil : t ≠ []
  first : ∀ c ∈ t.head?, isBlank c = false
  last : ∀ c ∈ t.getLast?, isBlank c = false
  noConst : ¬"const".toList <:+: t

/-- The ways of writing `const` to a type. -/
inductive WithConst : List Char → List Char → Prop where
  | front (t : List Char) : WithConst t ("const".toList ++ ' ' :: t)
  | behind (t : List Char) : WithConst t (t ++ ' ' :: "const".toList)
  | star {t : List Char} (hne : t ≠ []) (hlast : ∀ c ∈ t.getLast?, isBlank c = false) :
    WithConst (t ++ ['*']) (t ++ ' ' :: "const*".toList)
  | both {t : List Char} (hne : t ≠ []) :
    WithConst (t ++ ['*']) ("const".toList ++ ' ' :: (t ++ '*' :: ' ' :: "const".toList))

theorem dropConst_withConst (h : WithConst t spelled) (hbare : IsBare t) :
    dropConst 0 spelled = t := by
  cases h with
  | front =>
    obtain ⟨c, u, rfl⟩ := exists_cons_of_ne_nil hbare.ne_nil
    rw [dropConst_front (hbare.first c rfl), dropConst_eq_self (Header.apart_of_cons hbare.noConst)]
  | behind =>
    have hdrop := dropConst_behind hbare.ne_nil hbare.last hbare.noConst []
    rw [append_nil] at hdrop
    rw [hdrop]
    exact append_nil t
  | @star u hne hlast =>
    have hu : ¬"const".toList <:+: u :=
      fun hu => hbare.noConst (hu.trans (prefix_append u _).isInfix)
    exact dropConst_behind hne hlast hu ['*']
  | both hne =>
    obtain ⟨c, u, rfl⟩ := exists_cons_of_ne_nil hne
    have hu : ¬"const".toList <:+: u ++ ['*'] := Header.apart_of_cons hbare.noConst
    have hdrop := dropConst_behind (x := u ++ ['*']) (by simp)
      (by rw [getLast?_concat]; rintro _ ⟨⟩; decide) hu []
    rw [append_nil, append_assoc] at hdrop
    rw [cons_append, dropConst_front (hbare.first c rfl)]
    exact congrArg (c :: ·) (hdrop.trans (append_nil _))

theorem occursIn_functionPointer_withConst (h : WithConst t spelled) :
    functionPointer.occursIn spelled = functionPointer.occursIn t := by
  have hspace := fun x y => occursIn_functionPointer_append (c := ' ') (by decide) (by decide) x y
  have hstar := fun x y => occursIn_functionPointer_append (c := '*') (by decide) (by decide) x y
  have hword : functionPointer.occursIn "const".toList = false := by decide
  have hnil : functionPointer.occursIn [] = false := by decide
  have hpointer : "const*".toList = "const".toList ++ '*' :: [] := rfl
  have hbehind : ' ' :: "const".toList = [] ++ ' ' :: "const".toList := rfl
  cases h with
  | front => rw [hspace, hword, Bool.false_or]
  | behind => rw [hspace, hword, Bool.or_false]
  | star =>
    rw [hspace, hstar, hpointer, hstar, hword, hnil]
    rfl
  | both =>
    rw [hspace, hstar, hstar, hbehind, hspace, hword, hnil, Bool.false_or, Bool.or_false,
      Bool.or_false]

/-- A type is compared like the same type with `const`: in front of it, behind it, and in a type of
pointers also in front of the star. -/
theorem find_eq_find_const (known : Comparisons) {type : String} (hne : type ≠ "")
    (hfirst : ∀ c ∈ type.toList.head?, isBlank c = false)
    (hlast : ∀ c ∈ type.toList.getLast?, isBlank c = false)
    (hconst : ¬"const".toList <:+: type.toList) :
    (∀ spelled ∈ ["const " ++ type, type ++ " const"],
      known.find spelled = (known.find type).mapError fun _ => .untestableType spelled) ∧
    ∀ pointee, type = pointee ++ "*" → pointee ≠ "" →
      (∀ c ∈ pointee.toList.getLast?, isBlank c = false) →
      ∀ spelled ∈ ["const " ++ pointee ++ "*", pointee ++ " const*", pointee ++ "* const",
          "const " ++ pointee ++ "* const"],
        known.find spelled = (known.find type).mapError fun _ => .untestableType spelled := by
  have hbare : IsBare type.toList := ⟨by simpa using hne, hfirst, hlast, hconst⟩
  have hspelled : ∀ {spelled : String}, WithConst type.toList spelled.toList →
      known.find spelled = (known.find type).mapError fun _ => .untestableType spelled := by
    intro spelled h
    refine find_eq_mapError known ?_ (occursIn_functionPointer_withConst h)
    unfold lookupForm
    rw [dropConst_withConst h hbare, dropConst_eq_self hconst]
  have hfront : WithConst type.toList ("const " ++ type).toList := by
    rw [toList_append]
    exact .front _
  have hbehind : WithConst type.toList (type ++ " const").toList := by
    rw [toList_append]
    exact .behind _
  refine ⟨?_, ?_⟩
  · simp only [forall_mem_cons, not_mem_nil, false_implies, implies_true, and_true]
    exact ⟨hspelled hfront, hspelled hbehind⟩
  · rintro pointee rfl hpointee hstar
    have hpointee : pointee.toList ≠ [] := by simpa using hpointee
    rw [toList_append] at hspelled
    simp only [forall_mem_cons, not_mem_nil, false_implies, implies_true, and_true]
    refine ⟨?_, hspelled ?_, ?_, hspelled ?_⟩
    · rw [String.append_assoc]
      exact hspelled (toList_append ▸ hfront)
    · rw [toList_append]
      exact .star hpointee hstar
    · rw [show "* const" = "*" ++ " const" from rfl, ← String.append_assoc]
      exact hspelled (toList_append ▸ hbehind)
    · rw [String.append_assoc, toList_append, toList_append]
      exact .both hpointee

/-- A table that knows pointers to unsigned numbers alone. -/
def unsignedArrays : Comparisons where
  table := [("unsigned_int*", "UNITY_TEST_ASSERT_EQUAL_UINT_ARRAY")]
  fallback := "UNITY_TEST_ASSERT_EQUAL_MEMORY"
  comparesMemory := false

theorem find_const_unsigned_int_const :
    (unsignedArrays.find "unsigned int*").toOption =
        some ⟨"UNITY_TEST_ASSERT_EQUAL_UINT_ARRAY", .direct⟩ ∧
      unsignedArrays.find "const unsigned int* const" =
        (unsignedArrays.find "unsigned int*").mapError fun _ =>
          .untestableType "const unsigned int* const" := by
  refine ⟨by decide +kernel, ?_⟩
  have hlast : ∀ c ∈ "unsigned int*".toList.getLast?, isBlank c = false := by
    rintro c ⟨⟩
    decide
  have hstar : ∀ c ∈ "unsigned int".toList.getLast?, isBlank c = false := by
    rintro c ⟨⟩
    decide
  have hconst : ¬"const".toList <:+: "unsigned int*".toList := by
    rw [← hasPart_iff]
    decide
  exact (find_eq_find_const unsignedArrays (by decide) (by rintro c ⟨⟩; decide) hlast hconst).2
    "unsigned int" rfl (by decide) hstar _ (by simp)

/-! ## Entries for a type, for pointers to it and for what it points to -/

/-- What the table has for a type: for itself, or else for pointers to it or for what it points to
behind all of its stars. -/
def listed? (known : Comparisons) (form : List Char) : Option Comparison :=
  match known.table.lookup (String.ofList form) with
  | some assertion => some ⟨assertion, .direct⟩
  | none =>
    if form.getLast? == some '*' then
      (known.table.lookup (String.ofList (dropTrailing '*' form))).map (⟨·, .pointee⟩)
    else (known.table.lookup (String.ofList (form ++ ['*']))).map (⟨·, .address⟩)

/-- How values of a type are compared that the table has nothing for. -/
def unlisted (known : Comparisons) (type : String) : Except Fault Comparison :=
  if functionPointer.occursIn type.toList then .ok ⟨"UNITY_TEST_ASSERT_EQUAL_PTR", .direct⟩
  else if !known.comparesMemory then .error (.untestableType type)
  else
    .ok ⟨known.fallback,
      if (lookupForm type.toList).getLast? == some '*' then .direct else .address⟩

theorem find_eq_listed? (known : Comparisons) (type : String) :
    known.find type =
      ((known.listed? (lookupForm type.toList)).map Except.ok).getD (known.unlisted type) := by
  unfold find listed? unlisted
  dsimp only
  generalize lookupForm type.toList = form
  cases known.table.lookup (String.ofList form) with
  | some assertion => rfl
  | none =>
    cases form.getLast? == some '*' with
    | true =>
      simp only [if_true]
      cases known.table.lookup (String.ofList (dropTrailing '*' form)) <;> rfl
    | false =>
      simp only [Bool.false_eq_true, if_false]
      cases known.table.lookup (String.ofList (form ++ ['*'])) <;> rfl

/-- The access of a comparison fits the type whose assertion it takes. -/
def Fits (known : Comparisons) (form : List Char) (found : Comparison) : Prop :=
  match found.access with
  | .direct => known.table.lookup (String.ofList form) = some found.assertion
  | .address => form.getLast? ≠ some '*' ∧
      known.table.lookup (String.ofList (form ++ ['*'])) = some found.assertion
  | .pointee => ∃ pointee, form = pointee ++ ['*'] ∧
      known.table.lookup (String.ofList pointee) = some found.assertion

theorem listed?_cases {known : Comparisons} {form : List Char} {found : Comparison}
    (h : known.listed? form = some found) :
    (found.access = .direct ∧
      known.table.lookup (String.ofList form) = some found.assertion) ∨
    (found.access = .address ∧ form.getLast? ≠ some '*' ∧
      known.table.lookup (String.ofList (form ++ ['*'])) = some found.assertion) ∨
    (found.access = .pointee ∧ form.getLast? = some '*' ∧
      known.table.lookup (String.ofList (dropTrailing '*' form)) = some found.assertion) := by
  unfold listed? at h
  split at h
  case h_1 assertion hform =>
    cases h
    exact .inl ⟨rfl, hform⟩
  case h_2 =>
    split at h
    case isTrue hstar =>
      obtain ⟨assertion, hlookup, rfl⟩ := Option.map_eq_some_iff.mp h
      exact .inr (.inr ⟨rfl, beq_iff_eq.mp hstar, hlookup⟩)
    case isFalse hstar =>
      obtain ⟨assertion, hlookup, rfl⟩ := Option.map_eq_some_iff.mp h
      exact .inr (.inl ⟨rfl, fun hlast => hstar (beq_iff_eq.mpr hlast), hlookup⟩)

/-- What a comparison takes fits the type whose assertion it uses, one star for one level of
pointers, unless the type has more stars than one and is compared as what stands behind them all. -/
theorem fits_iff (known : Comparisons) (type : String) {found : Comparison}
    (h : known.listed? (lookupForm type.toList) = some found) :
    known.find type = .ok found ∧
    (found.access = .pointee → ∃ pointee n,
      lookupForm type.toList = pointee ++ List.replicate (n + 1) '*' ∧
      pointee.getLast? ≠ some '*' ∧
      known.table.lookup (String.ofList pointee) = some found.assertion) ∧
    (known.Fits (lookupForm type.toList) found ↔
      (found.access = .pointee → ∀ deeper, lookupForm type.toList = deeper ++ ['*', '*'] →
        known.table.lookup (String.ofList (deeper ++ ['*'])) = some found.assertion)) := by
  refine ⟨by rw [find_eq_listed?, h]; rfl, ?_⟩
  generalize lookupForm type.toList = form at h ⊢
  obtain ⟨assertion, access⟩ := found
  rcases listed?_cases h with ⟨rfl, hform⟩ | ⟨rfl, hlast, hform⟩ | ⟨rfl, hlast, hpointee⟩
  · exact ⟨nofun, fun _ => nofun, fun _ => hform⟩
  · exact ⟨nofun, fun _ => nofun, fun _ => ⟨hlast, hform⟩⟩
  · obtain ⟨front, rfl⟩ := getLast?_eq_some_iff.mp hlast
    refine ⟨fun _ => ?_, ?_, fun hdeeper => ⟨front, rfl, ?_⟩⟩
    · obtain ⟨n, heq, hend⟩ := exists_dropTrailing_append '*' front
      rw [dropTrailing_concat_self] at hpointee
      refine ⟨_, n, ?_, hend, hpointee⟩
      rw [replicate_succ', ← append_assoc, ← heq]
    · rintro ⟨pointee, heq, hlookup⟩ - deeper hdeeper
      obtain rfl := append_cancel_right heq
      obtain rfl : front = deeper ++ ['*'] := append_cancel_right (by simpa using hdeeper)
      exact hlookup
    · -- With one star, what stands behind all of them is what the type points to.
      by_cases hfront : front.getLast? = some '*'
      · obtain ⟨deeper, rfl⟩ := getLast?_eq_some_iff.mp hfront
        exact hdeeper rfl deeper (append_assoc _ _ _)
      · rwa [dropTrailing_concat_self, dropTrailing_eq_self hfront] at hpointee

/-- Numbers and arrays of them. -/
def numbers : Comparisons where
  table := [("int", "UNITY_TEST_ASSERT_EQUAL_INT"), ("int*", "UNITY_TEST_ASSERT_EQUAL_INT_ARRAY"),
    ("char", "UNITY_TEST_ASSERT_EQUAL_CHAR")]
  fallback := "UNITY_TEST_ASSERT_EQUAL_MEMORY"
  comparesMemory := true

theorem fits_char_pointer :
    numbers.listed? (lookupForm "const char*".toList) =
        some ⟨"UNITY_TEST_ASSERT_EQUAL_CHAR", .pointee⟩ ∧
      numbers.Fits (lookupForm "const char*".toList)
        ⟨"UNITY_TEST_ASSERT_EQUAL_CHAR", .pointee⟩ := by
  have hentry : numbers.listed? (lookupForm "const char*".toList) =
      some ⟨"UNITY_TEST_ASSERT_EQUAL_CHAR", .pointee⟩ := by decide +kernel
  refine ⟨hentry, (fits_iff numbers "const char*" hentry).2.2.mpr fun _ deeper hdeeper => ?_⟩
  have hform : lookupForm "const char*".toList = "char".toList ++ ['*'] := by decide +kernel
  have hends := congrArg (fun t => t.reverse.take 2) (hform.symm.trans hdeeper)
  simp at hends

/-- A pointer to a pointer is followed once, and compared as if it had been followed twice. -/
theorem not_fits_pointer_to_pointer :
    numbers.find "int**" = .ok ⟨"UNITY_TEST_ASSERT_EQUAL_INT", .pointee⟩ ∧
      ¬numbers.Fits (lookupForm "int**".toList) ⟨"UNITY_TEST_ASSERT_EQUAL_INT", .pointee⟩ := by
  have hentry : numbers.listed? (lookupForm "int**".toList) =
      some ⟨"UNITY_TEST_ASSERT_EQUAL_INT", .pointee⟩ := by decide +kernel
  have hform : lookupForm "int**".toList = "int*".toList ++ ['*'] := by decide +kernel
  refine ⟨by rw [find_eq_listed?, hentry]; rfl, ?_⟩
  rintro ⟨pointee, heq, hlookup⟩
  obtain rfl : "int*".toList = pointee := append_cancel_right (hform.symm.trans heq)
  exact absurd hlookup (by decide +kernel)

/-! ## Types without stars -/

theorem mem_of_mem_afterConst (h : c ∈ (afterConst t).1) : c ∈ t := by
  unfold afterConst at h
  split at h
  · cases h
  · cases h
  · dsimp only at h
    split at h
    case h_1 d rest hdrop =>
      rw [mem_singleton.mp h]
      exact mem_of_mem_drop (hdrop ▸ mem_cons_self)
    case h_2 =>
      rw [mem_singleton.mp h]
      exact mem_cons_self

theorem mem_of_mem_constBehind? {front : List Char} {length : Nat}
    (h : constBehind? front t = some (kept, length)) (hc : c ∈ kept) : c ∈ front ∨ c ∈ t := by
  unfold constBehind? at h
  dsimp only at h
  split at h
  · obtain ⟨rfl, -⟩ := Prod.mk.inj (Option.some.inj h)
    exact (mem_append.mp hc).imp_right fun hc =>
      mem_of_mem_drop (mem_of_mem_drop (mem_of_mem_afterConst hc))
  · cases h

theorem mem_of_mem_constHere? {length : Nat} (h : constHere? t = some (kept, length))
    (hc : c ∈ kept) : c ∈ t := by
  cases t with
  | nil => cases h
  | cons d rest =>
    have hwhole : constBehind? [] (d :: rest) = some (kept, length) → c ∈ d :: rest :=
      fun h => (mem_of_mem_constBehind? h hc).resolve_left not_mem_nil
    rw [constHere?_cons] at h
    split at h
    · exact hwhole h
    · rcases Option.or_eq_some_iff.mp h with h | ⟨-, h⟩
      · simpa using mem_of_mem_constBehind? h hc
      · exact hwhole h

theorem mem_of_mem_dropConst {skip : Nat} (h : c ∈ dropConst skip t) : c ∈ t := by
  induction t generalizing skip with
  | nil => cases h
  | cons d rest ih =>
    unfold dropConst at h
    split at h
    · exact mem_cons_of_mem d (ih h)
    · split at h
      case h_1 kept length hhere =>
        rcases mem_append.mp h with h | h
        · exact mem_of_mem_constHere? hhere h
        · exact mem_cons_of_mem d (ih h)
      case h_2 =>
        exact (mem_cons.mp h).elim (fun h => h ▸ mem_cons_self)
          fun h => mem_cons_of_mem d (ih h)

theorem star_notMem_lookupForm (h : '*' ∉ t) : '*' ∉ lookupForm t := by
  intro hmem
  obtain ⟨c, hc, hstar⟩ := mem_map.mp hmem
  obtain rfl : c = '*' := by
    by_contra hne
    split at hstar
    · exact absurd hstar (by decide)
    · exact hne hstar
  exact h (mem_of_mem_dropConst (strip_subset hc))

/-- A type without stars is compared directly or by its address, and another fallback makes a
difference only where the fallback is used. -/
theorem find_of_star_notMem (known : Comparisons) {type : String} (h : '*' ∉ type.toList)
    (fallback : String) :
    (∃ c : Comparison, c.access ≠ .pointee ∧ known.find type = .ok c ∧
      { known with fallback }.find type = .ok c) ∨
    (known.find type = .ok ⟨known.fallback, .address⟩ ∧
      { known with fallback }.find type = .ok ⟨fallback, .address⟩) ∨
    ∃ fault, known.find type = .error fault ∧ { known with fallback }.find type = .error fault := by
  have hstarred : ((lookupForm type.toList).getLast? == some '*') = false := by
    rw [beq_eq_false_iff_ne]
    exact fun hlast => star_notMem_lookupForm h (mem_of_getLast? hlast)
  unfold find
  dsimp only
  rw [hstarred]
  simp only [Bool.false_eq_true, if_false]
  split
  · exact .inl ⟨_, Access.noConfusion, rfl, rfl⟩
  · exact .inl ⟨_, Access.noConfusion, rfl, rfl⟩
  · split
    · exact .inl ⟨_, Access.noConfusion, rfl, rfl⟩
    · split
      · exact .inr (.inr ⟨_, rfl, rfl⟩)
      · exact .inr (.inl ⟨rfl, rfl⟩)

end MockGen.Comparisons
