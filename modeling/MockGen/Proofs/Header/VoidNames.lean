import MockGen.Proofs.Header.Run
import MockGen.Proofs.Pattern.Pieces
import MockGen.Proofs.Text.Words

/-!
# Names that mean `void`

What they are, where a declaration is compared with them, and what more of them change.
-/

namespace MockGen.Header

open Text Pattern List

/-! ## The names that a header defines -/

def IsName (x : String) : Prop :=
  x.toList ≠ [] ∧ ∀ c ∈ x.toList, isWord c = true

variable {list : List Char} {s : Reading} {r : Rules} {parsed : TypedName}

theorem isName_of_voidTypedef {advance : Bool} {c : Cursor} {m : Match}
    (h : voidTypedef.matchHere? advance c = some m) : IsName (String.ofList (m.group 1)) := by
  have hrun : (text "typedef" ++ blanks1 ++ opt (char '(' ++ blanks) ++ text "void" ++
      opt (blanks ++ char ')') ++ blanks1).run ⟨c, []⟩ (fun r =>
        (stretch1 .word).run r fun r₂ =>
          blanks.run { r₂ with groups := (1, r.cursor, r₂.cursor) :: r₂.groups } fun r₃ =>
            (char ';').run r₃ fun q => if advance && q.cursor.pos == c.pos then none
              else some ⟨c, q.cursor, q.groups⟩) = some m := h
  obtain ⟨u, rest, groups, -, -, hm⟩ := run_sound _ _ _ _ hrun
  obtain ⟨w, rest₂, hrest, hleast, hword, hm⟩ := run_span_sound hm
  obtain ⟨b, rest₃, -, -, -, hm⟩ := run_span_sound hm
  obtain ⟨d, rest₄, -, -, hm⟩ := run_one_sound hm
  split at hm
  · simp at hm
  · have hm := Option.some.inj hm
    have hgroup : m.group 1 = w := by
      rw [← hm]
      exact Cursor.upTo_past hrest
    rw [IsName, hgroup, String.toList_ofList]
    refine ⟨?_, hword⟩
    rintro rfl
    simp at hleast

theorem isName_of_mem_voidNames {x : String} {source : List Char} (h : x ∈ voidNames source) :
    IsName x := by
  rw [voidNames, mem_distinct] at h
  obtain ⟨m, hm, rfl⟩ := mem_map.mp h
  obtain ⟨advance, c, hmatch⟩ := exists_matchHere?_of_mem_allMatches hm
  exact isName_of_voidTypedef hmatch

/-! ## Parameter lists -/

theorem cleanArguments_of_mem (h : String.ofList (Text.strip list) ∈ s.voids) :
    cleanArguments r list s = ("void".toList, s) := by
  rw [cleanArguments, contains_iff_mem.mpr h]
  rfl

theorem voids_cleanArguments (r : Rules) (list : List Char) (s : Reading) :
    (cleanArguments r list s).2.voids = s.voids := by
  rw [cleanArguments]
  split <;> rfl

theorem cleanArguments_congr {V : List String}
    (h : String.ofList (Text.strip list) ∈ V ↔ String.ofList (Text.strip list) ∈ s.voids) :
    cleanArguments r list { s with voids := V } =
      ((cleanArguments r list s).1, { (cleanArguments r list s).2 with voids := V }) := by
  have hsame : V.contains (String.ofList (Text.strip list)) =
      s.voids.contains (String.ofList (Text.strip list)) := by
    rw [Bool.eq_iff_iff, contains_iff_mem, contains_iff_mem, h]
  cases hvoid : s.voids.contains (String.ofList (Text.strip list)) || list.isEmpty with
  | true => simp only [cleanArguments, hsame, hvoid, if_true]
  | false => simp only [cleanArguments, hsame, hvoid, Bool.false_eq_true, if_false]

theorem cleanArguments_of_isName (hname : IsName (String.ofList (Text.strip list)))
    (h : String.ofList (Text.strip list) ∉ s.voids) :
    cleanArguments r list s = (list ++ " cmock_arg1".toList, s) := by
  rw [IsName, String.toList_ofList] at hname
  obtain ⟨hne, hletters⟩ := hname
  have hchars : ∀ c ∈ list, (!isWord c && !isBlank c) = false := by
    intro c hc
    obtain ⟨u, v, hlist, hu, hv⟩ := exists_strip_eq list
    rw [hlist, mem_append, mem_append] at hc
    rcases hc with hc | hc | hc
    · simp [hu c hc]
    · simp [hletters c hc]
    · simp [hv c hc]
  have habsent : ∀ {p : Pattern}, p.needs (fun c => !isWord c && !isBlank c) = true →
      p.Absent list := fun hp => absent_of_needs hp hchars
  have hwords : words list = [Text.strip list] := by
    rw [← words_strip, words_letters hne fun c hc => isBlank_of_isWord (hletters c hc)]
  have hunnamed : isUnnamed r.standards list = true := by
    rw [isUnnamed, hwords]
    cases htype : typeWords.contains (String.ofList (Text.strip list)) with
    | true => simp only [map_cons, map_nil, filter_cons, htype]; rfl
    | false => simp only [map_cons, map_nil, filter_cons, htype]; rfl
  have hnames : withNames r list = list ++ " cmock_arg1".toList := by
    rw [withNames, (habsent (p := comma) (by decide)).split_eq, nameUnnamed, hunnamed]
    rfl
  have hcond : (s.voids.contains (String.ofList (Text.strip list)) || list.isEmpty) = false := by
    rw [Bool.or_eq_false_iff]
    refine ⟨?_, ?_⟩
    · rw [← Bool.not_eq_true, contains_iff_mem]
      exact h
    · rw [isEmpty_eq_false_iff]
      rintro rfl
      exact hne rfl
  rw [cleanArguments, hcond, if_neg (by simp)]
  simp only [(habsent (p := bracketed) (by decide)).replaceBy_eq,
    (habsent (p := blanksBeforeStar) (by decide)).replace_eq,
    (habsent (p := starBeforeWord) (by decide)).replaceBy_eq,
    (habsent (p := pointerParameter) (by decide)).pieces_eq, declarePointers,
    append_nil, (habsent (p := functionParameter) (by decide)).pieces_eq, hnames]

/-! ## Declarations -/

/-- The texts of a declaration that are compared with the names for `void`: the type that it
returns and its parameter list. -/
def voidTexts (r : Rules) (declared : List Char) : List String :=
  match declaration.matchStart? declared with
  | none => []
  | some m =>
    match typeAndName r (m.group 1) with
    | .error _ => []
    | .ok parsed => [String.ofList (Text.strip parsed.type.toList),
        String.ofList (Text.strip (splitVarArg (Text.strip (m.group 2))).2)]

theorem returnedOf_congr {V W : List String}
    (h : String.ofList (Text.strip parsed.type.toList) ∈ V ↔
      String.ofList (Text.strip parsed.type.toList) ∈ W) :
    returnedOf V parsed = returnedOf W parsed := by
  have hsame : V.contains (String.ofList (Text.strip parsed.type.toList)) =
      W.contains (String.ofList (Text.strip parsed.type.toList)) := by
    rw [Bool.eq_iff_iff, contains_iff_mem, contains_iff_mem, h]
  simp only [returnedOf, hsame]

theorem voids_prototype (r : Rules) (declared : List Char) (s : Reading) :
    ((prototype r declared [] none).run s).2.voids = s.voids := by
  rw [prototype_run]
  split
  · rfl
  · split
    · rfl
    · dsimp only
      split
      · exact voids_cleanArguments _ _ _
      · split <;> exact voids_cleanArguments _ _ _

section

variable {r : Rules} {declared : List Char} {s : Reading} {V : List String}

theorem prototype_congr (h : ∀ x ∈ voidTexts r declared, x ∈ V ↔ x ∈ s.voids) :
    (prototype r declared [] none).run { s with voids := V } =
      (((prototype r declared [] none).run s).1,
        { ((prototype r declared [] none).run s).2 with voids := V }) := by
  rw [prototype_run, prototype_run]
  rw [voidTexts] at h
  cases hmatch : declaration.matchStart? declared with
  | none => rfl
  | some m =>
    cases htype : typeAndName r (m.group 1) with
    | error e => simp only [htype]
    | ok parsed =>
      simp only [hmatch, htype, mem_cons, not_mem_nil, or_false, forall_eq_or_imp,
        forall_eq] at h
      obtain ⟨hreturned, hlist⟩ := h
      simp only [htype]
      rw [returnedOf_congr hreturned, cleanArguments_congr hlist]
      dsimp only
      cases arguments r (cleanArguments r (splitVarArg (Text.strip (m.group 2))).2 s).1 with
      | error e => rfl
      | ok args =>
        dsimp only
        split <;> rfl

theorem returnedOf_eq_iff (hvoid : "void" ∈ s.voids) (hV : ∀ x ∈ s.voids, x ∈ V) :
    returnedOf V parsed = returnedOf s.voids parsed ↔
      (String.ofList (Text.strip parsed.type.toList) ∈ V →
        String.ofList (Text.strip parsed.type.toList) ∈ s.voids) := by
  constructor
  · intro heq hmem
    by_contra hnot
    have hthere : V.contains (String.ofList (Text.strip parsed.type.toList)) = true :=
      contains_iff_mem.mpr hmem
    have hhere : s.voids.contains (String.ofList (Text.strip parsed.type.toList)) = false := by
      rw [← Bool.not_eq_true, contains_iff_mem]
      exact hnot
    have htype : "void" = parsed.type := by
      have := congrArg Returned.type heq
      simpa only [returnedOf, hthere, hhere, if_true, Bool.false_eq_true, if_false] using this
    rw [← htype] at hnot
    exact hnot hvoid
  · intro h
    exact returnedOf_congr ⟨h, hV _⟩

theorem returnedOf_type_ne (hV : ∀ x ∈ s.voids, x ∈ V) (h : (returnedOf s.voids parsed).type ≠ "") :
    (returnedOf V parsed).type ≠ "" := by
  cases hthere : V.contains (String.ofList (Text.strip parsed.type.toList)) with
  | true =>
    simp only [returnedOf, hthere, if_true]
    decide
  | false =>
    have hhere : s.voids.contains (String.ofList (Text.strip parsed.type.toList)) = false := by
      rw [← Bool.not_eq_true, contains_iff_mem] at hthere ⊢
      exact fun hmem => hthere (hV _ hmem)
    simpa only [returnedOf, hthere, hhere] using h

/-- A declaration that can be read can be read with more names for `void`, under the same name; the
record is the same exactly if the declaration uses none of the further names. -/
theorem prototype_of_ok {f : Prototype} {t : Reading}
    (hf : (prototype r declared [] none).run s = (.ok f, t)) (hvoid : "void" ∈ s.voids)
    (hV : ∀ x ∈ s.voids, x ∈ V) (hnames : ∀ x ∈ V, x ∉ s.voids → IsName x) :
    ∃ g, (prototype r declared [] none).run { s with voids := V } = (.ok g, { t with voids := V }) ∧
      g.name = f.name ∧ (g = f ↔ ∀ x ∈ voidTexts r declared, x ∈ V → x ∈ s.voids) := by
  obtain ⟨m, parsed, args, hmatch, htype, hargs, hempty, rfl, rfl⟩ := prototype_run_eq_ok.mp hf
  have htexts : (∀ x ∈ voidTexts r declared, x ∈ V → x ∈ s.voids) ↔
      returnedOf V parsed = returnedOf s.voids parsed ∧
        (String.ofList (Text.strip (splitVarArg (Text.strip (m.group 2))).2) ∈ V →
          String.ofList (Text.strip (splitVarArg (Text.strip (m.group 2))).2) ∈ s.voids) := by
    rw [returnedOf_eq_iff hvoid hV]
    simp only [voidTexts, hmatch, htype, mem_cons, not_mem_nil, or_false,
      forall_eq_or_imp, forall_eq]
  rw [htexts]
  have hreturned := returnedOf_type_ne hV hempty
  by_cases hlist : String.ofList (Text.strip (splitVarArg (Text.strip (m.group 2))).2) ∈ V →
      String.ofList (Text.strip (splitVarArg (Text.strip (m.group 2))).2) ∈ s.voids
  · have hclean := cleanArguments_congr (r := r) (s := s) (V := V) ⟨hlist, hV _⟩
    refine ⟨_, prototype_run_eq_ok.mpr ⟨m, parsed, args, hmatch, htype, ?_, hreturned, rfl, ?_⟩,
      rfl, ?_⟩
    · rw [hclean]
      exact hargs
    · rw [hclean]
    · rw [hclean]
      constructor
      · intro heq
        exact ⟨congrArg Prototype.returned heq, hlist⟩
      · rintro ⟨hsame, -⟩
        rw [hsame]
  · -- The list is a further name: it means `void` with it and is a type without it.
    obtain ⟨hmem, hnot⟩ := Classical.not_imp.mp hlist
    have hfresh := cleanArguments_of_isName (r := r) (hnames _ hmem hnot) hnot
    have hlater := cleanArguments_of_mem (r := r) (s := { s with voids := V }) hmem
    refine ⟨_, prototype_run_eq_ok.mpr ⟨m, parsed, [], hmatch, htype, ?_, hreturned, rfl, ?_⟩,
      rfl, ?_⟩
    · rw [hlater]
      rfl
    · rw [hlater, hfresh]
    · rw [hlater, hfresh]
      constructor
      · intro heq
        have hstring := String.ofList_injective (congrArg Prototype.argsString heq)
        have hlast := congrArg List.getLast? hstring
        simp [getLast?_append] at hlast
      · rintro ⟨-, h⟩
        exact absurd h hlist

end

end MockGen.Header
