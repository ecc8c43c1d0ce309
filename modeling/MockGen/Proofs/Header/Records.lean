import MockGen.Proofs.Header.DefaultReader
import MockGen.Proofs.Header.ParameterList
import MockGen.Proofs.Header.Signature
import MockGen.Proofs.Outcome

/-!
# What a declaration is read as

The parameters of a record are the items of its parameter list, each with the last word of its item
as name, and reading fails only for a text that has not the shape of a declaration or that returns
nothing.
-/

namespace MockGen.Header

open Text Pattern Outcome
open List hiding lex

variable {t item list : List Char} {items : List (List Char)} {r : Rules} {parsed : TypedName}
  {args marked : List Argument}

/-! ## Words -/

theorem words_eq_nil_iff : words t = [] ↔ lex t = [] := by
  constructor
  · intro h
    rw [← flatMap_lex_words, h]
    rfl
  · intro h
    exact words_blanks (lex_eq_nil_iff.mp h)

theorem words_separateStars_eq_nil_iff : words (separateStars t) = [] ↔ words t = [] := by
  rw [words_eq_nil_iff, words_eq_nil_iff, lex_separateStars]

theorem isDigit_of_mem_repr {n : Nat} {c : Char} (h : c ∈ (toString n).toList) :
    c.isDigit = true := by
  have hdigits : c ∈ Nat.toDigits 10 n := by
    have hrepr : toString n = Nat.repr n := rfl
    rwa [hrepr, Nat.repr_eq_ofList_toDigits, String.toList_ofList] at h
  exact Nat.isDigit_of_mem_toDigits (by omega) (by omega) hdigits

/-! ## Named items -/

/-- A parameter that neither says that there is none nor leaves the others open, and that has a
word. -/
structure IsNamed (item : List Char) : Prop where
  notVoid : Text.strip item ≠ "void".toList
  notEllipsis : Text.strip item ≠ "...".toList
  hasWords : words item ≠ []

theorem IsNamed.of_words (h : words item ≠ []) (hvoid : words item ≠ ["void".toList])
    (hellipsis : words item ≠ ["...".toList]) : IsNamed item := by
  refine ⟨fun hitem => hvoid ?_, fun hitem => hellipsis ?_, h⟩
  · rw [← words_strip, hitem]
    decide
  · rw [← words_strip, hitem]
    decide

theorem strip_space_cons (t : List Char) : Text.strip (' ' :: t) = Text.strip t := by
  rw [Text.strip, Text.strip, stripStart, dropWhile_cons_of_pos (by decide), ← stripStart]

theorem IsNamed.space_cons (h : IsNamed item) : IsNamed (' ' :: item) := by
  have hstrip := strip_space_cons item
  have hwords : words (' ' :: item) = words item := by rw [← words_strip, hstrip, words_strip]
  exact ⟨hstrip ▸ h.notVoid, hstrip ▸ h.notEllipsis, hwords ▸ h.hasWords⟩

theorem isNamed_of_isUnnamed {standards : List String} (h : isUnnamed standards item = false) :
    IsNamed item := by
  have htwo : 2 ≤ (words item).length := by
    rw [isUnnamed] at h
    split at h
    · simp at h
    · rw [Bool.or_eq_false_iff, Bool.or_eq_false_iff, decide_eq_false_iff_not] at h
      have hfilter := length_filter_le (!typeWords.contains ·)
        ((words item).map String.ofList)
      rw [length_map] at hfilter
      omega
  refine IsNamed.of_words ?_ ?_ ?_
  all_goals
    intro hwords
    rw [hwords] at htwo
    simp at htwo

theorem madeUp_toList (n : Nat) :
    s!" cmock_arg{n}".toList = ' ' :: ("cmock_arg".toList ++ (toString n).toList) := by
  simp [toString]

theorem not_isBlank_of_mem_madeUp {n : Nat} {c : Char}
    (h : c ∈ "cmock_arg".toList ++ (toString n).toList) : isBlank c = false ∧ c ≠ ',' := by
  rcases mem_append.mp h with h | h
  · have hall : ∀ d ∈ "cmock_arg".toList, isBlank d = false ∧ d ≠ ',' := by decide
    exact hall c h
  · have hword : isWord c = true :=
      (PlainWord.isWord_of_ascii (by simp [isDigit_of_mem_repr h])).2
    refine ⟨isBlank_of_isWord hword, ?_⟩
    rintro rfl
    exact absurd hword (by decide)

theorem isNamed_append_madeUp (item : List Char) (n : Nat) :
    IsNamed (item ++ s!" cmock_arg{n}".toList) := by
  have hname : words ("cmock_arg".toList ++ (toString n).toList) =
      ["cmock_arg".toList ++ (toString n).toList] :=
    words_letters (by simp) fun c hc => (not_isBlank_of_mem_madeUp hc).1
  have hwords : words (item ++ s!" cmock_arg{n}".toList) =
      words item ++ ["cmock_arg".toList ++ (toString n).toList] := by
    rw [madeUp_toList, words_append_blank (by decide), hname]
  refine IsNamed.of_words ?_ ?_ ?_
  all_goals
    intro h
    rw [hwords] at h
    have hlast := congrArg List.getLast? h
    simp at hlast

/-! ## Items of a parameter list -/

theorem comma_notMem_of_mem_split (h : item ∈ comma.split t) : ',' ∉ item := by
  have hp : comma.Advances := advances_of_needs rfl
  have key : ∀ c : Cursor, ∀ u ∈ comma.between c, ',' ∉ u := by
    refine scan_induction hp ?_ ?_ ?_
    · intro before pos u hu
      rw [between_nil hp, mem_singleton] at hu
      simp [hu]
    · intro c m u y hm _ _ _ _ ih v hv
      rw [between_of_matchHere? hp hm, mem_cons] at hv
      rcases hv with rfl | hv
      · simp
      · exact ih v hv
    · intro before x rest pos hnone ih v hv
      obtain ⟨u, more, hnext, hhere⟩ := between_cons_of_none hp hnone
      rw [hhere, mem_cons] at hv
      rcases hv with rfl | hv
      · have hu : ',' ∉ u := ih u (by simp [hnext])
        -- a comma at this place would be a match
        have hx : ',' ≠ x := by
          rintro rfl
          have hread : comma.Reads before [','] rest := by
            refine ⟨[','], [], rfl, ⟨[], [','], rfl, ⟨by simp, by simp⟩,
              ⟨',', rfl, by simp [CharSet.mem]⟩⟩, ⟨by simp, by simp⟩⟩
          have hsome := matchHere?_isSome (c := ⟨before, ',' :: rest, pos⟩) rfl rfl hread
          rw [hnone] at hsome
          simp at hsome
        simp [hx, hu]
      · exact ih v (by simp [hnext, hv])
  rw [split_eq_between hp] at h
  exact key _ item h

theorem isNamed_of_mem_nameUnnamed (standards : List String) (position : Nat)
    (hitems : ∀ item ∈ items, ',' ∉ item) :
    ∀ item ∈ nameUnnamed standards position items, IsNamed item ∧ ',' ∉ item := by
  induction items generalizing position with
  | nil => simp [nameUnnamed]
  | cons first rest ih =>
    intro item hitem
    rw [nameUnnamed, mem_cons] at hitem
    rcases hitem with rfl | hitem
    · have hcomma := hitems first (by simp)
      split
      · refine ⟨isNamed_append_madeUp first position, ?_⟩
        rw [madeUp_toList, mem_append, mem_cons]
        rintro (hmem | hmem | hmem)
        · exact hcomma hmem
        · exact absurd hmem (by decide)
        · exact (not_isBlank_of_mem_madeUp hmem).2 rfl
      · rename_i hnamed
        exact ⟨isNamed_of_isUnnamed (Bool.eq_false_iff.mpr hnamed), hcomma⟩
    · exact ih (position + 1) (fun item hitem => hitems item (by simp [hitem])) item hitem

theorem splitAt_join {first : List Char} {rest : List (List Char)} (hfirst : ',' ∉ first)
    (hrest : ∀ item ∈ rest, ',' ∉ item) :
    splitAt ',' (join [',', ' '] (first :: rest)) = first :: rest.map (' ' :: ·) := by
  induction rest generalizing first with
  | nil => rw [join, splitAt_of_notMem hfirst, map_nil]
  | cons second rest ih =>
    have hjoin : join [',', ' '] (first :: second :: rest) =
        first ++ ',' :: join [',', ' '] ((' ' :: second) :: rest) := by
      cases rest <;> simp [join]
    have hsecond : ',' ∉ ' ' :: second := by simp [hrest second (by simp)]
    rw [hjoin, splitAt_append_cons, splitAt_of_notMem hfirst,
      ih hsecond fun item hitem => hrest item (by simp [hitem])]
    rfl

theorem splitAt_withNames (r : Rules) (t : List Char) : ∃ first rest,
    nameUnnamed r.standards 1 (comma.split t) = first :: rest ∧
      splitAt ',' (withNames r t) = first :: rest.map (' ' :: ·) := by
  have hp : comma.Advances := advances_of_needs rfl
  obtain ⟨first, rest, hsplit⟩ := exists_between_eq comma (Cursor.start t)
  rw [← split_eq_between hp] at hsplit
  have hnamed := isNamed_of_mem_nameUnnamed r.standards 1
    fun item hitem => comma_notMem_of_mem_split (t := t) hitem
  rw [withNames]
  rw [hsplit, nameUnnamed] at hnamed ⊢
  exact ⟨_, _, rfl, splitAt_join (hnamed _ (by simp)).2
    fun item hitem => (hnamed item (by simp [hitem])).2⟩

theorem isNamed_of_mem_withNames {piece : List Char} (h : piece ∈ splitAt ',' (withNames r t)) :
    IsNamed piece := by
  obtain ⟨first, rest, hnames, hsplit⟩ := splitAt_withNames r t
  have hnamed := isNamed_of_mem_nameUnnamed r.standards 1
    fun item hitem => comma_notMem_of_mem_split (t := t) hitem
  rw [hnames] at hnamed
  rw [hsplit] at h
  rcases mem_cons.mp h with rfl | h
  · exact (hnamed _ (by simp)).1
  · obtain ⟨item, hitem, rfl⟩ := mem_map.mp h
    exact (hnamed item (by simp [hitem])).1.space_cons

theorem cleanArguments_eq_withNames (r : Rules) (list : List Char) (s : Reading) :
    (cleanArguments r list s).1 = "void".toList ∨
      ∃ t, (cleanArguments r list s).1 = withNames r t := by
  rw [cleanArguments]
  split
  · exact Or.inl rfl
  · dsimp only
    exact Or.inr ⟨_, rfl⟩

theorem cleanArguments_cases (r : Rules) (list : List Char) (s : Reading) :
    (cleanArguments r list s).1 = "void".toList ∨
      ∀ item ∈ splitAt ',' (cleanArguments r list s).1, IsNamed item := by
  refine (cleanArguments_eq_withNames r list s).imp_right fun ⟨t, ht⟩ => ?_
  rw [ht]
  exact fun item hitem => isNamed_of_mem_withNames hitem

/-! ## Parameters of a list -/

theorem argumentsOf_of_isNamed (r : Rules) (h : ∀ item ∈ items, IsNamed item) :
    argumentsOf r items =
      (items.mapM fun item => argument r (Text.strip item)).map fun args => (args, true) := by
  induction items with
  | nil => rfl
  | cons item rest ih =>
    have hnamed := h item (by simp)
    have hgoes : (Text.strip item == "void".toList || Text.strip item == "...".toList) = false := by
      rw [Bool.or_eq_false_iff, beq_eq_false_iff_ne, beq_eq_false_iff_ne]
      exact ⟨hnamed.notVoid, hnamed.notEllipsis⟩
    rw [argumentsOf, mapM_cons, ih fun item hitem => h item (by simp [hitem])]
    dsimp only
    rw [hgoes, if_neg Bool.false_ne_true]
    cases argument r (Text.strip item) with
    | error e => rfl
    | ok a =>
      cases rest.mapM fun item => argument r (Text.strip item) with
      | error e => rfl
      | ok args => rfl

theorem name_of_typeAndName (h : typeAndName r t = .ok parsed) :
    (words (separateStars t)).getLast? = some parsed.name.toList := by
  rw [typeAndName] at h
  dsimp only at h
  split at h
  · cases h
  · rename_i name hname
    rw [getLast?_map, Option.map_eq_some_iff] at hname
    obtain ⟨w, hw, rfl⟩ := hname
    rw [← Except.ok.inj h, String.toList_ofList]
    exact hw

theorem exists_typeAndName (r : Rules) (h : words t ≠ []) :
    ∃ parsed, typeAndName r t = .ok parsed := by
  rw [typeAndName]
  dsimp only
  split
  · rename_i hnone
    rw [getLast?_eq_none_iff, map_eq_nil_iff, words_separateStars_eq_nil_iff] at hnone
    exact absurd hnone h
  · exact ⟨_, rfl⟩

theorem name_of_argument {a : Argument} (h : argument r item = .ok a) :
    (words (separateStars item)).getLast? = some a.name.toList := by
  obtain ⟨parsed, hparsed, h⟩ := bind_eq_ok.mp h
  obtain ⟨element, -, h⟩ := bind_eq_ok.mp h
  have hname : a.name = parsed.name := by
    cases element with
    | none => rw [← Except.ok.inj h]; rfl
    | some element =>
      dsimp only at h
      split at h
      · rw [← Except.ok.inj h]
        rfl
      · rw [← Except.ok.inj h]
        rfl
  rw [hname]
  exact name_of_typeAndName hparsed

theorem exists_argument (harrays : r.arrayTypes.isSome = true) (h : words item ≠ []) :
    ∃ a, argument r item = .ok a := by
  obtain ⟨types, htypes⟩ := Option.isSome_iff_exists.mp harrays
  obtain ⟨parsed, hparsed⟩ := exists_typeAndName r h
  have helement : ∃ element, elementType? r parsed.type = .ok element := by
    rw [elementType?, htypes]
    dsimp only
    split
    · exact ⟨_, rfl⟩
    · exact ⟨_, rfl⟩
  obtain ⟨element, helement⟩ := helement
  rw [argument, hparsed]
  change ∃ a, (elementType? r parsed.type >>= _) = .ok a
  rw [helement]
  cases element with
  | none => exact ⟨_, rfl⟩
  | some element =>
    change ∃ a, ite _ _ _ = _
    split
    · exact ⟨_, rfl⟩
    · exact ⟨_, rfl⟩

theorem exists_of_markArrays_cons {isSize : Bool} {a : Argument}
    (h : markArrays r isSize (a :: args) = .ok marked) :
    ∃ isData more, (isData = true → a.isPtr = true ∧ args ≠ []) ∧
      markArrays r isData args = .ok more ∧
      marked = { a with isArrayData := isData, isArraySize := isSize } :: more := by
  rw [markArrays] at h
  split at h
  case h_1 next hnext =>
    have hne : args ≠ [] := by
      rintro rfl
      cases hnext
    split at h
    case isTrue hptr =>
      obtain ⟨isData, -, h⟩ := bind_eq_ok.mp h
      obtain ⟨more, hmore, h⟩ := bind_eq_ok.mp h
      exact ⟨isData, more, fun _ => ⟨hptr, hne⟩, hmore, (Except.ok.inj h).symm⟩
    case isFalse =>
      obtain ⟨_, ⟨⟩, h⟩ := bind_eq_ok.mp h
      obtain ⟨more, hmore, h⟩ := bind_eq_ok.mp h
      exact ⟨false, more, Bool.noConfusion, hmore, (Except.ok.inj h).symm⟩
  case h_2 =>
    obtain ⟨_, ⟨⟩, h⟩ := bind_eq_ok.mp h
    obtain ⟨more, hmore, h⟩ := bind_eq_ok.mp h
    exact ⟨false, more, Bool.noConfusion, hmore, (Except.ok.inj h).symm⟩

theorem markArrays_names {isSize : Bool} (h : markArrays r isSize args = .ok marked) :
    marked.map Argument.name = args.map Argument.name ∧
      marked.map Argument.isPtr = args.map Argument.isPtr := by
  induction args generalizing isSize marked with
  | nil => rw [← Except.ok.inj h]; exact ⟨rfl, rfl⟩
  | cons a args ih =>
    obtain ⟨isData, more, -, hmore, rfl⟩ := exists_of_markArrays_cons h
    obtain ⟨hnames, hptrs⟩ := ih hmore
    simp [hnames, hptrs]

/-- The name is the last word of the item once stars are set apart. -/
def IsLastWord (item : List Char) (name : String) : Prop :=
  (words (separateStars (Text.strip item))).getLast? = some name.toList

theorem arguments_eq_ok (hlist : list = "void".toList ∨ ∀ item ∈ splitAt ',' list, IsNamed item)
    (h : arguments r list = .ok args) :
    list = "void".toList ∧ args = [] ∨ list ≠ "void".toList ∧
      List.Forall₂ (fun item a => IsLastWord item a.name) (splitAt ',' list) args := by
  rcases hlist with rfl | hnamed
  · exact Or.inl ⟨rfl, (Except.ok.inj h).symm⟩
  · refine Or.inr ⟨?_, ?_⟩
    · rintro rfl
      exact (hnamed "void".toList (by decide)).notVoid (by decide)
    · rw [arguments, argumentsOf_of_isNamed r hnamed] at h
      cases hmap : (splitAt ',' list).mapM fun item => argument r (Text.strip item) with
      | error e => rw [hmap] at h; cases h
      | ok read =>
        rw [hmap] at h
        have hmarked : markArrays r false read = .ok args := h
        have hnames : args.map Argument.name = read.map Argument.name :=
          (markArrays_names hmarked).1
        have hread : List.Forall₂ IsLastWord (splitAt ',' list) (read.map Argument.name) :=
          forall₂_map_right_iff.mpr
            ((mapM_eq_ok.mp hmap).imp fun item a ha => name_of_argument ha)
        rw [← hnames] at hread
        exact forall₂_map_right_iff.mp hread

theorem exists_arguments (harrays : r.arrayTypes.isSome = true) {size : Pattern}
    (hsize : readPattern r.arraySizeName = .ok size)
    (hlist : list = "void".toList ∨ ∀ item ∈ splitAt ',' list, IsNamed item) :
    ∃ args, arguments r list = .ok args := by
  rcases hlist with rfl | hnamed
  · exact ⟨[], rfl⟩
  · have hread : ∃ read, ((splitAt ',' list).mapM fun item => argument r (Text.strip item)) =
        .ok read := by
      refine exists_mapM_eq_ok fun item hitem => exists_argument harrays ?_
      rw [words_strip]
      exact (hnamed item hitem).hasWords
    obtain ⟨read, hread⟩ := hread
    obtain ⟨marked, hmarked, -⟩ := markArrays_view hsize false read
    refine ⟨marked, ?_⟩
    rw [arguments, argumentsOf_of_isNamed r hnamed, hread]
    exact hmarked

/-! ## Records -/

/-- A record whose parts agree with each other. -/
structure Consistent (f : Prototype) : Prop where
  args_eq_nil_iff : f.args = [] ↔ f.argsString = "void"
  items : f.argsString ≠ "void" → List.Forall₂ (fun item a => a.name ≠ "" ∧ IsLastWord item a.name)
    (splitAt ',' f.argsString.toList) f.args
  argsCall_eq : f.argsCall = ", ".intercalate (f.args.map Argument.name)
  containsPtr_iff : f.containsPtr = true ↔ ∃ a ∈ f.args, a.isPtr = true
  isVoid_iff : f.returned.isVoid = true ↔ f.returned.type = "void"
  str_eq : f.returned.str = f.returned.type ++ " cmock_to_return"

theorem splitAt_ne_nil (sep : Char) (t : List Char) : splitAt sep t ≠ [] := by
  have key : ∀ carry, splitFrom sep carry t ≠ [] := by
    induction t with
    | nil => simp [splitFrom]
    | cons c t ih =>
      intro carry
      rw [splitFrom]
      split
      · simp
      · exact ih _
  exact key []

theorem IsLastWord.ne_empty {name : String} (h : IsLastWord item name) : name ≠ "" := by
  rintro rfl
  exact (mem_words (mem_of_getLast? h)).1 rfl

theorem consistent_prototypeOf {scope : List String × Option String} {voids : List String}
    {varArg : Option String}
    (hlist : list = "void".toList ∨ ∀ item ∈ splitAt ',' list, IsNamed item)
    (hargs : arguments r list = .ok args) :
    Consistent (prototypeOf scope parsed (returnedOf voids parsed) varArg list args) where
  args_eq_nil_iff := by
    change args = [] ↔ String.ofList list = "void"
    rcases arguments_eq_ok hlist hargs with ⟨rfl, rfl⟩ | ⟨hvoid, hitems⟩
    · simp
    · constructor
      · rintro rfl
        cases hsplit : splitAt ',' list with
        | nil => exact absurd hsplit (splitAt_ne_nil _ _)
        | cons item rest =>
          rw [hsplit] at hitems
          cases hitems
      · intro h
        rw [← h, String.toList_ofList] at hvoid
        exact absurd rfl hvoid
  items := by
    change String.ofList list ≠ "void" → List.Forall₂ _
      (splitAt ',' (String.ofList list).toList) args
    intro hne
    rw [String.toList_ofList]
    rcases arguments_eq_ok hlist hargs with ⟨rfl, -⟩ | ⟨-, hitems⟩
    · exact absurd rfl hne
    · exact hitems.imp fun item a ha => ⟨ha.ne_empty, ha⟩
  argsCall_eq := rfl
  containsPtr_iff := by
    change args.any Argument.isPtr = true ↔ _
    rw [any_eq_true]
    rfl
  isVoid_iff := by
    change ((returnedOf voids parsed).type == "void") = true ↔ _
    rw [beq_iff_eq]
    rfl
  str_eq := rfl

/-- Every record that a declaration is read as agrees with itself, whatever the rules, the scope and
what was read before. -/
theorem prototype_consistent (r : Rules) (declared : List Char) (namespaces : List String)
    (className : Option String) {s t : Reading} {f : Prototype}
    (h : (prototype r declared namespaces className).run s = (.ok f, t)) : Consistent f := by
  obtain ⟨m, parsed, args, -, -, hargs, -, rfl, -⟩ := prototype_run_eq_ok.mp h
  exact consistent_prototypeOf (cleanArguments_cases r _ s) hargs

theorem prototype_consistent_callback : ∃ f t,
    (prototype Rules.standard "int f(int *, void (*done)(int), const char names[])".toList
      ["tank"] none).run { project := projectOf "tank", voids := ["void"] } = (.ok f, t) ∧
    f.argsCall = "cmock_arg1, done, names" ∧ Consistent f := by
  obtain ⟨f, t, hrun, hcall⟩ := exists_run_of_any
    (P := fun f => f.argsCall == "cmock_arg1, done, names")
    (x := prototype Rules.standard
      "int f(int *, void (*done)(int), const char names[])".toList ["tank"] none)
    (s := { project := projectOf "tank", voids := ["void"] }) (by decide +kernel)
  exact ⟨f, t, hrun, beq_iff_eq.mp hcall, prototype_consistent _ _ _ _ hrun⟩

/-! ## Failures -/

/-- The type that a text returns as a declaration, if it has the shape of one. -/
def returnType? (r : Rules) (voids : List String) (declared : List Char) : Option String :=
  (declaration.matchStart? declared).bind fun m =>
    (typeAndName r (m.group 1)).toOption.map fun parsed => (returnedOf voids parsed).type

/-- The outcome is a fault whose message starts with the given words. -/
def Refuses {α : Type} (outcome : Except Fault α) (opening : String) : Prop :=
  ∃ fault rest, outcome = .error fault ∧ fault.message? = some (opening ++ rest)

section

variable {α : Type}

theorem not_refuses_ok (a : α) (opening : String) : ¬Refuses (.ok a) opening := by
  rintro ⟨fault, rest, h, -⟩
  cases h

theorem refuses_error_iff {fault : Fault} {opening : String} :
    Refuses (.error fault : Except Fault α) opening ↔
      ∃ rest, fault.message? = some (opening ++ rest) := by
  constructor
  · rintro ⟨other, rest, h, hmessage⟩
    cases h
    exact ⟨rest, hmessage⟩
  · rintro ⟨rest, hmessage⟩
    exact ⟨fault, rest, rfl, hmessage⟩

end

theorem message?_unreadable (text : String) : ∃ rest,
    (Fault.unreadableDeclaration text).message? =
      some ("Failed parsing function declaration" ++ rest) := by
  refine ⟨s!": '{text}'", congrArg some ?_⟩
  rw [← String.toList_inj]
  simp [toString]

theorem message?_incomplete (text modifier returned function args : String) : ∃ rest,
    (Fault.incompletePrototype text modifier returned function args).message? =
      some ("Failed Parsing Declaration Prototype!" ++ rest) := by
  refine ⟨s!"\n  declaration: '{text}'\n" ++
    s!"  modifier: '{modifier}'\n  return: {returned}\n  function: '{function}'\n" ++
    s!"  args: {args}\n", congrArg some ?_⟩
  rw [← String.toList_inj]
  simp [toString]

theorem openings_ne (rest more : String) :
    "Failed parsing function declaration" ++ rest ≠
      "Failed Parsing Declaration Prototype!" ++ more := by
  intro h
  have hletter := congrArg (fun text : String => text.toList[7]?) h
  simp at hletter

theorem words_ne_nil_of_isHead {h : List Char} (hh : IsHead h) : words h ≠ [] := by
  obtain ⟨-, c, hc, hword⟩ := hh
  rw [Ne, words_eq_nil_iff, lex_eq_nil_iff]
  intro hblank
  exact absurd (hblank c hc) (by simp [isBlank_of_isWord hword])

theorem returnType?_eq_none_iff (r : Rules) (voids : List String) {declared : List Char} :
    returnType? r voids declared = none ↔ declaration.matchStart? declared = none := by
  rw [returnType?]
  cases hmatch : declaration.matchStart? declared with
  | none => simp
  | some m =>
    obtain ⟨rest, hdeclares⟩ := matchStart?_declaration hmatch
    obtain ⟨parsed, hparsed⟩ := exists_typeAndName r (words_ne_nil_of_isHead hdeclares.head)
    simp [hparsed, Except.toOption]

theorem prototype_run_cases (harrays : r.arrayTypes.isSome = true) {size : Pattern}
    (hsize : readPattern r.arraySizeName = .ok size) (declared : List Char)
    (namespaces : List String) (className : Option String) (s : Reading) :
    (returnType? r s.voids declared = none ∧
      ((prototype r declared namespaces className).run s).1 =
        .error (.unreadableDeclaration (String.ofList declared))) ∨
    (returnType? r s.voids declared = some "" ∧ ∃ modifier returned function args,
      ((prototype r declared namespaces className).run s).1 =
        .error (.incompletePrototype (String.ofList declared) modifier returned function args)) ∨
    ∃ type, type ≠ "" ∧ returnType? r s.voids declared = some type ∧ ∃ f,
      ((prototype r declared namespaces className).run s).1 = .ok f := by
  rw [prototype, prototypeUnder_run]
  cases hmatch : declaration.matchStart? declared with
  | none => exact Or.inl ⟨(returnType?_eq_none_iff r s.voids).mpr hmatch, rfl⟩
  | some m =>
    refine Or.inr ?_
    obtain ⟨rest, hdeclares⟩ := matchStart?_declaration hmatch
    obtain ⟨parsed, hparsed⟩ := exists_typeAndName r (words_ne_nil_of_isHead hdeclares.head)
    have htype : returnType? r s.voids declared = some (returnedOf s.voids parsed).type := by
      simp [returnType?, hmatch, hparsed, Except.toOption]
    obtain ⟨args, hargs⟩ := exists_arguments harrays hsize
      (cleanArguments_cases r (splitVarArg (Text.strip (m.group 2))).2 s)
    simp only [hparsed, hargs]
    by_cases hempty : (returnedOf s.voids parsed).type = ""
    · rw [if_pos (beq_iff_eq.mpr hempty)]
      exact Or.inl ⟨htype.trans (congrArg some hempty), _, _, _, _, rfl⟩
    · rw [if_neg (by simpa using hempty)]
      exact Or.inr ⟨_, hempty, htype, _, rfl⟩

/-- Reading a declaration fails in two ways only: the text has not the shape of one, or it returns
nothing. -/
theorem prototype_refuses_iff (r : Rules) (harrays : r.arrayTypes.isSome = true) {size : Pattern}
    (hsize : readPattern r.arraySizeName = .ok size) (declared : List Char)
    (namespaces : List String) (className : Option String) (s : Reading) :
    let outcome := ((prototype r declared namespaces className).run s).1
    (Refuses outcome "Failed parsing function declaration" ↔
      declaration.matchStart? declared = none) ∧
    (Refuses outcome "Failed Parsing Declaration Prototype!" ↔
      returnType? r s.voids declared = some "") ∧
    ((∃ f, outcome = .ok f) ↔
      ∃ type, type ≠ "" ∧ returnType? r s.voids declared = some type) ∧
    (returnType? r s.voids declared = none ↔ declaration.matchStart? declared = none) := by
  intro outcome
  rw [← returnType?_eq_none_iff r s.voids]
  rcases prototype_run_cases harrays hsize declared namespaces className s with
    ⟨htype, hfault⟩ | ⟨htype, modifier, returned, function, args, hfault⟩ |
    ⟨type, hne, htype, f, hok⟩
  · obtain ⟨rest, hmessage⟩ := message?_unreadable (String.ofList declared)
    have houtcome : outcome = .error (.unreadableDeclaration (String.ofList declared)) := hfault
    rw [houtcome, refuses_error_iff, refuses_error_iff, hmessage, htype]
    refine ⟨⟨fun _ => rfl, fun _ => ⟨rest, rfl⟩⟩, ⟨?_, nofun⟩, ⟨?_, ?_⟩, Iff.rfl⟩
    · rintro ⟨more, h⟩
      exact absurd (Option.some.inj h) (openings_ne rest more)
    · rintro ⟨f, h⟩
      cases h
    · rintro ⟨type, -, h⟩
      cases h
  · obtain ⟨rest, hmessage⟩ :=
      message?_incomplete (String.ofList declared) modifier returned function args
    have houtcome : outcome = .error (.incompletePrototype (String.ofList declared) modifier
      returned function args) := hfault
    rw [houtcome, refuses_error_iff, refuses_error_iff, hmessage, htype]
    refine ⟨⟨?_, nofun⟩, ⟨fun _ => rfl, fun _ => ⟨rest, rfl⟩⟩, ⟨?_, ?_⟩, Iff.rfl⟩
    · rintro ⟨more, h⟩
      exact absurd (Option.some.inj h).symm (openings_ne more rest)
    · rintro ⟨f, h⟩
      cases h
    · rintro ⟨type, hne, h⟩
      exact absurd (Option.some.inj h).symm hne
  · have houtcome : outcome = .ok f := hok
    rw [houtcome, htype]
    refine ⟨⟨fun h => absurd h (not_refuses_ok f _), nofun⟩,
      ⟨fun h => absurd h (not_refuses_ok f _), ?_⟩,
      ⟨fun _ => ⟨type, hne, rfl⟩, fun _ => ⟨f, rfl⟩⟩, Iff.rfl⟩
    intro h
    exact absurd (Option.some.inj h) hne

theorem prototype_refuses_iff_untyped :
    Rules.standard.arrayTypes.isSome = true ∧
    (∃ size, readPattern Rules.standard.arraySizeName = .ok size) ∧
    returnType? Rules.standard ["void"] "const f(int [], ...)".toList = some "" ∧
    Refuses ((prototype Rules.standard "const f(int [], ...)".toList [] none).run
      { project := projectOf "tank", voids := ["void"] }).1
      "Failed Parsing Declaration Prototype!" := by
  have hpattern : (readPattern Rules.standard.arraySizeName).toOption.any (fun _ => true) =
      true := by
    decide +kernel
  obtain ⟨size, hsize, -⟩ := exists_of_any hpattern
  have htype : returnType? Rules.standard ["void"] "const f(int [], ...)".toList = some "" := by
    decide +kernel
  refine ⟨rfl, ⟨size, hsize⟩, htype, ?_⟩
  exact (prototype_refuses_iff Rules.standard rfl hsize _ _ _ _).2.1.mpr htype

set_option maxRecDepth 10000 in
/-- Without a table of array types, a readable declaration with a parameter fails in a third way. -/
theorem prototype_without_arrayTypes :
    returnType? { Rules.standard with arrayTypes := none } ["void"] "int f(int a)".toList =
      some "int" ∧
    ((prototype { Rules.standard with arrayTypes := none } "int f(int a)".toList [] none).run
      { project := projectOf "tank", voids := ["void"] }).1 = .error .noOperation := by
  refine ⟨by decide +kernel, ?_⟩
  rfl

end MockGen.Header
