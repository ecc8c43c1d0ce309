import Mathlib.Data.List.Nodup
import MockGen.Proofs.Header.PointerTypes
import MockGen.Proofs.Header.Records
import MockGen.Proofs.Pattern.Search

/-!
# The names of the parameters of a list

A parameter without a name is named by its position.  A function pointer without a name has been
given one before, by the number of such pointers, so that two parameters can end up with the same
name.
-/

namespace MockGen

open Text List

namespace Text

variable {a b : Char → Bool}

theorem setApart_append {c : Char} (ha : a c = false) (hb : b c = false) (x y : List Char) :
    setApart a b (x ++ c :: y) = setApart a b x ++ c :: setApart a b y := by
  induction x with
  | nil => exact setApart_cons_of_not (by simp [ha])
  | cons d x ih =>
    cases x with
    | nil =>
      rw [singleton_append, setApart_cons_of_not (by simp [hb]),
        setApart_cons_of_not (by simp [ha])]
      rfl
    | cons e x =>
      rw [cons_append, cons_append, setApart, setApart, ← cons_append, ih]
      split <;> rfl

theorem setApart_eq_self {t : List Char} (h : ∀ x ∈ t, ∀ y ∈ t, ¬(a x = true ∧ b y = true)) :
    setApart a b t = t := by
  induction t with
  | nil => rfl
  | cons x t ih =>
    rw [setApart_cons_of_not fun y hy => h x (by simp) y (by simp [mem_of_mem_head? hy]),
      ih fun y hy z hz => h y (by simp [hy]) z (by simp [hz])]

end Text

namespace Header

open Pattern Project

/-! ## The last word -/

/-- The last word of a declaration, with its stars set apart. -/
def lastWord? (item : List Char) : Option String :=
  (words (separateStars item)).getLast?.map String.ofList

theorem words_separateStars_append {c : Char} (hc : isBlank c = true) (x y : List Char) :
    words (separateStars (x ++ c :: y)) = words (separateStars x) ++ words (separateStars y) := by
  have hword := isWord_of_isBlank hc
  have hstar : (c == '*') = false := by
    rw [beq_eq_false_iff_ne]
    rintro rfl
    cases hc
  simp only [separateStars, starBeforeWord_replaceBy, starAfterWord_replaceBy]
  rw [setApart_append hword hstar, setApart_append (a := (· == '*')) hstar hword,
    words_append_blank hc]

theorem lastWord?_blanks_append {u : List Char} (hu : ∀ c ∈ u, isBlank c = true) (t : List Char) :
    lastWord? (u ++ t) = lastWord? t := by
  induction u with
  | nil => rfl
  | cons c u ih =>
    rw [← ih fun d hd => hu d (by simp [hd]), lastWord?, cons_append,
      ← nil_append (c :: (u ++ t)), words_separateStars_append (hu c (by simp))]
    rfl

theorem lastWord?_append_blanks {v : List Char} (hv : ∀ c ∈ v, isBlank c = true) (t : List Char) :
    lastWord? (t ++ v) = lastWord? t := by
  cases v with
  | nil => rw [append_nil]
  | cons c v =>
    have hnil : words (separateStars v) = [] := words_separateStars_eq_nil_iff.mpr
      (words_blanks fun d hd => hv d (by simp [hd]))
    rw [lastWord?, words_separateStars_append (hv c (by simp)), hnil, append_nil]
    rfl

theorem lastWord?_strip (item : List Char) : lastWord? (Text.strip item) = lastWord? item := by
  obtain ⟨u, v, hitem, hu, hv⟩ := exists_strip_eq item
  conv => rhs; rw [hitem, lastWord?_blanks_append hu, lastWord?_append_blanks hv]

theorem isLastWord_iff {item : List Char} {name : String} :
    IsLastWord item name ↔ lastWord? item = some name := by
  rw [← lastWord?_strip, IsLastWord, lastWord?, Option.map_eq_some_iff]
  constructor
  · intro h
    exact ⟨_, h, String.ofList_toList⟩
  · rintro ⟨w, h, rfl⟩
    rw [h, String.toList_ofList]

/-- The name that a parameter is given by a number. -/
def madeUpName (n : Nat) : String :=
  s!"cmock_arg{n}"

theorem madeUpName_injective : Function.Injective madeUpName := by
  intro m n h
  have hrepr : Nat.repr m = Nat.repr n := String.append_right_inj _ |>.mp h
  rw [Nat.repr_eq_ofList_toDigits, Nat.repr_eq_ofList_toDigits] at hrepr
  have hdigits := congrArg (Nat.ofDigitChars 10 · 0) (String.ofList_injective hrepr)
  rwa [Nat.ofDigitChars_ten_toDigits, Nat.ofDigitChars_ten_toDigits] at hdigits

theorem lastWord?_append_madeUp (item : List Char) (n : Nat) :
    lastWord? (item ++ s!" cmock_arg{n}".toList) = some (madeUpName n) := by
  have hletters : "cmock_arg".toList ++ (toString n).toList = (madeUpName n).toList := by
    simp [madeUpName, toString]
  have hword : ∀ c ∈ (madeUpName n).toList, isWord c = true := by
    intro c hc
    rw [← hletters] at hc
    rcases mem_append.mp hc with hc | hc
    · exact (by decide : ∀ d ∈ "cmock_arg".toList, isWord d = true) c hc
    · exact (PlainWord.isWord_of_ascii (by simp [isDigit_of_mem_repr hc])).2
  have hstar : ∀ c ∈ (madeUpName n).toList, (c == '*') = false := by
    intro c hc
    rw [beq_eq_false_iff_ne]
    rintro rfl
    cases hword _ hc
  have hself : separateStars (madeUpName n).toList = (madeUpName n).toList := by
    rw [separateStars, starBeforeWord_replaceBy, starAfterWord_replaceBy,
      setApart_eq_self (b := (· == '*')) fun x _ y hy h => by simp [hstar y hy] at h,
      setApart_eq_self (a := (· == '*')) fun x hx y _ h => by simp [hstar x hx] at h]
  rw [madeUp_toList, hletters, lastWord?, words_separateStars_append (by decide), hself,
    words_letters ?_ fun c hc => isBlank_of_isWord (hword c hc)]
  · simp
  · simp [← hletters]

/-! ## Names by position -/

/-- The names of parameters, some of which have their own; the others are named by their position,
counted from `k`. -/
def named (k : Nat) : List (Option String) → List String
  | [] => []
  | own :: more => own.getD (madeUpName k) :: named (k + 1) more

/-- The positions of the parameters without a name of their own. -/
def unnamedAt (k : Nat) : List (Option String) → List Nat
  | [] => []
  | some _ :: more => unnamedAt (k + 1) more
  | none :: more => k :: unnamedAt (k + 1) more

theorem named_perm (k : Nat) (own : List (Option String)) :
    (named k own).Perm (own.filterMap id ++ (unnamedAt k own).map madeUpName) := by
  induction own generalizing k with
  | nil => exact .nil
  | cons first more ih =>
    cases first with
    | some name => exact (ih (k + 1)).cons name
    | none => exact ((ih (k + 1)).cons _).trans perm_middle.symm

theorem le_of_mem_unnamedAt {k i : Nat} {own : List (Option String)} (h : i ∈ unnamedAt k own) :
    k ≤ i := by
  induction own generalizing k with
  | nil => cases h
  | cons first more ih =>
    cases first with
    | some name => exact Nat.le_of_succ_le (ih h)
    | none =>
      rcases mem_cons.mp h with rfl | h
      · exact Nat.le_refl i
      · exact Nat.le_of_succ_le (ih h)

theorem nodup_unnamedAt (k : Nat) (own : List (Option String)) : (unnamedAt k own).Nodup := by
  induction own generalizing k with
  | nil => exact nodup_nil
  | cons first more ih =>
    cases first with
    | some name => exact ih (k + 1)
    | none =>
      refine nodup_cons.mpr ⟨fun h => ?_, ih (k + 1)⟩
      exact Nat.not_succ_le_self k (le_of_mem_unnamedAt h)

theorem nodup_named_iff (k : Nat) (own : List (Option String)) :
    (named k own).Nodup ↔ (own.filterMap id).Nodup ∧
      ∀ i ∈ unnamedAt k own, madeUpName i ∉ own.filterMap id := by
  rw [(named_perm k own).nodup_iff, nodup_append]
  have hmade : ((unnamedAt k own).map madeUpName).Nodup :=
    (nodup_unnamedAt k own).map madeUpName_injective
  constructor
  · rintro ⟨hown, -, hapart⟩
    exact ⟨hown, fun i hi hmem => hapart _ hmem _ (mem_map_of_mem hi) rfl⟩
  · rintro ⟨hown, hapart⟩
    refine ⟨hown, hmade, ?_⟩
    rintro name hname _ hmem rfl
    obtain ⟨i, hi, rfl⟩ := mem_map.mp hmem
    exact hapart i hi hname

/-! ## Names of a list -/

/-- The name that an item of a list has of its own. -/
def ownName? (r : Rules) (item : List Char) : Option String :=
  if isUnnamed r.standards item then none else lastWord? item

theorem map_lastWord?_nameUnnamed (r : Rules) (k : Nat) (items : List (List Char)) :
    (nameUnnamed r.standards k items).map lastWord? =
      (named k (items.map (ownName? r))).map some := by
  induction items generalizing k with
  | nil => rfl
  | cons item rest ih =>
    rw [nameUnnamed, map_cons, ih, map_cons, named, map_cons, ownName?]
    congr 1
    cases hunnamed : isUnnamed r.standards item with
    | true => exact lastWord?_append_madeUp item k
    | false =>
      have hwords := (isNamed_of_isUnnamed hunnamed).hasWords
      rw [Ne, ← words_separateStars_eq_nil_iff] at hwords
      obtain ⟨w, hw⟩ := Option.isSome_iff_exists.mp (getLast?_isSome.mpr hwords)
      simp [lastWord?, hw]

/-- The items of a parameter list in which function pointers have types of their own, none if the
list means `void`. -/
def listedItems (list : List Char) (s : Reading) : List (List Char) :=
  if s.voids.contains (String.ofList (Text.strip list)) || list.isEmpty then []
  else comma.split (functionPass (parameterPass (starred list) s.project)).text

theorem map_lastWord?_withNames (r : Rules) (t : List Char) :
    (splitAt ',' (withNames r t)).map lastWord? =
      (named 1 ((comma.split t).map (ownName? r))).map some := by
  obtain ⟨first, rest, hnames, hsplit⟩ := splitAt_withNames r t
  have hspace : ∀ item, lastWord? (' ' :: item) = lastWord? item :=
    fun item => lastWord?_blanks_append (u := [' ']) (by decide) item
  rw [← map_lastWord?_nameUnnamed, hnames, hsplit]
  simp [hspace]

theorem names_of_arguments_withNames {r : Rules} {t : List Char} {args : List Argument}
    (h : arguments r (withNames r t) = .ok args) :
    args.map Argument.name = named 1 ((comma.split t).map (ownName? r)) := by
  have hnamed : ∀ item ∈ splitAt ',' (withNames r t), IsNamed item :=
    fun item hitem => isNamed_of_mem_withNames hitem
  rcases arguments_eq_ok (Or.inr hnamed) h with ⟨hvoid, -⟩ | ⟨-, hitems⟩
  · rw [hvoid] at hnamed
    exact absurd (by decide) (hnamed "void".toList (by decide)).notVoid
  · have hwords : (splitAt ',' (withNames r t)).map lastWord? =
        (args.map Argument.name).map some := by
      rw [← forall₂_eq_eq_eq, forall₂_map_left_iff, forall₂_map_right_iff,
        forall₂_map_right_iff]
      exact hitems.imp fun item a h => isLastWord_iff.mp h
    rw [map_lastWord?_withNames] at hwords
    exact (map_injective_iff.mpr (fun _ _ => Option.some.inj) hwords).symm

/-! ## Function pointers of a list -/

/-- A function pointer of a list whose stars are set apart, with a name or without. -/
structure Callback where
  returned : List Char
  gap : List Char
  name : List Char
  params : List Char
  returned_type : returned ≠ [] ∧ ∀ c ∈ returned, typeText.mem c = true
  gap_stars : ∀ c ∈ gap, (CharSet.single '*' ∪ .blank).mem c = true
  name_word : ∀ c ∈ name, isWord c = true
  name_own : ¬"const".toList <:+: name
  params_list : ∀ c ∈ params, typeList.mem c = true

namespace Callback

def text (f : Callback) : List Char :=
  f.returned ++ '(' :: '*' :: (f.gap ++ (f.name ++ ')' :: '(' :: (f.params ++ [')'])))

/-- The name, made up if there is none: by the number of those that had none before. -/
def nameAfter (f : Callback) (k : Nat) : String :=
  if f.name.isEmpty then madeUpName (k + 1) else String.ofList f.name

end Callback

/-- An item of a list: text without brackets or a function pointer. -/
inductive Item where
  | plain (t : List Char) (apart : '(' ∉ t)
  | callback (f : Callback)

def Item.text : Item → List Char
  | plain t _ => t
  | callback f => f.text

/-- The items with their function pointers written as a type and a name.  The types are numbered
from `j` on, and `k` function pointers without a name came before. -/
def typedItems (p : Project) : (j k : Nat) → List Item → List (List Char)
  | _, _, [] => []
  | j, k, .plain t _ :: rest => t :: typedItems p j k rest
  | j, k, .callback f :: rest => ((p.typeAt j).toList ++ ' ' :: (f.nameAfter k).toList) ::
      typedItems p (j + 1) (if f.name.isEmpty then k + 1 else k) rest

theorem matchHere?_callback (f : Callback) (before : List Char) {y : List Char} (pos : Nat)
    (hy : ∀ c ∈ y.head?, c = ',') :
    ∃ m, pointerParameter.matchHere? false ⟨before, f.text ++ y, pos⟩ = some m ∧
      m.last = ⟨f.text.reverse ++ before, y, pos + f.text.length⟩ ∧ m.group 3 = f.name := by
  obtain ⟨c₀, hc₀⟩ : ∃ c₀ : Cursor, c₀ = ⟨before, f.text ++ y, pos⟩ := ⟨_, rfl⟩
  let tail := [')'] ++ '(' :: (f.params ++ ([')'] ++ y))
  have hrest : c₀.rest = f.returned ++ (['('] ++ '*' :: (f.gap ++ (f.name ++ tail))) := by
    rw [hc₀, Callback.text]
    simp [tail]
  -- The places in front of the name and behind it.
  let c₁ := ((((c₀.past f.returned []).past ['('] []).past [] []).past ['*'] []).past f.gap
    (f.name ++ tail)
  let c₂ := c₁.past f.name tail
  have hname : ∀ c ∈ f.name, wordOrBlank.mem c = true :=
    fun c hc => (Bool.or_eq_true _ _).mpr (.inl (f.name_word c hc))
  have hgap : ∀ c ∈ (f.name ++ tail).head?, (CharSet.single '*' ∪ .blank).mem c = false := by
    cases hf : f.name with
    | nil =>
      rintro c ⟨⟩
      decide
    | cons d name =>
      rintro c ⟨⟩
      have hd := f.name_word d (hf ▸ mem_cons_self)
      refine Bool.or_eq_false_iff.mpr ⟨beq_eq_false_iff_ne.mpr ?_, isBlank_of_isWord hd⟩
      rintro rfl
      exact absurd hd (by decide)
  obtain ⟨g, hm, hg⟩ : ∃ g, pointerParameter.matchHere? false c₀ = some
      ⟨c₀, ((((((c₂.past [] []).past [')'] []).past [] []).past ['('] []).past f.params []).past
        [] []).past [')'] y, g⟩ ∧ g.lookup 3 = some (c₁, c₂) := by
    rw [matchHere?]
    simp only [Bool.false_and, Bool.false_eq_true, if_false]
    rw [pointerParameter]
    simp only [run_append, run_group]
    refine ⟨?g, ?_, ?_⟩
    rotate_left
    · refine run_span_exact hrest (length_pos_iff.mpr f.returned_type.1) f.returned_type.2
        (by rintro c ⟨⟩; decide) ?_
      refine run_span_exact rfl (Nat.le_refl 1) (by decide) (by rintro c ⟨⟩; decide) ?_
      refine run_span_exact (u := []) rfl (Nat.zero_le _) (by simp) (by rintro c ⟨⟩; decide) ?_
      rw [char, run_one_past rfl (by decide)]
      refine run_span_exact rfl (Nat.zero_le _) f.gap_stars hgap ?_
      refine run_span_exact rfl (Nat.zero_le _) hname (by rintro c ⟨⟩; decide) ?_
      refine run_span_exact (u := []) rfl (Nat.zero_le _) (by simp) (by rintro c ⟨⟩; decide) ?_
      refine run_span_exact (u := [')']) rfl (Nat.le_refl 1) (by decide)
        (by rintro c ⟨⟩; decide) ?_
      refine run_span_exact (u := []) rfl (Nat.zero_le _) (by simp) (by rintro c ⟨⟩; decide) ?_
      rw [char, run_one_past rfl (by decide)]
      refine run_span_exact rfl (Nat.zero_le _) f.params_list (by rintro c ⟨⟩; decide) ?_
      refine run_span_exact (u := []) rfl (Nat.zero_le _) (by simp) (by rintro c ⟨⟩; decide) ?_
      refine run_span_exact (u := [')']) rfl (Nat.zero_le _) (by decide)
        (fun c hc => hy c hc ▸ rfl) ?_
      rfl
    · rfl
  refine ⟨_, hc₀ ▸ hm, ?_, ?_⟩
  · change _ = (⟨before, f.text ++ y, pos⟩ : Cursor).past f.text y
    rw [← hc₀, Callback.text]
    simp only [c₂, c₁, Cursor.past_past, append_assoc, nil_append, cons_append]
  · rw [Match.group, hg]
    exact Cursor.upTo_past rfl

/-- A function pointer starts behind the last comma in front of its bracket. -/
theorem passes_plain {x y : List Char} (hx : '(' ∉ x)
    (hy : x.getLast? = some ',' ∨ ∀ c ∈ y.head?, c = ',') (before : List Char) :
    pointerParameter.Passes before x y := by
  rintro a b u rest rfl hb hrest hread
  obtain ⟨v, _, rfl, hv, w, z, rfl, hw, -⟩ := (readsAll_parts pointerParameter).mpr hread
  obtain ⟨-, htype⟩ := reads_stretch1.mp hv
  obtain ⟨hne, hw⟩ := reads_stretch1.mp hw
  obtain ⟨d, w, rfl⟩ := exists_cons_of_ne_nil hne
  obtain rfl : d = '(' := by simpa [CharSet.mem] using hw d mem_cons_self
  have hcomma : ',' ∉ v := fun hmem => absurd (htype ',' hmem) (by decide)
  have hopen : '(' ∉ v := fun hmem => absurd (htype '(' hmem) (by decide)
  have hfront : b ++ y.takeWhile (· != '(') = v := by
    have htake := congrArg (takeWhile (· != '(')) hrest
    rw [takeWhile_append_of_pos (by grind), append_assoc, append_assoc,
      takeWhile_append_of_pos (by grind)] at htake
    simpa using htake
  rw [← hfront, mem_append] at hcomma
  rcases hy with hy | hy
  · rw [getLast?_append_of_ne_nil a hb] at hy
    exact hcomma (.inl (mem_of_getLast? hy))
  · cases y with
    | nil => exact hx (by grind)
    | cons c y => exact hcomma (.inr (by simp [hy c rfl]))

theorem pointerUse_of_word {name : List Char} (hword : ∀ c ∈ name, isWord c = true)
    (hconst : ¬"const".toList <:+: name) (returned extra params : List Char) (type : String)
    (k : Nat) :
    (pointerUse returned extra name params type k).1.text.toList = type.toList ++ ' ' ::
        (if name.isEmpty then madeUpName (k + 1) else String.ofList name).toList ∧
      (pointerUse returned extra name params type k).2 = name.isEmpty := by
  have hstrip : Text.strip name = name := by
    cases name with
    | nil => rfl
    | cons c name => exact strip_eq_of_lex (lex_letters hword (cons_ne_nil c name))
  have hpart : hasPart "const".toList name = false := by
    rwa [← hasPart_iff, Bool.not_eq_true] at hconst
  delta pointerUse
  simp only [hstrip, hpart]
  exact ⟨by simp [toString, madeUpName], rfl⟩

/-- What the pass over function pointers makes of the text from a place on. -/
def typedFrom (c : Cursor) (q : Project) (k : Nat) : List Char :=
  (declarePointers (parameterPass [] q).use (pointerParameter.cut c) q k).1

theorem pointerParameter_advances : pointerParameter.Advances :=
  advances_of_needs rfl

theorem typedFrom_append {before x y : List Char} (h : pointerParameter.Passes before x y)
    (pos : Nat) (q : Project) (k : Nat) :
    typedFrom ⟨before, x ++ y, pos⟩ q k =
      x ++ typedFrom ⟨x.reverse ++ before, y, pos + x.length⟩ q k := by
  obtain ⟨u, more, hbehind, hcut⟩ := h.exists_cut_append pointerParameter_advances pos
  rw [typedFrom, hcut, typedFrom, hbehind]
  exact append_assoc x u _

theorem typedFrom_nil (before : List Char) (pos : Nat) (q : Project) (k : Nat) :
    typedFrom ⟨before, [], pos⟩ q k = [] := by
  rw [typedFrom, cut_nil pointerParameter_advances]
  rfl

section

variable {p q : Project} (hp : '(' ∉ p.moduleName.toList)

include hp

theorem typedFrom_item (item : Item) (hq : q.moduleName = p.moduleName) (k : Nat)
    (before : List Char) {y : List Char} (hy : ∀ c ∈ y.head?, c = ',') (pos : Nat) :
    ∃ (t : List Char) (q' : Project) (k' : Nat) (before' : List Char) (pos' : Nat),
      q'.moduleName = p.moduleName ∧ '(' ∉ t ∧
      typedFrom ⟨before, item.text ++ y, pos⟩ q k = t ++ typedFrom ⟨before', y, pos'⟩ q' k' ∧
      ∀ rest, typedItems p q.typedefs.length k (item :: rest) =
        t :: typedItems p q'.typedefs.length k' rest := by
  cases item with
  | plain t apart =>
    exact ⟨t, q, k, _, _, hq, apart, typedFrom_append (passes_plain apart (.inr hy) before) pos q k,
      fun _ => rfl⟩
  | callback f =>
    obtain ⟨m, hm, hlast, hgroup⟩ := matchHere?_callback f before pos hy
    obtain ⟨made, hmade⟩ : ∃ made, pointerUse (m.group 1) (m.group 2) f.name (m.group 4) q.nextName
        k = made := ⟨_, rfl⟩
    obtain ⟨htext, hnameless⟩ := hmade ▸ pointerUse_of_word f.name_word f.name_own (m.group 1)
      (m.group 2) (m.group 4) q.nextName k
    have htype : p.typeAt q.typedefs.length = q.nextName := by rw [nextName, hq, typeAt]
    have hdigits : ∀ n : Nat, '(' ∉ Nat.toDigits 10 n :=
      fun n h => absurd (Nat.isDigit_of_mem_toDigits (by decide) (by decide) h) (by decide)
    have hname : '(' ∉ (f.nameAfter k).toList := by
      rw [Callback.nameAfter]
      split_ifs
      · simp [madeUpName, toString, hdigits]
      · exact fun h => absurd (f.name_word _ (by simpa using h)) (by decide)
    refine ⟨(p.typeAt q.typedefs.length).toList ++ ' ' :: (f.nameAfter k).toList,
      q.declare made.1.typedef, if f.name.isEmpty then k + 1 else k, f.text.reverse ++ before,
      pos + f.text.length, hq, ?_, ?_, fun rest => ?_⟩
    · simp [typeAt, toString, hp, hdigits, hname]
    · rw [typedFrom, Item.text, cut_of_matchHere? pointerParameter_advances hm, hlast, htype]
      simp only [declarePointers, parameterPass, hgroup, hmade, hnameless, nil_append]
      rw [htext]
      rfl
    · rw [typedItems, declare, length_append]
      rfl

theorem typedFrom_items (items : List Item) (hq : q.moduleName = p.moduleName) (k : Nat)
    (before : List Char) (pos : Nat) :
    typedFrom ⟨before, join [','] (items.map Item.text), pos⟩ q k =
        join [','] (typedItems p q.typedefs.length k items) ∧
      '(' ∉ join [','] (typedItems p q.typedefs.length k items) := by
  induction items generalizing q k before pos with
  | nil => exact ⟨typedFrom_nil before pos q k, nofun⟩
  | cons item rest ih =>
    cases rest with
    | nil =>
      obtain ⟨t, q', k', before', pos', -, hopen, htyped, hitems⟩ :=
        typedFrom_item hp item hq k before (y := []) nofun pos
      rw [append_nil, typedFrom_nil, append_nil] at htyped
      rw [hitems]
      exact ⟨htyped, hopen⟩
    | cons second rest =>
      obtain ⟨t, q', k', before', pos', hq', hopen, htyped, hitems⟩ :=
        typedFrom_item hp item hq k before
          (y := [','] ++ join [','] ((second :: rest).map Item.text)) (by rintro c ⟨⟩; rfl) pos
      obtain ⟨hrest, hopen'⟩ := ih hq' k' ([','].reverse ++ before') (pos' + [','].length)
      have hjoin : join [','] (t :: typedItems p q'.typedefs.length k' (second :: rest)) =
          t ++ ([','] ++ join [','] (typedItems p q'.typedefs.length k' (second :: rest))) := by
        cases second <;> simp [typedItems, join]
      rw [typedFrom_append (passes_plain (by decide) (.inl rfl) before'), hrest] at htyped
      rw [hitems, hjoin, ← htyped]
      refine ⟨by simp [join], ?_⟩
      rw [htyped]
      simp [hopen, hopen']

end

/-- The items of a list are the given ones, with a type and a name for each function pointer. -/
theorem listedItems_eq {list : List Char} {s : Reading} {items : List Item}
    (hp : '(' ∉ s.project.moduleName.toList)
    (hlist : starred list = join [','] (items.map Item.text)) (hne : listedItems list s ≠ []) :
    listedItems list s =
      comma.split (join [','] (typedItems s.project s.project.typedefs.length 0 items)) := by
  obtain ⟨htyped, hopen⟩ := typedFrom_items hp items rfl 0 [] 0
  have htext : (parameterPass (starred list) s.project).text =
      join [','] (typedItems s.project s.project.typedefs.length 0 items) := by
    rw [← htyped, Pass.text, hlist, typedFrom]
    simp only [parameterPass, pieces_eq_cut pointerParameter_advances]
    rfl
  have habsent : functionParameter.Absent (parameterPass (starred list) s.project).text := by
    refine absent_of_needs (q := (· == '(')) rfl fun c hc => ?_
    rw [beq_eq_false_iff_ne]
    rintro rfl
    exact hopen (htext ▸ hc)
  rw [listedItems] at hne ⊢
  split_ifs at hne ⊢
  · exact absurd rfl hne
  · rw [← htext, Pass.text, functionPass, habsent.pieces_eq]
    simp [declarePointers]

example : starred "int, int (*)(void)".toList = join [','] ([.plain "int".toList (by decide),
    .callback ⟨" int ".toList, [], [], "void".toList, by decide, nofun, nofun, by decide,
      by decide⟩].map Item.text) := by
  decide

/-! ## Different names -/

/-- The names of the parameters are those that the items have of their own, and for the others the
made up ones.  They are different exactly if the own ones are and none of these is made up for
another item by its position.  The items are the given ones with a type and a name for each function
pointer, the one without a name by the number of such. -/
theorem arguments_names_nodup_iff {r : Rules} (harrays : r.arrayTypes.isSome = true)
    {size : Pattern} (hsize : readPattern r.arraySizeName = .ok size) (list : List Char)
    (s : Reading) :
    let own := (listedItems list s).map (ownName? r)
    (∃ args, arguments r (cleanArguments r list s).1 = .ok args ∧
      args.map Argument.name = named 1 own ∧
      ((args.map Argument.name).Nodup ↔ (own.filterMap id).Nodup ∧
        ∀ i ∈ unnamedAt 1 own, madeUpName i ∉ own.filterMap id)) ∧
    ∀ items : List Item, '(' ∉ s.project.moduleName.toList →
      starred list = join [','] (items.map Item.text) → listedItems list s ≠ [] →
      listedItems list s =
        comma.split (join [','] (typedItems s.project s.project.typedefs.length 0 items)) := by
  intro own
  obtain ⟨args, hargs⟩ := exists_arguments harrays hsize (cleanArguments_cases r list s)
  have hnames : args.map Argument.name = named 1 own := by
    rw [cleanArguments_eq] at hargs
    simp only [own, listedItems]
    by_cases hvoid : (s.voids.contains (String.ofList (Text.strip list)) || list.isEmpty) = true
    · rw [if_pos hvoid] at hargs ⊢
      obtain rfl : [] = args := Except.ok.inj hargs
      rfl
    · rw [if_neg hvoid] at hargs ⊢
      dsimp only at hargs
      exact names_of_arguments_withNames hargs
  exact ⟨⟨args, hargs, hnames, hnames ▸ nodup_named_iff 1 own⟩, fun _ => listedItems_eq⟩

theorem arguments_names_nodup_iff_callback : ∃ args,
    arguments Rules.standard (cleanArguments Rules.standard
      "int (*done)(void), int, char b[2], long".toList ⟨⟨"m", []⟩, ["void"], []⟩).1 = .ok args ∧
    args.map Argument.name = ["done", "cmock_arg2", "b", "cmock_arg4"] ∧
    (args.map Argument.name).Nodup := by
  have hread : (readPattern Rules.standard.arraySizeName).isOk = true := by decide +kernel
  cases hsize : readPattern Rules.standard.arraySizeName with
  | error e =>
    rw [hsize] at hread
    cases hread
  | ok size =>
    obtain ⟨⟨args, hargs, hnames, hnodup⟩, -⟩ :=
      arguments_names_nodup_iff (r := Rules.standard) rfl hsize
        "int (*done)(void), int, char b[2], long".toList ⟨⟨"m", []⟩, ["void"], []⟩
    have hown : (listedItems "int (*done)(void), int, char b[2], long".toList
        ⟨⟨"m", []⟩, ["void"], []⟩).map (ownName? Rules.standard) =
          [some "done", none, some "b", none] := by decide +kernel
    rw [hown] at hnames hnodup
    exact ⟨args, hargs, hnames, hnodup.mpr (by decide +kernel)⟩

/-- A function pointer without a name, the first one of a list, has the name of an unnamed first
parameter. -/
theorem arguments_names_clash :
    ((arguments Rules.standard (cleanArguments Rules.standard "int, int (*)(void)".toList
      ⟨⟨"m", []⟩, ["void"], []⟩).1).toOption.map (·.map Argument.name)) =
        some ["cmock_arg1", "cmock_arg1"] := by
  decide +kernel

end Header

end MockGen
