import MockGen.Proofs.Plugin.Traits

/-!
# The strings that plugins name in the source of a mock

They are those of the function and of its parameters, and they stand in calls; all else that plugins
write stays apart from the strings.
-/

namespace MockGen

open Code Trait List Text

/-- A name that neither is nor can become the name of a string when more is put behind it. -/
@[mk_iff]
structure Code.Nameable (f : String) : Prop where
  word : ∀ c ∈ f.toList, isWord c = true
  ne : f ≠ "CMockString"
  apart : Apart f

instance (f : String) : Decidable (Nameable f) :=
  decidable_of_iff _ (Code.nameable_iff f).symm

variable {l : List Char}

theorem Code.Nameable.label {names : List String} {f : String} (hf : Nameable f)
    (hmem : f ∈ names) : Label names f := by
  refine ⟨hf.word, hmem, fun hpre => ?_⟩
  have hapart := hf.apart
  rw [Apart, mentioned_of_word hf.word, stringName?] at hapart
  rcases prefix_concat_iff.mp hpre with heq | hpre
  · have hfront := congrArg List.dropLast heq
    rw [dropLast_concat] at hfront
    exact hf.ne (String.toList_inj.mp hfront.symm)
  · rw [if_pos (List.isPrefixOf_iff_prefix.mpr hpre)] at hapart
    cases hapart

/-- No text of the prototype that goes into a source could be taken for a string. -/
@[mk_iff]
structure Prototype.Apart (p : Prototype) : Prop where
  name : Nameable p.name
  argName : ∀ a ∈ p.args, Nameable a.name
  unscopedName : Code.Apart p.unscopedName
  namespaces : ∀ t ∈ p.namespaces, Code.Apart t
  className : ∀ t ∈ p.className, Code.Apart t
  modifier : Code.Apart p.modifier
  callingConvention : ∀ t ∈ p.callingConvention, Code.Apart t
  returnedType : Code.Apart p.returned.type
  returnedName : Code.Apart p.returned.name
  returnedStr : Code.Apart p.returned.str
  argType : ∀ a ∈ p.args, Code.Apart a.type
  argsString : Code.Apart p.argsString
  varArg : ∀ t ∈ p.varArg, Code.Apart t

instance (p : Prototype) : Decidable p.Apart :=
  decidable_of_iff _ (Prototype.apart_iff p).symm

/-- The names of a function and of its parameters. -/
def Prototype.names (p : Prototype) : List String :=
  p.name :: p.args.map (·.name)

variable {names : List String} {s : Settings} {p : Prototype} {f : String} {a : Argument}

namespace Prototype.Apart

variable (hp : p.Apart) (hnames : p.names ⊆ names)

include hp hnames

theorem label : Label names p.name :=
  hp.name.label (hnames (.head _))

theorem argLabel (ha : a ∈ p.args) : Label names a.name :=
  (hp.argName a ha).label (hnames (.tail _ (mem_map_of_mem ha)))

end Prototype.Apart

/-! ## Fields and types -/

theorem clear_callField
    (h : ((Scan.word false []).behind ("cmock_call_instance->".toList ++ l)).passes = true) :
    Clear names (callField (String.ofList l)) := by
  rw [Scan.behind, foldl_append] at h
  unfold callField
  exact .fixed (.last h)

theorem Code.Label.clear_callField (hf : Label names f) {m : List Char}
    (h : ((((Scan.word false []).behind ("cmock_call_instance->".toList ++ l)).behindName).behind
      m).passes = true) : Clear names (callField (String.ofList l ++ (f ++ String.ofList m))) := by
  rw [Scan.behind, Scan.behind, foldl_append] at h
  unfold callField
  exact .fixed (.fixed (hf.holds (.last h)))

theorem Code.Label.clear_callField_last (hf : Label names f)
    (h : ((Scan.word false []).behind ("cmock_call_instance->".toList ++ l)).behindName.passes =
      true) : Clear names (callField (String.ofList l ++ f)) := by
  rw [Scan.behind, foldl_append] at h
  unfold callField
  exact .fixed (.fixed (hf.atEnd h))

theorem Code.Label.clear_mockField (hf : Label names f)
    (h : (((((Scan.word false []).behind "Mock.".toList).behindName).behind "_".toList).behind
      l).passes = true) : Clear names (mockField f (String.ofList l)) := by
  unfold mockField
  simp only [String.append_assoc]
  exact .fixed (hf.holds (.fixed (.last h)))

theorem Code.Apart.of_append_star {t u : List Char} (h : mentioned (t ++ '*' :: u) = []) :
    mentioned t = [] ∧ mentioned u = [] := by
  rw [mentioned_append_cons (by decide)] at h
  exact append_eq_nil_iff.mp h

theorem clear_dropTrailing {t : String} (h : Apart t) :
    Clear names (String.ofList (dropTrailing '*' t.toList)) := by
  have hsplit : t.toList = dropTrailing '*' t.toList ++
      (t.toList.reverse.takeWhile (· == '*')).reverse := by
    rw [dropTrailing, ← reverse_append, takeWhile_append_dropWhile,
      reverse_reverse]
  refine .of_apart ?_
  rw [Apart, String.toList_ofList]
  rw [Apart, hsplit] at h
  cases hstars : (t.toList.reverse.takeWhile (· == '*')).reverse with
  | nil => rwa [hstars, append_nil] at h
  | cons c stars =>
    have hc : c ∈ t.toList.reverse.takeWhile (· == '*') :=
      mem_reverse.mp (hstars ▸ mem_cons_self)
    obtain rfl : c = '*' := by simpa using mem_takeWhile_imp hc
    rw [hstars] at h
    exact (Apart.of_append_star h).1

theorem clear_pointsToConst {type : String} (h : Apart type) :
    Clear names (pointsToConst type) := by
  have key : ∀ t : List Char, replaceFirst '*' " const*".toList t = t ∨
      ∃ front back, t = front ++ '*' :: back ∧
        replaceFirst '*' " const*".toList t = front ++ (" const*".toList ++ back) := by
    intro t
    induction t with
    | nil => exact .inl rfl
    | cons c t ih =>
      unfold replaceFirst
      split
      case isTrue hc => exact .inr ⟨[], t, by rw [beq_iff_eq.mp hc]; rfl, rfl⟩
      case isFalse =>
        rcases ih with heq | ⟨front, back, rfl, heq⟩
        · exact .inl (by rw [heq])
        · exact .inr ⟨c :: front, back, rfl, by rw [heq, cons_append]⟩
  unfold pointsToConst
  rcases key type.toList with heq | ⟨front, back, htype, heq⟩
  · rw [heq, String.ofList_toList]
    exact .of_apart h
  · rw [Apart, htype] at h
    obtain ⟨hfront, hback⟩ := Apart.of_append_star h
    have hclear : ∀ {t : List Char}, mentioned t = [] → Clear names (String.ofList t) :=
      fun ht => .of_apart (by rwa [Apart, String.toList_ofList])
    rw [heq, String.ofList_append, String.ofList_append]
    exact (hclear hfront).holds (.fixed ((hclear hback).atEnd rfl))

/-! ## What plugins may say -/

namespace Prototype.Apart

variable (hp : p.Apart) (hnames : p.names ⊆ names)

include hp hnames

theorem fits : p.Fits (strings names) where
  name := strings_takes_name (hp.label hnames)
  argName _ ha := strings_takes_name (hp.argLabel hnames ha)
  argType a ha := strings_takes (.of_apart (hp.argType a ha))
  constType a ha := strings_takes (clear_pointsToConst (hp.argType a ha))
  bareType a ha := strings_takes (clear_dropTrailing (hp.argType a ha))
  unscopedName := strings_takes (.of_apart hp.unscopedName)
  namespaces t ht := strings_takes (.of_apart (hp.namespaces t ht))
  className t ht := strings_takes (.of_apart (hp.className t ht))
  modifier := strings_takes (.of_apart hp.modifier)
  callingConvention t ht := strings_takes (.of_apart (hp.callingConvention t ht))
  returnedType := strings_takes (.of_apart hp.returnedType)
  returnedName := strings_takes (.of_apart hp.returnedName)
  returnedStr := strings_takes (.of_apart hp.returnedStr)
  argsString := strings_takes (.of_apart hp.argsString)
  varArg t ht := strings_takes (.of_apart (hp.varArg t ht))

theorem covers (s : Settings) : Covers (strings names) s Plugin.all p where
  line := strings_takes (clear_callField rfl)
  result _ := strings_takes (clear_callField rfl)
  order _ := strings_takes (clear_callField rfl)
  thrown _ := strings_takes (clear_callField rfl)
  anyArgs _ := strings_takes (clear_callField rfl)
  expected _ ha := strings_takes ((hp.argLabel hnames ha).clear_callField_last rfl)
  depth _ _ ha _ := strings_takes ((hp.argLabel hnames ha).clear_callField rfl)
  output _ _ ha part hpart := by
    have hname := hp.argLabel hnames (mem_of_mem_filter ha)
    simp only [mem_cons, not_mem_nil, or_false] at hpart
    rcases hpart with rfl | rfl | rfl
    all_goals exact strings_takes (hname.clear_callField rfl)
  ignoredArg _ _ ha := strings_takes ((hp.argLabel hnames ha).clear_callField_last rfl)
  chain := strings_takes ((hp.label hnames).clear_mockField rfl)
  ignored _ := strings_takes ((hp.label hnames).clear_mockField rfl)
  final _ _ := strings_takes ((hp.label hnames).clear_mockField rfl)
  callback _ part hpart := by
    simp only [mem_cons, not_mem_nil, or_false] at hpart
    rcases hpart with rfl | rfl | rfl
    all_goals exact strings_takes ((hp.label hnames).clear_mockField rfl)
  loaded plugin _ := plugin.mem_all

end Prototype.Apart

end MockGen
