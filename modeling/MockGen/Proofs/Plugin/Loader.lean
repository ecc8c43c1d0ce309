import MockGen.Plugin.Interfaces
import MockGen.Proofs.Header.Records
import MockGen.Proofs.Text.References

/-!
# The loader of expected arguments

The function that loads expected arguments, and its calls.  It has one place for every parameter of
the mocked function and, where pointers are counted, one more behind every pointer.  Reading a
header marks a pointer together with the size behind it, so that a call hands over something for
every place, in order.
-/

namespace MockGen

open Header Code List String Plugin Argument Bool

variable {isSize : Bool}

/-! ## Pointers and their sizes -/

theorem Text.join_eq_intercalate (sep : List Char) (pieces : List (List Char)) :
    join sep pieces = sep.intercalate pieces := by
  fun_induction join sep pieces with
  | case1 => rfl
  | case2 piece => simp
  | case3 piece next rest ih => simp [ih]

namespace Header

/-- Only pointers are marked as data, and exactly what follows data is marked as a size; `isSize`
says whether data comes in front of the list. -/
inductive Paired : (isSize : Bool) → List Argument → Prop
  | nil : Paired false []
  | cons {a : Argument} {rest : List Argument} (hptr : a.isArrayData = true → a.isPtr = true)
      (hrest : Paired a.isArrayData rest) : Paired a.isArraySize (a :: rest)

variable {args : List Argument} {r : Rules}

theorem Paired.exists_of_isSize (h : Paired isSize args) (hsize : isSize = true) :
    ∃ a rest, args = a :: rest ∧ a.isArraySize = true := by
  cases h with
  | nil => cases hsize
  | cons => exact ⟨_, _, rfl, hsize⟩

theorem paired_of_markArrays {marked : List Argument} (h : markArrays r isSize args = .ok marked)
    (hsize : args = [] → isSize = false) : Paired isSize marked := by
  induction args generalizing isSize marked with
  | nil =>
    rw [← Except.ok.inj h, hsize rfl]
    exact .nil
  | cons a rest ih =>
    obtain ⟨isData, more, hdata, hmore, rfl⟩ := exists_of_markArrays_cons h
    have hrest : Paired isData more :=
      ih hmore fun hnil => eq_false_iff.mpr fun h => (hdata h).2 hnil
    exact .cons (a := { a with isArrayData := isData, isArraySize := isSize })
      (fun h => (hdata h).1) hrest

theorem paired_of_arguments {list : List Char}
    (hlist : list = "void".toList ∨ ∀ item ∈ Text.splitAt ',' list, IsNamed item)
    (h : arguments r list = .ok args) : Paired false args := by
  rcases hlist with rfl | hnamed
  · rw [← Except.ok.inj h]
    exact .nil
  · rw [arguments, argumentsOf_of_isNamed r hnamed] at h
    obtain ⟨⟨read, complete⟩, hread, h⟩ := Outcome.bind_eq_ok.mp h
    obtain rfl : complete = true := by
      cases hmap : (Text.splitAt ',' list).mapM fun item => argument r (Text.strip item) with
      | error e => rw [hmap] at hread; cases hread
      | ok found => rw [hmap] at hread; cases hread; rfl
    exact paired_of_markArrays h fun _ => rfl

theorem exists_items {t : List Char}
    (h : List.Forall₂ (fun item a => IsLastWord item a.name) (Text.splitAt ',' (withNames r t))
      args) :
    ∃ items, String.ofList (withNames r t) = commas items ∧
      List.Forall₂ (fun item a => ',' ∉ item.toList ∧ IsLastWord item.toList a.name)
        items args := by
  obtain ⟨first, rest, hnames, hsplit⟩ := splitAt_withNames r t
  have hnamed := isNamed_of_mem_nameUnnamed r.standards 1
    fun item hitem => comma_notMem_of_mem_split (t := t) hitem
  rw [hnames] at hnamed
  rw [hsplit] at h
  refine ⟨(first :: rest).map String.ofList, ?_, ?_⟩
  · rw [withNames, hnames, ← toList_inj, toList_ofList, Text.join_eq_intercalate]
    simp [commas]
  · rw [forall₂_and_left]
    refine ⟨forall_mem_map.mpr fun item hitem => ?_, ?_⟩
    · rw [toList_ofList]
      exact (hnamed item hitem).2
    · have hspace : ∀ {item name}, IsLastWord (' ' :: item) name → IsLastWord item name := by
        intro item name h
        rwa [IsLastWord, strip_space_cons] at h
      simp only [forall₂_map_left_iff, toList_ofList]
      cases h with
      | cons hfirst hrest =>
        exact .cons hfirst ((forall₂_map_left_iff.mp hrest).imp fun _ _ => hspace)

section

variable {r : Rules} {declared : List Char} {namespaces : List String} {className : Option String}
  {u v : Reading} {p : Prototype}
  (hread : (prototype r declared namespaces className).run u = (.ok p, v))

include hread

theorem paired_of_prototype : Paired false p.args := by
  obtain ⟨m, parsed, args, -, -, hargs, -, rfl, -⟩ := prototype_run_eq_ok.mp hread
  exact paired_of_arguments (cleanArguments_cases r _ u) hargs

theorem exists_items_of_prototype (hvoid : p.argsString ≠ "void") :
    ∃ items, p.argsString = commas items ∧
      List.Forall₂ (fun item a => ',' ∉ item.toList ∧ IsLastWord item.toList a.name) items
        p.args := by
  have hitems := (prototype_consistent _ _ _ _ hread).items hvoid
  obtain ⟨m, parsed, args, -, -, -, -, rfl, -⟩ := prototype_run_eq_ok.mp hread
  dsimp only [prototypeOf] at hvoid hitems ⊢
  rcases cleanArguments_eq_withNames r (splitVarArg (Text.strip (m.group 2))).2 u with
    hlist | ⟨t, hlist⟩
  · rw [hlist] at hvoid
    exact absurd rfl hvoid
  · rw [hlist, toList_ofList] at hitems
    rw [hlist]
    exact exists_items (hitems.imp fun _ _ h => h.2)

end

end Header

/-! ## Places of a parameter list -/

namespace Expectation

/-- A place in the parameter list of the loader. -/
inductive Place where
  | itself (a : Argument)
  /-- For the number of elements behind a pointer, with the parameter that follows the pointer. -/
  | count (a : Argument) (next : Option Argument)

namespace Place

def name : Place → String
  | itself a => a.name
  | count a _ => a.name ++ "_Depth"

/-- How a place is declared: a count as a number, and a parameter with its type where pointers are
counted, else as in the header, where its name comes last. -/
def Declares (counted : Bool) (formal : String) : Place → Prop
  | itself a =>
    if counted then formal = a.typeWithConst ++ " " ++ a.name
    else ',' ∉ formal.toList ∧ IsLastWord formal.toList a.name
  | count a _ => formal = "int " ++ a.name ++ "_Depth"

/-- What an expected call hands over: the parameter itself, and as a count the size that comes with
the data, or one. -/
inductive Takes : Place → String → Prop
  | itself (a : Argument) : Takes (.itself a) a.name
  | one {a : Argument} (next : Option Argument) (h : a.isArrayData = false) :
    Takes (.count a next) "1"
  | size {a next : Argument} (hdata : a.isArrayData = true) (hsize : next.isArraySize = true) :
    Takes (.count a (some next)) next.name

end Place

/-- The places for the parameters of a function. -/
def places (counted : Bool) : List Argument → List Place
  | [] => []
  | a :: rest =>
    (if counted && a.isPtr then [.itself a, .count a rest.head?] else [.itself a]) ++
      places counted rest

/-- The definition of the loader for the function `f`, with a declaration in front of it. -/
def loaderOf (f : String) (formals : List String) (body : String) : String :=
  let header := s!"void CMockExpectParameters_{f}(CMOCK_{f}_CALL_INSTANCE* " ++
    "cmock_call_instance, " ++ commas formals ++ ")"
  lines [header ++ ";", header, "\x7b"] ++ body ++ lines ["\x7d", ""]

/-- The call of the loader for the function `f`. -/
def callOf (f : String) (actuals : List String) : String :=
  lines [s!"  CMockExpectParameters_{f}(cmock_call_instance, {commas actuals});"]

end Expectation

/-! ## Texts for the places -/

namespace Expectation

variable {s : Settings} {p : Prototype} {args : List Argument}

theorem places_false (args : List Argument) : places false args = args.map .itself := by
  induction args with
  | nil => rfl
  | cons a rest ih =>
    rw [places, ih]
    rfl

/-- How a parameter is declared where pointers are counted. -/
def formalsOf (a : Argument) : List String :=
  let declared := a.typeWithConst ++ " " ++ a.name
  if a.isPtr then [declared, "int " ++ a.name ++ "_Depth"] else [declared]

/-- What an expected call hands over for a parameter where pointers are counted. -/
def actualsOf (a : Argument) : List String :=
  if a.isPtr && !a.isArrayData then [a.name, "1"]
  else if a.isArraySize then [a.name, a.name]
  else [a.name]

theorem commas_withDepth (args : List Argument) :
    commas (args.map withDepth) = commas (args.flatMap formalsOf) := by
  have hne : ∀ a, formalsOf a ≠ [] := by
    intro a
    unfold formalsOf
    split <;> simp
  rw [commas, commas, intercalate_flatMap hne]
  congr 2
  funext a
  have hcount : ", int " = ", " ++ "int " := by decide
  unfold formalsOf withDepth
  dsimp only
  split
  · simp only [String.intercalate_cons_cons, String.intercalate_singleton, hcount,
      String.append_assoc]
  · rfl

theorem commas_loaderActual (h : s.arrays = true) (args : List Argument) :
    commas (args.map (loaderActual s)) = commas (args.flatMap actualsOf) := by
  have hne : ∀ a, actualsOf a ≠ [] := by
    intro a
    unfold actualsOf
    split_ifs <;> simp
  rw [commas, commas, intercalate_flatMap hne]
  congr 2
  funext a
  have hone : ", 1" = ", " ++ "1" := by decide
  unfold actualsOf loaderActual
  simp only [h, Bool.true_and]
  split_ifs <;> simp [hone, String.append_assoc]

theorem commas_callWithDepth (args : List Argument) :
    commas (args.map callWithDepth) = commas ((places true args).map Place.name) := by
  have hplaces : (places true args).map Place.name = args.flatMap fun a =>
      if a.isPtr then [a.name, a.name ++ "_Depth"] else [a.name] := by
    induction args with
    | nil => rfl
    | cons a rest ih =>
      rw [places, map_append, ih, flatMap_cons, Bool.true_and]
      split <;> rfl
  rw [hplaces, commas, commas, intercalate_flatMap (by intro a; split <;> simp)]
  congr 2
  funext a
  unfold callWithDepth
  split <;> simp [String.append_assoc]

theorem forall₂_declares (args : List Argument) :
    List.Forall₂ (Place.Declares true) (args.flatMap formalsOf) (places true args) := by
  induction args with
  | nil => exact .nil
  | cons a rest ih =>
    rw [flatMap_cons, places, formalsOf, Bool.true_and]
    split
    · exact .cons rfl (.cons rfl ih)
    · exact .cons rfl ih

/-- Where data comes in front of the parameters, its count takes the first text, and the places
take the others. -/
theorem forall₂_takes (h : Paired isSize args)
    (hsizes : ∀ a ∈ args, a.isPtr = true → a.isArraySize = false) :
    List.Forall₂ Place.Takes (places true args)
      ((args.flatMap actualsOf).drop (if isSize then 1 else 0)) := by
  induction h with
  | nil => exact .nil
  | @cons a rest hptr hrest ih =>
    have ih := ih fun b hb => hsizes b (mem_cons_of_mem a hb)
    have ha := hsizes a mem_cons_self
    rw [flatMap_cons, places, actualsOf, Bool.true_and]
    cases hpointer : a.isPtr with
    | false =>
      have hdata : a.isArrayData = false := by
        rw [eq_false_iff]
        intro hdata
        rw [hptr hdata] at hpointer
        cases hpointer
      rw [hdata] at ih
      cases a.isArraySize with
      | false => exact .cons (.itself a) ih
      | true => exact .cons (.itself a) ih
    | true =>
      rw [ha hpointer]
      cases hdata : a.isArrayData with
      | false =>
        rw [hdata] at ih
        exact .cons (.itself a) (.cons (.one _ hdata) ih)
      | true =>
        -- the size behind the pointer is handed over twice, first as the count
        obtain ⟨next, rest, rfl, hsize⟩ := hrest.exists_of_isSize hdata
        rw [hdata] at ih
        have hnext : next.isPtr = false := by
          rw [eq_false_iff]
          intro hnext
          rw [hsizes next (by simp) hnext] at hsize
          cases hsize
        have hactuals : actualsOf next = [next.name, next.name] := by
          rw [actualsOf, hnext, hsize]
          rfl
        rw [flatMap_cons, hactuals] at ih ⊢
        exact .cons (.itself a) (.cons (.size hdata hsize) ih)

theorem exists_formals (hitems : ∃ items, p.argsString = commas items ∧
      List.Forall₂ (fun item a => ',' ∉ item.toList ∧ IsLastWord item.toList a.name) items
        p.args) :
    ∃ formals, loaderParameters s p = commas formals ∧
      List.Forall₂ (Place.Declares s.arrays) formals (places s.arrays p.args) := by
  rw [loaderParameters]
  cases s.arrays with
  | true => exact ⟨p.args.flatMap formalsOf, commas_withDepth p.args, forall₂_declares p.args⟩
  | false =>
    rw [places_false]
    simp only [forall₂_map_right_iff]
    exact hitems

theorem exists_actuals (h : Paired false args)
    (hsizes : ∀ a ∈ args, a.isPtr = true → a.isArraySize = false) :
    ∃ actuals, commas (args.map (loaderActual s)) = commas actuals ∧
      List.Forall₂ Place.Takes (places s.arrays args) actuals := by
  cases harrays : s.arrays with
  | true => exact ⟨_, commas_loaderActual harrays args, forall₂_takes h hsizes⟩
  | false =>
    have hactual : loaderActual s = Argument.name := by
      funext a
      rw [loaderActual, harrays]
      rfl
    refine ⟨args.map Argument.name, by rw [hactual], ?_⟩
    rw [places_false, forall₂_map_left_iff, forall₂_map_right_iff, forall₂_same]
    exact fun a _ => .itself a

theorem arrayInterfaces_of_containsPtr (hptr : p.containsPtr = false) :
    arrayInterfaces s p = "" := by
  rw [arrayInterfaces, hptr]
  rfl

theorem exists_call_arrayInterfaces (h : arrayInterfaces s p ≠ "") : ∃ before after,
    arrayInterfaces s p =
      before ++ callOf p.name ((places true p.args).map Place.name) ++ after := by
  have hptr : p.containsPtr = true := by
    by_contra hptr
    exact h (arrayInterfaces_of_containsPtr (eq_false_iff.mpr hptr))
  have hfunction : ∃ header, arrayInterfaces s p = function header
      (base s p.name true ++ lines ([s!"  CMockExpectParameters_{p.name}(cmock_call_instance, " ++
        commas (p.args.map callWithDepth) ++ ");"] ++
          only (!p.returned.isVoid) [storeResult])) := by
    rw [arrayInterfaces, hptr]
    exact ⟨_, rfl⟩
  obtain ⟨header, hfunction⟩ := hfunction
  rw [hfunction, commas_callWithDepth, function, lines_append]
  refine ⟨lines [header, "\x7b"] ++ base s p.name true,
    lines (only (!p.returned.isVoid) [storeResult]) ++ lines ["\x7d", ""], ?_⟩
  simp only [callOf, String.append_assoc]
  rfl

end Expectation

/-- Where the loader of a function is called, it is defined, and the call hands over what belongs to
every place of its parameter list.  With counts given, that is what bears the name of the place. -/
theorem Expectation.loaderCall_takes {r : Rules} {declared : List Char} {namespaces : List String}
    {className : Option String} {u v : Reading} {p : Prototype}
    (hread : (prototype r declared namespaces className).run u = (.ok p, v))
    (hsizes : ∀ a ∈ p.args, a.isPtr = true → a.isArraySize = false) (s : Settings)
    (hcall : loaderCall s p ≠ "" ∨ s.arrays = true ∧ array.interfaces s p ≠ "") :
    (∃ formals body, loader s p = loaderOf p.name formals body ∧
      List.Forall₂ (Place.Declares s.arrays) formals (places s.arrays p.args)) ∧
    (∃ actuals, loaderCall s p = callOf p.name actuals ∧
      List.Forall₂ Place.Takes (places s.arrays p.args) actuals) ∧
    (s.arrays = true → array.interfaces s p ≠ "" → ∃ before after,
      array.interfaces s p =
        before ++ callOf p.name ((places true p.args).map Place.name) ++ after) := by
  have hvoid : p.argsString ≠ "void" := by
    intro hvoid
    rcases hcall with hcall | ⟨-, hcall⟩
    · rw [loaderCall, hvoid] at hcall
      exact hcall rfl
    · have hconsistent := prototype_consistent _ _ _ _ hread
      have hargs : p.args = [] := hconsistent.args_eq_nil_iff.mpr hvoid
      refine hcall (arrayInterfaces_of_containsPtr (eq_false_iff.mpr fun hptr => ?_))
      obtain ⟨a, ha, -⟩ := hconsistent.containsPtr_iff.mp hptr
      rw [hargs] at ha
      cases ha
  obtain ⟨formals, hformals, hdeclares⟩ :=
    exists_formals (s := s) (exists_items_of_prototype hread hvoid)
  obtain ⟨actuals, hactuals, htakes⟩ := exists_actuals (s := s) (paired_of_prototype hread) hsizes
  have hbeq : (p.argsString == "void") = false := beq_eq_false_iff_ne.mpr hvoid
  refine ⟨⟨formals, concat (p.args.map fun a => addArg s a (s.arrays && a.isPtr)), ?_, hdeclares⟩,
    ⟨actuals, ?_, htakes⟩, fun _ hinterfaces => exists_call_arrayInterfaces hinterfaces⟩
  · rw [loader, hbeq, hformals]
    rfl
  · rw [loaderCall, hbeq, hactuals]
    rfl

theorem Expectation.loaderCall_takes_filling :
    let s : Settings := ⟨.data, false, true, false, false, false, false, false, false, [], [], [],
      none, false, false, .null⟩
    ∃ p v, (prototype Rules.standard "int fill(int *cells, int len, char **names)".toList []
        none).run { project := projectOf "tank", voids := ["void"] } = (.ok p, v) ∧
      (∀ a ∈ p.args, a.isPtr = true → a.isArraySize = false) ∧
      loaderCall s p =
        "  CMockExpectParameters_fill(cmock_call_instance, cells, len, len, names, 1);\n" ∧
      ∃ actuals, loaderCall s p = callOf p.name actuals ∧
        List.Forall₂ Place.Takes (places true p.args) actuals := by
  intro s
  obtain ⟨p, v, hread, hP⟩ := Outcome.exists_run_of_any
    (P := fun p => decide (∀ a ∈ p.args, a.isPtr = true → a.isArraySize = false) &&
      loaderCall s p == "  CMockExpectParameters_fill(cmock_call_instance, cells, len, len, " ++
        "names, 1);\n")
    (x := prototype Rules.standard "int fill(int *cells, int len, char **names)".toList [] none)
    (s := { project := projectOf "tank", voids := ["void"] }) (by decide +kernel)
  obtain ⟨hsizes, hcall⟩ := and_eq_true_iff.mp hP
  have hsizes := of_decide_eq_true hsizes
  have hcall := beq_iff_eq.mp hcall
  refine ⟨p, v, hread, hsizes, hcall, (loaderCall_takes hread hsizes s (.inl ?_)).2.1⟩
  rw [hcall]
  decide

end MockGen
