import MockGen.Plugin.Hook
import MockGen.Sample.Prototype

/-!
# Pointers to constants

What a mock returns through a pointer is stored, declared and handed over as a pointer to a
constant: `const` stands in front of the first star of the type.  Only for a type with a single star
at its end is that the star of the parameter itself.
-/

namespace MockGen

open List
open String hiding append_assoc

theorem Text.replaceFirst_append {c : Char} {t : List Char} (ht : c ∉ t) (new rest : List Char) :
    replaceFirst c new (t ++ c :: rest) = t ++ new ++ rest := by
  induction t with
  | nil => simp [replaceFirst]
  | cons d t ih =>
    obtain ⟨hd, ht⟩ := ne_and_not_mem_of_not_mem_cons ht
    rw [cons_append, replaceFirst, if_neg (by simpa using hd.symm), ih ht]
    rfl

theorem pointsToConst_append {base : String} (h : '*' ∉ base.toList) (rest : String) :
    pointsToConst (base ++ "*" ++ rest) = base ++ " const*" ++ rest := by
  rw [pointsToConst, ← toList_inj, toList_ofList]
  simp only [toList_append]
  rw [append_assoc]
  exact Text.replaceFirst_append h _ _

theorem exists_pointsToConst {type : String} (h : '*' ∈ type.toList) : ∃ base rest,
    base ++ "*" ++ rest = type ∧ '*' ∉ base.toList ∧
      pointsToConst type = base ++ " const*" ++ rest := by
  obtain ⟨base, rest, heq, hbase⟩ := eq_append_cons_of_mem h
  rw [← toList_ofList (l := base)] at hbase
  have htype : String.ofList base ++ "*" ++ String.ofList rest = type := by
    rw [← toList_inj, heq]
    simp
  exact ⟨_, _, htype, hbase, by rw [← htype, pointsToConst_append hbase]⟩

theorem pointsToConst_eq_iff {pointee : String} :
    pointsToConst (pointee ++ "*") = pointee ++ " const*" ↔ '*' ∉ pointee.toList := by
  constructor
  · intro heq hmem
    obtain ⟨base, rest, hrest, hbase, -⟩ := exists_pointsToConst hmem
    rw [← hrest, String.append_assoc, pointsToConst_append hbase] at heq
    -- Behind the text before the first star one side goes on with a blank, the other with the star.
    simp [← toList_inj] at heq
  · intro h
    simpa using pointsToConst_append h ""

/-- The text stands in the other one between ends of lines. -/
def StandsIn (part t : String) : Prop :=
  ∃ u v, t = u ++ part ++ v ∧ (u = "" ∨ ∃ x, u = x ++ "\n") ∧ (v = "" ∨ ∃ y, v = "\n" ++ y)

namespace StandsIn

theorem trans {line part t : String} (hline : StandsIn line part) (hpart : StandsIn part t) :
    StandsIn line t := by
  obtain ⟨u, v, rfl, hu, hv⟩ := hpart
  obtain ⟨x, y, rfl, hx, hy⟩ := hline
  refine ⟨u ++ x, y ++ v, by simp only [String.append_assoc], ?_, ?_⟩
  · obtain rfl | ⟨x, rfl⟩ := hx
    · rwa [append_empty]
    · exact .inr ⟨u ++ x, (String.append_assoc ..).symm⟩
  · obtain rfl | ⟨y, rfl⟩ := hy
    · rwa [empty_append]
    · exact .inr ⟨y ++ v, String.append_assoc ..⟩

theorem first (part t : String) : StandsIn part (part ++ "\n" ++ t) :=
  ⟨"", "\n" ++ t, by simp only [empty_append, String.append_assoc], .inl rfl, .inr ⟨t, rfl⟩⟩

theorem later {part t : String} (h : StandsIn part t) (line : String) :
    StandsIn part (line ++ "\n" ++ t) :=
  h.trans ⟨line ++ "\n", "", (append_empty ..).symm, .inr ⟨line, rfl⟩, .inl rfl⟩

theorem intercalate {part : String} {parts : List String} (h : part ∈ parts) :
    StandsIn part ("\n".intercalate parts) := by
  induction parts with
  | nil => nomatch h
  | cons line parts ih =>
    cases parts with
    | nil =>
      obtain rfl := mem_singleton.mp h
      exact ⟨"", "", by simp, .inl rfl, .inl rfl⟩
    | cons next parts =>
      rw [String.intercalate_cons_cons]
      obtain rfl | h := mem_cons.mp h
      · exact first ..
      · exact (ih h).later line

theorem function (header body : String) : StandsIn header (Plugin.function header body) := by
  have h := first header (Code.lines ["\x7b"] ++ body ++ Code.lines ["\x7d", ""])
  simpa only [Plugin.function, Code.lines_cons, Code.lines_nil, append_empty,
    String.append_assoc] using h

end StandsIn

namespace Plugin

theorem mem_outputs {s : Settings} {p : Prototype} {a : Argument} (ha : a ∈ p.args)
    (hconst : a.isConst = false) (hstar : '*' ∈ a.type.toList) : a ∈ s.outputs p := by
  refine mem_filter.mpr ⟨ha, ?_⟩
  simp [Settings.returnsThru, Settings.isPointerLike, hconst, hstar]

def outputHeader (f n type : String) : String :=
  s!"void {f}_CMockReturnMemThruPtr_{n}(UNITY_LINE_TYPE cmock_line, {type} {n}, size_t cmock_size)"

theorem outputHeader_eq (f n type : String) : outputHeader f n type =
    s!"void {f}_CMockReturnMemThruPtr_{n}(UNITY_LINE_TYPE cmock_line, {type} {n}, " ++
      "size_t cmock_size)" := by
  rw [String.append_assoc]
  rfl

theorem outputHeader_append (f n type : String) : outputHeader f n type ++ ";" =
    s!"void {f}_CMockReturnMemThruPtr_{n}(UNITY_LINE_TYPE cmock_line, {type} {n}, " ++
      "size_t cmock_size);" := by
  simp only [outputHeader, String.append_assoc]
  rfl

/-- For each parameter that is a pointer and not constant the stored value, the prototype and the
definition have one type, with `const` in front of the first star.  That is the star at the end just
where the type that the parameter points to has none. -/
theorem returnThruPtr_const (s : Settings) (p : Prototype) {a : Argument} (ha : a ∈ p.args)
    (hconst : a.isConst = false) {pointee : String} (htype : a.type = pointee ++ "*") :
    ∃ fields declared defined type,
      returnThruPtr.textOn s (.of p) .callFields = .ok fields ∧
      returnThruPtr.textOn s (.of p) .declarations = .ok declared ∧
      returnThruPtr.textOn s (.of p) .interfaces = .ok defined ∧
      StandsIn ("  " ++ type ++ " ReturnThruPtr_" ++ a.name ++ "_Val;") fields ∧
      StandsIn (outputHeader p.name a.name type ++ ";") declared ∧
      StandsIn (outputHeader p.name a.name type) defined ∧
      (∃ base rest, base ++ "*" ++ rest = a.type ∧ '*' ∉ base.toList ∧
        type = base ++ " const*" ++ rest) ∧
      (type = pointee ++ " const*" ↔ '*' ∉ pointee.toList) := by
  have hstar : '*' ∈ a.type.toList := by simp [htype]
  have hout := mem_outputs (s := s) ha hconst hstar
  refine ⟨_, _, _, pointsToConst a.type, textOn_of .., textOn_of .., textOn_of .., ?_, ?_, ?_,
    exists_pointsToConst hstar, by rw [htype]; exact pointsToConst_eq_iff⟩
  · exact ((StandsIn.first _ _).later _).trans (.intercalate (mem_map_of_mem hout))
  · refine .intercalate (mem_flatMap.mpr ⟨a, hout, ?_⟩)
    rw [outputHeader_append]
    exact mem_of_getLast? rfl
  · refine .trans ?_ (.intercalate (mem_map_of_mem hout))
    rw [outputHeader_eq]
    exact .function _ _

theorem returnThruPtr_const_filling :
    let s : Settings := ⟨.data, false, false, false, false, true, false, false, false, [], [], [],
      none, false, false, .list []⟩
    ∃ fields declared defined,
      returnThruPtr.textOn s (.of Sample.filling) .callFields = .ok fields ∧
      returnThruPtr.textOn s (.of Sample.filling) .declarations = .ok declared ∧
      returnThruPtr.textOn s (.of Sample.filling) .interfaces = .ok defined ∧
      StandsIn "  int const* ReturnThruPtr_cells_Val;" fields ∧
      StandsIn (outputHeader "fill" "cells" "int const*" ++ ";") declared ∧
      StandsIn (outputHeader "fill" "cells" "int const*") defined := by
  intro s
  obtain ⟨fields, declared, defined, type, hfields, hdeclared, hdefined, hfield,
    hprototype, hheader, -, htype⟩ := returnThruPtr_const s Sample.filling mem_cons_self rfl
      (show "int*" = "int" ++ "*" from rfl)
  obtain rfl := htype.mpr (by decide)
  exact ⟨fields, declared, defined, hfields, hdeclared, hdefined, hfield, hprototype, hheader⟩

/-- Of a pointer to a pointer, `const` stands in front of the inner star. -/
theorem returnThruPtr_const_inner :
    let s : Settings := ⟨.data, false, false, false, false, true, false, false, false, [], [], [],
      none, false, false, .list []⟩
    let cells : Argument :=
      { type := "int**", name := "cells", isPtr := true, isConst := false, isConstPtr := false }
    returnThruPtr.textOn s (.of { Sample.filling with args := [cells] }) .callFields =
      .ok ("  char ReturnThruPtr_cells_Used;\n  int const** ReturnThruPtr_cells_Val;\n" ++
        "  size_t ReturnThruPtr_cells_Size;\n") := by
  rfl

end Plugin

end MockGen
