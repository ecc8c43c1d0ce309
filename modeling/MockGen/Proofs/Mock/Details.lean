import MockGen.Proofs.Mock.Setup
import MockGen.Proofs.Mock.Traits
import MockGen.Proofs.Plugin.Interface

/-!
# Details in the body of a mocked function

For the messages of failed checks the body notes which function and which parameter are checked, and
it clears these details on every way out.  That the lines of a text keep to this is shown line by
line: in front of each, either nothing is known, or that the details are cleared.
-/

namespace MockGen

open List Text Outcome
open String hiding append_assoc lines

variable {t l : String} {p : Prototype}

namespace Code

/-- What a line begins with that leaves the function around it. -/
def exits : List (List Char) :=
  ["return ".toList, "return;".toList, "Throw(".toList]

/-- The line without the blanks in front of it. -/
def statement (line : String) : List Char :=
  line.toList.dropWhile (· == ' ')

def leaves (line : String) : Bool :=
  exits.any (·.isPrefixOf (statement line))

/-- No macro in the text sets details. -/
structure Quiet (t : String) : Prop where
  apart : ¬"UNITY_SET_DETAIL".toList <:+: t.toList

/-- Of the macros in the text that set or clear details, the last clears them. -/
def Cleared (t : String) : Prop :=
  ∃ u v, t = u ++ "UNITY_CLR_DETAILS" ++ v ∧ Quiet v

/-- Lines, of which each that leaves the function stands behind cleared details. -/
inductive Tidy : List String → Prop where
  | nil : Tidy []
  | concat {ls : List String} {l : String} (before : Tidy ls) (lacks : Lacks '\n' l)
      (cleared : leaves l = true → Cleared (lines ls)) : Tidy (ls ++ [l])

variable {blanks : String}

/-! ## Texts that set no details -/

namespace Quiet

variable {t u : String}

theorem of_hasPart (h : hasPart "UNITY_SET_DETAIL".toList t.toList = false) :
    Quiet t :=
  ⟨fun hset => Bool.false_ne_true (h.symm.trans (hasPart_iff.mpr hset))⟩

theorem fixed {l : List Char} (h : hasPart "UNITY_SET_DETAIL".toList l = false) :
    Quiet (String.ofList l) :=
  of_hasPart (by rwa [@String.toList_ofList l])

theorem of_apart (h : ¬"UNITY_".toList <:+: t.toList) : Quiet t :=
  ⟨fun hset => h (.trans ⟨[], "SET_DETAIL".toList, by decide⟩ hset)⟩

theorem append_of (ht : Quiet t) (hu : Quiet u) (h : ∀ x y, "UNITY_SET_DETAIL".toList = x ++ y →
    x <:+ t.toList → y <+: u.toList → x = [] ∨ y = []) : Quiet (t ++ u) := by
  constructor
  rw [toList_append, infix_append_iff]
  rintro (hset | hset | ⟨x, y, hset, hx, hy⟩)
  · exact ht.apart hset
  · exact hu.apart hset
  · rcases h x y hset hx hy with rfl | rfl
    · exact hu.apart (hset ▸ hy.isInfix)
    · exact ht.apart (hset ▸ (append_nil x).symm ▸ hx.isInfix)

theorem append_lacks (ht : Quiet t) (hu : Lacks 'L' u) : Quiet (t ++ u) := by
  refine ht.append_of ⟨fun hset => hu.notMem (hset.subset (by decide))⟩ fun x y hset _ hy => ?_
  rcases eq_nil_or_concat' y with rfl | ⟨y, c, rfl⟩
  · exact .inr rfl
  · have hlast := congrArg List.getLast? hset
    rw [← append_assoc, getLast?_concat] at hlast
    obtain rfl : 'L' = c := Option.some.inj ((by decide : some 'L' = _).trans hlast)
    exact absurd (hy.subset (by simp)) hu.notMem

theorem append {c : Char} (ht : Quiet t) (hlast : t.toList.getLast? = some c)
    (hc : c ∉ "UNITY_SET_DETAIL".toList) (hu : Quiet u) : Quiet (t ++ u) := by
  refine ht.append_of hu fun x y hset hx _ => ?_
  rcases eq_nil_or_concat' x with rfl | ⟨x, d, rfl⟩
  · exact .inl rfl
  · obtain ⟨z, hz⟩ := hx
    rw [← hz, ← append_assoc, getLast?_concat] at hlast
    cases hlast
    exact absurd (by simp [hset]) hc

theorem indent (h : ∀ c ∈ blanks.toList, c = ' ') (hu : Quiet u) : Quiet (blanks ++ u) := by
  have hset : ' ' ∉ "UNITY_SET_DETAIL".toList := by decide
  refine append_of ⟨fun hpart => ?_⟩ hu fun x y hxy hx _ => .inl ?_
  · exact hset (h 'U' (hpart.subset (by decide)) ▸ by decide)
  · refine eq_nil_iff_forall_not_mem.mpr fun c hc => hset ?_
    rw [hxy, ← h c (hx.subset hc)]
    exact mem_append_left _ hc

end Quiet

theorem Cleared.append_left (h : Cleared t) (u : String) : Cleared (u ++ t) := by
  obtain ⟨v, w, rfl, hw⟩ := h
  exact ⟨u ++ v, w, by simp only [String.append_assoc], hw⟩

theorem Cleared.append_line (h : Cleared t) (hl : Quiet l) : Cleared (t ++ "\n" ++ l) := by
  obtain ⟨u, v, rfl, hv⟩ := h
  refine ⟨u, v ++ "\n" ++ l, by simp only [String.append_assoc],
    (hv.append_lacks (.fixed rfl)).append (c := '\n') ?_ (by decide) hl⟩
  rw [toList_append, getLast?_append]
  rfl

/-! ## Lines that stay in a function -/

/-- The start of a line that does not leave a function, however the line goes on. -/
structure Stays (t : String) : Prop where
  lacks : Lacks '\n' t
  apart : ∀ exit ∈ exits, ¬exit <+: statement t ∧ ¬statement t <+: exit

theorem statement_indent (h : ∀ c ∈ blanks.toList, c = ' ') (t : String) :
    statement (blanks ++ t) = statement t := by
  unfold statement
  rw [toList_append, dropWhile_append_of_pos fun c hc => by simp [h c hc]]

theorem statement_append (h : statement t ≠ []) (u : String) :
    statement (t ++ u) = statement t ++ u.toList := by
  unfold statement at h ⊢
  rw [toList_append, dropWhile_append, if_neg (by simpa using h)]

theorem leaves_eq_false_iff : leaves l = false ↔ ∀ exit ∈ exits, ¬exit <+: statement l := by
  simp [leaves, ← List.isPrefixOf_iff_prefix]

namespace Stays

variable {t u : String}

theorem fixed {l : List Char} (h : decide ('\n' ∉ l ∧ ∀ exit ∈ exits,
      ¬exit <+: l.dropWhile (· == ' ') ∧ ¬l.dropWhile (· == ' ') <+: exit) = true) :
    Stays (String.ofList l) := by
  rw [decide_eq_true_iff] at h
  exact ⟨.ofList h.1, by simpa only [statement, toList_ofList] using h.2⟩

theorem append (ht : Stays t) (hu : Lacks '\n' u) : Stays (t ++ u) := by
  have hne : statement t ≠ [] := fun hnil =>
    (ht.apart "return ".toList (by decide)).2 (hnil ▸ nil_prefix)
  refine ⟨ht.lacks.append hu, fun exit hexit => ?_⟩
  rw [statement_append hne]
  obtain ⟨hfirst, hsecond⟩ := ht.apart exit hexit
  refine ⟨fun hlong => ?_, fun hshort => hsecond ((prefix_append _ _).trans hshort)⟩
  exact (List.prefix_or_prefix_of_prefix hlong (prefix_append _ _)).elim hfirst hsecond

theorem leaves_eq (ht : Stays t) : leaves t = false :=
  leaves_eq_false_iff.mpr fun exit hexit => (ht.apart exit hexit).1

theorem indent (h : ∀ c ∈ blanks.toList, c = ' ') (ht : Stays t) : Stays (blanks ++ t) :=
  ⟨.append ⟨fun hline => by simpa using h _ hline⟩ ht.lacks, statement_indent h t ▸ ht.apart⟩

/-- A line that has gone on for long does not come to leave. -/
theorem of_long (hline : Lacks '\n' t) (hlong : 7 < (statement t).length) (h : leaves t = false) :
    Stays t := by
  refine ⟨hline, fun exit hexit => ⟨leaves_eq_false_iff.mp h exit hexit, fun hshort => ?_⟩⟩
  have hexits : ∀ exit ∈ exits, exit.length ≤ 7 := by decide
  exact absurd (hshort.length_le.trans (hexits exit hexit)) hlong.not_ge

theorem mockField {f name : String} (hf : Lacks '\n' f) (hname : Lacks '\n' name) :
    Stays (mockField f name) := by
  unfold Code.mockField
  exact ((append (.fixed rfl) hf).append (.fixed rfl)).append hname

theorem callField {name : String} (hname : Lacks '\n' name) : Stays (callField name) := by
  unfold Code.callField
  exact append (.fixed rfl) hname

end Stays

/-! ## Keeping the lines of a text tidy -/

/-- The text is of tidy lines; the last one may go on. -/
def Fine (t : String) : Prop :=
  ∃ ls last, t = lines ls ++ last ∧ Tidy ls ∧ (last = "" ∨ Stays last)

/-- The text is of tidy lines, and the details are cleared behind it. -/
def Ready (t : String) : Prop :=
  ∃ ls front, t = lines ls ∧ Tidy ls ∧ t = front ++ "\n" ∧ Cleared front

/-- Behind a text that is `P`, the text `t` leads to one that is `Q`. -/
structure Leads (P : String → Prop) (t : String) (Q : String → Prop) : Prop where
  behind : ∀ before, P before → Q (before ++ t)

theorem lines_concat (ls : List String) (l : String) :
    lines (ls ++ [l]) = lines ls ++ (l ++ "\n") := by
  simp [lines_append]

theorem Fine.exists_lines (h : Fine t) (hline : Lacks '\n' l) (hl : leaves l = false) :
    ∃ ls, t ++ (l ++ "\n") = lines ls ∧ Tidy ls := by
  obtain ⟨ls, last, rfl, hls, hlast⟩ := h
  have hjoined : Lacks '\n' (last ++ l) ∧ leaves (last ++ l) = false := by
    rcases hlast with rfl | hlast
    · simpa using ⟨hline, hl⟩
    · exact ⟨hlast.lacks.append hline, (hlast.append hline).leaves_eq⟩
  refine ⟨ls ++ [last ++ l], ?_, .concat hls hjoined.1 (by simp [hjoined.2])⟩
  simp only [lines_concat, String.append_assoc]

theorem Ready.fine (h : Ready t) : Fine t := by
  obtain ⟨ls, front, ht, hls, -, -⟩ := h
  exact ⟨ls, "", by simpa using ht, hls, .inl rfl⟩

namespace Leads

variable {P Q R : String → Prop} {t u l : String} {ls : List String}

theorem nil : Leads P "" P :=
  ⟨fun before h => by rwa [append_empty]⟩

theorem append (ht : Leads P t Q) (hu : Leads Q u R) : Leads P (t ++ u) R :=
  ⟨fun before h => String.append_assoc ▸ hu.behind _ (ht.behind before h)⟩

theorem cons (hl : Leads P (l ++ "\n") Q) (hls : Leads Q (lines ls) R) :
    Leads P (lines (l :: ls)) R :=
  hl.append hls

theorem forget (h : Leads P t Ready) : Leads P t Fine :=
  ⟨fun before hP => (h.behind before hP).fine⟩

theorem stay (hline : Lacks '\n' l) (hl : leaves l = false) : Leads Fine (l ++ "\n") Fine := by
  refine ⟨fun before hbefore => ?_⟩
  obtain ⟨ls, htext, hls⟩ := hbefore.exists_lines hline hl
  exact ⟨ls, "", by rw [htext, append_empty], hls, .inl rfl⟩

theorem clear (hline : Lacks '\n' l) (hl : leaves l = false) (hclear : Cleared l) :
    Leads Fine (l ++ "\n") Ready := by
  refine ⟨fun before hbefore => ?_⟩
  obtain ⟨ls, htext, hls⟩ := hbefore.exists_lines hline hl
  exact ⟨ls, before ++ l, htext, hls, String.append_assoc.symm, hclear.append_left before⟩

theorem quiet (hline : Lacks '\n' l) (hl : Quiet l) : Leads Ready (l ++ "\n") Ready := by
  constructor
  rintro _ ⟨ls, front, rfl, hls, hfront, hclear⟩
  refine ⟨ls ++ [l], front ++ "\n" ++ l, (lines_concat ls l).symm, .concat hls hline fun _ => ?_,
    by simp only [hfront, String.append_assoc], hclear.append_line hl⟩
  rw [hfront, ← append_empty (s := front ++ "\n")]
  exact hclear.append_line (.fixed rfl)

theorem unfinished (ht : Stays t) : Leads Fine t Fine := by
  constructor
  rintro _ ⟨ls, last, rfl, hls, hlast⟩
  refine ⟨ls, last ++ t, String.append_assoc, hls, .inr ?_⟩
  rcases hlast with rfl | hlast
  · rwa [empty_append]
  · exact hlast.append ht.lacks

theorem stays (hl : Stays l) (hls : Leads Fine (lines ls) P) : Leads Fine (lines (l :: ls)) P :=
  .cons (.stay hl.lacks hl.leaves_eq) hls

theorem lines_append {ms : List String} (hls : Leads P (lines ls) P) (hms : Leads P (lines ms) P) :
    Leads P (lines (ls ++ ms)) P :=
  Code.lines_append ls ms ▸ hls.append hms

theorem only {condition : Bool} (h : Leads P (lines ls) P) :
    Leads P (lines (only condition ls)) P := by
  cases condition with
  | false => exact nil
  | true => exact h

/-- Lines, of which the last is left unfinished. -/
theorem intercalate (h : ∀ l ∈ ls, Stays l) : Leads Fine ("\n".intercalate ls) Fine := by
  induction ls with
  | nil => exact nil
  | cons l ls ih =>
    rw [forall_mem_cons] at h
    cases ls with
    | nil =>
      rw [String.intercalate_singleton]
      exact unfinished h.1
    | cons m ls =>
      rw [String.intercalate_cons_cons]
      exact append (stay h.1.lacks h.1.leaves_eq) (ih h.2)

end Leads

end Code

/-! ## Checks of parameters -/

open Code

namespace Expectation

variable {s : Settings} {e : Elements} {a : Argument} {c : Comparison}

theorem lacks_depth (hname : Lacks '\n' a.name) : Lacks '\n' (depth e a) := by
  unfold depth
  split
  · apply_rules [Lacks.append, lacks_callField] <;> exact .fixed rfl
  · exact .fixed rfl

theorem leads_nullGuarded {expected asserted actual check : String} (hname : Lacks '\n' a.name)
    (hexpected : Lacks '\n' expected) (hasserted : Lacks '\n' asserted)
    (hactual : Lacks '\n' actual) (hcheck : Stays check) :
    Leads Fine (lines (nullGuarded e a expected asserted actual check)) Fine := by
  have hdepth := lacks_depth (e := e) hname
  have hcheck := hcheck.lacks
  unfold nullGuarded
  simp only [toString_text]
  apply_rules [Leads.lines_append, Leads.only, Leads.stays, Leads.nil, Stays.append,
    Lacks.append] <;> exact .fixed rfl

theorem stays_same {assertion expected actual size count : String}
    (hassertion : Stays (assertion ++ "(")) (hexpected : Lacks '\n' expected)
    (hactual : Lacks '\n' actual) (hsize : Lacks '\n' size) (hcount : Lacks '\n' count) :
    Stays (sameMemory expected actual size) ∧ Stays (sameMemories expected actual size count) ∧
      Stays (sameElements assertion expected actual count) ∧
      Stays (sameValues assertion expected actual) := by
  unfold sameMemory sameMemories sameElements sameValues
  simp only [toString_text]
  refine ⟨?_, ?_, ?_, ?_⟩
  all_goals apply_rules [hassertion, Stays.append, Lacks.append] <;> exact .fixed rfl

theorem leads_compared (hname : Lacks '\n' a.name) (htype : Lacks '\n' a.type)
    (hc : Stays (c.assertion ++ "(")) : Leads Fine (lines (compared e c a)) Fine := by
  have haccess : Lacks '\n' c.access.text := by
    cases c.access <;> exact .fixed rfl
  have hactual := haccess.append hname
  have hexpected : Lacks '\n' (c.access.text ++ callField ("Expected_" ++ a.name)) :=
    haccess.append (lacks_callField (.append (.fixed rfl) hname))
  obtain ⟨hmemory, hmemories, helements, hvalues⟩ := stays_same hc hexpected hactual
    (lacks_dropTrailing '*' htype) (lacks_depth (e := e) hname)
  have hindented {t : String} (ht : Stays t) : Leads Fine (lines ["    " ++ t]) Fine :=
    .stays (ht.indent (by decide)) .nil
  unfold compared
  dsimp only
  split_ifs
  · exact hindented hmemory
  · exact hindented hmemories
  · exact hindented hmemory
  iterate 4 exact leads_nullGuarded hname hexpected (by assumption) hactual (by assumption)
  · exact hindented helements
  · exact leads_nullGuarded hname hexpected hactual hactual helements
  · exact hindented hvalues

theorem leads_verifyAll (hp : p.Lacks '\n')
    (hs : ∀ a c, s.comparison a = .ok c → Stays (c.assertion ++ "(")) (ht : verifyAll s p = .ok t) :
    Leads Fine t Fine := by
  obtain ⟨checks, hchecks, hpure⟩ := bind_eq_ok.mp ht
  cases hpure
  refine concat_of_forall (P := fun u => Leads Fine u Fine) .nil .append fun u hu => ?_
  obtain ⟨a, ha, hverify⟩ := (mem_mapM_iff hchecks).mp hu
  obtain ⟨e, c, -, hc, rfl⟩ := verify_eq_ok hverify
  have hf := hp.name
  have hname := hp.argName a ha
  unfold checked
  simp only [toString_text]
  refine .lines_append (.lines_append (.lines_append (.only ?_) ?_)
    (leads_compared hname (hp.argType a ha) (hs a c hc))) ?_
  all_goals
    apply_rules [Leads.stays, Leads.nil, Stays.append, Lacks.append, lacks_callField] <;>
      exact .fixed rfl

end Expectation

/-! ## The body of a mocked function -/

/-- The texts of the prototype neither end lines nor set details, and a declaration with its result
type does not leave a function. -/
structure Prototype.Discreet (p : Prototype) : Prop extends p.Lacks '\n' where
  name_apart : ¬"UNITY_".toList <:+: p.name.toList
  type_apart : ¬"UNITY_".toList <:+: p.returned.type.toList
  type_stays : leaves (p.returned.type ++ " cmock_cb_ret") = false

namespace Plugin

open Expectation

variable {s : Settings} {p : Prototype} (hp : p.Discreet) {ls : List String} {Q : String → Prop}

theorem leads_clear (h : Leads Ready (lines ls) Q) :
    Leads Fine (lines ("    UNITY_CLR_DETAILS();" :: ls)) Q :=
  .cons (.clear (.fixed rfl) (by decide) ⟨"    ", "();", by decide, .fixed rfl⟩) h

theorem leads_quiet (hline : Lacks '\n' l) (hl : Quiet l) (h : Leads Ready (lines ls) Q) :
    Leads Ready (lines (l :: ls)) Q :=
  .cons (.quiet hline hl) h

/-- Behind a text that is fixed, lines that are fixed. -/
theorem leads_fixed
    (h : ∀ l ∈ ls, '\n' ∉ l.toList ∧ hasPart "UNITY_SET_DETAIL".toList l.toList = false) :
    Leads Ready (lines ls) Ready := by
  induction ls with
  | nil => exact .nil
  | cons l ls ih =>
    rw [forall_mem_cons] at h
    exact leads_quiet ⟨h.1.1⟩ (.of_hasPart h.1.2) (ih h.2)

include hp

theorem stays_callbackCall : Stays (callbackCall s p) := by
  have hname := hp.name
  have hactuals : Lacks '\n' (commas (p.args.map (·.name) ++
      only s.countsCalls [mockField p.name "CallbackCalls" ++ "++"])) := by
    refine .intercalate (.fixed rfl) (forall_mem_append.mpr
      ⟨forall_mem_map.mpr hp.argName, forall_mem_only.mpr fun _ =>
        forall_mem_singleton.mpr ?_⟩)
    apply_rules [Lacks.append, lacks_mockField] <;> exact .fixed rfl
  unfold callbackCall
  simp only [toString_text]
  apply_rules [Stays.append, Stays.mockField] <;> exact .fixed rfl

theorem quiet_final : Quiet (mockField p.name "FinalReturn") := by
  unfold mockField
  exact ((Quiet.append (.fixed rfl) rfl (by decide)
    (.of_apart hp.name_apart)).append_lacks (.fixed rfl)).append_lacks (.fixed rfl)

theorem leads_assign {indent : String} (hindent : ∀ c ∈ indent.toList, c = ' ') :
    Leads Ready (indent ++ assign s (mockField p.name "FinalReturn") (callField "ReturnVal")
      p.returned.type p.returned.isPtr) Ready := by
  have hname := hp.name
  have htype := hp.returnedType
  have hstored := Quiet.of_apart hp.type_apart
  have hresult : Lacks 'L' (callField "ReturnVal") := .callField (by decide) (.fixed rfl)
  have hblanks : Lacks '\n' indent := ⟨fun hline => by simpa using hindent _ hline⟩
  have hindented {l : String} {ls : List String} :
      indent ++ lines (l :: ls) = lines ((indent ++ l) :: ls) := by
    simp only [lines_cons, String.append_assoc]
  unfold assign
  simp only [toString_text]
  split
  all_goals
    rw [hindented]
    refine leads_quiet ?_ (.indent hindent ((((Quiet.append (.fixed rfl) rfl (by decide)
      (quiet_final hp)).append_lacks (.fixed rfl)).append_lacks hresult).append_lacks
      (.fixed rfl))) ?_
    · apply_rules [Lacks.append, lacks_callField, lacks_mockField] <;> exact .fixed rfl
  · exact .nil
  · refine leads_quiet ?_ ?_ .nil
    · apply_rules [Lacks.append, lacks_callField] <;> exact .fixed rfl
    · have hfirst := ((Quiet.append (t := "         sizeof(") (.fixed rfl) rfl
        (by decide) hstored).append_lacks (u := "[sizeof(") (.fixed rfl)).append_lacks hresult
      refine (((hfirst.append_lacks (.fixed rfl)).append (c := '(') ?_ (by decide)
        hstored).append_lacks (.fixed rfl)).append_lacks (.fixed rfl)
      rw [toList_append, getLast?_append]
      rfl

theorem leads_leaveIgnored {indent : String} (hindent : ∀ c ∈ indent.toList, c = ' ') :
    Leads Fine (leaveIgnored s indent p) Fine := by
  have hname := hp.name
  unfold leaveIgnored
  simp only [toString_text]
  refine .forget (.append ((?_ : Leads Fine _ Ready)) ?_)
  · refine .stays ?_ (.stays (.fixed rfl) (leads_clear .nil))
    apply_rules [Stays.append, Lacks.append, lacks_mockField] <;> exact .fixed rfl
  · split
    · exact leads_fixed (by decide)
    · rw [@String.append_assoc (lines _)]
      refine .append (.append (leads_quiet (.fixed rfl) (.fixed rfl)
        (leads_quiet ?_ ?_ .nil)) (leads_assign hp hindent)) ?_
      · apply_rules [Lacks.append, lacks_mockField] <;> exact .fixed rfl
      · exact (Quiet.append (.fixed rfl) rfl (by decide) (quiet_final hp)).append_lacks (.fixed rfl)
      · unfold callField
        exact leads_fixed (by decide)

theorem leads_precheck (plugin : Plugin) : Leads Fine (precheck s plugin p) Fine := by
  cases plugin with
  | ignore => exact leads_leaveIgnored hp (by decide)
  | ignoreStateless => exact leads_leaveIgnored hp (by decide)
  | callback =>
    have hname := hp.name
    have htype := hp.returnedType
    have hcall := stays_callbackCall (s := s) hp
    have hdeclared : " cmock_cb_ret = " = " cmock_cb_ret" ++ " = " := by decide
    rw [precheck]
    simp only [toString_text]
    refine .lines_append (.lines_append (.stays ?_ (.stays ?_ (.stays ?_ .nil))) ?_)
      (.stays (.fixed rfl) .nil)
    · apply_rules [Stays.append, Lacks.append, lacks_mockField] <;> exact .fixed rfl
    · exact (Stays.indent (by decide) (.mockField hname (.fixed rfl))).append (.fixed rfl)
    · exact .fixed rfl
    · split
      · exact .stays ((hcall.indent (by decide)).append (.fixed rfl))
          (leads_clear (.forget (leads_fixed (by decide))))
      · refine .stays ?_ (leads_clear (.forget (leads_fixed (by decide))))
        have hcall := hcall.lacks
        have hlong : 7 < (statement (p.returned.type ++ " cmock_cb_ret")).length := by
          unfold statement
          rw [toList_append, dropWhile_append]
          split <;> simp
        have hstart : Stays (p.returned.type ++ " cmock_cb_ret") :=
          .of_long (htype.append (.fixed rfl)) hlong hp.type_stays
        simp only [hdeclared, String.append_assoc]
        rw [← @String.append_assoc p.returned.type]
        refine .indent (by decide) (hstart.append ?_)
        apply_rules [Lacks.append] <;> exact .fixed rfl
  | _ => exact .nil

omit hp in
theorem stays_copyOut {a : Argument} (hname : Lacks '\n' a.name) : ∀ l ∈ copyOut a, Stays l := by
  unfold copyOut
  simp only [toString_text, forall_mem_cons, not_mem_nil, false_imp_iff, implies_true,
    and_true]
  refine ⟨?_, .fixed rfl, ?_, ?_, ?_, .fixed rfl⟩
  case refine_4 =>
    refine .append (.indent (by decide) (.callField ?_)) (.fixed rfl)
    apply_rules [Lacks.append] <;> exact .fixed rfl
  all_goals apply_rules [Stays.append, Lacks.append, lacks_callField] <;> exact .fixed rfl

theorem leads_action (plugin : Plugin) : Leads Fine (action s plugin p) Fine := by
  cases plugin with
  | callback =>
    have hname := hp.name
    have hcall := stays_callbackCall (s := s) hp
    rw [action]
    simp only [toString_text]
    refine .stays ?_ (.stays (.fixed rfl) (.stays ?_ (.stays (.fixed rfl) .nil)))
    · apply_rules [Stays.append, Lacks.append, lacks_mockField] <;> exact .fixed rfl
    · split
      · exact (hcall.indent (by decide)).append (.fixed rfl)
      · exact ((((Stays.callField (.fixed rfl)).indent (by decide)).append
          (.fixed rfl)).append hcall.lacks).append (.fixed rfl)
  | exceptions =>
    rw [action]
    simp only [toString_text]
    refine .stays ?_ (.stays (.fixed rfl) (leads_clear (.forget ?_)))
    · apply_rules [Stays.append, Lacks.append, lacks_callField] <;> exact .fixed rfl
    · unfold callField
      exact leads_fixed (by decide)
  | returnThruPtr =>
    refine .intercalate fun l hl => ?_
    obtain ⟨a, ha, hl⟩ := mem_flatMap.mp hl
    exact stays_copyOut (hp.argName a (mem_of_mem_filter ha)) l hl
  | _ => exact .nil

theorem leads_implementation (hs : ∀ a c, s.comparison a = .ok c → Stays (c.assertion ++ "("))
    {plugin : Plugin} (ht : implementation s plugin p = .ok t) : Leads Fine t Fine := by
  cases plugin with
  | expect =>
    obtain ⟨checks, hchecks, hpure⟩ := bind_eq_ok.mp ht
    cases hpure
    have hchecks := leads_verifyAll hp.toLacks hs hchecks
    unfold guardCheck
    split
    · exact hchecks
    · split
      · exact .nil
      · refine .append (.append (.stays ?_ (.stays (.fixed rfl) .nil)) hchecks)
          (.stays (.fixed rfl) .nil)
        simp only [toString_text]
        apply_rules [Stays.append, Lacks.append, lacks_callField] <;> exact .fixed rfl
  | _ =>
    cases ht
    exact leads_action hp _

end Plugin

namespace Comparisons

theorem makes_stays : Makes (Lacks '\n') fun t => Stays (t ++ "(") where
  empty := .fixed (l := "(".toList) rfl
  word {t} ht hstart := by
    have hlacks : Lacks '\n' t := (Spreads.lacks (by decide)).word ht
    obtain ⟨rest, hrest⟩ := hstart
    obtain rfl : "UNITY_TEST_ASSERT_EQUAL" ++ String.ofList rest = t :=
      toList_injective (by simpa using hrest)
    refine .append (.append (.fixed rfl) ⟨fun hline => hlacks.notMem ?_⟩) (.fixed rfl)
    rw [toList_append]
    exact mem_append_right _ hline
  kind hk := .append (.append (.fixed rfl) hk) (.fixed rfl)
  array hk := .append (.append (.append (.fixed rfl) hk) (.fixed rfl)) (.fixed rfl)
  starred hk :=
    .append (.append (.append (.fixed rfl) ((Spreads.lacks (by decide)).dropStars hk)) (.fixed rfl))
      (.fixed rfl)

end Comparisons

namespace Generator

open Output

variable {g : Generator} {o : Options} {d : Draft} {t : String}

/-- What stands between the braces of a mocked function. -/
def mockBody (g : Generator) (d : Draft) : List Chunk :=
  [.ok (lines ["  UNITY_LINE_TYPE cmock_line = TEST_LINE_NUM;"]),
    d.render [.shown .name] bodyStart,
    g.plugins.textOn .precheck d,
    .ok (callCheck g),
    g.plugins.textOn .implementation d,
    .ok (lines ["  UNITY_CLR_DETAILS();"]),
    d.render [.returnVoid] fun p =>
      let result := callField "ReturnVal"
      lines (only (!p.returned.isVoid) [s!"  return {result};"])]

theorem exists_body (h : Says (g.mockFunction d) t) :
    ∃ front body back, t = front ++ "\x7b\n" ++ body ++ "\x7d\n" ++ back ∧
      Says (g.mockBody d) body := by
  have hhead : ")\n" = ")" ++ "\n" := by decide
  have hopen : "\x7b\n" = "\x7b" ++ "\n" := by decide
  have hclose : "\x7d\n" = "\x7d" ++ "\n" := by decide
  obtain ⟨front, _, -, hrest, rfl⟩ := Says.append_iff.mp h
  obtain ⟨head, _, hstart, hmore, rfl⟩ := Says.cons_iff.mp hrest
  obtain ⟨inner, _, hinner, hend, rfl⟩ :=
    (@Says.append_iff [_, _, _, _, _] [_, _, _] _).mp hmore
  obtain ⟨last, back, hlast, -, rfl⟩ := Says.cons_iff.mp hend
  obtain rfl := Draft.eq_of_render hstart
  obtain ⟨_, hvoid, hpure⟩ := bind_eq_ok.mp hlast
  cases hpure
  refine ⟨front ++ (resultType d.fill ++ " " ++ owner d.fill ++ d.fill.unscopedName ++ "(" ++
    parameterText d.fill ++ ")\n"), _, back, ?_, Says.cons_iff.mpr ⟨_, _, rfl,
      (@Says.append_iff [_, _, _, _, _] [_] _).mpr ⟨inner, _, hinner, Says.singleton_iff.mpr
        (bind_eq_ok.mpr ⟨_, hvoid, rfl⟩), rfl⟩, rfl⟩⟩
  simp only [toString_text, lines_cons, lines_nil, lines_append, hhead, hopen, hclose,
    String.append_assoc, append_empty]

theorem leads_textOn {hook : Hook} (hplugin : ∀ plugin ∈ g.plugins.loaded, ∀ u,
      plugin.text g.plugins.settings d.fill hook = .ok u → Leads Fine u Fine) (t : String)
    (h : g.plugins.textOn hook d = .ok t) : Leads Fine t Fine :=
  Plugins.of_textOn (P := fun u => Leads Fine u Fine) .nil .append hplugin h

theorem leads_bodyStart (hname : Lacks '\n' p.name) : Leads Fine (bodyStart p) Fine := by
  have hchain : Stays (mockField p.name "CallInstance") := .mockField hname (.fixed rfl)
  unfold bodyStart
  simp only [toString_text]
  refine .stays ?_ (.stays ?_ (.stays ?_ (.stays (((hchain.indent (by decide)).append
    (.fixed rfl)).append hchain.lacks |>.append (.fixed rfl)) .nil)))
  all_goals apply_rules [Stays.append, Lacks.append, lacks_mockField] <;> exact .fixed rfl

theorem leads_callCheck : Leads Fine (callCheck g) Fine := by
  unfold callCheck
  simp only [toString_text]
  refine .lines_append ?_ (.only ?_)
  all_goals
    apply_rules [Leads.stays, Leads.nil, Stays.append, Lacks.append, lacks_callField] <;>
      exact .fixed rfl

theorem leads_mockBody (hd : d.fill.Discreet)
    (hs : ∀ a c, g.plugins.settings.comparison a = .ok c → Stays (c.assertion ++ "("))
    (h : Says (g.mockBody d) t) : Leads Fine t Ready := by
  obtain ⟨_, _, hchecks, hend, rfl⟩ := (@Says.append_iff [_, _, _, _, _] [_, _] _).mp h
  obtain ⟨_, _, hclear, hlast, rfl⟩ := Says.cons_iff.mp hend
  obtain rfl := Draft.eq_of_render (Says.singleton_iff.mp hlast)
  cases hclear
  refine .append (hchecks.of_forall (P := fun u => Leads Fine u Fine) .nil .append ?_)
    (.append (.cons (.clear (.fixed rfl) (by decide)
      ⟨"  ", "();", by decide, .fixed rfl⟩) .nil) ?_)
  · simp only [forall_mem_cons, not_mem_nil, false_imp_iff, implies_true, and_true]
    refine ⟨?_, ?_, leads_textOn fun plugin _ u hu => ?_, ?_,
      leads_textOn fun plugin _ u => Plugin.leads_implementation hd hs⟩
    · rintro _ ⟨⟩
      exact .stays (.fixed rfl) .nil
    · exact fun u hu => Draft.eq_of_render hu ▸ leads_bodyStart hd.name
    · cases hu
      exact Plugin.leads_precheck hd plugin
    · rintro _ ⟨⟩
      exact leads_callCheck
  · unfold callField
    exact .only (Plugin.leads_fixed (by decide))

/-- However the body of a mocked function is left, its details are cleared. -/
theorem mockFunction_leaves_cleared {given voids home frameworkDir : Value} {helped : Bool}
    {w w' : Workspace} (hmade : (ofValue given helped voids home frameworkDir).run w = (.ok g, w'))
    (hkinds : ∀ o v, (Options.resolve given).run w = (.ok o, v) →
      ∀ entry ∈ o.treatAs, Lacks '\n' entry.2.display)
    (hd : d.fill.Discreet) (h : Says (g.mockFunction d) t) :
    ∃ front body back ls, t = front ++ "\x7b\n" ++ body ++ "\x7d\n" ++ back ∧
      Says (g.mockBody d) body ∧ body = lines ls ∧ Tidy ls ∧ Cleared body := by
  obtain ⟨o, v, hresolve, hfollow, -⟩ := ofValue_eq_ok hmade
  obtain ⟨front, body, back, rfl, hbody⟩ := exists_body h
  have hleads := leads_mockBody hd (fun a c hc => hfollow.assertion_of_makes Comparisons.makes_stays
    (hkinds o v hresolve) hc) hbody
  obtain ⟨ls, shorter, hls, htidy, hlast, hclear⟩ := hleads.behind "" ⟨[], "", rfl, .nil, .inl rfl⟩
  rw [empty_append] at hls hlast
  refine ⟨front, body, back, ls, rfl, hbody, hls, htidy, ?_⟩
  rw [hlast, ← append_empty (s := shorter ++ "\n")]
  exact hclear.append_line (.fixed rfl)

theorem says_of_isOk {chunks : List Chunk} (h : (collect "" chunks).2.isOk = true) :
    Says chunks (collect "" chunks).1 := by
  refine Prod.ext rfl ?_
  cases hresult : (collect "" chunks).2 with
  | ok _ => rfl
  | error fault => simp [hresult, Except.isOk, Except.toBool] at h

theorem discreet_filling : Sample.filling.Discreet :=
  ⟨by decide +kernel, by rw [← hasPart_iff]; decide, by rw [← hasPart_iff]; decide,
    by decide⟩

/-- A mock that many plugins leave in between. -/
theorem mockFunction_leaves_cleared_filling :
    let given := .record [(":plugins", .texts ["ignore", "callback", "cexception", "array"])]
    let d := Draft.of Sample.filling
    ∃ g w t front body back ls,
      (ofValue given true (.list []) .null .null).run { strippables := [] } = (.ok g, w) ∧
      Says (g.mockFunction d) t ∧ t = front ++ "\x7b\n" ++ body ++ "\x7d\n" ++ back ∧
      Says (g.mockBody d) body ∧ body = lines ls ∧ Tidy ls ∧ Cleared body := by
  intro given d
  have hkinds : ((Options.resolve given).run { strippables := [] }).1.toOption.any (fun o =>
      decide (∀ entry ∈ o.treatAs, Lacks '\n' entry.2.display)) = true := by decide +kernel
  have hsaid : ((ofValue given true (.list []) .null .null).run
      { strippables := [] }).1.toOption.any (fun g => (collect "" (g.mockFunction d)).2.isOk) =
        true := by decide +kernel
  obtain ⟨g, w, hmade, hsays⟩ := Job.exists_run_of_any hsaid
  obtain ⟨front, body, back, ls, hbody⟩ := mockFunction_leaves_cleared hmade (fun o v hresolve => by
    rw [hresolve] at hkinds
    exact of_decide_eq_true hkinds) ((Draft.fill_of _).symm ▸ discreet_filling) (says_of_isOk hsays)
  exact ⟨g, w, _, front, body, back, ls, hmade, says_of_isOk hsays, hbody⟩

/-- A line of the body leaves the function, but no macro in front of it clears details. -/
def LeavesUncleared (given : Value) (p : Prototype) (line : String) : Prop :=
  leaves line = true ∧ ∃ g w before rest,
    (ofValue given true (.list []) .null .null).run { strippables := [] } = (.ok g, w) ∧
    Says (g.mockBody (.of p)) (before ++ ("\n" ++ line ++ "\n") ++ rest) ∧
    ¬"UNITY_CLR_DETAILS".toList <:+: before.toList

theorem leavesUncleared_of_run {given : Value} {line : String} (k : Nat)
    (hline : leaves line = true)
    (h : ((ofValue given true (.list []) .null .null).run { strippables := [] }).1.toOption.any
      (fun g =>
        let said := collect "" (g.mockBody (.of p))
        said.2.isOk && ("\n" ++ line ++ "\n").toList.isPrefixOf ((spelled said.1).drop k) &&
          !hasPart "UNITY_CLR_DETAILS".toList ((spelled said.1).take k)) = true) :
    LeavesUncleared given p line := by
  obtain ⟨g, w, hmade, hg⟩ := Job.exists_run_of_any h
  simp only [spelled_eq, Bool.and_eq_true, Bool.not_eq_true', List.isPrefixOf_iff_prefix] at hg
  obtain ⟨⟨hok, rest, hrest⟩, hclear⟩ := hg
  have hsays := says_of_isOk hok
  generalize (collect "" (g.mockBody (.of p))).1 = body at hrest hclear hsays
  refine ⟨hline, g, w, String.ofList (body.toList.take k), String.ofList rest, hmade, ?_, ?_⟩
  · convert hsays
    apply toList_injective
    simp only [toList_append, toList_ofList, append_assoc] at hrest ⊢
    rw [hrest, take_append_drop]
  · rwa [@String.toList_ofList (body.toList.take k), ← hasPart_iff, Bool.not_eq_true]

/-- A function that hands out values of a type with the name of a statement. -/
def returning : Prototype :=
  { Sample.emptying with
    returned := { Sample.emptying.returned with type := "return", isVoid := false } }

/-- A kind of comparison may end a line and return on the next one, and a result type may read like
a statement that returns. -/
theorem mockBody_leaves_uncleared :
    Sample.filling.Discreet ∧
      LeavesUncleared (.record [(":treat_as", .record [("int", .str "INT\nreturn ")])])
        Sample.filling
        "return (cmock_call_instance->Expected_count, count, cmock_line, CMockStringMismatch);" ∧
    returning.Lacks '\n' ∧ ¬"UNITY_".toList <:+: returning.name.toList ∧
      ¬"UNITY_".toList <:+: returning.returned.type.toList ∧
      ¬"return ".toList <+: returning.returned.type.toList ∧
      LeavesUncleared (.record [(":plugins", .texts ["callback"])]) returning
        ("    return cmock_cb_ret = " ++
          "Mock.empty_CallbackFunctionPointer(Mock.empty_CallbackCalls++);") := by
  refine ⟨discreet_filling, leavesUncleared_of_run 868 (by decide) (by decide +kernel),
    by decide +kernel, ?_, ?_, by decide,
    leavesUncleared_of_run 398 (by decide) (by decide +kernel)⟩
  · rw [← hasPart_iff]
    decide
  · rw [← hasPart_iff]
    decide

end Generator

end MockGen
