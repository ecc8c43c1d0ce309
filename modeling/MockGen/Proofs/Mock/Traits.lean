import MockGen.Proofs.Mock.Chunks
import MockGen.Proofs.Plugin.Hook
import MockGen.Proofs.Plugin.Traits

/-!
# Reading the source of a mock

Reading the source of a mock, from the types in front of its functions on.  The mock of a function
stands inside its namespaces; all else leaves nothing open.
-/

namespace MockGen

open Code Trait Output List Outcome Says Plugin

/-- Inside brackets, nothing else is open. -/
def Code.Cursor.within (due : List Char) : Cursor :=
  ⟨some due, .word false [], .plain⟩

-- Whole lines are read when their fixed texts are checked.
set_option maxRecDepth 8000

namespace Generator

variable {R : Trait} {g : Generator} {n : Names} {d : Draft} {functions : List Draft}
  {plugins : List Plugin} {t u : String} {scopes : List String}

theorem closes_textOn {hook : Hook} (hplugin : ∀ plugin ∈ g.plugins.loaded, ∀ u,
      plugin.text g.plugins.settings d.fill hook = .ok u → R.Closes .start u)
    (h : g.plugins.textOn hook d = .ok t) : R.Closes .start t :=
  Plugins.of_textOn R.empty .append hplugin h

theorem closes_forAll {chunk : Draft → Chunk}
    (hchunk : ∀ d ∈ functions, ∀ u, chunk d = .ok u → R.Closes .start u)
    (h : forAll functions chunk = .ok t) : R.Closes .start t := by
  obtain ⟨texts, htexts, hpure⟩ := bind_eq_ok.mp h
  cases hpure
  rw [join_eq_concat]
  refine .concat fun u hu => ?_
  obtain ⟨d, hd, hu⟩ := (mem_mapM_iff htexts).mp hu
  exact hchunk d hd u hu

/-! ## Types -/

theorem closes_callInstance (hp : d.fill.Fits R) (h : Says (g.callInstance d) t) :
    R.Closes .start t := by
  obtain ⟨head, _, hhead, hrest, rfl⟩ := cons_iff.mp h
  obtain ⟨fields, last, hfields, hlast, rfl⟩ := cons_iff.mp hrest
  obtain rfl := Draft.eq_of_render hhead
  obtain rfl := Draft.eq_of_render (singleton_iff.mp hlast)
  have hname := hp.name
  have hfields : R.Keeps fields := .ofCloses (closes_textOn (fun plugin _ u hu => by
    cases hu
    exact closes_callFields hp _ plugin) hfields)
  simp only [toString_text, flat_lines]
  apply_rules [fixed, last] <;> exact ⟨rfl⟩

theorem closes_functionFields (hp : d.fill.Fits R) (h : Says (g.functionFields d) t) :
    R.Closes .start t := by
  obtain ⟨fields, last, hfields, hlast, rfl⟩ := cons_iff.mp h
  obtain rfl := Draft.eq_of_render (singleton_iff.mp hlast)
  simp only [toString_text, String.append_assoc]
  refine .append (closes_textOn (fun plugin _ u hu => ?_) hfields) (.line (.around hp.name ⟨rfl⟩))
  cases hu
  exact closes_functionFields hp plugin

theorem closes_mockInstance (hn : R.Takes .stem n.cleanName)
    (hfunctions : ∀ d ∈ functions, d.fill.Fits R) (h : Says (g.mockInstance n functions) t) :
    R.Closes .start t := by
  obtain ⟨_, last, hfront, hlast, rfl⟩ := append_iff.mp h
  obtain ⟨head, _, hhead, hfields, rfl⟩ := append_iff.mp hfront
  cases singleton_iff.mp hhead
  cases singleton_iff.mp hlast
  have hfields := Keeps.ofCloses (hfields.of_flatMap R.empty .append fun d hd u hu =>
    closes_functionFields (hfunctions d hd) hu)
  have hholder : R.Keeps (lines (only functions.isEmpty ["  unsigned char placeHolder;"])) :=
    .ofCloses (.only fun _ => .line (.ofList ⟨rfl⟩))
  simp only [toString_text, flat_lines]
  apply_rules [fixed, last] <;> exact ⟨rfl⟩

/-! ## The functions that serve all tests -/

theorem closes_counters (g : Generator) : R.Closes .start (counters g) := by
  refine .lines_append (.only fun _ => ?_) (.line (.ofList ⟨rfl⟩))
  exact .lines_append (.line (.ofList ⟨rfl⟩)) (.line (.ofList ⟨rfl⟩))

theorem closes_initFunction (hn : R.Takes .stem n.cleanName) :
    R.Closes .start (initFunction n) := by
  unfold initFunction
  simp only [toString_text, flat_lines]
  apply_rules [fixed, last]
  exact ⟨rfl⟩

theorem closes_verification (hname : R.Takes .name d.fill.name)
    (hcovers : CoversMock R plugins d.fill) (hloaded : g.plugins.loaded ⊆ plugins)
    (h : g.verification d = .ok t) : R.Closes .start t := by
  obtain ⟨check, hcheck, h⟩ := bind_eq_ok.mp h
  dsimp only at h
  split at h
  · cases h
    exact R.empty
  · obtain rfl := Draft.eq_of_render h
    simp only [toString_text, String.append_assoc]
    refine .append (.line (.around hcovers.chain ⟨rfl⟩))
      (closes_textOn (fun plugin hmem u hu => ?_) hcheck)
    cases hu
    exact closes_verify hcovers hname (hloaded hmem)

section

variable (hn : R.Takes .stem n.cleanName) (hnames : ∀ d ∈ functions, R.Takes .name d.fill.name)
  (hcovers : ∀ d ∈ functions, CoversMock R plugins d.fill) (hloaded : g.plugins.loaded ⊆ plugins)

include hn hcovers hloaded

theorem closes_destroyFunction (h : Says (g.destroyFunction n functions) t) :
    R.Closes .start t := by
  obtain ⟨head, _, hhead, hrest, rfl⟩ := cons_iff.mp h
  obtain ⟨forget, _, hforget, hmore, rfl⟩ := cons_iff.mp hrest
  obtain ⟨ignored, last, hignored, hlast, rfl⟩ := cons_iff.mp hmore
  cases hhead
  cases singleton_iff.mp hlast
  have hforget : R.Keeps forget := .ofCloses (closes_forAll (fun d hd u hu =>
    closes_textOn (fun plugin _ v hv => by
      cases hv
      exact R.empty) hu) hforget)
  have hignored : R.Keeps ignored := by
    refine .ofCloses ?_
    split at hignored
    · cases hignored
      exact R.empty
    · refine closes_forAll (fun d hd u hu => closes_textOn (fun plugin hmem v hv => ?_) hu) hignored
      cases hv
      exact closes_ignoreFromStart (hcovers d hd) (hloaded hmem)
  have hcounts : R.Keeps (lines (only g.plugins.settings.ordered
      ["  GlobalExpectCount = 0;", "  GlobalVerifyOrder = 0;"])) :=
    .ofCloses (.only fun _ => .lines_append (.line (.ofList ⟨rfl⟩)) (.line (.ofList ⟨rfl⟩)))
  simp only [toString_text, flat_lines]
  apply_rules [fixed, last] <;> exact ⟨rfl⟩

include hnames

theorem closes_verifyFunction (h : Says (g.verifyFunction n functions) t) : R.Closes .start t := by
  obtain ⟨head, _, hhead, hrest, rfl⟩ := cons_iff.mp h
  obtain ⟨body, last, hbody, hlast, rfl⟩ := cons_iff.mp hrest
  cases hhead
  cases singleton_iff.mp hlast
  have hbody : R.Keeps body := by
    refine .ofCloses ?_
    cases hchecks : forAll functions g.verification with
    | error fault =>
      rw [hchecks] at hbody
      cases hbody
    | ok checks =>
      rw [hchecks] at hbody
      cases hbody
      dsimp only
      split
      · exact R.empty
      · refine .append (.lines_append (.line (.ofList ⟨rfl⟩)) (.line (.ofList ⟨rfl⟩))) ?_
        exact closes_forAll (fun d hd u hu =>
          closes_verification (hnames d hd) (hcovers d hd) hloaded hu) hchecks
  simp only [toString_text, flat_lines]
  apply_rules [fixed, last] <;> exact ⟨rfl⟩

theorem closes_services (h : Says (g.services n functions) t) : R.Closes .start t := by
  obtain ⟨_, destroy, hfront, hdestroy, rfl⟩ := append_iff.mp h
  obtain ⟨_, init, hstart, hinit, rfl⟩ := append_iff.mp hfront
  obtain ⟨count, verify, hcount, hverify, rfl⟩ := append_iff.mp hstart
  cases singleton_iff.mp hcount
  cases singleton_iff.mp hinit
  have hchecks := closes_verifyFunction hn hnames hcovers hloaded hverify
  have hforgets := closes_destroyFunction hn hcovers hloaded hdestroy
  exact .append (.append (.append (closes_counters g) hchecks) (closes_initFunction hn)) hforgets

end

/-! ## The mock of a function -/

theorem closes_openScopes (h : ∀ scope ∈ scopes, R.Takes .text scope) {due : List Char}
    (hu : R.Closes (.within (List.replicate scopes.length '\x7d' ++ due)) u) :
    R.Closes (.within due) (lines (scopes.map fun scope => "namespace " ++ scope ++ " \x7b") ++
      u) := by
  induction scopes generalizing due with
  | nil => simpa using hu
  | cons scope scopes ih =>
    rw [forall_mem_cons] at h
    rw [length_cons, replicate_succ', append_assoc] at hu
    simp only [map_cons, flat_lines]
    exact R.fixed (h.1 (R.fixed (R.fixed (ih h.2 hu))))

theorem closes_closeScopes (hu : R.Closes .start u) :
    R.Closes (.within (List.replicate scopes.length '\x7d' ++ []))
      (lines (scopes.map fun _ => "\x7d") ++ u) := by
  induction scopes with
  | nil =>
    rw [map_nil, lines_nil, String.empty_append]
    exact hu
  | cons scope scopes ih =>
    simp only [map_cons, flat_lines]
    exact R.fixed (R.fixed ih)

section

variable (hp : d.fill.Fits R)

include hp

theorem takes_resultType : R.Takes .text (resultType d.fill) := by
  have htype := hp.returnedType
  have hmodifier := hp.modifier
  have hmodified : R.Takes .text (if d.fill.modifier == "" then d.fill.returned.type
      else d.fill.modifier ++ " " ++ d.fill.returned.type) := by
    refine .ite htype (takes ?_)
    simp only [flat_lines]
    exact hmodifier (R.fixed (htype (last ⟨rfl⟩)))
  unfold resultType
  dsimp only
  split
  case h_1 convention hconvention =>
    refine takes ?_
    rw [String.append_assoc, String.append_assoc]
    exact hmodified (R.fixed (hp.callingConvention convention hconvention (last ⟨rfl⟩)))
  case h_2 => exact hmodified

theorem takes_parameterText : R.Takes .text (parameterText d.fill) := by
  unfold parameterText
  split
  case h_1 more hmore =>
    refine takes ?_
    rw [String.append_assoc, String.append_assoc]
    exact hp.argsString (R.fixed (hp.varArg more hmore (last ⟨rfl⟩)))
  case h_2 => exact hp.argsString

theorem closes_owner : R.Closes .start (owner d.fill) := by
  unfold owner
  split
  case h_1 name hname =>
    split
    · exact R.empty
    · exact hp.className name hname (last ⟨rfl⟩)
  case h_2 => exact R.empty

theorem closes_weakDeclaration (hweak : R.Takes .text g.weak)
    (h : Says (weakDeclaration g d) t) : R.Closes .start t := by
  have hname := hp.unscopedName
  have htype := takes_resultType hp
  have hparams := takes_parameterText hp
  unfold weakDeclaration at h
  split at h
  · rw [nil_iff.mp h]
    exact R.empty
  · obtain ⟨head, rest, hhead, hrest, rfl⟩ := cons_iff.mp h
    cases hhead
    obtain rfl := Draft.eq_of_render (singleton_iff.mp hrest)
    simp only [toString_text, flat_lines]
    apply_rules [fixed, last]
    exact ⟨rfl⟩

variable (hcovers : Covers R g.plugins.settings plugins d.fill)
  (hloaded : g.plugins.loaded ⊆ plugins)

include hcovers

theorem closes_bodyStart : R.Closes .start (bodyStart d.fill) := by
  have hname := hp.name
  have hchain := hcovers.chain
  unfold bodyStart
  simp only [toString_text, flat_lines]
  apply_rules [fixed, last]
  exact ⟨rfl⟩

omit hp in
theorem closes_callCheck : R.Closes .start (callCheck g) := by
  unfold callCheck
  simp only [toString_text]
  refine .lines_append ?_ (.only fun hordered => ?_)
  · have hline := hcovers.line
    simp only [flat_lines]
    apply_rules [fixed, last]
    exact ⟨rfl⟩
  · have horder := hcovers.order hordered
    simp only [flat_lines]
    apply_rules [fixed, last]
    exact ⟨rfl⟩

include hloaded

theorem closes_mockFunction (hweak : R.Takes .text g.weak)
    (hassertion : ∀ a c, g.plugins.settings.comparison a = .ok c → R.Takes .text c.assertion)
    (h : Says (g.mockFunction d) t) : R.Closes .start t := by
  obtain ⟨_, _, hfront, hrest, rfl⟩ := append_iff.mp h
  obtain ⟨_, weak, hfirst, hdeclared, rfl⟩ := append_iff.mp hfront
  obtain ⟨scopes, _, hscopes, hclass, rfl⟩ := cons_iff.mp hfirst
  obtain rfl := Draft.eq_of_render hscopes
  obtain rfl := Draft.eq_of_render (singleton_iff.mp hclass)
  obtain ⟨head, _, hhead, h₁, rfl⟩ := cons_iff.mp hrest
  obtain ⟨start, _, hstart, h₂, rfl⟩ := cons_iff.mp h₁
  obtain ⟨before, _, hbefore, h₃, rfl⟩ := cons_iff.mp h₂
  obtain ⟨check, _, hcheck, h₄, rfl⟩ := cons_iff.mp h₃
  obtain ⟨after, _, hafter, h₅, rfl⟩ := cons_iff.mp h₄
  obtain ⟨clear, _, hclear, h₆, rfl⟩ := cons_iff.mp h₅
  obtain ⟨last, _, hlast, h₇, rfl⟩ := cons_iff.mp h₆
  obtain ⟨closers, _, hclosers, h₈, rfl⟩ := cons_iff.mp h₇
  cases singleton_iff.mp h₈
  obtain rfl := Draft.eq_of_render hhead
  obtain rfl := Draft.eq_of_render hstart
  obtain rfl := Draft.eq_of_render hlast
  obtain rfl := Draft.eq_of_render hclosers
  cases hcheck
  cases hclear
  have hname := hp.unscopedName
  have htype := takes_resultType hp
  have hparams := takes_parameterText hp
  have howner := Keeps.ofCloses (closes_owner hp)
  have hdeclared := Keeps.ofCloses (closes_weakDeclaration hp hweak hdeclared)
  have hstart := Keeps.ofCloses (closes_bodyStart hp hcovers)
  have hcheck := Keeps.ofCloses (closes_callCheck hcovers)
  have hbefore : R.Keeps before := .ofCloses (closes_textOn (fun plugin hmem u hu => by
    cases hu
    exact closes_precheck hp hcovers (hloaded hmem)) hbefore)
  have hafter : R.Keeps after := .ofCloses (closes_textOn (fun plugin hmem u hu => by
    exact closes_implementation hp hcovers hassertion (hloaded hmem) hu) hafter)
  have hreturn : R.Keeps (lines (only (!d.fill.returned.isVoid)
      ["  return " ++ (callField "ReturnVal" ++ ";")])) :=
    .ofCloses (.only fun hvoid => .line (.around (hcovers.result (by simpa using hvoid)) ⟨rfl⟩))
  simp only [toString_text, flat_lines, String.empty_append]
  refine closes_openScopes hp.namespaces ?_
  -- Inside its namespaces, the function closes the one brace that it opens.
  apply_rules [fixed]
  all_goals first | exact ⟨rfl⟩ | exact closes_closeScopes (last ⟨rfl⟩)

theorem closes_functionCode (hweak : R.Takes .text g.weak)
    (hassertion : ∀ a c, g.plugins.settings.comparison a = .ok c → R.Takes .text c.assertion)
    (h : Says (g.functionCode d) t) : R.Closes .start t := by
  obtain ⟨mocked, _, hmocked, hinterfaces, rfl⟩ := append_iff.mp h
  obtain ⟨loader, _, hloader, hrest, rfl⟩ := cons_iff.mp hinterfaces
  obtain rfl := Draft.eq_of_render hloader
  refine .append (closes_mockFunction hp hcovers hloaded hweak hassertion hmocked)
    (.append (Expectation.closes_loader hp hcovers) ?_)
  refine closes_textOn (fun plugin hmem u hu => ?_) (singleton_iff.mp hrest)
  cases hu
  exact closes_interfaces hp hcovers (hloaded hmem)

end

end Generator

end MockGen
