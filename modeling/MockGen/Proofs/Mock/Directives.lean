import MockGen.Proofs.Mock.Chunks
import MockGen.Proofs.Mock.Setup
import MockGen.Proofs.Plugin.Lines

/-!
# Directives in the header of a mock

In front of the functions they stand where the texts of the options let them.  The declarations for
a function begin with one, unless a line end or the scope of the function comes first, and so the
declarations in front of them have to end their last line.
-/

namespace MockGen

open Code Output Outcome Says Bool
open List hiding concat concat_cons

variable {ps : Plugins}

/-! ## Names as they stand in the guard of a header -/

namespace Text

/-- Signs that are in the upper case form of no other character. -/
def plainSigns : List Char :=
  "#()[]\x7b\x7d".toList

theorem eq_of_ofNat_eq_sign {n : Nat} {d : Char} (hd : d ∈ plainSigns) (h : Char.ofNat n = d) :
    n = d.toNat := by
  by_cases hv : n.isValidChar
  · rw [← h, Char.ofNat, dif_pos hv]
    rfl
  · rw [Char.ofNat, dif_neg hv] at h
    subst h
    exact absurd hd (by decide)

theorem eq_of_mem_upperForm {c d : Char} (hd : d ∈ plainSigns) (hmem : d ∈ upperForm c) :
    c = d := by
  have hascii : ∀ n < 128, ∀ d ∈ plainSigns, d = (Char.ofNat n).toUpper → Char.ofNat n = d := by
    decide
  have hpos : ∀ d ∈ plainSigns, 0 < d.toNat := by decide
  have hforms : ∀ entry ∈ upperForms, ∀ d ∈ plainSigns, d.toNat ∉ entry.2 := by decide +kernel
  have hruns : ∀ run ∈ upperRuns, ∀ d ∈ plainSigns, (d.toNat : Int) < run.first + run.shift ∨
      run.last + run.shift < d.toNat := by decide +kernel
  unfold upperForm at hmem
  split at hmem
  case isTrue hsmall =>
    have hupper := hascii c.toNat hsmall d hd
    rw [Char.ofNat_toNat] at hupper
    exact hupper (mem_singleton.mp hmem)
  case isFalse =>
    unfold form shifted? at hmem
    split at hmem
    case h_1 codes hcodes =>
      obtain ⟨code, hcode, heq⟩ := mem_map.mp hmem
      obtain ⟨front, rest, hsplit, -⟩ := lookup_eq_some_iff.mp hcodes
      have hentry : (c.toNat, codes) ∈ upperForms := by
        rw [hsplit]
        simp
      exact absurd (eq_of_ofNat_eq_sign hd heq ▸ hcode) (hforms _ hentry d hd)
    case h_2 =>
      cases hrun : upperRuns.find? _ with
      | none =>
        rw [hrun] at hmem
        exact (mem_singleton.mp hmem).symm
      | some run =>
        rw [hrun] at hmem
        have hcover := find?_some hrun
        simp only [and_eq_true, decide_eq_true_eq] at hcover
        have heq : ((c.toNat : Int) + run.shift).toNat = d.toNat :=
          eq_of_ofNat_eq_sign hd (mem_singleton.mp hmem).symm
        have hapart := hruns run (mem_of_find?_eq_some hrun) d hd
        have := hpos d hd
        omega

-- A character that is no plain sign may become several ones.
example : upperForm 'ß' = ['S', 'S'] := by decide +kernel

theorem sign_notMem_upper {t : List Char} (h : '#' ∉ t) : '#' ∉ upper t := by
  intro hmem
  obtain ⟨c, hc, hform⟩ := mem_flatMap.mp hmem
  obtain rfl := eq_of_mem_upperForm (by decide) hform
  exact h hc

end Text

/-! ## The declarations for one function -/

namespace Plugins

/-- The declarations for a function leave their last line open. -/
def leavesOpen (ps : Plugins) (p : Prototype) : Bool :=
  ps.loaded.contains .returnThruPtr && !ps.loaded.contains .ignoreArg &&
    !(ps.settings.outputs p).isEmpty

/-- The declarations for a function begin with a directive. -/
def startsDirective (ps : Plugins) (p : Prototype) : Bool :=
  "::".intercalate p.namespaces == "" && Plugin.startsDirective ps.loaded p

/-- The declarations for the first function leave a line open on which those for the second begin
with a directive. -/
def Collide (ps : Plugins) (p q : Prototype) : Prop :=
  ps.leavesOpen p = true ∧ ps.startsDirective q = true

theorem leavesOpen_iff {p : Prototype} :
    ps.leavesOpen p = true ↔
      (.returnThruPtr ∈ ps.loaded ∧ .ignoreArg ∉ ps.loaded) ∧ ps.settings.outputs p ≠ [] := by
  simp [leavesOpen]

end Plugins

namespace Generator

/-- How the declarations for a function begin and end. -/
structure Declares (ps : Plugins) (p : Prototype) (t : String) : Prop extends Led t where
  last : t.toList.getLast? = some (if ps.leavesOpen p then ';' else '\n')
  directive : ps.startsDirective p = true → Directive t.toList
  head_ne : ps.startsDirective p = false → t.toList.head? ≠ some '#'

variable {t : String} {d : Draft} {g : Generator} {texts : List String} {n : Names} {m : Material}

theorem Declares.ne_nil {p : Prototype} (h : Declares ps p t) : t.toList ≠ [] := by
  intro hnil
  have hlast := h.last
  rw [hnil] at hlast
  cases hlast

theorem scopeOf_eq_ok {scope : String} (h : scopeOf d = .ok scope) :
    scope = "::".intercalate d.fill.namespaces := by
  unfold scopeOf at h
  obtain ⟨-, -, h⟩ := bind_eq_ok.mp h
  unfold Draft.fill
  split at h
  case h_1 l hl =>
    obtain ⟨items, hitems, h⟩ := bind_eq_ok.mp h
    obtain ⟨texts, htexts, hpure⟩ := bind_eq_ok.mp h
    cases hpure
    have hmap : texts = items.map Value.display :=
      eq_map_of_mapM (fun v _ u hu => by cases v <;> cases hu; rfl) htexts
    obtain rfl := Listed.all_eq_ok hitems
    rw [hmap, hl]
    rfl
  case h_2 fault hfault =>
    cases h
    rw [hfault]
    rfl

theorem eq_of_says_functionDeclarations (h : Says (g.functionDeclarations d) t) :
    t = lines (only ("::".intercalate d.fill.namespaces != "")
        ["using namespace " ++ "::".intercalate d.fill.namespaces ++ ";"]) ++
      concat (g.plugins.loaded.map (Plugin.declarations g.plugins.settings · d.fill)) := by
  obtain ⟨u, v, hfirst, hrest, rfl⟩ := cons_iff.mp h
  obtain ⟨scope, hscope, hpure⟩ := bind_eq_ok.mp hfirst
  obtain rfl := Except.ok.inj hpure
  rw [singleton_iff] at hrest
  rw [Plugins.eq_concat_of_textOn (fun _ => rfl) hrest, scopeOf_eq_ok hscope]
  rfl

theorem declares_of_says {o : Options} (hfollow : g.plugins.Follow o) (hp : d.fill.Lacks '#')
    (h : Says (g.functionDeclarations d) t) : Declares g.plugins d.fill t := by
  have horder := hfollow.order
  have hexpect := hfollow.expect_mem
  have hscope : Lacks '#' ("::".intercalate d.fill.namespaces) :=
    .intercalate (.fixed rfl) hp.namespaces
  rw [eq_of_says_functionDeclarations h]
  generalize hs : "::".intercalate d.fill.namespaces = scope at hscope ⊢
  have huses : Whole (lines (only (scope != "") ["using namespace " ++ scope ++ ";"])) := by
    cases scope != "" with
    | false => exact .nil
    | true =>
      apply_rules [Whole.cons, Whole.nil, Led.append, Lacks.append] <;> exact .fixed rfl
  have hne := concat_ne_nil (f := (Plugin.declarations g.plugins.settings · d.fill)) hexpect
    (Plugin.directive_expect d.fill).ne_nil
  refine ⟨huses.append_led (Plugin.led_concat horder hp), ?_, ?_, ?_⟩
  · rw [String.toList_append, getLast?_append]
    split
    case isTrue hopen =>
      obtain ⟨⟨hthru, hignore⟩, houtputs⟩ := Plugins.leavesOpen_iff.mp hopen
      rw [Plugin.getLast?_concat_of_open horder hthru hignore houtputs, Option.some_or]
    case isFalse hclosed =>
      have hended := Plugin.ended_concat (s := g.plugins.settings) horder hp fun hthru houtputs =>
        by_contra fun hignore => hclosed (Plugins.leavesOpen_iff.mpr ⟨⟨hthru, hignore⟩, houtputs⟩)
      rw [hended.resolve_left hne, Option.some_or]
  · intro hstart
    simp only [Plugins.startsDirective, and_eq_true, beq_iff_eq, hs] at hstart
    rw [hstart.1]
    exact Plugin.directive_concat horder hexpect hstart.2
  · intro hstart
    by_cases hempty : scope = ""
    · have hstart : Plugin.startsDirective g.plugins.loaded d.fill = false := by
        simpa [Plugins.startsDirective, hs, hempty] using hstart
      rw [hempty]
      exact Plugin.head?_concat_ne hexpect hstart
    · have hsome : (scope != "") = true := by simpa using hempty
      simp [hsome]

/-! ## The declarations for all functions -/

theorem led_concat_of_chain {ds : List Draft}
    (h : List.Forall₂ (fun d t => Declares ps d.fill t) ds texts)
    (hchain : ds.IsChain fun d e => ¬ps.Collide d.fill e.fill) : Led (concat texts) := by
  induction h with
  | nil => exact .fixed rfl
  | @cons d t ds texts ht hrest ih =>
    refine ht.toLed.append_of (ih hchain.tail) ?_
    by_cases hopen : ps.leavesOpen d.fill = true
    · right
      cases hrest with
      | nil => simp
      | @cons e u ds texts hu hrest =>
        have hstart : ps.startsDirective e.fill = false := by
          have hpair := (isChain_cons_cons.mp hchain).1
          simpa [Plugins.Collide, hopen] using hpair
        rw [concat_cons, String.toList_append, head?_append_of_ne_nil _ hu.ne_nil]
        exact hu.head_ne hstart
    · left
      exact .inr (by rw [ht.last, if_neg hopen])

theorem chain_of_aligned {ds : List Draft}
    (h : List.Forall₂ (fun d t => Declares ps d.fill t) ds texts) {before after : List Char}
    (haligned : Aligned (before ++ ((concat texts).toList ++ after))) :
    ds.IsChain fun d e => ¬ps.Collide d.fill e.fill := by
  induction h generalizing before with
  | nil => exact .nil
  | @cons d t ds texts ht hrest ih =>
    rw [concat_cons, String.toList_append, append_assoc, ← append_assoc] at haligned
    have hchain := ih haligned
    cases hrest with
    | nil => exact .singleton d
    | @cons e u ds texts hu hrest =>
      refine isChain_cons_cons.mpr ⟨?_, hchain⟩
      rintro ⟨hopen, hstart⟩
      have hlast : (before ++ t.toList).getLast? = some ';' := by
        rw [getLast?_append, ht.last, if_pos hopen, Option.some_or]
      have hbehind : Directive ((concat (u :: texts)).toList ++ after) := by
        rw [concat_cons, String.toList_append, append_assoc]
        exact (hu.directive hstart).append
      rcases haligned _ _ rfl hbehind with hnil | hline
      · rw [hnil] at hlast
        cases hlast
      · rw [hlast] at hline
        cases hline

/-! ## What stands in front of the functions -/

/-- No text of the options and no type adds a number sign inside a line. -/
structure PlainHead (g : Generator) (n : Names) (m : Material) (mocked : String) : Prop where
  cleanName : Lacks '#' n.cleanName
  framework : Lacks '#' g.framework
  includes : ∀ file ∈ g.includesBefore ++ g.includesAfter, Lacks '#' file
  includeLine : ∀ line, Format.expand g.includeFormat mocked = .ok line → Led line
  typedefs : ∀ l, m.typedefs = .ok l → ∀ t ∈ l.items, Led t

theorem whole_includeLines {files : List String} (h : ∀ file ∈ files, Lacks '#' file) :
    Whole (includeLines files) := by
  refine .lines fun l hl => ?_
  obtain ⟨file, hfile, rfl⟩ := mem_map.mp hl
  exact .append (.fixed rfl) (h file hfile)

theorem whole_includes (ps : Plugins) : Whole ps.includes :=
  .concat_map fun plugin _ => by
    cases plugin with
    | exceptions => exact .cons (.of_tail (by decide)) .nil
    | _ => exact .empty

theorem whole_compilerTest : Whole (lines compilerTest) :=
  .cons (.fixed rfl) (.cons (.append (.fixed rfl) (.fixed rfl)) .nil)

theorem whole_warningsOff : Whole warningsOff := by
  unfold warningsOff
  rw [lines_append, lines_append]
  refine .append (.append ?_ whole_compilerTest) ?_
  all_goals apply_rules [Whole.cons, Whole.nil] <;> exact .fixed rfl

theorem whole_warningsOn : Whole warningsOn := by
  unfold warningsOn
  rw [lines_append, lines_append]
  refine .append (.append ?_ whole_compilerTest) ?_
  all_goals apply_rules [Whole.cons, Whole.nil] <;> exact .fixed rfl

theorem whole_serviceCalls (h : Lacks '#' n.cleanName) : Whole (serviceCalls n) := by
  unfold serviceCalls
  simp only [toString_text]
  apply_rules [Whole.cons, Whole.nil, Led.append, Lacks.append] <;> exact .fixed rfl

theorem whole_head {mocked head : String} (hplain : g.PlainHead n m mocked)
    (h : Says (g.headerHead n m mocked) head) : Whole head := by
  have hguard : Lacks '#' (String.ofList (Text.upper n.cleanName.toList)) :=
    .ofList (Text.sign_notMem_upper hplain.cleanName.notMem)
  have hframework := hplain.framework
  have hbefore := whole_includeLines fun file hfile =>
    hplain.includes file (mem_append_left _ hfile)
  have hafter := whole_includeLines fun file hfile =>
    hplain.includes file (mem_append_right _ hfile)
  refine h.of_forall .empty .append ?_
  unfold headerHead
  simp only [forall_mem_cons, Except.ok.injEq, forall_eq', toString_text]
  generalize String.ofList (Text.upper n.cleanName.toList) = guard at hguard ⊢
  refine ⟨?_, hbefore, ?_, hafter, whole_includes _, whole_warningsOff,
    whole_serviceCalls hplain.cleanName, ?_, ?_, ?_, by simp⟩
  · apply_rules [Whole.cons, Whole.nil, Led.append, Lacks.append] <;> exact .fixed rfl
  · intro u hu
    rcases hline : Format.expand g.includeFormat mocked with _ | line
    · rw [hline] at hu
      cases hu
    · rw [hline] at hu
      cases hu
      exact .line (hplain.includeLine line hline)
  · show Whole (lines [""])
    exact .cons (.fixed rfl) .nil
  · intro u hu
    obtain ⟨l, hl, hu⟩ := bind_eq_ok.mp hu
    obtain ⟨items, hitems, hpure⟩ := bind_eq_ok.mp hu
    cases hpure
    obtain rfl := Listed.all_eq_ok hitems
    exact .lines (hplain.typedefs l hl)
  · show Whole (lines ["", ""])
    exact .cons (.fixed rfl) (.cons (.fixed rfl) .nil)

theorem getLast?_head {mocked head : String} (h : Says (g.headerHead n m mocked) head) :
    head.toList.getLast? = some '\n' := by
  have hlast : Says ((g.headerHead n m mocked).dropLast ++ [.ok "\n\n"]) head := h
  obtain ⟨u, v, -, hv, rfl⟩ := append_iff.mp hlast
  cases singleton_iff.mp hv
  rw [String.toList_append, getLast?_append]
  rfl

/-! ## The header -/

theorem exists_of_says_header (h : Says (g.headerChunks n m) t) :
    ∃ mocked functions head texts, mockedHeader n = .ok mocked ∧
      m.functions.bind Listed.all = .ok functions ∧ Says (g.headerHead n m mocked) head ∧
      List.Forall₂ (fun d u => Says (g.functionDeclarations d) u) functions texts ∧
      t = head ++ (concat texts ++ warningsOn) := by
  unfold headerChunks at h
  split at h
  case h_1 => cases h
  case h_2 mocked hmocked =>
    obtain ⟨u, v, hfront, hlast, rfl⟩ := append_iff.mp h
    obtain ⟨head, rest, hhead, hrest, rfl⟩ := append_iff.mp hfront
    obtain rfl : warningsOn = v := Except.ok.inj (singleton_iff.mp hlast)
    split at hrest
    case h_2 => cases hrest
    case h_1 functions hfunctions =>
      obtain ⟨texts, htexts, rfl⟩ := flatMap_iff.mp hrest
      exact ⟨mocked, functions, head, texts, hmocked, hfunctions, hhead, htexts,
        String.append_assoc ..⟩

/-- The header of a mock has its directives at the starts of lines exactly if they are there in
front of the functions, and no function that leaves its last line open is followed by one that
begins with a directive. -/
theorem aligned_iff_of_says {o : Options} (hfollow : g.plugins.Follow o)
    (hsigns : ∀ l, m.functions = .ok l → ∀ d ∈ l.items, d.fill.Lacks '#')
    (h : Says (g.headerChunks n m) t) :
    ∃ mocked functions head, mockedHeader n = .ok mocked ∧
      m.functions.bind Listed.all = .ok functions ∧ Says (g.headerHead n m mocked) head ∧
      (Aligned t.toList ↔ Aligned head.toList ∧
        functions.IsChain fun d e => ¬g.plugins.Collide d.fill e.fill) := by
  obtain ⟨mocked, functions, head, texts, hmocked, hfunctions, hhead, htexts, rfl⟩ :=
    exists_of_says_header h
  refine ⟨mocked, functions, head, hmocked, hfunctions, hhead, ?_⟩
  have hdeclares : List.Forall₂ (fun d u => Declares g.plugins d.fill u) functions texts := by
    obtain ⟨l, hl, hall⟩ := bind_eq_ok.mp hfunctions
    obtain rfl := Listed.all_eq_ok hall
    exact ((forall₂_and_left _ _).mpr ⟨hsigns l hl, htexts⟩).imp fun d u hu =>
      declares_of_says hfollow hu.1 hu.2
  constructor
  · intro haligned
    rw [String.toList_append, String.toList_append] at haligned
    exact ⟨haligned.of_append, chain_of_aligned hdeclares haligned⟩
  · rintro ⟨haligned, hchain⟩
    refine haligned.append_led (getLast?_head hhead) ?_
    refine (led_concat_of_chain hdeclares hchain).append_of whole_warningsOn.toLed (.inr ?_)
    simp [warningsOn]

/-- Making a mock wrote a header with the given text. -/
structure WroteHeader (g : Generator) (n : Names) (m : Material) (t : String) : Prop where
  create : ∃ w w', (Output.create g.mockPath (n.mockName ++ n.extension) (g.headerChunks n m)
    n.folder).run w = (.ok (), w')
  text : Says (g.headerChunks n m) t

theorem exists_wroteHeader {moduleName extension asked : Value} {w w' : Workspace}
    (h : (g.createMock moduleName m extension asked).run w = (.ok (), w')) :
    ∃ folder ext t, g.folder asked = .ok folder ∧ headerExtension extension = .ok ext ∧
      g.WroteHeader (g.names moduleName ext folder) m t := by
  obtain ⟨folder, ext, u, v, hfolder, hext, hheader, -⟩ := createMock_eq_ok h
  obtain ⟨dir, x, -, hwrite⟩ := Output.create_eq_ok hheader
  obtain ⟨t, ht⟩ := Output.exists_says_of_write hwrite
  exact ⟨folder, ext, t, hfolder, hext, ⟨u, v, hheader⟩, ht⟩

/-- In the header that making a mock writes, every directive stands at the start of a line exactly
if this is so in front of the functions, which holds if the options add no number sign inside a
line, and no function that leaves its last line open is followed by one that begins with a
directive. -/
theorem createMock_aligned_iff {given voids home frameworkDir : Value} {helped : Bool}
    {g : Generator} {w w' u u' : Workspace} {moduleName extension asked : Value} {m : Material}
    (hmade : (ofValue given helped voids home frameworkDir).run w = (.ok g, w'))
    (hrun : (g.createMock moduleName m extension asked).run u = (.ok (), u'))
    (hsigns : ∀ l, m.functions = .ok l → ∀ d ∈ l.items, d.fill.Lacks '#') :
    ∃ folder ext t mocked functions head,
      g.folder asked = .ok folder ∧ headerExtension extension = .ok ext ∧
      g.WroteHeader (g.names moduleName ext folder) m t ∧
      mockedHeader (g.names moduleName ext folder) = .ok mocked ∧
      m.functions.bind Listed.all = .ok functions ∧
      Says (g.headerHead (g.names moduleName ext folder) m mocked) head ∧
      (g.PlainHead (g.names moduleName ext folder) m mocked → Aligned head.toList) ∧
      (Aligned t.toList ↔ Aligned head.toList ∧
        functions.IsChain fun d e => ¬g.plugins.Collide d.fill e.fill) := by
  obtain ⟨o, _, -, hfollow, -⟩ := ofValue_eq_ok hmade
  obtain ⟨folder, ext, t, hfolder, hext, hwrote⟩ := exists_wroteHeader hrun
  obtain ⟨mocked, functions, head, hmocked, hfunctions, hhead, hiff⟩ :=
    aligned_iff_of_says hfollow hsigns hwrote.text
  exact ⟨folder, ext, t, mocked, functions, head, hfolder, hext, hwrote, hmocked, hfunctions, hhead,
    fun hplain => .of_led (whole_head hplain hhead).toLed, hiff⟩

/-! ## A header with two functions -/

theorem isChain_tank {functions : List Draft} {R : Prototype → Prototype → Prop}
    (h : (Material.ofValue Sample.tank).functions.bind Listed.all = .ok functions) :
    (functions.IsChain fun d e => R d.fill e.fill) ↔ R Sample.filling Sample.emptying := by
  obtain ⟨l, hl, hall⟩ := bind_eq_ok.mp h
  obtain rfl := Listed.all_eq_ok hall
  rw [← isChain_map Draft.fill, map_fill_tank hl]
  exact isChain_pair

/-- Where an argument can be ignored too, values returned through pointers leave no line open. -/
theorem createMock_aligned_iff_ignoreArg :
    let given := .record [(":plugins", .texts ["return_thru_ptr", "ignore_arg"])]
    let m := .ofValue Sample.tank
    ∃ g w w' t, (ofValue given true (.list []) .null .null).run { strippables := [] } = (.ok g, w) ∧
      (g.createMock (.str "tank") m .null .null).run w = (.ok (), w') ∧
      g.WroteHeader (g.names (.str "tank") ".h" .null) m t ∧ Aligned t.toList := by
  intro given m
  obtain ⟨g, w, w', hmade, hrun, hg⟩ := exists_of_makeTank given
    (P := fun g => g.nameStart == "Mock" && g.nameEnd == "" && !g.subdir.truthy &&
      g.framework == "unity" && g.includesBefore ++ g.includesAfter == [] &&
      (Format.expand g.includeFormat "tank.h").toOption == some "#include \"tank.h\"" &&
      !g.plugins.leavesOpen Sample.filling) (by decide +kernel)
  simp only [and_eq_true, beq_iff_eq, not_eq_true'] at hg
  obtain ⟨⟨⟨⟨⟨⟨hstart, hend⟩, hsubdir⟩, hframework⟩, hincludes⟩, hformat⟩, hopen⟩ := hg
  obtain ⟨folder, ext, t, mocked, functions, head, hfolder, hext, hwrote, hmocked, hfunctions, -,
    hplain, hiff⟩ := createMock_aligned_iff hmade hrun fun l hl d hd =>
      of_mem_tank (by decide +kernel) (by decide +kernel) hl hd
  obtain rfl : .null = folder := by simpa [Generator.folder, hsubdir] using hfolder
  cases hext
  cases hmocked
  refine ⟨g, w, w', t, hmade, hrun, hwrote, hiff.mpr ⟨hplain ⟨?_, ?_, ?_, ?_, ?_⟩, ?_⟩⟩
  · show Lacks '#' (String.ofList (identifier (g.nameStart ++ "tank" ++ g.nameEnd).toList))
    rw [hstart, hend]
    decide
  · rw [hframework]
    decide
  · rw [hincludes]
    simp
  · intro line (hline : Format.expand g.includeFormat "tank.h" = .ok line)
    rw [hline] at hformat
    obtain rfl : line = "#include \"tank.h\"" := Option.some.inj hformat
    exact .fixed rfl
  · intro l hl
    obtain rfl := Except.ok.inj hl
    exact fun t ht => nomatch ht
  · refine (isChain_tank (R := fun p q => ¬g.plugins.Collide p q) hfunctions).mpr fun h => ?_
    rw [Plugins.Collide, hopen] at h
    exact false_ne_true h.1

/-- Otherwise a function that follows does not begin on a line of its own. -/
theorem not_aligned_returnThruPtr :
    let given := .record [(":plugins", .texts ["return_thru_ptr"])]
    let m := .ofValue Sample.tank
    ∃ g w w' t, (ofValue given true (.list []) .null .null).run { strippables := [] } = (.ok g, w) ∧
      (g.createMock (.str "tank") m .null .null).run w = (.ok (), w') ∧
      (∀ l, m.functions = .ok l → ∀ d ∈ l.items, d.fill.Lacks '#' ∧ d.fill.Lacks '\n') ∧
      g.WroteHeader (g.names (.str "tank") ".h" .null) m t ∧ ¬Aligned t.toList := by
  intro given m
  obtain ⟨g, w, w', hmade, hrun, hg⟩ := exists_of_makeTank given
    (P := fun g => !g.subdir.truthy && g.plugins.leavesOpen Sample.filling &&
      g.plugins.startsDirective Sample.emptying) (by decide +kernel)
  simp only [and_eq_true, not_eq_true'] at hg
  obtain ⟨⟨hsubdir, hopen⟩, hstart⟩ := hg
  have hsigns : ∀ l, m.functions = .ok l → ∀ d ∈ l.items, d.fill.Lacks '#' := fun l hl d hd =>
    of_mem_tank (by decide +kernel) (by decide +kernel) hl hd
  obtain ⟨folder, ext, t, hfolder, hext, hwrote⟩ := exists_wroteHeader hrun
  obtain rfl : .null = folder := by simpa [Generator.folder, hsubdir] using hfolder
  cases hext
  obtain ⟨o, _, -, hfollow, -⟩ := ofValue_eq_ok hmade
  obtain ⟨mocked, functions, head, -, hfunctions, -, hiff⟩ :=
    aligned_iff_of_says hfollow hsigns hwrote.text
  refine ⟨g, w, w', t, hmade, hrun, fun l hl d hd => ⟨hsigns l hl d hd,
    of_mem_tank (by decide +kernel) (by decide +kernel) hl hd⟩, hwrote, fun haligned => ?_⟩
  exact (isChain_tank (R := fun p q => ¬g.plugins.Collide p q) hfunctions).mp
    (hiff.mp haligned).2 ⟨hopen, hstart⟩

end Generator

end MockGen
