import MockGen.Proofs.Format
import MockGen.Proofs.Mock.Directives
import MockGen.Proofs.Mock.References
import MockGen.Proofs.Plugin.Brackets
import MockGen.Proofs.Plugin.Strings

/-!
# Brackets in the files of a mock

The header opens a block for other languages in front of the functions and closes it behind them,
and the mock of a function stands inside its namespaces; all else is closed in the piece of text
that opens it.  So both files are well nested if the texts are that go into them.  The name of the
mocked header goes in as a format shows it, which may cut it.
-/

namespace MockGen

open Code Trait Output Text Outcome Says
open Bool hiding and_true
open List hiding concat

/-! ## Texts of the options and the arguments -/

/-- All texts of the options that go into a mock are well nested. -/
@[mk_iff]
structure Options.Nested (o : Options) : Prop where
  text : ∀ key ∈ [":mock_prefix", ":mock_suffix", ":weak", ":framework", ":subdir",
    ":orig_header_include_fmt"], Code.Nested (o.get key).display
  file : ∀ key ∈ [":includes", ":includes_h_pre_orig_header", ":includes_h_post_orig_header",
    ":includes_c_pre_header", ":includes_c_post_header"],
    ∀ v ∈ Generator.items o key, Code.Nested v.display
  kind : ∀ entry ∈ o.treatAs, Code.Nested entry.2.display

instance (o : Options) : Decidable o.Nested :=
  decidable_of_iff _ (Options.nested_iff o).symm

theorem nested_join {a b : String} (ha : Nested a) (hb : Nested b) : Nested (Path.join a b) := by
  unfold Path.join
  split
  · exact hb
  · split
    · exact ha.append hb
    · exact (ha.append (by decide)).append hb

theorem Text.brackets_upper (t : List Char) : brackets (upper t) = brackets t := by
  have hsame : ∀ c ∈ ['(', '[', '\x7b', ')', ']', '\x7d'], upperForm c = [c] ∧ c ∈ plainSigns := by
    decide
  refine brackets_flatMap (fun c => ?_) t
  cases hc : isBracket c with
  | true => rw [(hsame c (isBracket_iff.mp hc)).1]
  | false =>
    rw [brackets_eq_nil (forall_mem_singleton.mpr hc)]
    refine brackets_eq_nil fun d hd => eq_false_iff.mpr fun hbracket => ?_
    obtain rfl := eq_of_mem_upperForm (hsame d (isBracket_iff.mp hbracket)).2 hd
    exact false_ne_true (hc.symm.trans hbracket)

/-- The names that a draft gives are texts. -/
structure Draft.TextNamed (d : Draft) : Prop where
  name : ∀ v, d.name = .ok v → v.text?.isSome = true
  argName : ∀ a ∈ d.argDrafts, ∀ v, a.name = .ok v → v.text?.isSome = true

namespace Generator

variable {files : List String} {items : List Value} {g : Generator}

theorem brackets_identifier (t : List Char) : brackets (identifier t) = brackets t := by
  have hplain : ∀ c ∈ ['(', '[', '\x7b', ')', ']', '\x7d'],
      ("-/\\.,".toList.contains c || isBlank c) = false := by decide
  refine brackets_map (fun c => ?_) t
  split
  case isFalse => rfl
  case isTrue h =>
    refine Eq.symm (brackets_eq_nil (forall_mem_singleton.mpr ?_))
    refine eq_false_iff.mpr fun hc => ?_
    exact false_ne_true ((hplain c (isBracket_iff.mp hc)).symm.trans h)

example : brackets (identifier "a(b)/c.h".toList) = ['(', ')'] := by decide +kernel

/-- All texts that a generator puts into every mock are well nested, and so are the assertions by
which it compares parameters. -/
structure Nested (g : Generator) : Prop where
  nameStart : Code.Nested g.nameStart
  nameEnd : Code.Nested g.nameEnd
  weak : Code.Nested g.weak
  framework : Code.Nested g.framework
  subdir : Code.Nested g.subdir.display
  includeFormat : ∀ s, g.includeFormat = .str s → Code.Nested s
  includes : ∀ file ∈ g.includesBefore ++ g.includesAfter, Code.Nested file
  sourceIncludes : ∀ file ∈ g.sourceIncludesBefore ++ g.sourceIncludesAfter, Code.Nested file
  assertion : ∀ a c, g.plugins.settings.comparison a = .ok c → Code.Nested c.assertion

theorem of_formatIncludes {P : String → Prop} (hquoted : ∀ s, P s → P ("\"" ++ s ++ "\""))
    (hitems : ∀ v ∈ items, P v.display) (h : formatIncludes items = .ok files) :
    ∀ file ∈ files, P file := by
  intro file hfile
  obtain ⟨v, hv, hformat⟩ := (mem_mapM_iff h).mp hfile
  have hitem := hitems v hv
  cases v with
  | str s =>
    cases hformat
    split
    · exact hitem
    · exact hquoted s hitem
  | _ => cases hformat

theorem nested_of_formatIncludes (hitems : ∀ v ∈ items, Code.Nested v.display)
    (h : formatIncludes items = .ok files) : ∀ file ∈ files, Code.Nested file :=
  of_formatIncludes (fun _ hs => (Nested.append (by decide) hs).append (by decide)) hitems h

theorem nested_of_ofOptions {o : Options} {ps : Plugins} (ho : o.Nested) (hfollow : ps.Follow o)
    (h : ofOptions o ps = .ok g) : g.Nested := by
  unfold ofOptions at h
  obtain ⟨before, hbefore, h⟩ := bind_eq_ok.mp h
  obtain ⟨after, hafter, h⟩ := bind_eq_ok.mp h
  obtain ⟨sourceBefore, hsourceBefore, h⟩ := bind_eq_ok.mp h
  obtain ⟨sourceAfter, hsourceAfter, hpure⟩ := bind_eq_ok.mp h
  obtain rfl := Except.ok.inj hpure
  refine ⟨ho.text _ (by simp), ho.text _ (by simp), ?_, ho.text _ (by simp), ho.text _ (by simp),
    fun s hs => ?_, ?_, ?_, fun a c hc => hfollow.assertion .nested ho.kind hc⟩
  · dsimp only
    split
    · exact ho.text _ (by simp)
    · exact .empty
  · have hformat := ho.text ":orig_header_include_fmt" (by simp)
    rwa [show o.get ":orig_header_include_fmt" = .str s from hs] at hformat
  · refine forall_mem_append.mpr ⟨nested_of_formatIncludes ?_ hbefore,
      nested_of_formatIncludes (ho.file _ (by simp)) hafter⟩
    exact forall_mem_append.mpr ⟨ho.file _ (by simp), ho.file _ (by simp)⟩
  · exact forall_mem_append.mpr ⟨nested_of_formatIncludes (ho.file _ (by simp)) hsourceBefore,
      nested_of_formatIncludes (ho.file _ (by simp)) hsourceAfter⟩

/-- All texts of the names of a mock are well nested. -/
structure Names.Nested (n : Names) : Prop where
  moduleName : Code.Nested n.moduleName.display
  extension : Code.Nested n.extension
  cleanName : Code.Nested n.cleanName
  folder : Code.Nested n.folder.display

theorem nested_of_folder {asked folder : Value} (hsubdir : Code.Nested g.subdir.display)
    (hasked : Code.Nested asked.display) (h : g.folder asked = .ok folder) :
    Code.Nested folder.display := by
  unfold Generator.folder at h
  split at h
  · split at h
    · split at h
      case h_1 below hvalue _ =>
        cases h
        rw [hvalue] at hsubdir
        exact nested_join hsubdir hasked
      case h_2 => cases h
    · cases h
      exact hsubdir
  · cases h
    exact hasked

theorem nested_of_headerExtension {extension : Value} {ext : String}
    (hextension : Code.Nested extension.display) (h : headerExtension extension = .ok ext) :
    Code.Nested ext := by
  unfold headerExtension at h
  split at h
  · rwa [eq_str_of_asText h] at hextension
  · cases h
    decide

section

variable {g : Generator} {n : Names} {m : Material} {d : Draft} {functions : List Draft}
  {t mocked own : String} {texts : List String} {values names : List Value}

theorem nested_names (hg : g.Nested) {moduleName folder : Value} {ext : String}
    (hmodule : Code.Nested moduleName.display) (hext : Code.Nested ext)
    (hfolder : Code.Nested folder.display) : (g.names moduleName ext folder).Nested := by
  refine ⟨hmodule, hext, ?_, hfolder⟩
  have hname := (hg.nameStart.append hmodule).append hg.nameEnd
  refine hname.of_brackets_eq ?_
  exact (congrArg brackets (String.toList_ofList ..)).trans (brackets_identifier _)

theorem nested_file (hn : n.Nested) {file : String} (h : n.file = .ok file) : Code.Nested file := by
  obtain ⟨name, hname, hpure⟩ := bind_eq_ok.mp h
  cases hpure
  have hmodule := hn.moduleName
  rw [eq_str_of_asText hname] at hmodule
  exact hmodule.append hn.extension

theorem nested_mockedHeader (hn : n.Nested) (h : mockedHeader n = .ok mocked) :
    Code.Nested mocked := by
  obtain ⟨file, hfile, h⟩ := bind_eq_ok.mp h
  have hfile := nested_file hn hfile
  split at h
  · obtain ⟨folder, hfolder, hpure⟩ := bind_eq_ok.mp h
    cases hpure
    have hbelow := hn.folder
    rw [eq_str_of_asText hfolder] at hbelow
    exact nested_join hbelow hfile
  · cases h
    exact hfile

theorem nested_ownHeader (hg : g.Nested) (hn : n.Nested) (h : g.ownHeader n = .ok own) :
    Code.Nested own := by
  unfold ownHeader at h
  split at h
  · obtain ⟨file, hfile, hpure⟩ := bind_eq_ok.mp h
    cases hpure
    exact hg.nameStart.append (nested_file hn hfile)
  · obtain ⟨file, hfile, h⟩ := bind_eq_ok.mp h
    obtain ⟨folder, hfolder, hpure⟩ := bind_eq_ok.mp h
    cases hpure
    have hbelow := hn.folder
    rw [eq_str_of_asText hfolder] at hbelow
    exact hg.nameStart.append (nested_join hbelow (nested_file hn hfile))

theorem nested_includeLines (h : ∀ file ∈ files, Code.Nested file) :
    Code.Nested (includeLines files) :=
  .lines (forall_mem_map.mpr fun file hfile => .append (by decide) (h file hfile))

/-! ## The header -/

theorem behind_warningsOff (due : Option (List Char)) :
    behind warningsOff due = due.map ('\x7d' :: ·) := by
  unfold warningsOff compilerTest
  simp -index only [behind_parts]
  cases due <;> rfl

theorem behind_warningsOn (due : Option (List Char)) :
    behind warningsOn (due.map ('\x7d' :: ·)) = due := by
  unfold warningsOn compilerTest
  simp -index only [behind_parts]
  cases due <;> rfl

theorem nested_serviceCalls (hn : n.Nested) : Code.Nested (serviceCalls n) := by
  unfold serviceCalls
  apply Nested.of_behind
  simp -index only [toString_text, behind_parts, hn.cleanName.behind_eq]
  rfl

/-- Where a format cuts the name of the mocked header, what is left of it is well nested. -/
def CutsNested (format : Value) (n : Names) : Prop :=
  ∀ s mocked, format = .str s → mockedHeader n = .ok mocked →
    ∀ spec ∈ Format.places s.toList.length s.toList, ∀ k, spec.precision = some k →
      ∀ shown, Format.shown spec mocked = .ok shown → Code.Nested (String.ofList shown)

theorem nested_of_says {chunks : List Chunk} (h : Says chunks t)
    (hchunks : ∀ chunk ∈ chunks, ∀ u, chunk = .ok u → Code.Nested u) : Code.Nested t :=
  h.of_forall .empty .append hchunks

theorem nested_concat_of_forall₂ {α : Type} {R : α → String → Prop} {l : List α}
    (h : List.Forall₂ R l texts) (hR : ∀ a ∈ l, ∀ u, R a u → Code.Nested u) :
    Code.Nested (concat texts) := by
  induction h with
  | nil => exact .empty
  | cons hu _ ih =>
    rw [forall_mem_cons] at hR
    exact (hR.1 _ hu).append (ih hR.2)

theorem nested_includeLine (hg : g.Nested) (hn : n.Nested) (hcut : CutsNested g.includeFormat n)
    {line : String} (hmocked : mockedHeader n = .ok mocked)
    (h : (Format.expand g.includeFormat mocked).map (· ++ "\n") = .ok line) : Code.Nested line := by
  cases hexpand : Format.expand g.includeFormat mocked with
  | error fault =>
    rw [hexpand] at h
    cases h
  | ok shown =>
    rw [hexpand] at h
    cases h
    refine .append (Format.nested_expand hg.includeFormat
      (nested_mockedHeader hn hmocked) ?_ hexpand) (by decide)
    exact fun s hs => hcut s mocked hs hmocked

theorem nested_of_says_headerStart (hg : g.Nested) (hn : n.Nested)
    (hcut : CutsNested g.includeFormat n) (hmocked : mockedHeader n = .ok mocked)
    (h : Says ((g.headerHead n m mocked).take 5) t) : Code.Nested t := by
  have hguard : Code.Nested (String.ofList (upper n.cleanName.toList)) := by
    refine hn.cleanName.of_brackets_eq ?_
    rw [String.toList_ofList]
    exact brackets_upper _
  refine nested_of_says h ?_
  unfold headerHead
  simp only [take_succ_cons, take_zero, forall_mem_cons, Except.ok.injEq,
    forall_eq']
  refine ⟨.of_behind ?_, nested_includeLines fun file hfile =>
      hg.includes file (mem_append_left _ hfile),
    fun u hu => nested_includeLine hg hn hcut hmocked hu,
    nested_includeLines fun file hfile => hg.includes file (mem_append_right _ hfile),
    .concat (forall_mem_map.mpr fun plugin _ => Plugin.nested_includes plugin), nofun⟩
  simp -index only [toString_text, behind_parts, hguard.behind_eq, hg.framework.behind_eq]
  rfl

theorem behind_headerHead (hn : n.Nested)
    (htypedefs : ∀ l, m.typedefs = .ok l → ∀ u ∈ l.items, Code.Nested u)
    (h : Says (g.headerHead n m mocked) t) :
    ∃ start, Says ((g.headerHead n m mocked).take 5) start ∧
      ∀ due, behind t due = (behind start due).map ('\x7d' :: ·) := by
  have hsplit := take_append_drop 5 (g.headerHead n m mocked)
  rw [← hsplit] at h
  obtain ⟨start, _, hstart, hrest, rfl⟩ := append_iff.mp h
  obtain ⟨block, back, hblock, hback, rfl⟩ := cons_iff.mp hrest
  obtain rfl : warningsOff = block := Except.ok.inj hblock
  have hnested : Code.Nested back := by
    refine nested_of_says hback ?_
    simp only [forall_mem_cons, Except.ok.injEq, forall_eq']
    refine ⟨nested_serviceCalls hn, by decide, fun u hu => ?_, by decide, nofun⟩
    obtain ⟨l, hl, hu⟩ := bind_eq_ok.mp hu
    obtain ⟨items, hitems, hpure⟩ := bind_eq_ok.mp hu
    cases hpure
    obtain rfl := Listed.all_eq_ok hitems
    exact .lines (htypedefs l hl)
  refine ⟨start, hstart, fun due => ?_⟩
  rw [behind_append, behind_append, hnested.behind_eq, behind_warningsOff]

theorem nested_functionDeclarations (hp : d.fill.Nested) (h : Says (g.functionDeclarations d) t) :
    Code.Nested t := by
  have hscope : Code.Nested ("::".intercalate d.fill.namespaces) :=
    .intercalate (by decide) hp.namespaces
  obtain ⟨scope, declarations, hfirst, hrest, rfl⟩ := cons_iff.mp h
  obtain ⟨_, hjoined, hpure⟩ := bind_eq_ok.mp hfirst
  obtain rfl := scopeOf_eq_ok hjoined
  cases hpure
  refine .append (.lines (forall_mem_only.mpr fun _ => forall_mem_singleton.mpr ?_))
    (Plugins.nested_declarations hp (singleton_iff.mp hrest))
  exact (Nested.append (t := "using namespace ") (by decide) hscope).append (by decide)

theorem exists_start_of_says_header (hn : n.Nested)
    (hfunctions : ∀ l, m.functions = .ok l → ∀ d ∈ l.items, d.fill.Nested)
    (htypedefs : ∀ l, m.typedefs = .ok l → ∀ u ∈ l.items, Code.Nested u)
    (h : Says (g.headerChunks n m) t) :
    ∃ mocked start, mockedHeader n = .ok mocked ∧
      Says ((g.headerHead n m mocked).take 5) start ∧ (Code.Nested t ↔ Code.Nested start) := by
  obtain ⟨mocked, functions, head, texts, hmocked, hfs, hhead, htexts, rfl⟩ :=
    exists_of_says_header h
  obtain ⟨l, hl, hall⟩ := bind_eq_ok.mp hfs
  obtain rfl := Listed.all_eq_ok hall
  have hdeclared : Code.Nested (concat texts) :=
    nested_concat_of_forall₂ htexts fun d hd u hu =>
      nested_functionDeclarations (hfunctions l hl d hd) hu
  obtain ⟨start, hstart, hbehind⟩ := behind_headerHead hn htypedefs hhead
  have hsame : behind (head ++ (concat texts ++ warningsOn)) (some []) =
      behind start (some []) := by
    rw [behind_append, behind_append, hdeclared.behind_eq, hbehind, behind_warningsOn]
  refine ⟨mocked, start, hmocked, hstart, fun ht => ?_, fun hnested => ?_⟩
  · exact .of_behind (hsame.symm.trans (ht.behind_eq _))
  · exact .of_behind (hsame.trans (hnested.behind_eq _))

/-! ## The start of the source -/

theorem nested_sourceHead (hg : g.Nested) (hown : Code.Nested own) {hasFunctions : Bool} :
    Code.Nested (g.sourceHead own hasFunctions) := by
  have hbefore : Code.Nested (includeLines g.sourceIncludesBefore) :=
    nested_includeLines fun file hfile => hg.sourceIncludes file (mem_append_left _ hfile)
  have hafter : Code.Nested (includeLines g.sourceIncludesAfter) :=
    nested_includeLines fun file hfile => hg.sourceIncludes file (mem_append_right _ hfile)
  have hfirst : Code.Nested g.firstIncludes := by
    refine .append (.lines ?_) hbefore
    simp only [forall_mem_append, forall_mem_cons, not_mem_nil, false_imp_iff,
      implies_true, and_true, forall_mem_only]
    exact ⟨⟨by decide, fun _ => by decide⟩, by decide⟩
  have hline : Code.Nested (lines ["#include \"" ++ own ++ "\""]) :=
    .lines (forall_mem_singleton.mpr ((Nested.append (by decide) hown).append (by decide)))
  refine .append (.lines (forall_mem_only.mpr fun _ => by decide)) ?_
  exact ((hfirst.append hline).append hafter).append (by decide)

theorem eq_of_stringNames (h : stringNames d = .ok values) :
    values.map Value.display = d.fill.names ∧
      (d.TextNamed → ∀ v ∈ values, v.text?.isSome = true) := by
  obtain ⟨name, hname, h⟩ := bind_eq_ok.mp h
  obtain ⟨args, hargs, h⟩ := bind_eq_ok.mp h
  obtain ⟨items, hitems, h⟩ := bind_eq_ok.mp h
  obtain ⟨others, hothers, hpure⟩ := bind_eq_ok.mp h
  cases hpure
  obtain rfl := Listed.all_eq_ok hitems
  have hfirst : d.fill.name = name.display := by
    unfold Draft.fill
    rw [hname]
    rfl
  have hdrafts : d.argDrafts = args.items := by
    unfold Draft.argDrafts
    rw [hargs]
    rfl
  constructor
  · have hfill : ∀ a : ArgumentDraft, ∀ v, a.name = .ok v → v.display = a.fill.name := by
      intro a v hv
      unfold ArgumentDraft.fill
      rw [hv]
      rfl
    have hrest : others.map Value.display = args.items.map fun a => a.fill.name := by
      rw [mapM_eq_ok] at hothers
      rw [← forall₂_eq_eq_eq, forall₂_map_left_iff, forall₂_map_right_iff]
      exact (hothers.imp hfill).flip
    rw [map_cons, Prototype.names, hfirst, hrest, ← hdrafts]
    exact congrArg _ (map_map ..).symm
  · intro hd
    refine forall_mem_cons.mpr ⟨hd.name name hname, fun v hv => ?_⟩
    obtain ⟨a, ha, hv⟩ := (mem_mapM_iff hothers).mp hv
    exact hd.argName a (hdrafts ▸ ha) v hv

theorem nested_of_stringNames (hp : d.fill.Nested) (h : stringNames d = .ok names) :
    ∀ v ∈ names, Code.Nested v.display := by
  intro v hv
  have hmem := mem_map_of_mem (f := Value.display) hv
  rw [(eq_of_stringNames h).1, Prototype.names, mem_cons, mem_map] at hmem
  rcases hmem with hname | ⟨a, ha, hname⟩
  · exact hname ▸ hp.name
  · exact hname ▸ hp.argName a ha

theorem subset_of_sorted {sorted : List Value} (h : Value.sorted values = .ok sorted) :
    sorted ⊆ values := by
  unfold Value.sorted at h
  split at h
  · cases h
    exact List.Subset.refl _
  · split at h
    · cases h
      exact fun v hv => mem_mergeSort.mp hv
    · split at h
      · cases h
        exact fun v hv => mem_mergeSort.mp hv
      · cases h

theorem exists_of_mem_sortedNames (h : sortedNames names = .ok texts) {t : String}
    (ht : t ∈ texts) : ∃ v ∈ names, v.display = t := by
  unfold sortedNames at h
  split at h
  · cases h
    exact mem_map.mp (Options.mem_sortedSet.mp ht)
  · obtain ⟨different, hdifferent, h⟩ := bind_eq_ok.mp h
    obtain ⟨sorted, hsorted, hpure⟩ := bind_eq_ok.mp h
    cases hpure
    obtain ⟨v, hv, rfl⟩ := mem_map.mp ht
    have hv := subset_of_sorted hsorted hv
    unfold Value.keySet at hdifferent
    split at hdifferent
    · cases hdifferent
      exact ⟨v, distinct_subset names hv, rfl⟩
    · cases hdifferent

theorem nested_nameStrings (hfunctions : ∀ d ∈ functions, d.fill.Nested)
    (h : nameStrings functions = .ok t) : Code.Nested t := by
  obtain ⟨all, hall, h⟩ := bind_eq_ok.mp h
  obtain ⟨names, hnames, hpure⟩ := bind_eq_ok.mp h
  cases hpure
  refine .append (.lines (forall_mem_map.mpr fun name hname => .of_behind ?_)) (by decide)
  have hnested : Code.Nested name := by
    obtain ⟨v, hv, rfl⟩ := exists_of_mem_sortedNames hnames hname
    obtain ⟨own, hown, hv⟩ := mem_flatten.mp hv
    obtain ⟨d, hd, hd'⟩ := (mem_mapM_iff hall).mp hown
    exact nested_of_stringNames (hfunctions d hd) hd' v hv
  simp -index only [behind_parts, hnested.behind_eq]
  rfl

/-! ## The types and the services of the source -/

theorem nested_functionCode (hg : g.Nested) (hp : d.fill.Nested) (h : Says (g.functionCode d) t) :
    Code.Nested t :=
  .of_behind (closes_functionCode hp.fits (hp.covers _) (fun plugin _ => plugin.mem_all)
    (brackets_takes hg.weak _) (fun a c hc => brackets_takes (hg.assertion a c hc) _) h)

theorem nested_services (hn : n.Nested) (hfunctions : ∀ d ∈ functions, d.fill.Nested)
    (h : Says (g.services n functions) t) : Code.Nested t :=
  .of_behind (closes_services (brackets_takes hn.cleanName _)
    (fun d hd => (hfunctions d hd).fits.name)
    (fun d hd => ((hfunctions d hd).covers g.plugins.settings).toCoversMock)
    (fun plugin _ => plugin.mem_all) h)

theorem nested_of_says_source (hg : g.Nested) (hn : n.Nested)
    (hfunctions : ∀ l, m.functions = .ok l → ∀ d ∈ l.items, d.fill.Nested)
    (h : Says (g.sourceChunks n m) t) : Code.Nested t := by
  obtain ⟨own, l, rest, hown, hl, hall, hrest, rfl⟩ := exists_of_says_source h
  refine .append (nested_sourceHead hg (nested_ownHeader hg hn hown)) ?_
  have hfunctions := hfunctions l hl
  obtain ⟨_, code, hfront, hcode, rfl⟩ := append_iff.mp hrest
  obtain ⟨_, services, hstart, hservices, rfl⟩ := append_iff.mp hfront
  obtain ⟨_, mock, htypes, hmock, rfl⟩ := append_iff.mp hstart
  obtain ⟨strings, calls, hstrings, hcalls, rfl⟩ := append_iff.mp htypes
  obtain ⟨structs, hstructs, rfl⟩ := flatMap_iff.mp hcalls
  obtain ⟨codes, hcodes, rfl⟩ := flatMap_iff.mp hcode
  have hstrings := nested_nameStrings hfunctions (singleton_iff.mp hstrings)
  have hstructs := nested_concat_of_forall₂ hstructs fun d hd u hu =>
    .of_behind (closes_callInstance (hfunctions d hd).fits hu)
  have hmock : Code.Nested mock := .of_behind (closes_mockInstance
    (brackets_takes hn.cleanName _) (fun d hd => (hfunctions d hd).fits) hmock)
  have hservices := nested_services hn hfunctions hservices
  have hcodes := nested_concat_of_forall₂ hcodes fun d hd u hu =>
    nested_functionCode hg (hfunctions d hd) hu
  exact (((hstrings.append hstructs).append hmock).append hservices).append hcodes

end

/-- The header and the source that making a mock writes are well nested, if the texts are that go
into them, and if the format for the name of the mocked header does not cut it between brackets. -/
theorem createMock_nested {given voids home frameworkDir : Value} {helped : Bool} {g : Generator}
    {w w' u u' : Workspace} {moduleName extension asked : Value} {m : Material}
    (hmade : (ofValue given helped voids home frameworkDir).run w = (.ok g, w'))
    (hrun : (g.createMock moduleName m extension asked).run u = (.ok (), u'))
    (hoptions : ∀ o v, (Options.resolve given).run w = (.ok o, v) → o.Nested)
    (harguments : ∀ v ∈ [moduleName, extension, asked], Code.Nested v.display)
    (hfunctions : ∀ l, m.functions = .ok l → ∀ d ∈ l.items, d.fill.Nested)
    (htypedefs : ∀ l, m.typedefs = .ok l → ∀ t ∈ l.items, Code.Nested t)
    (hcut : ∀ folder ext, g.folder asked = .ok folder → headerExtension extension = .ok ext →
      CutsNested g.includeFormat (g.names moduleName ext folder)) :
    ∃ folder ext header source, g.folder asked = .ok folder ∧ headerExtension extension = .ok ext ∧
      g.WroteHeader (g.names moduleName ext folder) m header ∧
      g.WroteSource (g.names moduleName ext folder) m source ∧
      Code.Nested header ∧ Code.Nested source := by
  obtain ⟨o, v, hresolve, hfollow, hset⟩ := ofValue_eq_ok hmade
  obtain ⟨folder, ext, header, hfolder, hext, hheader⟩ := exists_wroteHeader hrun
  obtain ⟨folder', ext', source, hfolder', hext', hsource⟩ := exists_wroteSource hrun
  obtain rfl : folder = folder' := Except.ok.inj (hfolder.symm.trans hfolder')
  obtain rfl : ext = ext' := Except.ok.inj (hext.symm.trans hext')
  have hg := nested_of_ofOptions (hoptions o v hresolve) hfollow hset
  have hn := nested_names hg (harguments moduleName (by simp))
    (nested_of_headerExtension (harguments extension (by simp)) hext)
    (nested_of_folder hg.subdir (harguments asked (by simp)) hfolder)
  obtain ⟨mocked, start, hmocked, hstart, hiff⟩ :=
    exists_start_of_says_header hn hfunctions htypedefs hheader.text
  refine ⟨folder, ext, header, source, hfolder, hext, hheader, hsource, hiff.mpr ?_, ?_⟩
  · exact nested_of_says_headerStart hg hn (hcut folder ext hfolder hext) hmocked hstart
  · exact nested_of_says_source hg hn hfunctions hsource.text

theorem eq_null_of_folder {folder : Value} (hsubdir : g.subdir.truthy = false)
    (h : g.folder .null = .ok folder) : .null = folder := by
  simpa [Generator.folder, hsubdir] using h

theorem nested_of_mem_tank {l : Listed Draft}
    (h : (Material.ofValue Sample.tank).functions = .ok l) {d : Draft} (hd : d ∈ l.items) :
    d.fill.Nested :=
  of_mem_tank (by decide) (by decide) h hd

theorem cutsNested_of_all {format : String} {n : Names} (mocked : String)
    (hmocked : mockedHeader n = .ok mocked)
    (h : ((Format.places format.toList.length format.toList).all fun spec =>
      (Format.shown spec mocked).toOption.all fun shown =>
        decide (Code.Nested (String.ofList shown))) = true) : CutsNested (.str format) n := by
  rintro s mocked' hs hmocked' spec hspec - - shown hshown
  cases hs
  cases hmocked.symm.trans hmocked'
  have hplace := all_eq_true.mp h spec hspec
  rw [hshown] at hplace
  exact of_decide_eq_true hplace

/-- A mock with brackets in the texts of the options, whose format cuts the name of the mocked
header behind the module. -/
theorem createMock_nested_tank :
    let given := .record [(":plugins", .texts ["ignore", "array", "return_thru_ptr", "callback"]),
      (":weak", .str "__attribute__((weak))"), (":includes", .texts ["units[metric].h"]),
      (":orig_header_include_fmt", .str "#include \"%.4s.hpp\"")]
    let m := .ofValue Sample.tank
    ∃ g w w' header source,
      (ofValue given true (.list []) .null .null).run { strippables := [] } = (.ok g, w) ∧
      (g.createMock (.str "tank") m .null .null).run w = (.ok (), w') ∧
      g.WroteHeader (g.names (.str "tank") ".h" .null) m header ∧
      g.WroteSource (g.names (.str "tank") ".h" .null) m source ∧
      Code.Nested header ∧ Code.Nested source := by
  intro given m
  have hnested : ((Options.resolve given).run { strippables := [] }).1.toOption.any
      (fun o => decide o.Nested) = true := by decide +kernel
  obtain ⟨g, w, w', hmade, hrun, hg⟩ := exists_of_makeTank given
    (P := fun g => !g.subdir.truthy && g.includeFormat == .str "#include \"%.4s.hpp\"")
    (by decide +kernel)
  obtain ⟨hsubdir, hformat⟩ := and_eq_true_iff.mp hg
  rw [not_eq_true'] at hsubdir
  obtain ⟨folder, ext, header, source, hfolder, hext, hheader, hsource, hnestedHeader,
    hnestedSource⟩ := createMock_nested hmade hrun
      (fun o v hresolve => by
        rw [hresolve] at hnested
        exact of_decide_eq_true hnested)
      (by decide) (fun l hl d hd => nested_of_mem_tank hl hd)
      (fun l hl => by
        obtain rfl := Except.ok.inj hl
        exact fun t ht => nomatch ht)
      (fun folder ext hfolder hext => by
        obtain rfl := eq_null_of_folder hsubdir hfolder
        cases hext
        rw [Value.beq_str.mp hformat]
        exact cutsNested_of_all "tank.h" rfl (by decide +kernel))
  obtain rfl := eq_null_of_folder hsubdir hfolder
  cases hext
  exact ⟨g, w, w', header, source, hmade, hrun, hheader, hsource, hnestedHeader, hnestedSource⟩

/-- A module in which nothing is declared. -/
def bareModule : Material :=
  .ofValue (.record [("functions", .list []), ("typedefs", .list []),
    ("normalized_source", .str "")])

theorem nested_of_mem_bareModule (l : Listed Draft) (h : bareModule.functions = .ok l) :
    ∀ d ∈ l.items, d.fill.Nested := by
  obtain rfl := Except.ok.inj h
  exact fun d hd => nomatch hd

theorem nested_typedef_bareModule (l : Listed String) (h : bareModule.typedefs = .ok l) :
    ∀ t ∈ l.items, Code.Nested t := by
  obtain rfl := Except.ok.inj h
  exact fun t ht => nomatch ht

/-- A file with a bracket in its name, beside a directory with one. -/
def bracketFiles : Workspace where
  files := {
    files := [(["mocks", "y).h"], .text "")]
    dirs := [["mocks"], ["mocks", "x("]] }
  strippables := []

/-- A format may cut the name of the mocked header between two brackets, and a path to a helper file
may lose a bracket when it is shortened. -/
theorem createMock_not_nested :
    (let given := .record [(":orig_header_include_fmt", .str "#include \"%.2s\"")]
      ∃ g w w' header, (ofValue given true (.list []) .null .null).run bracketFiles = (.ok g, w) ∧
        (g.createMock (.str "a(b)") bareModule .null .null).run w = (.ok (), w') ∧
        (∀ o v, (Options.resolve given).run bracketFiles = (.ok o, v) → o.Nested) ∧
        Code.Nested "a(b)" ∧ g.WroteHeader (g.names (.str "a(b)") ".h" .null) bareModule header ∧
        ¬Code.Nested header) ∧
    let given := .record [(":unity_helper_path", .str "mocks/x(/../y).h")]
    ∃ g w w' source, (ofValue given true (.list []) .null .null).run bracketFiles = (.ok g, w) ∧
      (g.createMock (.str "a") bareModule .null .null).run w = (.ok (), w') ∧
      Code.Nested "mocks/x(/../y).h" ∧
      g.WroteSource (g.names (.str "a") ".h" .null) bareModule source ∧ ¬Code.Nested source := by
  constructor
  · intro given
    have hnested : ((Options.resolve given).run bracketFiles).1.toOption.any
        (fun o => decide o.Nested) = true := by decide +kernel
    have hmake : ((make given "a(b)" bareModule).run bracketFiles).1.toOption.any (fun g =>
        !g.subdir.truthy && !decide (Code.Nested (collect "" ((g.headerHead
          (g.names (.str "a(b)") ".h" .null) bareModule "a(b).h").take 5)).1)) = true := by
      decide +kernel
    obtain ⟨g, w, w', hmade, hrun, hg⟩ := exists_of_make hmake
    simp only [and_eq_true, not_eq_true', decide_eq_false_iff_not] at hg
    obtain ⟨hsubdir, hopen⟩ := hg
    have hoptions : ∀ o v, (Options.resolve given).run bracketFiles = (.ok o, v) → o.Nested :=
      fun o v hresolve => by
        rw [hresolve] at hnested
        exact of_decide_eq_true hnested
    obtain ⟨o, v, hresolve, hfollow, hset⟩ := ofValue_eq_ok hmade
    have hgenerator := nested_of_ofOptions (hoptions o v hresolve) hfollow hset
    obtain ⟨folder, ext, header, hfolder, hext, hheader⟩ := exists_wroteHeader hrun
    obtain rfl := eq_null_of_folder hsubdir hfolder
    cases hext
    obtain ⟨mocked, start, hmocked, hstart, hiff⟩ := exists_start_of_says_header
      (nested_names hgenerator (by decide) (by decide) (by decide)) nested_of_mem_bareModule
      nested_typedef_bareModule hheader.text
    obtain rfl : "a(b).h" = mocked := Except.ok.inj hmocked
    refine ⟨g, w, w', header, hmade, hrun, hoptions, by decide, hheader, fun hclosed => hopen ?_⟩
    rw [congrArg Prod.fst hstart]
    exact hiff.mp hclosed
  · intro given
    have hmake : ((make given "a" bareModule).run bracketFiles).1.toOption.any (fun g =>
        !g.subdir.truthy && (g.ownHeader (g.names (.str "a") ".h" .null)).toOption.any fun own =>
          decide (dueBehind [] (g.sourceHead own false).toList = none)) = true := by
      decide +kernel
    obtain ⟨g, w, w', hmade, hrun, hg⟩ := exists_of_make hmake
    simp only [and_eq_true, not_eq_true'] at hg
    obtain ⟨hsubdir, hhead⟩ := hg
    obtain ⟨folder, ext, source, hfolder, hext, hsource⟩ := exists_wroteSource hrun
    obtain rfl := eq_null_of_folder hsubdir hfolder
    cases hext
    refine ⟨g, w, w', source, hmade, hrun, by decide, hsource, fun hclosed => ?_⟩
    obtain ⟨own, l, rest, hown, hl, -, -, rfl⟩ := exists_of_says_source hsource.text
    have hempty : l.items = [] := by
      obtain rfl := Except.ok.inj hl
      rfl
    rw [hown] at hhead
    have hnone : dueBehind [] (g.sourceHead own false).toList = none :=
      of_decide_eq_true hhead
    have hdue := hclosed.dueBehind_eq
    rw [String.toList_append, dueBehind_append, hempty, isEmpty_nil, Bool.not_true,
      hnone] at hdue
    cases hdue

end Generator

end MockGen
