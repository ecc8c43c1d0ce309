import MockGen.Proofs.Mock.Brackets

/-!
# The strings of a mock

Its source begins with a table that defines a string for every name of a function or of a parameter,
in order and each once, and all code behind the table names only these.  The names and texts of a
mock are put together from those that were given, and so it is of what stands in the source that one
has to know that it could not be taken for a string.
-/

namespace MockGen

open Code Trait Output List Text Outcome Says Options

namespace Generator

variable {g : Generator} {o : Options} {n : Names} {m : Material} {d : Draft}
  {functions : List Draft} {names : List String} {t : String}

/-- The names of all functions and parameters. -/
def allNames (functions : List Draft) : List String :=
  functions.flatMap fun d => d.fill.names

theorem eq_of_nameStrings (hnamed : ∀ d ∈ functions, d.TextNamed)
    (h : nameStrings functions = .ok t) :
    t = lines ((Options.sortedSet (allNames functions)).map definition) ++ "\n" := by
  obtain ⟨all, hall, h⟩ := bind_eq_ok.mp h
  obtain ⟨sorted, hsorted, hpure⟩ := bind_eq_ok.mp h
  cases hpure
  have htexts : all.flatten.all (·.text?.isSome) = true := by
    rw [all_eq_true]
    intro v hv
    obtain ⟨values, hvalues, hv⟩ := mem_flatten.mp hv
    obtain ⟨d, hd, hd'⟩ := (mem_mapM_iff hall).mp hvalues
    exact (eq_of_stringNames hd').2 (hnamed d hd) v hv
  have hnames : all.flatten.map Value.display = allNames functions := by
    rw [map_flatten, allNames, flatMap_def]
    congr 1
    rw [mapM_eq_ok] at hall
    rw [← forall₂_eq_eq_eq, forall₂_map_left_iff, forall₂_map_right_iff]
    exact (hall.imp fun d values hvalues => (eq_of_stringNames hvalues).1).flip
  rw [sortedNames, if_pos htexts, hnames] at hsorted
  cases hsorted
  rfl

/-! ## Texts of the options -/

end Generator

/-- A kind of comparison from which no assertion is made that looks like a string. -/
def Comparisons.KindApart (kind : String) : Prop :=
  Loose kind ∧ Loose (String.ofList (kind.toList.filter (· != '*')))

instance (kind : String) : Decidable (Comparisons.KindApart kind) :=
  inferInstanceAs (Decidable (_ ∧ _))

theorem Comparisons.makes_apart : Makes KindApart Code.Apart where
  empty := by decide
  word {t} ht hstart := by
    rw [Code.Apart, mentioned_of_word ht, stringName?, if_neg]
    · rfl
    · intro hpre
      rw [List.isPrefixOf_iff_prefix] at hpre
      rcases List.prefix_or_prefix_of_prefix hpre hstart with h | h
      · revert h
        decide
      · revert h
        decide
  kind hk := Clear.apart (.fixed (hk.1.atEnd rfl))
  array hk := by
    rw [String.append_assoc]
    exact Clear.apart (.fixed (hk.1.holds (.last rfl)))
  starred hk := by
    rw [String.append_assoc]
    exact Clear.apart (.fixed (hk.2.holds (.last rfl)))

/-- No text of the options that goes into a source could be taken for a string. -/
@[mk_iff]
structure Options.Apart (o : Options) : Prop where
  weak : Code.Apart (o.get ":weak").display
  file : ∀ key ∈ [":includes_c_pre_header", ":includes_c_post_header"],
    ∀ v ∈ Generator.items o key, Code.Apart v.display
  kind : ∀ entry ∈ o.treatAs, Comparisons.KindApart entry.2.display

instance (o : Options) : Decidable o.Apart :=
  decidable_of_iff _ (apart_iff o).symm

namespace Generator

variable {g : Generator} {o : Options} {n : Names} {m : Material} {d : Draft}
  {functions : List Draft} {names : List String} {t : String}

/-- No text that a generator puts into every source could be taken for a string, and no assertion
by which it compares parameters. -/
structure Apart (g : Generator) : Prop where
  weak : Code.Apart g.weak
  sourceIncludes : ∀ file ∈ g.sourceIncludesBefore ++ g.sourceIncludesAfter, Code.Apart file
  assertion : ∀ a c, g.plugins.settings.comparison a = .ok c → Code.Apart c.assertion

theorem apart_of_ofOptions {ps : Plugins} (ho : o.Apart) (hfollow : ps.Follow o)
    (h : ofOptions o ps = .ok g) : g.Apart := by
  unfold ofOptions at h
  obtain ⟨before, -, h⟩ := bind_eq_ok.mp h
  obtain ⟨after, -, h⟩ := bind_eq_ok.mp h
  obtain ⟨sourceBefore, hsourceBefore, h⟩ := bind_eq_ok.mp h
  obtain ⟨sourceAfter, hsourceAfter, hpure⟩ := bind_eq_ok.mp h
  obtain rfl := Except.ok.inj hpure
  have hquoted (s : String) (hs : Code.Apart s) : Code.Apart ("\"" ++ s ++ "\"") := by
    rw [String.append_assoc]
    exact Clear.apart (.fixed ((Clear.of_apart hs).holds (.last rfl)))
  have hbefore := of_formatIncludes hquoted (ho.file _ (by simp)) hsourceBefore
  have hafter := of_formatIncludes hquoted (ho.file _ (by simp)) hsourceAfter
  refine ⟨?_, forall_mem_append.mpr ⟨hbefore, hafter⟩, fun a c hc =>
    hfollow.assertion_of_makes Comparisons.makes_apart ho.kind hc⟩
  dsimp only
  split
  · exact ho.weak
  · decide

/-- The name of a mock inside identifiers could not be taken for a string, nor the path by which its
source includes its header. -/
structure NamesApart (g : Generator) (n : Names) : Prop where
  cleanName : Loose n.cleanName
  ownHeader : ∀ own, g.ownHeader n = .ok own → Code.Apart own

/-! ## The start of the source -/

theorem closes_includeLines {files : List String} (h : ∀ file ∈ files, Code.Apart file) :
    (strings names).Closes .start (includeLines files) :=
  .lines_map fun file hfile =>
    .line (strings_takes (.fixed ((Clear.of_apart (h file hfile)).atEnd rfl)))

theorem closes_sourceHead (hg : g.Apart) {own : String} (hown : Code.Apart own)
    (hasFunctions : Bool) : (strings names).Closes .start (g.sourceHead own hasFunctions) := by
  have hbefore : (strings names).Closes .start (includeLines g.sourceIncludesBefore) :=
    closes_includeLines fun file hfile => hg.sourceIncludes file (mem_append_left _ hfile)
  have hafter : (strings names).Closes .start (includeLines g.sourceIncludesAfter) :=
    closes_includeLines fun file hfile => hg.sourceIncludes file (mem_append_right _ hfile)
  have hown : Clear names own := .of_apart hown
  have hfixed : ∀ {l : List Char}, ((Scan.word false []).behind l).passes = true →
      (strings names).Closes .start (lines [String.ofList l]) :=
    fun h => .line (strings_takes (.last h))
  unfold sourceHead sourceIncludes firstIncludes
  simp only [toString_text, String.append_assoc]
  exact .append (.only fun _ => hfixed rfl) (.append (.lines_append (.lines_append
    (.lines_append (hfixed rfl) (hfixed rfl)) (.only fun _ => hfixed rfl)) (hfixed rfl))
    (.append hbefore (.append (.line (strings_takes (.fixed (hown.holds (.last rfl)))))
      (.append hafter (last ⟨rfl⟩)))))

theorem ended_sourceHead (g : Generator) (own : String) (hasFunctions : Bool) :
    Ended (g.sourceHead own hasFunctions).toList := by
  unfold sourceHead sourceIncludes
  rw [String.toList_append, String.toList_append]
  exact .append (ended_lines _) (.append_last _ rfl)

/-! ## The source -/

theorem label_of_mem_allNames (hfunctions : ∀ d ∈ functions, d.fill.Apart) {x : String}
    (hx : x ∈ allNames functions) (hnames : x ∈ names) : Label names x := by
  obtain ⟨d, hd, hx⟩ := mem_flatMap.mp hx
  rcases mem_cons.mp hx with rfl | hx
  · exact (hfunctions d hd).name.label hnames
  · obtain ⟨a, ha, rfl⟩ := mem_map.mp hx
    exact ((hfunctions d hd).argName a ha).label hnames

theorem tabled_of_says_source (hg : g.Apart) (hn : g.NamesApart n)
    (hfunctions : ∀ l, m.functions = .ok l → ∀ d ∈ l.items, d.fill.Apart ∧ d.TextNamed)
    (h : Says (g.sourceChunks n m) t) :
    ∃ functions, m.functions.bind Listed.all = .ok functions ∧ Tabled (allNames functions) t := by
  obtain ⟨own, l, rest, hown, hl, hall, hrest, rfl⟩ := exists_of_says_source h
  refine ⟨l.items, bind_eq_ok.mpr ⟨l, hl, hall⟩, ?_⟩
  have hapart := fun d hd => (hfunctions l hl d hd).1
  have hsubset : ∀ d ∈ l.items, d.fill.names ⊆ Options.sortedSet (allNames l.items) :=
    fun d hd x hx => mem_sortedSet.mpr (mem_flatMap.mpr ⟨d, hd, hx⟩)
  obtain ⟨_, code, hfront, hcode, rfl⟩ := append_iff.mp hrest
  obtain ⟨_, services, hstart, hservices, rfl⟩ := append_iff.mp hfront
  obtain ⟨_, mock, htypes, hmock, rfl⟩ := append_iff.mp hstart
  obtain ⟨strings, calls, hstrings, hcalls, rfl⟩ := append_iff.mp htypes
  obtain rfl := eq_of_nameStrings (fun d hd => (hfunctions l hl d hd).2)
    (singleton_iff.mp hstrings)
  have hfits := fun d hd => (hapart d hd).fits (hsubset d hd)
  have hcovers := fun d hd => (hapart d hd).covers (hsubset d hd) g.plugins.settings
  have hall : g.plugins.loaded ⊆ Plugin.all := fun plugin _ => plugin.mem_all
  have hcalls := hcalls.of_flatMap (Trait.empty _) .append fun d hd u hu =>
    closes_callInstance (hfits d hd) hu
  have hcode := hcode.of_flatMap (Trait.empty _) .append fun d hd u hu =>
    closes_functionCode (hfits d hd) (hcovers d hd) hall (strings_takes (.of_apart hg.weak))
      (fun a c hc => strings_takes (.of_apart (hg.assertion a c hc))) hu
  have hmock := closes_mockInstance (strings_takes_stem hn.cleanName) hfits hmock
  have hservices := closes_services (strings_takes_stem hn.cleanName)
    (fun d hd => (hfits d hd).name) (fun d hd => (hcovers d hd).toCoversMock) hall hservices
  have hrest := clear (.append (last (l := ['\n']) ⟨rfl⟩)
    (.append (.append (.append hcalls hmock) hservices) hcode))
  have hsource := tabled_of_clear (fun x hx => label_of_mem_allNames hapart
      (mem_sortedSet.mp hx) hx)
    (ended_sourceHead g own (!l.items.isEmpty))
    (clear (closes_sourceHead hg (hn.ownHeader own hown) (!l.items.isEmpty)))
    (pairwise_sortedSet _) hrest
  simp only [String.append_assoc] at hsource ⊢
  exact hsource.congr fun x => mem_sortedSet

/-- The strings that the source of a mock names are those of its functions and parameters, if no
text that goes into it reads like the name of a string, alone or in front of an underscore. -/
theorem createMock_tabled {given voids home frameworkDir : Value} {helped : Bool} {g : Generator}
    {w w' u u' : Workspace} {moduleName extension asked : Value} {m : Material}
    (hmade : (ofValue given helped voids home frameworkDir).run w = (.ok g, w'))
    (hrun : (g.createMock moduleName m extension asked).run u = (.ok (), u'))
    (hoptions : ∀ o v, (Options.resolve given).run w = (.ok o, v) → o.Apart)
    (hnames : ∀ folder ext, g.folder asked = .ok folder → headerExtension extension = .ok ext →
      g.NamesApart (g.names moduleName ext folder))
    (hfunctions : ∀ l, m.functions = .ok l → ∀ d ∈ l.items, d.fill.Apart ∧ d.TextNamed) :
    ∃ folder ext t functions, g.folder asked = .ok folder ∧ headerExtension extension = .ok ext ∧
      g.WroteSource (g.names moduleName ext folder) m t ∧
      m.functions.bind Listed.all = .ok functions ∧ Tabled (allNames functions) t := by
  obtain ⟨o, v, hresolve, hfollow, hset⟩ := ofValue_eq_ok hmade
  obtain ⟨folder, ext, t, hfolder, hext, hwrote⟩ := exists_wroteSource hrun
  have hg := apart_of_ofOptions (hoptions o v hresolve) hfollow hset
  obtain ⟨functions, hall, htabled⟩ :=
    tabled_of_says_source hg (hnames folder ext hfolder hext) hfunctions hwrote.text
  exact ⟨folder, ext, t, functions, hfolder, hext, hwrote, hall, htabled⟩

theorem apart_of_mem_tank {l : Listed Draft}
    (h : (Material.ofValue Sample.tank).functions = .ok l) {d : Draft} (hd : d ∈ l.items) :
    d.fill.Apart ∧ d.TextNamed := by
  refine ⟨of_mem_tank (by decide) (by decide) h hd, ?_⟩
  obtain rfl := Except.ok.inj h
  rcases mem_pair.mp hd with rfl | rfl
  · exact ⟨fun v hv => by cases hv; rfl, fun a ha v hv => by
      rcases mem_pair.mp ha with rfl | rfl
      · cases hv; rfl
      · cases hv; rfl⟩
  · exact ⟨fun v hv => by cases hv; rfl, fun a ha => nomatch ha⟩

/-- With several plugins, and texts of the options in the code, each string has its definition. -/
theorem createMock_tabled_tank :
    let given := .record [(":plugins", .texts ["ignore", "array", "return_thru_ptr", "callback"]),
      (":treat_as", .record [("int", .str "INT16")]), (":weak", .str "__attribute__((weak))"),
      (":includes", .texts ["CMockStrings.h"])]
    let m := .ofValue Sample.tank
    ∃ g w w' t functions,
      (ofValue given true (.list []) .null .null).run { strippables := [] } = (.ok g, w) ∧
      (g.createMock (.str "tank") m .null .null).run w = (.ok (), w') ∧
      g.WroteSource (g.names (.str "tank") ".h" .null) m t ∧
      m.functions.bind Listed.all = .ok functions ∧ Tabled (allNames functions) t := by
  intro given m
  have hapart : ((Options.resolve given).run { strippables := [] }).1.toOption.any
      (fun o => decide o.Apart) = true := by decide +kernel
  obtain ⟨g, w, w', hmade, hrun, hg⟩ := exists_of_makeTank given
    (P := fun g => !g.subdir.truthy &&
      decide (Loose (g.names (.str "tank") ".h" .null).cleanName) &&
      (g.ownHeader (g.names (.str "tank") ".h" .null)).toOption.all fun own =>
        decide (Code.Apart own)) (by decide +kernel)
  simp only [Bool.and_eq_true, Bool.not_eq_true', decide_eq_true_eq] at hg
  obtain ⟨⟨hsubdir, hclean⟩, hown⟩ := hg
  obtain ⟨folder, ext, t, functions, hfolder, hext, hwrote, hall, htabled⟩ :=
    createMock_tabled hmade hrun
      (fun o v hresolve => by
        rw [hresolve] at hapart
        exact of_decide_eq_true hapart)
      (fun folder ext hfolder hext => by
        obtain rfl := eq_null_of_folder hsubdir hfolder
        cases hext
        refine ⟨hclean, fun own h => ?_⟩
        rw [h] at hown
        exact of_decide_eq_true hown)
      (fun l hl d hd => apart_of_mem_tank hl hd)
  obtain rfl := eq_null_of_folder hsubdir hfolder
  cases hext
  exact ⟨g, w, w', t, functions, hmade, hrun, hwrote, hall, htabled⟩

/-! ## Names that end in front of an underscore -/

mutual

/-- No text in a value has the part in it. -/
def lacks (part : List Char) : Value → Bool
  | .str s => !hasPart part s.toList
  | .moment shown spelled =>
    !hasPart part shown.toList && !hasPart part spelled.toList
  | .list items => lacksItems part items
  | .map entries => lacksEntries part entries
  | _ => true

def lacksItems (part : List Char) : List Value → Bool
  | [] => true
  | item :: items => lacks part item && lacksItems part items

def lacksEntries (part : List Char) : List (Value × Value) → Bool
  | [] => true
  | (key, value) :: entries => lacks part key && lacks part value && lacksEntries part entries

end

/-- Making a mock of texts without the mark of strings writes a source that names a string and does
not define it. -/
def LosesString (given : Value) (name : String) (records : Value) : Prop :=
  [given, .str name, records].all (lacks stringMark) = true ∧
    ∃ g w w' folder t functions,
      (ofValue given true (.list []) .null .null).run { strippables := [] } = (.ok g, w) ∧
      (g.createMock (.str name) (.ofValue records) .null .null).run w = (.ok (), w') ∧
      g.folder .null = .ok folder ∧
      g.WroteSource (g.names (.str name) ".h" folder) (.ofValue records) t ∧
      (Material.ofValue records).functions.bind Listed.all = .ok functions ∧
      ¬Tabled (allNames functions) t

section

variable {given records : Value} {name : String}

/-- A mock loses a string if its source has a name in it that begins like one, and goes on as no
function or parameter is named. -/
theorem losesString_of_chunk {c : Char} {y : List Char} (k : Nat)
    (hlacks : [given, .str name, records].all (lacks stringMark) = true)
    (hmake : ((make given name (.ofValue records)).run { strippables := [] }).1.toOption.any
      (fun g => (g.folder .null).toOption.any fun folder =>
        ((Material.ofValue records).functions.bind Listed.all).toOption.any fun functions =>
          ((allNames functions).all fun x => !y.isPrefixOf x.toList) &&
            (g.sourceChunks (g.names (.str name) ".h" folder) (.ofValue records))[k]?.any fun u =>
              u.toOption.any fun u => hasPart (c :: (stringMark ++ y)) (spelled u)) = true)
    (hc : isWord c = false) (hy : ∀ d ∈ stringMark ++ y, isWord d = true) :
    LosesString given name records := by
  obtain ⟨g, w, w', hmade, hrun, hg⟩ := exists_of_make hmake
  obtain ⟨folder, ext, t, hfolder, hext, hwrote⟩ := exists_wroteSource hrun
  cases hext
  obtain ⟨folder', hfolder', hg⟩ := exists_of_any hg
  cases hfolder.symm.trans hfolder'
  obtain ⟨functions, hall, hg⟩ := exists_of_any hg
  obtain ⟨hnames, hk⟩ := Bool.and_eq_true_iff.mp hg
  refine ⟨hlacks, g, w, w', folder, t, functions, hmade, hrun, hfolder, hwrote, hall,
    fun htabled => ?_⟩
  obtain ⟨x, hx, hword, hpre⟩ := exists_mentioned_of_infix hc hy (infix_of_chunk hwrote.text hk)
  have hname := all_eq_true.mp hnames x (htabled.mem_of_mentioned hword hx)
  rw [List.isPrefixOf_iff_prefix.mpr hpre] at hname
  cases hname

end

/-- What is read from a header that declares one function. -/
def moduleOf (p : Prototype) : Value :=
  .record [("functions", .list [p.record]), ("typedefs", .list []), ("normalized_source", .str "")]

/-- The sample without parameters under the name that strings begin with. -/
def stringFunction : Prototype :=
  { Sample.emptying with name := "CMockString", unscopedName := "CMockString" }

/-- The sample with a pointer that has the name that strings begin with. -/
def stringPointer : Prototype :=
  { Sample.filling with
    args := (Sample.filling.args.take 1).map ({ · with name := "CMockString" }),
    argsString := "int* CMockString",
    argsCall := "CMockString" }

theorem losesString_function : LosesString (.record []) "a" (moduleOf stringFunction) :=
  losesString_of_chunk (c := ' ') (y := "CallInstance".toList) 7 (by decide +kernel)
    (by decide +kernel) rfl (by decide)

theorem losesString_parameter :
    LosesString (.record [(":plugins", .texts ["array"])]) "a" (moduleOf stringPointer) :=
  losesString_of_chunk (c := ' ') (y := "Depth".toList) 29 (by decide +kernel) (by decide +kernel)
    rfl (by decide)

theorem losesString_kind :
    LosesString (.record [(":treat_as", .record [("int", .str "INT CMockString")])]) "a"
      (moduleOf Sample.filling) :=
  losesString_of_chunk (c := ' ') (y := "ARRAY".toList) 24 (by decide +kernel) (by decide +kernel)
    rfl (by decide)

/-- A function, a parameter, a mock or a kind may have the name that strings begin with, and the
prefix of a mock may end in it where its folder begins with an underscore. -/
theorem createMock_loses_string :
    LosesString (.record []) "a" (moduleOf stringFunction) ∧
      LosesString (.record [(":plugins", .texts ["array"])]) "a" (moduleOf stringPointer) ∧
      LosesString (.record [(":treat_as", .record [("int", .str "INT CMockString")])]) "a"
        (moduleOf Sample.filling) ∧
      LosesString (.record [(":mock_prefix", .str "")]) "CMockString-x"
        (moduleOf Sample.emptying) ∧
      LosesString (.record [(":mock_prefix", .str "CMockString"), (":subdir", .str "_d")]) "x"
        (moduleOf Sample.emptying) := by
  refine ⟨losesString_function, losesString_parameter, losesString_kind, ?_, ?_⟩
  · exact losesString_of_chunk (c := ' ') (y := "xInstance".toList) 5 (by decide +kernel)
      (by decide +kernel) rfl (by decide)
  · exact losesString_of_chunk (c := '"') (y := "d".toList) 0 (by decide +kernel)
      (by decide +kernel) rfl (by decide)

end Generator

end MockGen
