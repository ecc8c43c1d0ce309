import MockGen.Proofs.Mock.Include
import MockGen.Proofs.Mock.Setup
import MockGen.Proofs.Mock.Traits
import MockGen.Proofs.Plugin.Fields

/-!
# References in the source of a mock

The code for a function refers to fields that the types in front of it declare: those of its call
instance, and those of the mock.  The kinds of comparison and the mark of weak functions stand in
that code as the options give them, so they must not look like references themselves.
-/

namespace MockGen

open Code Trait Output Text Outcome Says
open List hiding concat concat_cons

/-- No text of the options that stands in the code for a function could be taken for a reference. -/
@[mk_iff]
structure Options.Inert (o : Options) : Prop where
  kind : ∀ c ∈ ['>', '.'], ∀ entry ∈ o.treatAs, Lacks c entry.2.display
  weak : ∀ c ∈ ['>', '.'], Lacks c (o.get ":weak").display

instance (o : Options) : Decidable o.Inert :=
  decidable_of_iff _ (Options.inert_iff o).symm

namespace Plugins.Follow

variable {ps : Plugins} {o : Options} (h : ps.Follow o)

include h

theorem mem_of_countsOn {plugin : Plugin} (hcounts : ps.settings.countsOn plugin = true) :
    plugin ∈ ps.loaded := by
  obtain ⟨known, voids, hsettings⟩ := h.settings
  rw [hsettings] at hcounts
  rw [h.mem_loaded]
  cases plugin with
  | expect => exact .inl rfl
  | callback => cases hcounts
  | _ => exact .inr (contains_iff_mem.mp hcounts)

theorem takes_assertion (hinert : o.Inert) {F : Fields} {a : Argument} {c : Comparison}
    (hc : ps.settings.comparison a = .ok c) : (references F).Takes .text c.assertion := by
  have hlacks : ∀ d ∈ ['>', '.'], Lacks d c.assertion := by
    intro d hd
    have hword : isWord d = false := by
      revert d
      decide
    exact h.assertion (.lacks hword) (hinert.kind d hd) hc
  exact references_takes (Resolves.of_lacks (hlacks _ (by simp)) (hlacks _ (by simp))).opens

end Plugins.Follow

namespace Generator

variable {g : Generator} {o : Options} {n : Names} {d : Draft} {functions : List Draft} {t : String}

/-! ## The fields -/

theorem coversCall_of_says (hfollow : g.plugins.Follow o) (hp : d.fill.WellNamed)
    (h : Says (g.callInstance d) t) {F : Fields} (hF : fieldsIn t ⊆ F.call) :
    CoversCall (references F) g.plugins.settings g.plugins.loaded d.fill := by
  obtain ⟨head, _, hhead, hrest, rfl⟩ := cons_iff.mp h
  obtain ⟨fields, last, hfields, hlast, rfl⟩ := cons_iff.mp hrest
  obtain rfl := Draft.eq_of_render hhead
  obtain rfl := Plugins.eq_concat_of_textOn (fun _ => rfl) hfields
  have hended : ∀ u ∈ g.plugins.loaded.map fun plugin =>
      plugin.callFields g.plugins.settings d.fill, Ended u.toList :=
    forall_mem_map.mpr fun plugin _ => Plugin.ended_callFields _ plugin _
  rw [fieldsIn_append (ended_lines _), fieldsIn_append (ended_concat hended)] at hF
  refine Plugin.coversCall_of_fields hp hfollow.expect_mem ?_ fun plugin hplugin x hx => ?_
  · refine hF (mem_append_left _ (mem_fieldsIn_lines "  UNITY_LINE_TYPE LineNumber;"
      " UNITY_LINE_TYPE" ?_ (by simp) (.fixed rfl) (.fixed rfl)))
    exact mem_cons_of_mem _ (mem_cons_of_mem _ mem_cons_self)
  · exact hF (mem_append_right _ (mem_append_left _
      (mem_fieldsIn_concat hended (mem_map_of_mem hplugin) hx)))

/-- What the mock remembers about a function, as text. -/
def functionFieldsText (g : Generator) (p : Prototype) : String :=
  concat (g.plugins.loaded.map (Plugin.functionFields · p)) ++
    lines ["  CMOCK_MEM_INDEX_TYPE " ++ p.name ++ "_CallInstance;"]

theorem eq_of_says_functionFields (h : Says (g.functionFields d) t) :
    t = g.functionFieldsText d.fill := by
  obtain ⟨fields, _, hfields, hrest, rfl⟩ := cons_iff.mp h
  obtain rfl := Plugins.eq_concat_of_textOn (fun _ => rfl) hfields
  obtain rfl := Draft.eq_of_render (singleton_iff.mp hrest)
  rfl

theorem ended_functionFieldsText (g : Generator) (p : Prototype) :
    Ended (g.functionFieldsText p).toList := by
  rw [functionFieldsText, String.toList_append]
  exact .append (ended_concat (forall_mem_map.mpr fun plugin _ =>
    Plugin.ended_functionFields plugin p)) (ended_lines _)

theorem fieldsIn_subset_of_says (h : Says (g.mockInstance n functions) t) (hd : d ∈ functions) :
    fieldsIn (g.functionFieldsText d.fill) ⊆ fieldsIn t := by
  obtain ⟨_, last, hfront, hlast, rfl⟩ := append_iff.mp h
  obtain ⟨head, _, hhead, hfields, rfl⟩ := append_iff.mp hfront
  obtain ⟨texts, htexts, rfl⟩ := flatMap_iff.mp hfields
  cases singleton_iff.mp hhead
  obtain rfl : functions.map (fun d => g.functionFieldsText d.fill) = texts := by
    rw [← forall₂_eq_eq_eq, forall₂_map_left_iff]
    exact htexts.imp fun d u hu => (eq_of_says_functionFields hu).symm
  have hended : ∀ u ∈ functions.map fun d => g.functionFieldsText d.fill, Ended u.toList :=
    forall_mem_map.mpr fun d _ => ended_functionFieldsText g d.fill
  rw [String.append_assoc, fieldsIn_append (ended_lines _), fieldsIn_append (ended_concat hended)]
  exact fun x hx => mem_append_right _ (mem_append_left _
    (mem_fieldsIn_concat hended (mem_map_of_mem hd) hx))

theorem coversMock_of_says (h : Says (g.mockInstance n functions) t) (hd : d ∈ functions)
    (hp : d.fill.WellNamed) (call : List (List Char)) :
    CoversMock (references ⟨call, fieldsIn t⟩) g.plugins.loaded d.fill := by
  have hsubset := fieldsIn_subset_of_says h hd
  have hended : ∀ u ∈ g.plugins.loaded.map (Plugin.functionFields · d.fill), Ended u.toList :=
    forall_mem_map.mpr fun plugin _ => Plugin.ended_functionFields plugin d.fill
  rw [functionFieldsText, fieldsIn_append (ended_concat hended)] at hsubset
  refine Plugin.coversMock_of_fields hp ?_ fun plugin hplugin x hx => ?_
  · refine hsubset (mem_append_right _ (mem_fieldsIn_lines _ " CMOCK_MEM_INDEX_TYPE"
      mem_cons_self (by simp) (.fixed rfl) ?_))
    exact (hp.name.append (.fixed rfl)).append (.fixed rfl)
  · exact hsubset (mem_append_left _
      (mem_fieldsIn_concat hended (mem_map_of_mem hplugin) hx))

theorem lacks_cleanName {c : Char} (hc : c ∈ ['-', '.']) (g : Generator) (moduleName : Value)
    (ext : String) (folder : Value) : Lacks c (g.names moduleName ext folder).cleanName := by
  refine .ofList fun hmem => ?_
  obtain ⟨x, -, hx⟩ := mem_map.mp hmem
  have hmark : ∀ c ∈ ['-', '.'], c ≠ '_' ∧ "-/\\.,".toList.contains c = true := by decide
  split at hx
  case isTrue => exact (hmark c hc).1 hx.symm
  case isFalse hplain =>
    subst hx
    exact hplain (by rw [(hmark x hc).2, Bool.true_or])

/-! ## The source -/

/-- The parts of a source behind its start: the types of the call instances, the type of the mock,
the functions that serve all tests, and the code for the functions. -/
structure Parts (g : Generator) (n : Names) (functions : List Draft) (t : String)
    (structs : List String) (mock services : String) (codes : List String) : Prop where
  ofCalls : List.Forall₂ (fun d u => Says (g.callInstance d) u) functions structs
  ofMock : Says (g.mockInstance n functions) mock
  ofServices : Says (g.services n functions) services
  ofFunctions : List.Forall₂ (fun d u => Says (g.functionCode d) u) functions codes
  text : ∃ start, t = start ++ (concat structs ++ (mock ++ (services ++ concat codes)))

theorem exists_parts {m : Material} (h : Says (g.sourceChunks n m) t) :
    ∃ functions structs mock services codes, m.functions.bind Listed.all = .ok functions ∧
      g.Parts n functions t structs mock services codes := by
  obtain ⟨own, l, rest, -, hl, hall, hrest, rfl⟩ := exists_of_says_source h
  obtain ⟨_, _, hfront, hcode, rfl⟩ := append_iff.mp hrest
  obtain ⟨_, services, hstart, hservices, rfl⟩ := append_iff.mp hfront
  obtain ⟨_, mock, htypes, hmock, rfl⟩ := append_iff.mp hstart
  obtain ⟨strings, _, -, hcalls, rfl⟩ := append_iff.mp htypes
  obtain ⟨structs, hstructs, rfl⟩ := flatMap_iff.mp hcalls
  obtain ⟨codes, hcodes, rfl⟩ := flatMap_iff.mp hcode
  exact ⟨l.items, structs, mock, services, codes, bind_eq_ok.mpr ⟨l, hl, hall⟩,
    hstructs, hmock, hservices, hcodes, g.sourceHead own (!l.items.isEmpty) ++ strings,
    by simp only [String.append_assoc]⟩

theorem forall₂_of_forall₂ {α β γ : Type} {R : α → β → Prop} {S : α → γ → Prop}
    {T : β → γ → Prop} {as : List α} {bs : List β} {cs : List γ} (hbs : List.Forall₂ R as bs)
    (hcs : List.Forall₂ S as cs) (h : ∀ a ∈ as, ∀ b c, R a b → S a c → T b c) :
    List.Forall₂ T bs cs := by
  induction hbs generalizing cs with
  | nil =>
    cases hcs
    exact .nil
  | @cons a b as bs hb hbs ih =>
    cases hcs with
    | cons hc hcs =>
      rw [forall_mem_cons] at h
      exact .cons (h.1 _ _ hb hc) (ih hcs h.2)

theorem closes_concat_of_forall₂ {mock : List (List Char)} {structs codes : List String}
    (h : List.Forall₂ (fun s c => ∀ call, fieldsIn s ⊆ call →
      (references ⟨call, mock⟩).Closes .start c) structs codes) {call : List (List Char)}
    (hcall : structs.flatMap fieldsIn ⊆ call) :
    (references ⟨call, mock⟩).Closes .start (concat codes) := by
  induction h with
  | nil => exact Trait.empty _
  | cons hcode _ ih =>
    rw [flatMap_cons] at hcall
    exact .append (hcode call (List.Subset.trans (subset_append_left _ _) hcall))
      (ih (List.Subset.trans (subset_append_right _ _) hcall))

section

variable {moduleName folder : Value} {ext : String} {structs codes : List String}
  {mock services : String} (hfollow : g.plugins.Follow o)
  (hparts : g.Parts (g.names moduleName ext folder) functions t structs mock services codes)
  (hnamed : ∀ d ∈ functions, d.fill.WellNamed)

include hfollow hparts hnamed

theorem forall₂_closes (hinert : o.Inert) (hset : ofOptions o g.plugins = .ok g) :
    List.Forall₂ (fun s c => ∀ call, fieldsIn s ⊆ call →
      (references ⟨call, fieldsIn mock⟩).Closes .start c) structs codes := by
  refine forall₂_of_forall₂ hparts.ofCalls hparts.ofFunctions
    fun d hd struct code hstruct hcode call hcall => ?_
  have hp := hnamed d hd
  have hcovers : Covers (references ⟨call, fieldsIn mock⟩) g.plugins.settings g.plugins.loaded
      d.fill :=
    { toCoversCall := coversCall_of_says hfollow hp hstruct hcall
      toCoversMock := coversMock_of_says hparts.ofMock hd hp _
      loaded := fun _ => hfollow.mem_of_countsOn }
  refine closes_functionCode hp.fits hcovers (List.Subset.refl _) ?_
    (fun a c => hfollow.takes_assertion hinert) hcode
  rw [(ofOptions_eq_ok hset).2]
  split
  · exact references_takes
      (Resolves.of_lacks (hinert.weak _ (by simp)) (hinert.weak _ (by simp))).opens
  · exact .ofList (l := []) ⟨rfl⟩

omit hfollow in
theorem closes_services_of_parts (call : List (List Char)) :
    (references ⟨call, fieldsIn mock⟩).Closes .start services := by
  refine closes_services ?_ (fun d hd => (hnamed d hd).fits.name)
    (fun d hd => coversMock_of_says hparts.ofMock hd (hnamed d hd) _) (List.Subset.refl _)
    hparts.ofServices
  exact references_takes_stem (lacks_cleanName (by simp) ..) (lacks_cleanName (by simp) ..)

end

/-- Making a mock wrote a source with the given text. -/
structure WroteSource (g : Generator) (n : Names) (m : Material) (t : String) : Prop where
  create : ∃ w w', (Output.create g.mockPath (n.mockName ++ ".c") (g.sourceChunks n m)
    n.folder).run w = (.ok (), w')
  text : Says (g.sourceChunks n m) t

theorem exists_wroteSource {moduleName extension asked : Value} {m : Material} {w w' : Workspace}
    (h : (g.createMock moduleName m extension asked).run w = (.ok (), w')) :
    ∃ folder ext t, g.folder asked = .ok folder ∧ headerExtension extension = .ok ext ∧
      g.WroteSource (g.names moduleName ext folder) m t := by
  obtain ⟨folder, ext, u, v, hfolder, hext, -, hsource⟩ := createMock_eq_ok h
  obtain ⟨dir, x, -, hwrite⟩ := Output.create_eq_ok hsource
  obtain ⟨t, ht⟩ := Output.exists_says_of_write hwrite
  exact ⟨folder, ext, t, hfolder, hext, ⟨v, w', hsource⟩, ht⟩

/-- No reference dangles: the code for a function refers only to fields that the type of its call
instances declares, and all functions refer only to fields that the type of the mock declares. -/
structure Resolved (structs : List String) (mock services : String) (codes : List String) :
    Prop where
  toCall : List.Forall₂ (fun struct code => ∀ x, Refers "cmock_call_instance->" code x →
    x ∈ fieldsIn struct) structs codes
  toMock : ∀ x, Refers "Mock." (services ++ concat codes) x → x ∈ fieldsIn mock

/-- In the source that making a mock writes, no reference dangles, if no text could be taken for
one. -/
theorem createMock_resolved {given voids home frameworkDir : Value} {helped : Bool}
    {w w' u u' : Workspace} {moduleName extension asked : Value} {m : Material}
    (hmade : (ofValue given helped voids home frameworkDir).run w = (.ok g, w'))
    (hrun : (g.createMock moduleName m extension asked).run u = (.ok (), u'))
    (hnamed : ∀ l, m.functions = .ok l → ∀ d ∈ l.items, d.fill.WellNamed)
    (hinert : ∀ o v, (Options.resolve given).run w = (.ok o, v) → o.Inert) :
    ∃ folder ext t functions structs mock services codes,
      g.folder asked = .ok folder ∧ headerExtension extension = .ok ext ∧
      g.WroteSource (g.names moduleName ext folder) m t ∧
      m.functions.bind Listed.all = .ok functions ∧
      g.Parts (g.names moduleName ext folder) functions t structs mock services codes ∧
      Resolved structs mock services codes := by
  obtain ⟨o, v, hresolve, hfollow, hset⟩ := ofValue_eq_ok hmade
  obtain ⟨folder, ext, t, hfolder, hext, hwrote⟩ := exists_wroteSource hrun
  obtain ⟨functions, structs, mock, services, codes, hfunctions, hparts⟩ := exists_parts hwrote.text
  have hnamed : ∀ d ∈ functions, d.fill.WellNamed := by
    obtain ⟨l, hl, hall⟩ := bind_eq_ok.mp hfunctions
    obtain rfl := Listed.all_eq_ok hall
    exact hnamed l hl
  have hcodes := forall₂_closes hfollow hparts hnamed (hinert o v hresolve) hset
  have hall := (closes_services_of_parts hparts hnamed _).append
    (closes_concat_of_forall₂ hcodes (List.Subset.refl _))
  exact ⟨folder, ext, t, functions, structs, mock, services, codes, hfolder, hext, hwrote,
    hfunctions, hparts,
    hcodes.imp fun _ _ hcode _ => (settles (hcode _ (List.Subset.refl _))).mem_call,
    fun _ => (settles hall).mem_mock⟩

theorem wellNamed_of_mem_tank {l : Listed Draft}
    (h : (Material.ofValue Sample.tank).functions = .ok l) {d : Draft} (hd : d ∈ l.items) :
    d.fill.WellNamed :=
  of_mem_tank (by decide) (by decide) h hd

/-- With several plugins, and texts of the options in the code, no reference dangles. -/
theorem createMock_resolved_tank :
    let given := .record [(":plugins", .texts ["ignore", "array", "return_thru_ptr", "callback"]),
      (":treat_as", .record [("int", .str "INT16")]), (":weak", .str "__attribute__((weak))")]
    let m := .ofValue Sample.tank
    ∃ g w w' t functions structs mock services codes,
      (ofValue given true (.list []) .null .null).run { strippables := [] } = (.ok g, w) ∧
      (g.createMock (.str "tank") m .null .null).run w = (.ok (), w') ∧
      g.WroteSource (g.names (.str "tank") ".h" .null) m t ∧
      g.Parts (g.names (.str "tank") ".h" .null) functions t structs mock services codes ∧
      Resolved structs mock services codes := by
  intro given m
  have hinert : ((Options.resolve given).run { strippables := [] }).1.toOption.any
      (fun o => decide o.Inert) = true := by decide +kernel
  obtain ⟨g, w, w', hmade, hrun, hg⟩ := exists_of_makeTank given
    (P := fun g => !g.subdir.truthy) (by decide +kernel)
  obtain ⟨folder, ext, t, functions, structs, mock, services, codes, hfolder, hext, hwrote, -,
    hparts, hresolved⟩ := createMock_resolved hmade hrun
      (fun l hl d hd => wellNamed_of_mem_tank hl hd) fun o v hresolve => by
        rw [hresolve] at hinert
        exact of_decide_eq_true hinert
  have hsubdir : g.subdir.truthy = false := by simpa using hg
  obtain rfl : .null = folder := by simpa [Generator.folder, hsubdir] using hfolder
  cases hext
  exact ⟨g, w, w', t, functions, structs, mock, services, codes, hmade, hrun, hwrote, hparts,
    hresolved⟩

/-! ## Texts that are taken for references -/

theorem infix_concat {ts : List String} (ht : t ∈ ts) : t.toList <:+: (concat ts).toList := by
  induction ts with
  | nil => cases ht
  | cons u ts ih =>
    rw [concat_cons, String.toList_append]
    rcases mem_cons.mp ht with rfl | ht
    · exact (prefix_append _ _).isInfix
    · exact (ih ht).trans (suffix_append _ _).isInfix

theorem infix_of_chunk {chunks : List Chunk} {part : List Char} {k : Nat} (h : Says chunks t)
    (hk : chunks[k]?.any (fun u => u.toOption.any fun u => hasPart part (spelled u)) = true) :
    part <:+: t.toList := by
  obtain ⟨chunk, hchunk, hk⟩ := (Option.any_eq_true _ _).mp hk
  obtain ⟨u, rfl, hpart⟩ := exists_of_any hk
  obtain ⟨v, hv, hinfix⟩ := h.exists_of_mem (mem_of_getElem? hchunk)
  cases hv
  rw [spelled_eq] at hpart
  exact (hasPart_iff.mp hpart).trans hinfix

/-- A mock of the sample, made with the given options, has a reference that dangles. -/
def Dangles (given : Value) : Prop :=
  ∃ g w w' t functions structs mock services codes,
    (ofValue given true (.list []) .null .null).run { strippables := [] } = (.ok g, w) ∧
    (g.createMock (.str "tank") (.ofValue Sample.tank) .null .null).run w = (.ok (), w') ∧
    (∀ d ∈ functions, d.fill.WellNamed) ∧
    g.WroteSource (g.names (.str "tank") ".h" .null) (.ofValue Sample.tank) t ∧
    g.Parts (g.names (.str "tank") ".h" .null) functions t structs mock services codes ∧
    ¬Resolved structs mock services codes

theorem dangles_of_makeTank {given : Value} {P : Generator → List Draft → Bool}
    (part : List Char) (k : Nat)
    (hmake : ((makeTank given).run { strippables := [] }).1.toOption.any (fun g =>
      !g.subdir.truthy && ((Material.ofValue Sample.tank).functions.bind Listed.all).toOption.any
        fun functions => P g functions && functions.head?.any fun d =>
          (g.functionCode d)[k]?.any fun u => u.toOption.any fun u => hasPart part (spelled u)) =
      true)
    (h : ∀ {g functions t structs mock services code codes}, P g functions = true →
      g.Parts (g.names (.str "tank") ".h" .null) functions t structs mock services (code :: codes) →
      part <:+: code.toList → ¬Resolved structs mock services (code :: codes)) : Dangles given := by
  obtain ⟨g, w, w', hmade, hrun, hg⟩ := exists_of_makeTank given hmake
  obtain ⟨folder, ext, t, hfolder, hext, hwrote⟩ := exists_wroteSource hrun
  obtain ⟨functions, structs, mock, services, codes, hfunctions, hparts⟩ := exists_parts hwrote.text
  rw [hfunctions, Bool.and_eq_true, Bool.not_eq_true'] at hg
  obtain rfl : .null = folder := by simpa [Generator.folder, hg.1] using hfolder
  cases hext
  obtain ⟨l, hl, hall⟩ := bind_eq_ok.mp hfunctions
  obtain rfl := Listed.all_eq_ok hall
  obtain ⟨hP, hfirst⟩ := Bool.and_eq_true_iff.mp hg.2
  obtain ⟨d, hd, hk⟩ := (Option.any_eq_true _ _).mp hfirst
  obtain ⟨rest, hitems⟩ := head?_eq_some_iff.mp hd
  obtain ⟨code, codes, hcode, -, rfl⟩ :=
    forall₂_cons_left_iff.mp (hitems ▸ hparts.ofFunctions)
  exact ⟨g, w, w', t, l.items, structs, mock, services, code :: codes, hmade, hrun,
    fun d hd => wellNamed_of_mem_tank hl hd, hwrote, hparts, h hP hparts (infix_of_chunk hcode hk)⟩

theorem dangles_kind :
    Dangles (.record [(":treat_as", .record [("int", .str "INT(Mock.level)")])]) := by
  let P (g : Generator) (functions : List Draft) : Bool :=
    decide ("level".toList ∉
      fieldsIn (collect "" (g.mockInstance (g.names (.str "tank") ".h" .null) functions)).1)
  refine dangles_of_makeTank (P := P) "Mock.level)".toList 6 (by decide +kernel)
    fun hP hparts hpart hresolved => ?_
  have hundeclared := of_decide_eq_true hP
  rw [hparts.ofMock] at hundeclared
  refine hundeclared (hresolved.toMock _ (.of_isInfix (c := ')') (.fixed rfl) rfl ?_))
  rw [String.toList_append]
  exact hpart.trans ((infix_concat (.head _)).trans (suffix_append _ _).isInfix)

theorem dangles_weak : Dangles (.record [(":weak", .str "cmock_call_instance->level")]) := by
  let P (g : Generator) (functions : List Draft) : Bool :=
    functions.all fun d => decide ("level".toList ∉ fieldsIn (collect "" (g.callInstance d)).1)
  refine dangles_of_makeTank (P := P) "cmock_call_instance->level;".toList 3
    (by decide +kernel) fun hP hparts hpart hresolved => ?_
  obtain ⟨struct, structs, hcall, -, rfl⟩ := forall₂_cons_right_iff.mp hresolved.toCall
  obtain ⟨d, functions, hstruct, -, rfl⟩ := forall₂_cons_right_iff.mp hparts.ofCalls
  have hundeclared := of_decide_eq_true (all_eq_true.mp hP d mem_cons_self)
  rw [hstruct] at hundeclared
  exact hundeclared (hcall _ (.of_isInfix (c := ';') (.fixed rfl) rfl hpart))

/-- Each of the two options has texts for which a reference dangles. -/
theorem exists_dangling_reference :
    Dangles (.record [(":treat_as", .record [("int", .str "INT(Mock.level)")])]) ∧
      Dangles (.record [(":weak", .str "cmock_call_instance->level")]) :=
  ⟨dangles_kind, dangles_weak⟩

end Generator

end MockGen
