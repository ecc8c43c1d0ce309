import MockGen.Proofs.Header.DefaultReader
import MockGen.Proofs.Header.PlainStatements

/-!
# Headers of plain prototypes

Reading a header of plain prototypes with the default options: whatever its layout, it is read as
those prototypes, in order.
-/

namespace MockGen

open List hiding lex

namespace Header

open Text Pattern ReadM

/-! ## Scopes -/

theorem hasPart_eq_false {c : Char} {part t : List Char} (hc : c ∈ part) (ht : c ∉ t) :
    hasPart part t = false := by
  rw [← Bool.not_eq_true]
  exact fun h => ht ((hasPart_iff.mp h).subset hc)

theorem staticFunctions_eq_nil {lines : List (List Char)}
    (hbraces : ∀ l ∈ lines, scopeMark.Absent l) (hcolons : ∀ l ∈ lines, ':' ∉ l) :
    staticFunctions {} lines = [] := by
  induction lines with
  | nil => rfl
  | cons l lines ih =>
    have hpublic : hasPart "public:".toList l = false :=
      hasPart_eq_false (c := ':') (by decide) (hcolons l (by simp))
    have hlabel : ScopeState.label {} l = {} := by
      simp only [ScopeState.label, hpublic, Bool.or_self, Bool.false_and]
    rw [staticFunctions, (hbraces l (by simp)).allMatches_eq_nil]
    simp only [map_nil, foldl_nil, hlabel, Bool.false_and, Bool.false_eq_true, if_false]
    exact ih (fun l hl => hbraces l (by simp [hl])) fun l hl => hcolons l (by simp [hl])

/-! ## Prototypes -/

theorem addPrototype_of_new {known : List Prototype} {f : Prototype}
    (h : ∀ g ∈ known, g.name ≠ f.name) : addPrototype known f = known ++ [f] := by
  have hany : known.any (·.name == f.name) = false := by simpa using h
  rw [addPrototype, hany]
  rfl

theorem prototypes_of_lex {r : Rules} (hr : r.ReservesWords) (harray : r.arrayTypes = some [])
    {size : Pattern} (hsize : readPattern r.arraySizeName = .ok size) {s : Reading}
    (hvoid : "void" ∈ s.voids) (hvoids : ∀ v ∈ s.voids, v = "void") {ps : List PlainPrototype}
    (hstandards : ∀ p ∈ ps, ∀ d ∈ p.params, d.name.text ∉ r.standards)
    (hnames : (ps.map fun p => p.head.name.text).Nodup) {lines : List (List Char)}
    (hlines : lines.map lex = ps.map PlainPrototype.declarationLexemes) {known : List Prototype}
    (hknown : ∀ p ∈ ps, ∀ g ∈ known, g.name ≠ p.head.name.text) :
    ∃ fs, (prototypes r (lines.map trimmed) known).run s = (.ok (known ++ fs), s) ∧
      fs.map viewOf = ps.map PlainPrototype.view := by
  induction ps generalizing lines known with
  | nil =>
    obtain rfl : lines = [] := by simpa using hlines
    exact ⟨[], by rw [append_nil]; rfl, rfl⟩
  | cons p ps ih =>
    cases lines with
    | nil => simp at hlines
    | cons line lines =>
      obtain ⟨hline, hlines⟩ := List.cons.inj hlines
      obtain ⟨hfresh, hnames⟩ := nodup_cons.mp hnames
      obtain ⟨f, hf, hview⟩ := prototype_of_lex hr harray hsize hvoid hvoids p
        (hstandards p (by simp)) hline
      have hname : f.name = p.head.name.text := congrArg Prod.fst hview
      have hadd : addPrototype known f = known ++ [f] :=
        addPrototype_of_new fun g hg => hname ▸ hknown p (by simp) g hg
      have hnext : ∀ q ∈ ps, ∀ g ∈ known ++ [f], g.name ≠ q.head.name.text := by
        intro q hq g hg
        rcases mem_append.mp hg with hg | hg
        · exact hknown q (by simp [hq]) g hg
        · obtain rfl := mem_singleton.mp hg
          rw [hname]
          exact fun heq => hfresh (mem_map.mpr ⟨q, hq, heq.symm⟩)
      obtain ⟨fs, hfs, hviews⟩ := ih (fun q hq => hstandards q (by simp [hq])) hnames hlines hnext
      refine ⟨f :: fs, ?_, by rw [map_cons, hview, hviews]; rfl⟩
      rw [map_cons, prototypes, run_bind, hf]
      dsimp only
      rw [hadd, hfs, append_assoc]
      rfl

/-! ## Headers -/

/-- Rules that give no word a meaning beyond the reserved ones and read plain declarations only. -/
structure Rules.Ordinary (r : Rules) : Prop where
  reserves : r.ReservesWords
  noArrays : r.arrayTypes = some []
  sizeName : ∃ size, readPattern r.arraySizeName = .ok size
  noExterns : r.includeExterns = false
  noInlines : r.includeInlines = false
  strippables : r.strippables = .list Options.defaultStrippables
  silent : ∀ name found, notesOn r name found = .ok []

section

variable {r : Rules} (hr : r.Ordinary) {ps : List PlainPrototype} {source : List Char}
  (hsource : Layout (ps.flatMap PlainPrototype.lexemes) source)

include hr hsource

theorem statements_of_layout (cpp : Bool) (s : Reading) :
    (statements r source cpp).run s = (.ok (statementsOf r cpp source), s) := by
  obtain ⟨hlex, hclean⟩ := PlainPrototype.lex_layout hsource
  have hplain : Plain (lex source) := hlex ▸ PlainPrototype.plain ps
  rw [statements_run, hplain.reduced_eq hclean hr.noInlines hr.strippables,
    hplain.voidNames_eq_nil hclean]
  dsimp only
  rw [hplain.pointerResult_absent.pieces_eq]
  simp [declarePointers]

variable (hnames : (ps.map fun p => p.head.name.text).Nodup)

include hnames

theorem declarations_of_layout (name : String) (s : Reading) :
    (declarations r name (statementsOf r false source)).run s =
      (.ok ((statementsOf r false source).map trimmed), s) := by
  obtain ⟨hlex, -⟩ := PlainPrototype.lex_layout hsource
  obtain ⟨hmap, hlast⟩ := map_lex_statementsOf hr.noExterns hr.noInlines hlex hnames false
  have hselected : selected (statementsOf r false source) =
      (statementsOf r false source).map trimmed := by
    rw [selected, List.filter_eq_self.mpr]
    intro line hline
    obtain ⟨p, -, hp⟩ := mem_map.mp (hmap ▸ mem_map_of_mem hline)
    exact occursIn_of_lex hp.symm (hlast line hline)
  rw [declarations_run, hr.silent, hselected]
  simp

theorem staticFunctions_of_layout : staticFunctions {} (statementsOf r true source) = [] := by
  obtain ⟨hlex, -⟩ := PlainPrototype.lex_layout hsource
  obtain ⟨hmap, -⟩ := map_lex_statementsOf hr.noExterns hr.noInlines hlex hnames true
  have hplain : ∀ line ∈ statementsOf r true source, Plain (lex line) := by
    intro line hline
    obtain ⟨p, -, hp⟩ := mem_map.mp (hmap ▸ mem_map_of_mem hline)
    exact hp ▸ p.plain_declaration
  refine staticFunctions_eq_nil (fun line hline => ?_) fun line hline => ?_
  · exact (hplain line hline).absent_of_needs (by decide)
  · exact (hplain line hline).notMem (by decide)

theorem parse_of_layout (hstandards : ∀ p ∈ ps, ∀ d ∈ p.params, d.name.text ∉ r.standards)
    {s : Reading} (hvoid : "void" ∈ s.voids) (hvoids : ∀ v ∈ s.voids, v = "void") (name : String) :
    ∃ parsed, (parse r name source).run s = (.ok parsed, { s with
        project := { moduleName := String.ofList (identifierOf name.toList) } }) ∧
      parsed.functions.map viewOf = ps.map PlainPrototype.view := by
  obtain ⟨hlex, -⟩ := PlainPrototype.lex_layout hsource
  obtain ⟨hmap, -⟩ := map_lex_statementsOf hr.noExterns hr.noInlines hlex hnames false
  obtain ⟨size, hsize⟩ := hr.sizeName
  obtain ⟨fs, hfs, hviews⟩ := prototypes_of_lex hr.reserves hr.noArrays hsize
    (s := { s with project := { moduleName := String.ofList (identifierOf name.toList) } })
    hvoid hvoids hstandards hnames hmap
    (show ∀ p ∈ ps, ∀ g ∈ ([] : List Prototype), g.name ≠ p.head.name.text by simp)
  refine ⟨{ functions := fs, typedefs := [], normalizedSource := "" }, ?_, hviews⟩
  simp only [parse, run_bind, run_modify, statements_of_layout hr hsource,
    declarations_of_layout hr hsource hnames, staticFunctions_of_layout hr hsource hnames, hfs,
    hr.noInlines]
  rfl

end

/-! ## The default options -/

theorem Rules.ordinary_standard : Rules.standard.Ordinary where
  reserves := by
    intro a ha
    have hall : ∀ a ∈ Rules.standard.attributes ++ Rules.standard.callingConventions,
        a ∈ reservedWords := by decide
    exact hall a (mem_append.mpr ha)
  noArrays := rfl
  sizeName := by
    have hread : (match readPattern Rules.standard.arraySizeName with
        | .ok _ => true
        | .error _ => false) = true := by decide +kernel
    revert hread
    generalize readPattern Rules.standard.arraySizeName = outcome
    intro hread
    cases outcome with
    | error e => cases hread
    | ok size => exact ⟨size, rfl⟩
  noExterns := rfl
  noInlines := rfl
  strippables := rfl
  silent := fun _ found => by cases found <;> rfl

/-- A reader with the default options reads a header of plain prototypes, in any layout, as one
function record for each, in order, with the name, the return type and the parameters that are
written there. -/
theorem parse_plain_prototypes (w : Workspace) (hw : w.strippables = Options.defaultStrippables) :
    ∃ reader, (Options.resolve .null >>= HeaderReader.ofOptions).run w = (.ok reader, w) ∧
      ∀ (ps : List PlainPrototype) (source : List Char),
        (ps.map fun p => p.head.name.text).Nodup →
        (∀ p ∈ ps, ∀ d ∈ p.params, d.name.text ∉ reader.rules.standards) →
        Layout (ps.flatMap PlainPrototype.lexemes) source →
        ∀ (name : String) (project : Project), ∃ parsed,
          ((reader.run project fun rules => parse rules name source).run w).1.1 = .ok parsed ∧
            parsed.functions.map viewOf = ps.map PlainPrototype.view := by
  refine ⟨_, HeaderReader.ofOptions_default hw, ?_⟩
  intro ps source hnames hstandards hsource name project
  obtain ⟨parsed, hparsed, hviews⟩ := parse_of_layout Rules.ordinary_standard hsource hnames
    hstandards (s := { project := project, voids := ["void"] }) (by simp) (by simp) name
  refine ⟨parsed, ?_, hviews⟩
  have hrules : HeaderReader.rulesIn ⟨Rules.standard, true, ["void"], {}⟩ w = Rules.standard := by
    have hsame : Value.list w.strippables = Rules.standard.strippables := by rw [hw]; rfl
    rw [HeaderReader.rulesIn, if_pos rfl, hsame]
  rw [HeaderReader.fst_run, hrules, hparsed]

/-- `unsigned char **f(void);` and `void g(T *p, int n);` -/
def pairPrototypes : List PlainPrototype := [
  { head := ⟨[⟨"unsigned", by decide, by decide⟩, ⟨"char", by decide, by decide⟩], by simp, 2,
      ⟨"f", by decide, by decide⟩⟩
    params := [] },
  { head := ⟨[⟨"void", by decide, by decide⟩], by simp, 0, ⟨"g", by decide, by decide⟩⟩
    params := [
      ⟨[⟨"T", by decide, by decide⟩], by simp, 1, ⟨"p", by decide, by decide⟩⟩,
      ⟨[⟨"int", by decide, by decide⟩], by simp, 0, ⟨"n", by decide, by decide⟩⟩] }]

theorem parse_plain_prototypes_pair :
    ∃ reader parsed,
      (Options.resolve .null >>= HeaderReader.ofOptions).run
          { strippables := Options.defaultStrippables } =
        (.ok reader, { strippables := Options.defaultStrippables }) ∧
      ((reader.run { moduleName := "" } fun rules => parse rules "pair"
          "unsigned\n char*\t* f(\nvoid ) ;void g(T *p,int\n\tn);".toList).run
        { strippables := Options.defaultStrippables }).1.1 = .ok parsed ∧
      parsed.functions.map viewOf =
        [("f", "unsigned char**", []), ("g", "void", [("T*", "p"), ("int", "n")])] := by
  obtain ⟨reader, hreader, hparse⟩ :=
    parse_plain_prototypes { strippables := Options.defaultStrippables } rfl
  obtain rfl : _ = reader :=
    Except.ok.inj (congrArg Prod.fst ((HeaderReader.ofOptions_default rfl).symm.trans hreader))
  have hlex : lex "unsigned\n char*\t* f(\nvoid ) ;void g(T *p,int\n\tn);".toList =
      pairPrototypes.flatMap PlainPrototype.lexemes := by decide +kernel
  have hlayout := layout_lex (t := "unsigned\n char*\t* f(\nvoid ) ;void g(T *p,int\n\tn);".toList)
    (by decide +kernel)
  obtain ⟨parsed, hparsed, hviews⟩ := hparse pairPrototypes _ (by decide) (by decide +kernel)
    (hlex ▸ hlayout) "pair" { moduleName := "" }
  exact ⟨_, parsed, hreader, hparsed, hviews⟩

end Header

end MockGen
