import MockGen.Proofs.Header.DefaultReader
import MockGen.Proofs.Outcome

/-!
# Functions that a header declares more than once

Everything the header declares is read, one declaration after the other, and the functions are the
first records of their names.
-/

namespace MockGen.Header

open ReadM List Outcome

/-! ## The first record of every name -/

/-- The kept records are the first ones of their names, in order of appearance, and no name is
missing. -/
structure Firsts (all kept : List Prototype) : Prop where
  nodup : (kept.map Prototype.name).Nodup
  covers : ∀ p ∈ all, p.name ∈ kept.map Prototype.name
  first : ∀ f ∈ kept, all.find? (·.name == f.name) = some f
  ordered : kept.Pairwise fun f g =>
    all.findIdx (·.name == f.name) < all.findIdx (·.name == g.name)

namespace Firsts

variable {all kept : List Prototype}

theorem nil : Firsts [] [] where
  nodup := nodup_nil
  covers := nofun
  first := nofun
  ordered := List.Pairwise.nil

theorem findIdx_lt (h : Firsts all kept) {f : Prototype} (hf : f ∈ kept) :
    all.findIdx (·.name == f.name) < all.length := by
  have hmem := mem_of_find?_eq_some (h.first f hf)
  exact findIdx_lt_length_of_exists ⟨f, hmem, by simp⟩

theorem findIdx_append (h : Firsts all kept) {f : Prototype} (hf : f ∈ kept) (p : Prototype) :
    (all ++ [p]).findIdx (·.name == f.name) = all.findIdx (·.name == f.name) := by
  rw [List.findIdx_append, if_pos (h.findIdx_lt hf)]

theorem append_known (h : Firsts all kept) {p : Prototype}
    (hp : p.name ∈ kept.map Prototype.name) : Firsts (all ++ [p]) kept where
  nodup := h.nodup
  covers := by
    intro q hq
    rcases mem_append.mp hq with hq | hq
    · exact h.covers q hq
    · rw [mem_singleton.mp hq]
      exact hp
  first := by
    intro f hf
    rw [find?_append, h.first f hf]
    rfl
  ordered := by
    refine h.ordered.imp_of_mem fun {f g} hf hg hlt => ?_
    rw [h.findIdx_append hf, h.findIdx_append hg]
    exact hlt

theorem append_new (h : Firsts all kept) {p : Prototype}
    (hp : p.name ∉ kept.map Prototype.name) : Firsts (all ++ [p]) (kept ++ [p]) := by
  have hnew : ∀ q ∈ all, (q.name == p.name) = false := by
    intro q hq
    rw [beq_eq_false_iff_ne]
    intro hname
    exact hp (hname ▸ h.covers q hq)
  have hindex : (all ++ [p]).findIdx (·.name == p.name) = all.length := by
    rw [List.findIdx_append, findIdx_eq_length.mpr hnew, if_neg (Nat.lt_irrefl _)]
    simp
  constructor
  case nodup =>
    rw [map_append, map_singleton, nodup_append]
    refine ⟨h.nodup, pairwise_singleton _ _, ?_⟩
    intro name hname other hother
    rw [mem_singleton.mp hother]
    rintro rfl
    exact hp hname
  case covers =>
    intro q hq
    rw [map_append, mem_append]
    rcases mem_append.mp hq with hq | hq
    · exact Or.inl (h.covers q hq)
    · rw [mem_singleton.mp hq]
      exact Or.inr (by simp)
  case first =>
    intro f hf
    rcases mem_append.mp hf with hf | hf
    · rw [find?_append, h.first f hf]
      rfl
    · rw [mem_singleton.mp hf, find?_append, List.find?_eq_none.mpr (by simpa using hnew)]
      simp
  case ordered =>
    rw [pairwise_append]
    refine ⟨?_, pairwise_singleton _ _, ?_⟩
    · refine h.ordered.imp_of_mem fun {f g} hf hg hlt => ?_
      rw [h.findIdx_append hf, h.findIdx_append hg]
      exact hlt
    · intro f hf g hg
      rw [mem_singleton.mp hg, h.findIdx_append hf, hindex]
      exact h.findIdx_lt hf

theorem addPrototype (h : Firsts all kept) (p : Prototype) :
    Firsts (all ++ [p]) (addPrototype kept p) := by
  have hknown : kept.any (·.name == p.name) = true ↔ p.name ∈ kept.map Prototype.name := by
    simp [any_eq_true]
  rw [Header.addPrototype]
  split
  case isTrue hp => exact h.append_known (hknown.mp hp)
  case isFalse hp => exact h.append_new fun hmem => hp (hknown.mpr hmem)

theorem foldl_addPrototype (h : Firsts all kept) (more : List Prototype) :
    Firsts (all ++ more) (more.foldl Header.addPrototype kept) := by
  induction more generalizing all kept with
  | nil => rwa [append_nil]
  | cons p more ih =>
    have hstep := ih (h.addPrototype p)
    rwa [append_assoc] at hstep

end Firsts

/-! ## All records of a header -/

/-- What a header offers as a declaration: a selected statement, or a static function together with
its scopes. -/
inductive Entry where
  | statement (declared : List Char)
  | member (function : ScopedDeclaration)

/-- Reads an entry.  Only a text can be read. -/
def Entry.read (r : Rules) : Entry → ReadM Prototype
  | statement declared => prototype r declared [] none
  | member _ => throw .wrongKind

/-- The selected statements of a header, and the static functions behind them. -/
def entriesIn (r : Rules) (name : String) (source : List Char) : ReadM (List Entry) := do
  modify fun s => { s with project := projectOf name }
  let found ← declarations r name (← statements r source false)
  let members := staticFunctions {} (← statements r source true)
  return found.map .statement ++ members.map .member

/-- The records of all entries of a header, also of those that repeat a name. -/
def recordsIn (r : Rules) (name : String) (source : List Char) : ReadM (List Prototype) := do
  (← entriesIn r name source).mapM (Entry.read r)

theorem run_mapM_cons_eq_ok {α β : Type} {f : α → ReadM β} {a : α} {as : List α} {bs : List β}
    {s t : Reading} :
    ((a :: as).mapM f).run s = (.ok bs, t) ↔ ∃ b u rest, (f a).run s = (.ok b, u) ∧
      (as.mapM f).run u = (.ok rest, t) ∧ bs = b :: rest := by
  rw [mapM_cons, run_bind_eq_ok]
  constructor
  · rintro ⟨b, u, hb, h⟩
    obtain ⟨rest, v, hrest, hpure⟩ := run_bind_eq_ok.mp h
    obtain ⟨hbs, rfl⟩ := Prod.mk.inj hpure
    exact ⟨b, u, rest, hb, hrest, (Except.ok.inj hbs).symm⟩
  · rintro ⟨b, u, rest, hb, hrest, rfl⟩
    exact ⟨b, u, hb, run_bind_eq_ok.mpr ⟨rest, t, hrest, rfl⟩⟩

theorem prototypes_eq_ok {r : Rules} {found : List (List Char)} {known fs : List Prototype}
    {s t : Reading} (h : (prototypes r found known).run s = (.ok fs, t)) :
    ∃ records, ((found.map Entry.statement).mapM (Entry.read r)).run s = (.ok records, t) ∧
      fs = records.foldl addPrototype known := by
  induction found generalizing known s with
  | nil =>
    obtain ⟨hfs, rfl⟩ := Prod.mk.inj h
    exact ⟨[], rfl, (Except.ok.inj hfs).symm⟩
  | cons declared rest ih =>
    rw [prototypes] at h
    obtain ⟨p, u, hp, hrest⟩ := run_bind_eq_ok.mp h
    obtain ⟨records, hrecords, rfl⟩ := ih hrest
    exact ⟨p :: records, run_mapM_cons_eq_ok.mpr ⟨p, u, records, hp, hrecords, rfl⟩, rfl⟩

theorem entriesIn_run_of_ok {r : Rules} {name : String} {source : List Char} {p : Prepared}
    (h : prepare r name source = .ok p) (s : Reading) :
    (entriesIn r name source).run s =
      (.ok (p.found.map Entry.statement ++ p.members.map Entry.member), {
        project := p.project
        voids := s.voids ++ voidNames source ++ voidNames source
        notes := s.notes ++ p.notes }) := by
  obtain ⟨t, hfirst, h⟩ := bind_eq_ok.mp h
  obtain ⟨notes, hnotes, h⟩ := bind_eq_ok.mp h
  obtain ⟨u, hsecond, h⟩ := bind_eq_ok.mp h
  obtain rfl := Except.ok.inj h
  simp only [entriesIn, run_bind, run_modify, statements_run, declarations_run, hfirst, hnotes,
    hsecond, run_pure]

/-- A header that can be read offers no static functions, and its functions are the first of all its
records. -/
theorem recordsIn_of_parse {r : Rules} {name : String} {source : List Char} {s t : Reading}
    {parsed : Parsed} (h : (parse r name source).run s = (.ok parsed, t)) :
    ∃ records, (recordsIn r name source).run s = (.ok records, t) ∧
      parsed.functions = records.foldl addPrototype [] := by
  cases hprepare : prepare r name source with
  | error e =>
    obtain ⟨left, hleft, -⟩ := parse_run_of_error s hprepare
    rw [hleft] at h
    cases h
  | ok p =>
    rw [parse_run_of_ok s hprepare] at h
    split at h
    · cases h
    · rename_i functions u hrun
      obtain ⟨hfinish, rfl⟩ := Prod.mk.inj h
      rw [finish] at hfinish
      split at hfinish
      · rename_i hmembers
        obtain ⟨records, hrecords, hfold⟩ := prototypes_eq_ok hrun
        have hfunctions : parsed.functions = functions := by
          cases htext : normalizedOf r source with
          | error e =>
            rw [htext] at hfinish
            cases hfinish
          | ok text =>
            rw [htext] at hfinish
            rw [← Except.ok.inj hfinish]
        refine ⟨records, ?_, hfunctions.trans hfold⟩
        rw [recordsIn]
        refine run_bind_eq_ok.mpr ⟨_, _, entriesIn_run_of_ok hprepare s, ?_⟩
        rw [isEmpty_iff.mp hmembers, map_nil, append_nil]
        exact hrecords
      · cases hfinish

/-- Whatever the rules and whatever was read before: the functions of a header are, in order, the
first records of their names among the records of all its entries, and every name occurs. -/
theorem parse_firsts (r : Rules) (name : String) (source : List Char) {s t : Reading}
    {parsed : Parsed} (h : (parse r name source).run s = (.ok parsed, t)) :
    ∃ records, (recordsIn r name source).run s = (.ok records, t) ∧
      Firsts records parsed.functions := by
  obtain ⟨records, hrecords, hfunctions⟩ := recordsIn_of_parse h
  refine ⟨records, hrecords, ?_⟩
  rw [hfunctions]
  exact Firsts.nil.foldl_addPrototype records

theorem parse_firsts_repeated : ∃ parsed t,
    (parse Rules.standard "tank"
      "int f(void (*done)(int));\nint g(int);\nlong f(void (*stop)(void));".toList).run
      { project := projectOf "tank", voids := ["void"] } = (.ok parsed, t) ∧
    parsed.functions.map Prototype.name = ["f", "g"] ∧ parsed.typedefs.length = 2 ∧
    ∃ records, (recordsIn Rules.standard "tank"
      "int f(void (*done)(int));\nint g(int);\nlong f(void (*stop)(void));".toList).run
      { project := projectOf "tank", voids := ["void"] } = (.ok records, t) ∧
      Firsts records parsed.functions := by
  obtain ⟨parsed, t, hrun, hparsed⟩ := exists_run_of_any
    (P := fun parsed => parsed.functions.map Prototype.name == ["f", "g"] &&
      parsed.typedefs.length == 2)
    (x := parse Rules.standard "tank"
      "int f(void (*done)(int));\nint g(int);\nlong f(void (*stop)(void));".toList)
    (s := { project := projectOf "tank", voids := ["void"] }) (by decide +kernel)
  obtain ⟨hnames, htypedefs⟩ := Bool.and_eq_true_iff.mp hparsed
  exact ⟨parsed, t, hrun, beq_iff_eq.mp hnames, beq_iff_eq.mp htypedefs, parse_firsts _ _ _ hrun⟩

end MockGen.Header
