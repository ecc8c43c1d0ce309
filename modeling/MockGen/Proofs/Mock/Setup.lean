import MockGen.Request.Mock
import MockGen.Sample.Prototype
import MockGen.Proofs.Comparison
import MockGen.Proofs.Options
import MockGen.Proofs.Plugin.Order

/-!
# Generators from options

Generators that were set up from options: which plugins they ask, and in which order.
-/

namespace MockGen

open Outcome ReadM

/-- The plugins are those that the options name, each once and in their order, with the settings of
the options. -/
structure Plugins.Follow (ps : Plugins) (o : Options) : Prop where
  order : ps.loaded.Pairwise fun p q => p ≠ q ∧ p.priority ≤ q.priority
  mem_loaded : ∀ p, p ∈ ps.loaded ↔ p = .expect ∨ ":" ++ p.name ∈ o.plugins
  settings : ∃ known voids, ps.settings = { Settings.ofOptions o known with voids }
  comparisons : ∀ known ∈ ps.settings.comparisons, ∃ w w',
    (Comparisons.ofOptions o).run w = (.ok known, w')

namespace Plugins.Follow

variable {ps : Plugins} {o : Options}

theorem expect_mem (h : ps.Follow o) : .expect ∈ ps.loaded :=
  (h.mem_loaded .expect).mpr (.inl rfl)

theorem assertion_of_makes {Q P : String → Prop} (h : ps.Follow o) (hP : Comparisons.Makes Q P)
    (hkinds : ∀ entry ∈ o.treatAs, Q entry.2.display) {a : Argument} {c : Comparison}
    (hc : ps.settings.comparison a = .ok c) : P c.assertion := by
  refine Settings.of_comparison hP hc fun known hknown => ?_
  obtain ⟨w, w', hrun⟩ := h.comparisons known hknown
  exact Comparisons.named_of_ofOptions hP hrun hkinds

theorem assertion {P : String → Prop} (h : ps.Follow o) (hP : Comparisons.Spreads P)
    (hkinds : ∀ entry ∈ o.treatAs, P entry.2.display) {a : Argument} {c : Comparison}
    (hc : ps.settings.comparison a = .ok c) : P c.assertion :=
  h.assertion_of_makes hP.makes hkinds hc

end Plugins.Follow

theorem Settings.ofResolved_eq_ok {o : Options} {helped : Bool} {voids : Value} {s : Settings}
    {w w' : Workspace} (h : (ofResolved o helped voids).run w = (.ok s, w')) :
    (∃ known, s = { ofOptions o known with voids }) ∧
      ∀ known ∈ s.comparisons, ∃ u u', (Comparisons.ofOptions o).run u = (.ok known, u') := by
  unfold ofResolved at h
  dsimp only at h
  split at h
  · obtain ⟨_, u, hknown, hpure⟩ := run_bind_eq_ok.mp h
    rw [map_eq_pure_bind] at hknown
    obtain ⟨known, v, hrun, hsome⟩ := run_bind_eq_ok.mp hknown
    cases hsome
    cases hpure
    refine ⟨⟨_, rfl⟩, ?_⟩
    rintro _ ⟨⟩
    exact ⟨_, _, hrun⟩
  · obtain ⟨_, u, hnone, hpure⟩ := run_bind_eq_ok.mp h
    cases hnone
    cases hpure
    exact ⟨⟨_, rfl⟩, nofun⟩

theorem Generator.ofOptions_eq_ok {o : Options} {ps : Plugins} {g : Generator}
    (h : ofOptions o ps = .ok g) :
    g.plugins = ps ∧ g.weak = if (o.get ":weak").truthy then (o.get ":weak").display else "" := by
  unfold ofOptions at h
  obtain ⟨_, -, h⟩ := bind_eq_ok.mp h
  obtain ⟨_, -, h⟩ := bind_eq_ok.mp h
  obtain ⟨_, -, h⟩ := bind_eq_ok.mp h
  obtain ⟨_, -, hpure⟩ := bind_eq_ok.mp h
  cases hpure
  exact ⟨rfl, rfl⟩

theorem Generator.ofValue_eq_ok {given voids home frameworkDir : Value} {helped : Bool}
    {g : Generator} {w w' : Workspace}
    (h : (ofValue given helped voids home frameworkDir).run w = (.ok g, w')) :
    ∃ o u, (Options.resolve given).run w = (.ok o, u) ∧ g.plugins.Follow o ∧
      ofOptions o g.plugins = .ok g := by
  unfold ofValue at h
  obtain ⟨o, w₁, hresolve, h⟩ := run_bind_eq_ok.mp h
  obtain ⟨ps, w₂, hps, h⟩ := run_bind_eq_ok.mp h
  obtain ⟨g', w₃, hg, h⟩ := run_bind_eq_ok.mp h
  obtain rfl : g' = g := by
    dsimp only at h
    split at h
    · obtain ⟨_, w₄, -, hpure⟩ := run_bind_eq_ok.mp h
      cases hpure
      rfl
    · cases h
      rfl
  rw [run_lift] at hg
  have hg := (Prod.mk.inj hg).1
  obtain ⟨rfl, -⟩ := ofOptions_eq_ok hg
  unfold Plugins.ofResolved at hps
  obtain ⟨s, w₅, hs, hload⟩ := run_bind_eq_ok.mp hps
  obtain ⟨⟨known, rfl⟩, hknown⟩ := Settings.ofResolved_eq_ok hs
  have hsettings := Plugins.settings_of_load hload
  have hcolon : ∀ n ∈ o.plugins, ∃ m, n = ":" ++ m := fun n hn =>
    Options.exists_of_mem_plugins hresolve hn
  exact ⟨o, w₁, hresolve, ⟨Plugins.pairwise_of_load hcolon hload,
    fun p => Plugins.mem_loaded hcolon hload, ⟨known, voids, hsettings⟩, hsettings ▸ hknown⟩, hg⟩

namespace Generator

theorem map_fill_tank {l : Listed Draft} (h : (Material.ofValue Sample.tank).functions = .ok l) :
    l.items.map Draft.fill = [Sample.filling, Sample.emptying] := by
  obtain rfl := Except.ok.inj h
  decide

theorem of_mem_tank {P : Prototype → Prop} (hfilling : P Sample.filling)
    (hemptying : P Sample.emptying) {l : Listed Draft}
    (h : (Material.ofValue Sample.tank).functions = .ok l) {d : Draft} (hd : d ∈ l.items) :
    P d.fill := by
  have hmem := List.mem_map_of_mem (f := Draft.fill) hd
  rw [map_fill_tank h] at hmem
  rcases List.mem_pair.mp hmem with hfill | hfill
  · exact hfill ▸ hfilling
  · exact hfill ▸ hemptying

def make (given : Value) (name : String) (m : Material) : Job Generator := do
  let g ← ofValue given true (.list []) .null .null
  g.createMock (.str name) m .null .null
  return g

theorem exists_of_make {given : Value} {name : String} {m : Material} {start : Workspace}
    {P : Generator → Bool} (h : ((make given name m).run start).1.toOption.any P = true) :
    ∃ g w w', (ofValue given true (.list []) .null .null).run start = (.ok g, w) ∧
      (g.createMock (.str name) m .null .null).run w = (.ok (), w') ∧ P g = true := by
  obtain ⟨g, w', h, hP⟩ := Job.exists_run_of_any h
  obtain ⟨g, w, hmade, h⟩ := run_bind_eq_ok.mp h
  obtain ⟨_, _, hrun, hpure⟩ := run_bind_eq_ok.mp h
  cases hpure
  exact ⟨g, w, w', hmade, hrun, hP⟩

/-- Makes a mock of the sample with the given options. -/
def makeTank (given : Value) : Job Generator :=
  make given "tank" (.ofValue Sample.tank)

theorem exists_of_makeTank (given : Value) {P : Generator → Bool}
    (h : ((makeTank given).run { strippables := [] }).1.toOption.any P = true) :
    ∃ g w w', (ofValue given true (.list []) .null .null).run { strippables := [] } = (.ok g, w) ∧
      (g.createMock (.str "tank") (.ofValue Sample.tank) .null .null).run w = (.ok (), w') ∧
      P g = true :=
  exists_of_make h

end Generator

end MockGen
