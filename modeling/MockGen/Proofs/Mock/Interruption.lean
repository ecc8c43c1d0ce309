import MockGen.Proofs.Mock.Making
import MockGen.Proofs.Mock.Setup

/-!
# Making a mock that fails

The files of a mock are written one after the other, and each of them is replaced as a whole; so a
fault leaves some of them new and the others old, and beside them at most drafts and directories.
-/

namespace MockGen

namespace Output

open FileTree

variable {t u v : FileTree} {path : String} {chunks : List Chunk} {p : Place}
  {done : List (String × List Chunk)} {next : String × List Chunk} {fault : Fault}

/-- Where the draft of a file can be: beside the file, or in the directory that has its name. -/
def draftPaths (path : String) : List String :=
  [draftName path, Path.join path (Path.fileName (draftName path))]

theorem Written.content?_of_error (h : Written t path chunks (.error fault) u)
    (hdirs : t.dirs ⊆ v.dirs) (hdraft : ∀ draft ∈ draftPaths path, v.place? draft ≠ some p) :
    u.content? p = t.content? p := by
  cases h with
  | refused => rfl
  | stopped fault _ hd _ hcontent =>
    apply hcontent
    rintro rfl
    exact hdraft (draftName path) (by simp [draftPaths]) (place?_mono hdirs hd)

theorem Written.content?_of_ok (h : Written t path chunks (.ok ()) u) (hdirs : t.dirs ⊆ v.dirs)
    (hpath : v.place? path ≠ some p)
    (hdraft : ∀ draft ∈ draftPaths path, v.place? draft ≠ some p) :
    u.content? p = t.content? p := by
  have hne : ∀ {d : Place}, t.locate (draftName path) = .ok { place := d } → p ≠ d := by
    rintro d hd rfl
    exact hdraft (draftName path) (by simp [draftPaths]) (place?_mono hdirs hd)
  cases h with
  | kept _ _ hd _ hcontent => exact hcontent p (hne hd)
  | @placed _ _ _ q _ hd _ hq _ hmoved =>
    have hlanding : p ≠ q := by
      rintro rfl
      rw [landing_draftName] at hq
      split at hq
      · exact hdraft (Path.join path (Path.fileName (draftName path))) (by simp [draftPaths])
          (place?_mono hdirs hq)
      · exact hpath (place?_mono hdirs hq)
    rw [hmoved.content?, if_neg hlanding, if_neg (hne hd)]

theorem Written.exists_text (h : Written t path chunks (.ok ()) u) : ∃ text, Says chunks text := by
  cases h with
  | kept hsaid => exact ⟨_, hsaid⟩
  | placed hsaid => exact ⟨_, hsaid⟩

theorem Written.content?_of_placed {text : String} (h : Written t path chunks (.ok ()) u)
    (hdirs : t.dirs ⊆ v.dirs) (hfree : v.hasDir path = false) (hsaid : Says chunks text)
    (hp : v.place? path = some p) : u.content? p = some (.text text) := by
  obtain ⟨d, q, text', hslot, hsaid', hmoved⟩ :=
    h.exists_slot (hasDir_eq_false_of_dirs hdirs hfree)
  rw [place?_mono hdirs hslot.target] at hp
  obtain rfl : q = p := Option.some.inj hp
  rw [hmoved.content?, if_pos rfl, hsaid.unique hsaid']

theorem Filled.content?_of_apart (h : Filled t done u) (hdirs : u.dirs ⊆ v.dirs)
    (hpaths : ∀ file ∈ done, v.place? file.1 ≠ some p)
    (hdrafts : ∀ file ∈ done, ∀ draft ∈ draftPaths file.1, v.place? draft ≠ some p) :
    u.content? p = t.content? p := by
  induction h with
  | nil => rfl
  | cons hextends hwritten hrest ih =>
    rw [List.forall_mem_cons] at hpaths hdrafts
    have hbefore := List.Subset.trans (hwritten.dirs ▸ hrest.dirs) hdirs
    rw [ih hdirs hpaths.2 hdrafts.2, hwritten.content?_of_ok hbefore hpaths.1 hdrafts.1,
      hextends.content?]

theorem Step.content?_of_apart (h : Step t next (.error fault) u)
    (hdrafts : ∀ draft ∈ draftPaths next.1, u.place? draft ≠ some p) :
    u.content? p = t.content? p := by
  cases h with
  | unmade _ hextends => exact hextends.content? p
  | @made _ x _ hextends hwritten =>
    have hdirs : x.dirs ⊆ u.dirs := hwritten.dirs ▸ List.Subset.refl _
    rw [hwritten.content?_of_error hdirs hdrafts, hextends.content?]

theorem Step.dirs {r : Except Fault Unit} (h : Step t next r u) : t.dirs ⊆ u.dirs := by
  cases h with
  | unmade _ hextends => exact hextends.dirs
  | made hextends hwritten =>
    rw [hwritten.dirs]
    exact hextends.dirs

/-- Of several files some are done, and writing the next one failed. -/
structure Interrupted (t u : FileTree) (done : List (String × List Chunk))
    (next : String × List Chunk) : Prop where
  kept : ∀ p, (∀ file ∈ done, u.place? file.1 ≠ some p) →
    (∀ file ∈ done ++ [next], ∀ draft ∈ draftPaths file.1, u.place? draft ≠ some p) →
    u.content? p = t.content? p
  /-- The files that are done hold their whole text, where later ones do not take their place. -/
  complete : ∀ before file after, done = before ++ file :: after →
    ∃ text, Says file.2 text ∧ ∀ p, u.place? file.1 = some p → u.hasDir file.1 = false →
      (∀ later ∈ after, u.place? later.1 ≠ some p) →
      (∀ later ∈ after ++ [next], ∀ draft ∈ draftPaths later.1, u.place? draft ≠ some p) →
      u.content? p = some (.text text)

theorem interrupted_of_filled (hextends : t.Extends v) {x : FileTree} (hfilled : Filled v done x)
    (hstep : Step x next (.error fault) u) : Interrupted t u done next := by
  constructor
  · intro p hpaths hdrafts
    have hdone := hfilled.content?_of_apart hstep.dirs hpaths fun file hfile =>
      hdrafts file (List.mem_append_left _ hfile)
    have hnext := hstep.content?_of_apart (hdrafts next (by simp))
    rw [hnext, hdone, hextends.content?]
  · rintro before file after rfl
    obtain ⟨y, -, hrest⟩ := Filled.append_iff.mp hfilled
    cases hrest with
    | cons hextends' hwritten hafter =>
      obtain ⟨text, hsaid⟩ := hwritten.exists_text
      refine ⟨text, hsaid, fun p hp hfree hpaths hdrafts => ?_⟩
      have hdirs := List.Subset.trans (hwritten.dirs ▸ hafter.dirs) hstep.dirs
      have hlater := hafter.content?_of_apart hstep.dirs hpaths fun later hlater =>
        hdrafts later (List.mem_append_left _ hlater)
      rw [hstep.content?_of_apart (hdrafts next (by simp)), hlater]
      exact hwritten.content?_of_placed hdirs hfree hsaid hp

end Output

namespace Generator

open Output FileTree

variable {g : Generator} {moduleName extension asked : Value} {m : Material} {fault : Fault}
  {w w' : Workspace}

/-- A mock that cannot be made: no file changes, or some files of the mock are done, each of them as
a whole, and the next one and all others are as they were, but for drafts. -/
theorem createMock_interrupted
    (h : (g.createMock moduleName m extension asked).run w = (.error fault, w')) :
    (∀ p, w'.files.content? p = w.files.content? p) ∨
      ∃ done next rest, g.mockPlan moduleName m extension asked = .ok (done ++ next :: rest) ∧
        Interrupted w.files w'.files done next := by
  obtain ⟨r, u, hrun, hmade⟩ := g.run_createMock moduleName m extension asked w
  rw [h] at hrun
  cases hrun
  cases hmade with
  | unready _ hextends => exact .inl hextends.content?
  | broken _ hplan hextends hfilled hstep =>
    exact .inr ⟨_, _, _, hplan, interrupted_of_filled hextends hfilled hstep⟩

def levelling : Prototype :=
  { Sample.emptying with
    name := "fill"
    unscopedName := "fill"
    args :=
      [{ type := "LEVEL", name := "level", isPtr := false, isConst := false, isConstPtr := false }]
    argsString := "LEVEL level"
    argsCall := "level" }

/-- What is read from a header that declares it. -/
def gauge : Value :=
  .record [("functions", .list [levelling.record]), ("typedefs", .list []),
    ("normalized_source", .str "")]

def oldMock : Workspace where
  files := { files := [(["mocks", "Mocktank.h"], .text "old")], dirs := [["mocks"]] }
  strippables := []

theorem exists_gauge :
    ∃ g w w' fault, (ofValue (.map [(.str ":memcmp_if_unknown", .bool false)]) true (.list [])
        .null .null).run oldMock = (.ok g, w) ∧
      (g.createMock (.str "tank") (.ofValue gauge) .null .null).run w = (.error fault, w') ∧
      w.files.content? ["mocks", "Mocktank.h"] = some (.text "old") ∧
      w'.files.content? ["mocks", "Mocktank.h"] ≠ some (.text "old") := by
  have hcheck : (match (ofValue (.map [(.str ":memcmp_if_unknown", .bool false)]) true (.list [])
      .null .null).run oldMock with
    | (.ok g, w) =>
      match (g.createMock (.str "tank") (.ofValue gauge) .null .null).run w with
      | (.error _, w') => decide (
          w.files.content? ["mocks", "Mocktank.h"] = some (.text "old") ∧
            w'.files.content? ["mocks", "Mocktank.h"] ≠ some (.text "old"))
      | (.ok _, _) => false
    | (.error _, _) => false) = true := by decide +kernel
  split at hcheck
  · rename_i g w hg
    split at hcheck
    · rename_i fault w' hrun
      exact ⟨g, w, w', fault, hg, hrun, of_decide_eq_true hcheck⟩
    · cases hcheck
  · cases hcheck

/-- A mock whose source cannot be written. -/
theorem createMock_interrupted_gauge :
    ∃ g w w' fault, (ofValue (.map [(.str ":memcmp_if_unknown", .bool false)]) true (.list [])
        .null .null).run oldMock = (.ok g, w) ∧
      (g.createMock (.str "tank") (.ofValue gauge) .null .null).run w = (.error fault, w') ∧
      ((∀ p, w'.files.content? p = w.files.content? p) ∨
        ∃ done next rest, g.mockPlan (.str "tank") (.ofValue gauge) .null .null =
            .ok (done ++ next :: rest) ∧
          Interrupted w.files w'.files done next) := by
  obtain ⟨g, w, w', fault, hmade, hrun, -⟩ := exists_gauge
  exact ⟨g, w, w', fault, hmade, hrun, createMock_interrupted hrun⟩

/-- The header of the mock is replaced although its source cannot be written. -/
theorem createMock_error_new_header :
    ∃ g w w' fault, (ofValue (.map [(.str ":memcmp_if_unknown", .bool false)]) true (.list [])
        .null .null).run oldMock = (.ok g, w) ∧
      (g.createMock (.str "tank") (.ofValue gauge) .null .null).run w = (.error fault, w') ∧
      w.files.isFile ["mocks", "Mocktank.h"] = true ∧
      w'.files.content? ["mocks", "Mocktank.h"] ≠ w.files.content? ["mocks", "Mocktank.h"] := by
  obtain ⟨g, w, w', fault, hmade, hrun, hold, hnew⟩ := exists_gauge
  exact ⟨g, w, w', fault, hmade, hrun, isFile_iff.mpr ⟨_, hold⟩, hold ▸ hnew⟩

end Generator

end MockGen
