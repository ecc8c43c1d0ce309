import MockGen.Proofs.Files.Series

/-!
# Making a mock, step by step

Its directories are made, and then its files are written one after the other.
-/

namespace MockGen

open Outcome ReadM

namespace Output

open FileTree

variable {top below : Value} {place dir : String} {w : Workspace}

theorem run_makeSubdir (top below : Value) (w : Workspace) :
    ∃ r u, (makeSubdir top below).run w = (r, { w with files := u }) ∧ w.files.Extends u ∧
      (r = .ok () → ∃ dir, directory top below = .ok dir) := by
  unfold makeSubdir
  cases htop : pathOf top with
  | error fault =>
    rw [run_bind, run_lift]
    exact ⟨_, w.files, rfl, .refl _, nofun⟩
  | ok place =>
    rw [run_bind, run_lift]
    dsimp only
    rw [run_bind, Job.run_makeDirs]
    have hextends := extends_makeDirs w.files place
    generalize w.files.makeDirs place = result at hextends
    obtain ⟨u, outcome⟩ := result
    cases outcome with
    | error fault => exact ⟨_, u, rfl, hextends, nofun⟩
    | ok _ =>
      dsimp only at hextends ⊢
      split
      · cases hdir : directory top below with
        | error fault =>
          rw [run_bind, run_lift]
          exact ⟨_, u, rfl, hextends, nofun⟩
        | ok dir =>
          rw [run_bind, run_lift]
          dsimp only
          rw [Job.run_makeDirs]
          exact ⟨_, _, rfl, hextends.trans (extends_makeDirs u dir), fun _ => ⟨dir, rfl⟩⟩
      · rename_i hbelow
        refine ⟨_, u, rfl, hextends, fun _ => ⟨place, ?_⟩⟩
        rw [directory, if_neg hbelow, htop]

theorem run_makeSubdir_of_hasDir (htop : pathOf top = .ok place)
    (hdir : directory top below = .ok dir) (hplace : w.files.hasDir place = true)
    (hbelow : w.files.hasDir dir = true) : (makeSubdir top below).run w = (.ok (), w) := by
  unfold makeSubdir
  rw [htop, run_bind, run_lift]
  dsimp only
  rw [run_bind, Job.run_makeDirs_of_hasDir hplace]
  dsimp only
  split
  · rw [hdir, run_bind, run_lift]
    exact Job.run_makeDirs_of_hasDir hbelow
  · rfl

end Output

namespace Generator

open Output FileTree

/-- The directories that making a mock makes: that of all mocks, and the one for this mock. -/
def mockDirs (g : Generator) (asked : Value) : Except Fault (List String) := do
  let folder ← g.folder asked
  return [← pathOf g.mockPath, ← directory g.mockPath folder]

/-- The paths that making a mock writes, in order: the mocked header where it is written too, the
header of the mock, and its source. -/
def mockPaths (g : Generator) (moduleName extension asked : Value) :
    Except Fault (List String) := do
  let folder ← g.folder asked
  let dir ← directory g.mockPath folder
  let n := g.names moduleName (← headerExtension extension) folder
  let inlines ← if g.includesInlines then pure [← n.file] else pure []
  return (inlines ++ [n.mockName ++ n.extension, n.mockName ++ ".c"]).map (Path.join dir)

/-- The files that making a mock writes, by their paths and with their chunks. -/
def mockPlan (g : Generator) (moduleName : Value) (m : Material) (extension asked : Value) :
    Except Fault (List (String × List Chunk)) := do
  let folder ← g.folder asked
  let dir ← directory g.mockPath folder
  let files ← g.mockFiles (g.names moduleName (← headerExtension extension) folder) m
  return files.map fun file => (Path.join dir file.1, file.2)

variable {g : Generator} {moduleName extension asked : Value} {m : Material}
  {files : List (String × List Chunk)}

theorem mockPlan_eq_ok : g.mockPlan moduleName m extension asked = .ok files ↔
    ∃ folder dir ext named, g.folder asked = .ok folder ∧
      directory g.mockPath folder = .ok dir ∧ headerExtension extension = .ok ext ∧
      g.mockFiles (g.names moduleName ext folder) m = .ok named ∧
      files = named.map fun file => (Path.join dir file.1, file.2) := by
  unfold mockPlan
  constructor
  · intro h
    obtain ⟨folder, hfolder, h⟩ := bind_eq_ok.mp h
    obtain ⟨dir, hdir, h⟩ := bind_eq_ok.mp h
    obtain ⟨ext, hext, h⟩ := bind_eq_ok.mp h
    obtain ⟨named, hnamed, h⟩ := bind_eq_ok.mp h
    cases h
    exact ⟨folder, dir, ext, named, hfolder, hdir, hext, hnamed, rfl⟩
  · rintro ⟨folder, dir, ext, named, hfolder, hdir, hext, hnamed, rfl⟩
    rw [hfolder, hext]
    refine bind_eq_ok.mpr ⟨_, rfl, bind_eq_ok.mpr ⟨dir, hdir, ?_⟩⟩
    exact bind_eq_ok.mpr ⟨ext, rfl, bind_eq_ok.mpr ⟨named, hnamed, rfl⟩⟩

theorem mockPaths_of_mockPlan (h : g.mockPlan moduleName m extension asked = .ok files) :
    g.mockPaths moduleName extension asked = .ok (files.map Prod.fst) := by
  obtain ⟨folder, dir, ext, named, hfolder, hdir, hext, hnamed, rfl⟩ := mockPlan_eq_ok.mp h
  unfold mockPaths
  refine bind_eq_ok.mpr ⟨folder, hfolder, bind_eq_ok.mpr ⟨dir, hdir, ?_⟩⟩
  refine bind_eq_ok.mpr ⟨ext, hext, ?_⟩
  unfold mockFiles at hnamed
  dsimp only at hnamed ⊢
  split
  · rename_i hinlines
    rw [if_pos hinlines] at hnamed
    obtain ⟨file, hfile, hnamed⟩ := bind_eq_ok.mp hnamed
    cases hnamed
    exact bind_eq_ok.mpr ⟨file, hfile, rfl⟩
  · rename_i hinlines
    rw [if_neg hinlines] at hnamed
    cases hnamed
    rfl

/-- What making a mock can do to the tree: nothing but directories are made, or all files are
written, or some of them are and the next one is not. -/
inductive Made (t : FileTree) (plan : Except Fault (List (String × List Chunk))) :
    Except Fault Unit → FileTree → Prop
  | unready {u : FileTree} (fault : Fault) : t.Extends u → Made t plan (.error fault) u
  | complete {u v : FileTree} {files : List (String × List Chunk)} : plan = .ok files →
      t.Extends v → Filled v files u → Made t plan (.ok ()) u
  | broken {u v x : FileTree} {done rest : List (String × List Chunk)}
      {next : String × List Chunk} (fault : Fault) : plan = .ok (done ++ next :: rest) →
      t.Extends v → Filled v done x → Step x next (.error fault) u → Made t plan (.error fault) u

theorem run_forM_create {top folder : Value} {dir : String}
    (hdir : directory top folder = .ok dir) (named : List (String × List Chunk)) (w : Workspace) :
    ExceptT.run (named.forM fun file => create top file.1 file.2 folder) w =
      ((named.map fun file => (Path.join dir file.1, file.2)).forM (createIn dir)).run w := by
  induction named generalizing w with
  | nil => rfl
  | cons file named ih =>
    rw [List.map_cons, List.forM_eq_forM, List.forM_cons, List.forM_cons,
      run_bind, run_bind, run_create hdir]
    rcases (createIn dir (Path.join dir file.1, file.2)).run w with ⟨outcome, v⟩
    cases outcome with
    | error fault => rfl
    | ok _ => exact ih v

theorem run_createMock (g : Generator) (moduleName : Value) (m : Material)
    (extension asked : Value) (w : Workspace) :
    ∃ r u, (g.createMock moduleName m extension asked).run w = (r, { w with files := u }) ∧
      Made w.files (g.mockPlan moduleName m extension asked) r u := by
  unfold createMock
  cases hfolder : g.folder asked with
  | error fault =>
    rw [run_bind, run_lift]
    exact ⟨_, w.files, rfl, .unready fault (.refl _)⟩
  | ok folder =>
    rw [run_bind, run_lift]
    dsimp only
    obtain ⟨outcome, v, hsubdir, hextends, hdir⟩ := run_makeSubdir g.mockPath folder w
    rw [run_bind, hsubdir]
    cases outcome with
    | error fault => exact ⟨_, v, rfl, .unready fault hextends⟩
    | ok _ =>
      obtain ⟨dir, hdir⟩ := hdir rfl
      dsimp only
      cases hext : headerExtension extension with
      | error fault =>
        rw [run_bind, run_lift]
        exact ⟨_, v, rfl, .unready fault hextends⟩
      | ok ext =>
        rw [run_bind, run_lift]
        dsimp only
        cases hnamed : g.mockFiles (g.names moduleName ext folder) m with
        | error fault =>
          rw [run_bind, run_lift]
          exact ⟨_, v, rfl, .unready fault hextends⟩
        | ok named =>
          rw [run_bind, run_lift]
          dsimp only
          have hplan := mockPlan_eq_ok.mpr ⟨folder, dir, ext, named, hfolder, hdir, hext,
            hnamed, rfl⟩
          rw [run_forM_create hdir]
          obtain ⟨r, u, hrun, ⟨rfl, hfilled⟩ | ⟨fault, done, next, rest, x, rfl, hsplit, hfilled,
            hstep⟩⟩ :=
            run_forM_createIn dir (named.map fun file => (Path.join dir file.1, file.2))
              { w with files := v }
          · exact ⟨_, u, hrun, .complete hplan hextends hfilled⟩
          · exact ⟨_, u, hrun, .broken fault (hplan.trans (congrArg _ hsplit)) hextends
              hfilled hstep⟩

theorem run_createMock_of_takes {placements : List Placement} {dirs : List String} {w : Workspace}
    (hplan : g.mockPlan moduleName m extension asked = .ok files)
    (hdirs : g.mockDirs asked = .ok dirs) (hthere : ∀ dir ∈ dirs, w.files.hasDir dir = true)
    (htakes : List.Forall₂ (Takes w.files) files placements) :
    ∃ u, (g.createMock moduleName m extension asked).run w = (.ok (), { w with files := u }) ∧
      u.dirs = w.files.dirs ∧
      ∀ p, u.content? p = contentAfter placements p (w.files.content? p) := by
  obtain ⟨folder, dir, ext, named, hfolder, hdir, hext, hnamed, rfl⟩ := mockPlan_eq_ok.mp hplan
  unfold mockDirs at hdirs
  obtain ⟨folder', hfolder', hdirs⟩ := bind_eq_ok.mp hdirs
  obtain rfl := Except.ok.inj (hfolder.symm.trans hfolder')
  obtain ⟨place, hplace, hdirs⟩ := bind_eq_ok.mp hdirs
  obtain ⟨dir', hdir', hdirs⟩ := bind_eq_ok.mp hdirs
  obtain rfl := Except.ok.inj (hdir.symm.trans hdir')
  cases hdirs
  have hbelow : w.files.hasDir dir = true := hthere dir (by simp)
  have hsubdir := run_makeSubdir_of_hasDir hplace hdir (hthere place (by simp)) hbelow
  obtain ⟨u, hrun, hu, hcontent⟩ := run_forM_of_takes htakes hbelow (w := w) rfl
  refine ⟨u, ?_, hu, hcontent⟩
  unfold createMock
  rw [hfolder, run_bind, run_lift]
  dsimp only
  rw [run_bind, hsubdir, hext]
  dsimp only
  rw [run_bind, run_lift]
  dsimp only
  rw [run_bind, hnamed, run_lift]
  dsimp only
  rw [run_forM_create hdir]
  exact hrun

end Generator

end MockGen
