import MockGen.Session
import MockGen.Proofs.Header.Isolation
import MockGen.Proofs.Mock.Making

/-!
# Making the mock of a header twice

The second time the header is read as the first time, since all names that the reader has learnt are
its own, and the files are found as they were left.
-/

namespace MockGen

open FileTree Output

/-! ## Reading the same header again -/

namespace HeaderReader

open Header

theorem exists_run_eq {α : Type} (r : HeaderReader) (project : Project) (read : Rules → ReadM α)
    (w : Workspace) :
    ∃ console, (r.run project read).run w =
      ((((read (r.rulesIn w)).run { project := project, voids := r.voids }).1,
        { r with
          voids := ((read (r.rulesIn w)).run { project := project, voids := r.voids }).2.voids },
        ((read (r.rulesIn w)).run { project := project, voids := r.voids }).2.project),
        { w with console }) := by
  have hprint : ∀ (notes : List String) (w : Workspace), ∃ console,
      (notes.forM fun note => modify fun w : Workspace =>
        { w with console := w.console ++ note ++ "\n" } : StateM Workspace PUnit).run w =
        ((), { w with console }) := by
    intro notes
    induction notes with
    | nil => exact fun w => ⟨w.console, rfl⟩
    | cons note notes ih =>
      intro w
      obtain ⟨console, hconsole⟩ := ih { w with console := w.console ++ note ++ "\n" }
      exact ⟨console, hconsole⟩
  obtain ⟨console, hconsole⟩ := hprint
    ((read (r.rulesIn w)).run { project := project, voids := r.voids }).2.notes w
  have hstate : ((r.run project read).run w).2 =
      ((((read (r.rulesIn w)).run { project := project, voids := r.voids }).2.notes.forM fun note =>
        modify fun w : Workspace => { w with console := w.console ++ note ++ "\n" } :
          StateM Workspace PUnit).run w).2 := rfl
  exact ⟨console, Prod.ext rfl (hstate.trans (congrArg Prod.snd hconsole))⟩

theorem parse_again (r : Rules) (name : String) (source : List Char) (s : Reading) :
    ((parse r name source).run { s with voids := ((parse r name source).run s).2.voids }).1 =
      ((parse r name source).run s).1 := by
  apply parse_congr
  · intro x hx
    exact mem_voids_parse.mpr (.inl hx)
  · intro declared _ x _ hx
    exact List.mem_append.mpr (mem_voids_parse.mp hx)

end HeaderReader

namespace Session

variable {s s' : Session} {w w' : Workspace} {path : String} {folder : Value}
  {files : List (String × List Chunk)} {placements : List Placement} {parsed : Header.Parsed}

theorem run_bind {α β : Type} (x : SessionM α) (f : α → SessionM β) (s : Session)
    (w : Workspace) :
    (x >>= f).run s w =
      match x.run s w with
      | ((.ok a, t), v) => (f a).run t v
      | ((.error fault, t), v) => ((.error fault, t), v) := by
  have hstep : (x >>= f).run s w =
      (ExceptT.bindCont f (x.run s w).1.1) (x.run s w).1.2 (x.run s w).2 := rfl
  rw [hstep]
  rcases x.run s w with ⟨⟨outcome, t⟩, v⟩
  cases outcome <;> rfl

theorem run_job {α : Type} (j : Job α) (s : Session) (w : Workspace) :
    (job j).run s w = (((j.run w).1, s), (j.run w).2) := rfl

/-- What reading a text as a header gives, and what is left behind for the next header. -/
def reading (s : Session) (w : Workspace) (name text : String) :
    Except Fault Header.Parsed × Reading :=
  (Header.parse (s.reader.rulesIn w) name text.toList).run
    { project := { moduleName := name }, voids := s.reader.voids }

/-- The session after reading a text as a header. -/
def afterReading (s : Session) (w : Workspace) (name text : String) : Session :=
  { s with reader := { s.reader with voids := (s.reading w name text).2.voids } }

theorem exists_run_read (name text : String) (s : Session) (w : Workspace) :
    ∃ console, (Session.read name text).run s w =
      (((s.reading w name text).1, s.afterReading w name text), { w with console }) := by
  obtain ⟨console, hrun⟩ := s.reader.exists_run_eq { moduleName := name }
    (fun rules => Header.parse rules name text.toList) w
  refine ⟨console, ?_⟩
  have hstep : (Session.read name text).run s w =
      ((((s.reader.run { moduleName := name } fun rules =>
          Header.parse rules name text.toList).run w).1.1,
        { s with reader := ((s.reader.run { moduleName := name } fun rules =>
          Header.parse rules name text.toList).run w).1.2.1 }),
        ((s.reader.run { moduleName := name } fun rules =>
          Header.parse rules name text.toList).run w).2) := rfl
  rw [hstep, hrun]
  rfl

theorem exists_run_openHeader (verb path : String) (s : Session) (w : Workspace) :
    ∃ console, (openHeader verb path).run s w =
      match w.files.read path with
      | .error fault => ((.error fault, s), { w with console })
      | .ok text =>
        let (name, extension) := Path.splitExtension (Path.fileName path)
        (((s.reading w name text).1.map fun parsed => (name, extension, material parsed),
          s.afterReading w name text), { w with console }) := by
  have hread : ∀ (name extension console : String), ∃ console',
      (do
        let text ← job (Job.readFile path)
        return (name, extension, material (← Session.read name text)) :
        SessionM (String × String × Material)).run s { w with console } =
      match w.files.read path with
      | .error fault => ((.error fault, s), { w with console := console' })
      | .ok text => (((s.reading w name text).1.map
          fun parsed => (name, extension, material parsed), s.afterReading w name text),
          { w with console := console' }) := by
    intro name extension console
    rw [run_bind, run_job]
    have hfile : (Job.readFile path).run { w with console } =
        (w.files.read path, { w with console }) := ReadM.run_lift (w.files.read path) _
    rw [hfile]
    cases w.files.read path with
    | error fault => exact ⟨console, rfl⟩
    | ok text =>
      obtain ⟨console', hrun⟩ := exists_run_read name text s { w with console }
      have hsame : s.reading { w with console } name text = s.reading w name text := rfl
      refine ⟨console', ?_⟩
      dsimp only
      rw [run_bind, hrun, hsame]
      cases (s.reading w name text).1 <;> rfl
  unfold openHeader
  rcases Path.splitExtension (Path.fileName path) with ⟨name, extension⟩
  have hget : ∀ f : Session → SessionM (String × String × Material),
      (get >>= f : SessionM (String × String × Material)).run s w = (f s).run s w := fun _ => rfl
  dsimp only
  rw [hget]
  split
  · rw [run_bind, run_job]
    exact hread name extension _
  · exact hread name extension w.console

theorem exists_run_generateMock (path : String) (folder : Value) (s : Session) (w : Workspace) :
    ∃ console, (generateMock path folder).run s w =
      match w.files.read path with
      | .error fault => ((.error fault, s), { w with console })
      | .ok text =>
        let (name, extension) := Path.splitExtension (Path.fileName path)
        match (s.reading w name text).1 with
        | .error fault => ((.error fault, s.afterReading w name text), { w with console })
        | .ok parsed =>
          let made := (s.generator.createMock (.str name) (material parsed) (.str extension)
            folder).run { w with console }
          ((made.1, s.afterReading w name text), made.2) := by
  obtain ⟨console, hopen⟩ := exists_run_openHeader "mock" path s w
  refine ⟨console, ?_⟩
  unfold generateMock
  rw [run_bind, hopen]
  cases w.files.read path with
  | error fault => rfl
  | ok text =>
    rcases Path.splitExtension (Path.fileName path) with ⟨name, extension⟩
    dsimp only
    cases (s.reading w name text).1 <;> rfl

/-- The paths that making the mock of a header writes. -/
def mockPaths (s : Session) (path : String) (folder : Value) : Except Fault (List String) :=
  let (name, extension) := Path.splitExtension (Path.fileName path)
  s.generator.mockPaths (.str name) (.str extension) folder

theorem reading_afterReading (s : Session) (name text : String)
    (hstrippables : w'.strippables = w.strippables) :
    ((s.afterReading w name text).reading w' name text).1 = (s.reading w name text).1 := by
  have hrules : (s.afterReading w name text).reader.rulesIn w' = s.reader.rulesIn w := by
    unfold HeaderReader.rulesIn afterReading
    rw [hstrippables]
  rw [reading, hrules]
  exact HeaderReader.parse_again (s.reader.rulesIn w) name text.toList
    { project := { moduleName := name }, voids := s.reader.voids }

theorem read_of_placements {t u : FileTree} {path text : String} (hdirs : t.dirs ⊆ u.dirs)
    (htakes : List.Forall₂ (Takes u) files placements)
    (hcontent : ∀ p, u.content? p = contentAfter placements p (t.content? p))
    (hapart : ∀ file ∈ files, u.place? file.1 ≠ u.place? path ∧
      u.place? (draftName file.1) ≠ u.place? path) (htext : t.read path = .ok text) :
    u.read path = .ok text := by
  obtain ⟨spot, c, hspot, hc, hkind, htext⟩ := read_eq_ok.mp htext
  have hplace : u.place? path = some spot.place := place?_mono hdirs hspot
  have hkept : ∀ o ∈ placements, spot.place ≠ o.target ∧ spot.place ≠ o.draft := by
    intro o ho
    obtain ⟨file, hfile, htake⟩ := exists_of_mem_placements htakes ho
    obtain ⟨htarget, hdraft⟩ := hapart file hfile
    rw [hplace, place?_of_locate htake.slot.target] at htarget
    rw [hplace, place?_of_locate htake.slot.draft] at hdraft
    exact ⟨fun h => htarget (congrArg some h.symm), fun h => hdraft (congrArg some h.symm)⟩
  refine read_eq_ok.mpr ⟨spot, c, locate_mono hdirs hspot, ?_, hkind.imp_left (isDir_mono hdirs),
    htext⟩
  rw [hcontent, contentAfter_of_ne hkept, hc]

/-- The files of the mock of a header, when the header says `parsed`. -/
def plan (s : Session) (path : String) (folder : Value) (parsed : Header.Parsed) :
    Except Fault (List (String × List Chunk)) :=
  let (name, extension) := Path.splitExtension (Path.fileName path)
  s.generator.mockPlan (.str name) (material parsed) (.str extension) folder

theorem mockPaths_of_plan (h : s.plan path folder parsed = .ok files) :
    s.mockPaths path folder = .ok (files.map Prod.fst) := by
  unfold plan at h
  unfold mockPaths
  generalize Path.splitExtension (Path.fileName path) = parts at h ⊢
  exact Generator.mockPaths_of_mockPlan h

theorem exists_of_generateMock (h : (generateMock path folder).run s w = ((.ok (), s'), w')) :
    ∃ text parsed files v, w.files.read path = .ok text ∧
      (s.reading w (Path.splitExtension (Path.fileName path)).1 text).1 = .ok parsed ∧
      s' = s.afterReading w (Path.splitExtension (Path.fileName path)).1 text ∧
      w'.strippables = w.strippables ∧ s.plan path folder parsed = .ok files ∧
      w.files.Extends v ∧ Filled v files w'.files := by
  obtain ⟨console, hrun⟩ := exists_run_generateMock path folder s w
  rw [hrun] at h
  unfold plan
  generalize Path.splitExtension (Path.fileName path) = parts at h ⊢
  obtain ⟨name, extension⟩ := parts
  dsimp only at h ⊢
  cases htext : w.files.read path with
  | error fault =>
    rw [htext] at h
    cases h
  | ok text =>
    rw [htext] at h
    dsimp only at h
    cases hparsed : (s.reading w name text).1 with
    | error fault =>
      rw [hparsed] at h
      cases h
    | ok parsed =>
      obtain ⟨r, u, hmade, hcases⟩ := s.generator.run_createMock (.str name) (material parsed)
        (.str extension) folder { w with console }
      rw [hparsed] at h
      dsimp only at h
      rw [hmade] at h
      cases h
      cases hcases with
      | complete hplan hextends hfilled =>
        exact ⟨text, parsed, _, _, rfl, hparsed, rfl, rfl, hplan, hextends, hfilled⟩

theorem exists_run_generateMock_of_takes {text : String} {dirs : List String}
    (htext : w.files.read path = .ok text)
    (hparsed : (s.reading w (Path.splitExtension (Path.fileName path)).1 text).1 = .ok parsed)
    (hplan : s.plan path folder parsed = .ok files)
    (hdirs : s.generator.mockDirs folder = .ok dirs)
    (hthere : ∀ dir ∈ dirs, w.files.hasDir dir = true)
    (htakes : List.Forall₂ (Takes w.files) files placements) :
    ∃ s' w', (generateMock path folder).run s w = ((.ok (), s'), w') ∧
      w'.files.dirs = w.files.dirs ∧
      ∀ p, w'.files.content? p = contentAfter placements p (w.files.content? p) := by
  obtain ⟨console, hrun⟩ := exists_run_generateMock path folder s w
  rw [hrun, htext]
  unfold plan at hplan
  generalize Path.splitExtension (Path.fileName path) = parts at hparsed hplan ⊢
  obtain ⟨name, extension⟩ := parts
  dsimp only at hparsed hplan ⊢
  obtain ⟨u, hmade, hu, hcontent⟩ := Generator.run_createMock_of_takes
    (w := { w with console }) hplan hdirs hthere htakes
  rw [hparsed]
  dsimp only
  rw [hmade]
  exact ⟨_, _, rfl, hu, hcontent⟩

/-- Making the mock of a header once more succeeds and changes no file and no directory, where the
directories are there and no written file is a directory or the header itself. -/
theorem generateMock_again {dirs paths : List String}
    (h : (generateMock path folder).run s w = ((.ok (), s'), w'))
    (hdirs : s.generator.mockDirs folder = .ok dirs)
    (hpaths : s.mockPaths path folder = .ok paths)
    (hthere : ∀ dir ∈ dirs, w'.files.hasDir dir = true)
    (hfree : ∀ written ∈ paths, ∀ file ∈ [written, draftName written],
      w'.files.hasDir file = false ∧ w'.files.place? file ≠ w'.files.place? path) :
    ∃ s'' w'', (generateMock path folder).run s' w' = ((.ok (), s''), w'') ∧
      w'.files.Same w''.files := by
  obtain ⟨text, parsed, files, v, htext, hparsed, rfl, hstrippables, hplan, hextends, hfilled⟩ :=
    exists_of_generateMock h
  obtain rfl := Except.ok.inj ((mockPaths_of_plan hplan).symm.trans hpaths)
  have hfree' : ∀ file ∈ files, w'.files.hasDir file.1 = false ∧
      w'.files.hasDir (draftName file.1) = false ∧ w'.files.place? file.1 ≠ w'.files.place? path ∧
      w'.files.place? (draftName file.1) ≠ w'.files.place? path := by
    intro file hfile
    have hwritten := hfree file.1 (List.mem_map_of_mem hfile)
    have htarget := hwritten file.1 (by simp)
    have hdraft := hwritten (draftName file.1) (by simp)
    exact ⟨htarget.1, hdraft.1, htarget.2, hdraft.2⟩
  obtain ⟨placements, htakes, hfrom⟩ := hfilled.exists_placements (List.Subset.refl _)
    fun file hfile => ⟨(hfree' file hfile).1, (hfree' file hfile).2.1⟩
  have hcontent : ∀ p, w'.files.content? p =
      contentAfter placements p (w.files.content? p) := by
    intro p
    rw [hfrom, hextends.content?]
  have hread : w'.files.read path = .ok text :=
    read_of_placements (List.Subset.trans hextends.dirs hfilled.dirs) htakes hcontent
      (fun file hfile => (hfree' file hfile).2.2) htext
  have hparsed' := (reading_afterReading s _ text hstrippables).trans hparsed
  obtain ⟨s'', w'', hrun, hw'', hcontent'⟩ := exists_run_generateMock_of_takes hread hparsed'
    hplan hdirs hthere htakes
  refine ⟨s'', w'', hrun, hw'', fun p => ?_⟩
  rw [hcontent', hcontent, contentAfter_contentAfter]

/-! ## A sample header -/

/-- A header, and a file in the way of a directory. -/
def sampleFiles : Workspace where
  files := {
    files := [(["inc", "tank.h"], .text "int f();"), (["notes"], .text "")]
    dirs := [["inc"]] }
  strippables := Options.defaultStrippables

/-- Whether a new session makes a mock of the sample header, and then something holds. -/
def sampleHolds (given folder : Value) (P : Session → Workspace → Session → Workspace → Bool) :
    Bool :=
  match (start given).run sampleFiles with
  | (.ok s, w) =>
    match (generateMock "inc/tank.h" folder).run s w with
    | ((.ok (), s'), w') => P s w s' w'
    | _ => false
  | _ => false

theorem exists_of_sampleHolds {given folder : Value}
    {P : Session → Workspace → Session → Workspace → Bool}
    (h : sampleHolds given folder P = true) :
    ∃ s w s' w', (start given).run sampleFiles = (.ok s, w) ∧
      (generateMock "inc/tank.h" folder).run s w = ((.ok (), s'), w') ∧ P s w s' w' = true := by
  unfold sampleHolds at h
  split at h
  · rename_i s w hstart
    split at h
    · rename_i s' w' hrun
      exact ⟨s, w, s', w', hstart, hrun, h⟩
    · cases h
  · cases h

/-- The mock of the sample header in a folder of its own, twice. -/
theorem generateMock_again_sample :
    ∃ s w s' w', (start .null).run sampleFiles = (.ok s, w) ∧
      (generateMock "inc/tank.h" (.str "sub")).run s w = ((.ok (), s'), w') ∧
      ∃ s'' w'', (generateMock "inc/tank.h" (.str "sub")).run s' w' = ((.ok (), s''), w'') ∧
        w'.files.Same w''.files := by
  have hholds : sampleHolds .null (.str "sub") fun s _ _ w' =>
      decide ((s.generator.mockDirs (.str "sub")).toOption = some ["mocks", "mocks/sub"] ∧
        (s.mockPaths "inc/tank.h" (.str "sub")).toOption =
          some ["mocks/sub/Mocktank.h", "mocks/sub/Mocktank.c"] ∧
        (∀ dir ∈ ["mocks", "mocks/sub"], w'.files.hasDir dir = true) ∧
        ∀ written ∈ ["mocks/sub/Mocktank.h", "mocks/sub/Mocktank.c"],
          ∀ file ∈ [written, draftName written], w'.files.hasDir file = false ∧
            w'.files.place? file ≠ w'.files.place? "inc/tank.h") := by
    decide +kernel
  obtain ⟨s, w, s', w', hstart, hrun, hcheck⟩ := exists_of_sampleHolds hholds
  obtain ⟨hdirs, hpaths, hthere, hfree⟩ := of_decide_eq_true hcheck
  exact ⟨s, w, s', w', hstart, hrun, generateMock_again hrun
    (Outcome.eq_ok_of_toOption hdirs) (Outcome.eq_ok_of_toOption hpaths) hthere hfree⟩

/-- A folder that leads through a directory with the name of the mock's own header: no written path
was a directory before.  And a directory of all mocks that lies below a file, where the mock itself
goes elsewhere: it is looked for in vain only when the directory next to the file is there. -/
theorem generateMock_again_own_directory :
    (∃ s w s' w', (start .null).run sampleFiles = (.ok s, w) ∧
      (generateMock "inc/tank.h" (.str "Mocktank.h/..")).run s w = ((.ok (), s'), w') ∧
      (s.mockPaths "inc/tank.h" (.str "Mocktank.h/..")).toOption =
        some ["mocks/Mocktank.h/../Mocktank.h", "mocks/Mocktank.h/../Mocktank.c"] ∧
      (∀ written ∈ ["mocks/Mocktank.h/../Mocktank.h", "mocks/Mocktank.h/../Mocktank.c"],
        ∀ file ∈ [written, draftName written], w.files.hasDir file = false ∧
          w.files.place? file ≠ w.files.place? "inc/tank.h") ∧
      ((generateMock "inc/tank.h" (.str "Mocktank.h/..")).run s' w').1.1.isOk = false) ∧
    ∃ s w s' w', (start (.map [(.str ":mock_path", .str "new/../notes/.")])).run sampleFiles =
        (.ok s, w) ∧
      (generateMock "inc/tank.h" (.str "/out")).run s w = ((.ok (), s'), w') ∧
      (s.mockPaths "inc/tank.h" (.str "/out")).toOption =
        some ["/out/Mocktank.h", "/out/Mocktank.c"] ∧
      (∀ written ∈ ["/out/Mocktank.h", "/out/Mocktank.c"],
        ∀ file ∈ [written, draftName written], w'.files.hasDir file = false ∧
          w'.files.place? file ≠ w'.files.place? "inc/tank.h") ∧
      ((generateMock "inc/tank.h" (.str "/out")).run s' w').1.1.isOk = false := by
  constructor
  · have hholds : sampleHolds .null (.str "Mocktank.h/..") fun s w s' w' => decide (
        (s.mockPaths "inc/tank.h" (.str "Mocktank.h/..")).toOption =
          some ["mocks/Mocktank.h/../Mocktank.h", "mocks/Mocktank.h/../Mocktank.c"] ∧
        (∀ written ∈ ["mocks/Mocktank.h/../Mocktank.h", "mocks/Mocktank.h/../Mocktank.c"],
          ∀ file ∈ [written, draftName written], w.files.hasDir file = false ∧
            w.files.place? file ≠ w.files.place? "inc/tank.h") ∧
        ((generateMock "inc/tank.h" (.str "Mocktank.h/..")).run s' w').1.1.isOk = false) := by
      decide +kernel
    obtain ⟨s, w, s', w', hstart, hrun, hcheck⟩ := exists_of_sampleHolds hholds
    exact ⟨s, w, s', w', hstart, hrun, of_decide_eq_true hcheck⟩
  · have hholds : sampleHolds (.map [(.str ":mock_path", .str "new/../notes/.")]) (.str "/out")
        fun s _ s' w' => decide (
        (s.mockPaths "inc/tank.h" (.str "/out")).toOption =
          some ["/out/Mocktank.h", "/out/Mocktank.c"] ∧
        (∀ written ∈ ["/out/Mocktank.h", "/out/Mocktank.c"],
          ∀ file ∈ [written, draftName written], w'.files.hasDir file = false ∧
            w'.files.place? file ≠ w'.files.place? "inc/tank.h") ∧
        ((generateMock "inc/tank.h" (.str "/out")).run s' w').1.1.isOk = false) := by
      decide +kernel
    obtain ⟨s, w, s', w', hstart, hrun, hcheck⟩ := exists_of_sampleHolds hholds
    exact ⟨s, w, s', w', hstart, hrun, of_decide_eq_true hcheck⟩

end Session

end MockGen
