import MockGen.Proofs.Path
import MockGen.Proofs.Mock.Chunks
import MockGen.Proofs.Options
import MockGen.Request.Mock

/-!
# The header of a mock and its include

The header of a mock as it is written, and as the source of the mock includes it.  The source puts
the prefix in front of the folder and leaves out the suffix.
-/

namespace MockGen

open Code String Outcome ReadM Path

namespace Generator

/-- What leads from the directory of all mocks to a folder below it. -/
def leadTo (folder : Value) : String :=
  if folder.truthy then Path.join folder.display "" else ""

variable {g : Generator}

theorem leadTo_str (folder : String) : leadTo (.str folder) = Path.join folder "" := by
  unfold leadTo
  split
  · rfl
  · rename_i hempty
    obtain rfl : folder = "" := by simpa [Value.truthy] using hempty
    rfl

theorem leadTo_null : leadTo .null = "" := rfl

/-- The header of a mock, seen from the directory of all mocks. -/
def Names.header (n : Names) : String :=
  leadTo n.folder ++ n.mockName ++ n.extension

theorem eq_str_of_pathOf {v : Value} {path : String} (h : Output.pathOf v = .ok path) :
    v = .str path := by
  cases v with
  | str s =>
    cases h
    rfl
  | _ => cases h

theorem eq_str_of_asText {v : Value} {t : String} (h : v.asText = .ok t) : v = .str t := by
  cases v with
  | str s =>
    cases h
    rfl
  | _ => cases h

theorem join_directory {top folder : Value} {dir name : String}
    (h : Output.directory top folder = .ok dir) (hname : Path.IsRelative name) :
    ∃ place, top = .str place ∧ Path.join dir name = Path.join place (leadTo folder ++ name) := by
  unfold Output.directory at h
  split at h
  case isTrue =>
    obtain ⟨place, hplace, h⟩ := bind_eq_ok.mp h
    obtain ⟨below, hbelow, h⟩ := bind_eq_ok.mp h
    cases h
    refine ⟨place, eq_str_of_pathOf hplace, ?_⟩
    rw [eq_str_of_pathOf hbelow, leadTo_str, join_join hname, join_eq_append hname below]
  case isFalse hnone =>
    rw [leadTo, if_neg hnone, empty_append]
    exact ⟨dir, eq_str_of_pathOf h, rfl⟩

section

variable (g : Generator) (module ext : String) (folder : Value)

theorem names_folder : (g.names (.str module) ext folder).folder = folder := rfl

theorem names_extension : (g.names (.str module) ext folder).extension = ext := rfl

theorem names_mockName :
    (g.names (.str module) ext folder).mockName = g.nameStart ++ module ++ g.nameEnd := rfl

theorem names_file : (g.names (.str module) ext folder).file = .ok (module ++ ext) := rfl

end

/-- The source includes its header with the prefix in front of the folder and without the suffix. -/
theorem eq_of_ownHeader {module ext own : String} {folder : Value}
    (hfile : Path.IsRelative (module ++ ext))
    (h : g.ownHeader (g.names (.str module) ext folder) = .ok own) :
    own = g.nameStart ++ (leadTo folder ++ (module ++ ext)) := by
  rw [ownHeader, names_folder, names_file] at h
  split at h
  case h_1 =>
    cases h
    rw [leadTo_null, empty_append]
  case h_2 =>
    obtain ⟨_, hok, h⟩ := bind_eq_ok.mp h
    cases hok
    obtain ⟨below, hbelow, h⟩ := bind_eq_ok.mp h
    cases h
    rw [eq_str_of_asText hbelow, leadTo_str, join_eq_append hfile]

theorem append_eq_append_iff {a b c d e : String} :
    a ++ (b ++ (c ++ e)) = b ++ (a ++ c ++ d) ++ e ↔ d = "" ∧ a ++ b = b ++ a := by
  constructor
  · intro h
    have hlength := congrArg String.length h
    simp only [length_append] at hlength
    obtain rfl : d = "" := by
      rw [← length_eq_zero_iff]
      omega
    have hcancel : a ++ b ++ (c ++ e) = b ++ a ++ (c ++ e) := by
      simpa [append_assoc] using h
    exact ⟨rfl, append_left_inj _ |>.mp hcancel⟩
  · rintro ⟨rfl, h⟩
    rw [← append_assoc, h]
    simp [append_assoc]

theorem exists_of_says_source {n : Names} {m : Material} {t : String}
    (h : Output.Says (g.sourceChunks n m) t) :
    ∃ own functions rest, g.ownHeader n = .ok own ∧ m.functions = .ok functions ∧
      functions.all = .ok functions.items ∧ Output.Says (g.sourceRest n functions.items) rest ∧
      t = g.sourceHead own (!functions.items.isEmpty) ++ rest := by
  unfold sourceChunks at h
  dsimp only at h
  split at h
  case h_1 => cases h
  case h_2 own functions hstart =>
    obtain ⟨_, hown, hstart⟩ := bind_eq_ok.mp hstart
    obtain ⟨_, hfunctions, hstart⟩ := bind_eq_ok.mp hstart
    cases hstart
    obtain ⟨head, rest, hhead, hrest, rfl⟩ := Output.Says.cons_iff.mp h
    cases hhead
    cases hall : functions.all with
    | error fault =>
      rw [hall] at hrest
      cases hrest
    | ok items =>
      rw [hall] at hrest
      obtain rfl := Listed.all_eq_ok hall
      exact ⟨own, functions, rest, hown, hfunctions, hall, hrest, rfl⟩

/-- The files of a mock were written below the directory `top`, at last its source, which includes
the header `own`. -/
structure Wrote (g : Generator) (m : Material) (n : Names) (top own : String) (w : Workspace) :
    Prop where
  header : ∃ u v, (Output.write (Path.join top n.header) (g.headerChunks n m)).run u = (.ok (), v)
  source : ∃ u, (Output.write (Path.join top (leadTo n.folder ++ n.mockName ++ ".c"))
    (g.sourceChunks n m)).run u = (.ok (), w)
  ownInclude : ∃ marked rest, Output.Says (g.sourceChunks n m)
    (lines (only marked ["/* AUTOGENERATED FILE. DO NOT EDIT. */"]) ++ g.firstIncludes ++
      lines [s!"#include \"{own}\""] ++ rest)

theorem exists_wrote {module : String} {m : Material} {extension asked : Value} {w w' : Workspace}
    (hmodule : module ≠ "" ∧ Path.IsRelative module) (hstart : Path.IsRelative g.nameStart)
    (hrun : (g.createMock (.str module) m extension asked).run w = (.ok (), w')) :
    ∃ folder ext top own, g.folder asked = .ok folder ∧ headerExtension extension = .ok ext ∧
      g.mockPath = .str top ∧ g.ownHeader (g.names (.str module) ext folder) = .ok own ∧
      g.Wrote m (g.names (.str module) ext folder) top own w' := by
  obtain ⟨hne, hrelative⟩ := hmodule
  obtain ⟨folder, ext, u, v, hfolder, hext, hheader, hsource⟩ := createMock_eq_ok hrun
  have hname : ∀ ending,
      Path.IsRelative ((g.names (.str module) ext folder).mockName ++ ending) := by
    intro ending
    rw [names_mockName, append_assoc, append_assoc]
    exact isRelative_append hstart (isRelative_append_of_ne hrelative hne _)
  obtain ⟨dir, u, hdir, hheader⟩ := Output.create_eq_ok hheader
  obtain ⟨dir', x, hdir', hsource⟩ := Output.create_eq_ok hsource
  obtain ⟨top, htop, hpath⟩ := join_directory hdir (hname ext)
  obtain ⟨top', htop', hpath'⟩ := join_directory hdir' (hname ".c")
  obtain rfl : top = top' := Value.str.inj (htop.symm.trans htop')
  obtain ⟨text, htext⟩ := Output.exists_says_of_write hsource
  obtain ⟨own, functions, rest, hown, -, -, -, rfl⟩ := exists_of_says_source htext
  rw [hpath, ← append_assoc] at hheader
  rw [hpath', ← append_assoc] at hsource
  refine ⟨folder, ext, top, own, hfolder, hext, htop, hown, ⟨u, v, hheader⟩, ⟨x, hsource⟩,
    !functions.items.isEmpty, includeLines g.sourceIncludesAfter ++ "\n" ++ rest, ?_⟩
  rw [sourceHead, sourceIncludes] at htext
  simpa only [append_assoc] using htext

/-- The source of a mock includes the header that was written with it exactly if there is no suffix,
and the prefix can stand on either side of the folder. -/
theorem createMock_include_iff {g : Generator} {module : String} {m : Material}
    {extension asked : Value} {w w' : Workspace}
    (hmodule : module ≠ "" ∧ Path.IsRelative module) (hstart : Path.IsRelative g.nameStart)
    (hrun : (g.createMock (.str module) m extension asked).run w = (.ok (), w')) :
    ∃ folder ext top own, g.folder asked = .ok folder ∧ headerExtension extension = .ok ext ∧
      g.mockPath = .str top ∧ g.Wrote m (g.names (.str module) ext folder) top own w' ∧
      (own = (g.names (.str module) ext folder).header ↔
        g.nameEnd = "" ∧ g.nameStart ++ leadTo folder = leadTo folder ++ g.nameStart) := by
  obtain ⟨folder, ext, top, own, hfolder, hext, htop, hown, hwrote⟩ :=
    exists_wrote hmodule hstart hrun
  refine ⟨folder, ext, top, own, hfolder, hext, htop, hwrote, ?_⟩
  have hfile := isRelative_append_of_ne hmodule.2 hmodule.1 ext
  rw [eq_of_ownHeader hfile hown, Names.header, names_folder, names_mockName, names_extension]
  exact append_eq_append_iff

/-- Without a prefix and a suffix, a mock in a folder is included as it was written. -/
theorem createMock_include_iff_bare :
    let given := .record [(":mock_prefix", .str ""), (":subdir", .str "sub")]
    let m := .ofValue (.record [("functions", .list []), ("typedefs", .list [])])
    ∃ g w w' folder ext top own,
      (ofValue given true (.list []) .null .null).run { strippables := [] } = (.ok g, w) ∧
      (g.createMock (.str "foo") m .null .null).run w = (.ok (), w') ∧
      g.Wrote m (g.names (.str "foo") ext folder) top own w' ∧
      own = (g.names (.str "foo") ext folder).header := by
  intro given m
  obtain ⟨g, w', h, hg⟩ := Job.exists_run_of_any (w := { strippables := [] })
    (P := fun g => g.nameStart == "" && g.nameEnd == "") (x := do
      let g ← ofValue given true (.list []) .null .null
      g.createMock (.str "foo") m .null .null
      return g) (by decide +kernel)
  obtain ⟨g, w, hmade, h⟩ := run_bind_eq_ok.mp h
  obtain ⟨_, _, hrun, hpure⟩ := run_bind_eq_ok.mp h
  cases hpure
  obtain ⟨hstart, hend⟩ : g.nameStart = "" ∧ g.nameEnd = "" := by simpa using hg
  obtain ⟨folder, ext, top, own, -, -, -, hwrote, hiff⟩ :=
    createMock_include_iff ⟨by decide, by decide⟩ (by rw [hstart]; decide) hrun
  refine ⟨g, w, w', folder, ext, top, own, hmade, hrun, hwrote, hiff.mpr ⟨hend, ?_⟩⟩
  rw [hstart, empty_append, append_empty]

/-- With a suffix, a mock is not included as it was written. -/
theorem createMock_include_suffix :
    let given := .record [(":mock_suffix", .str "_s")]
    let m := .ofValue (.record [("functions", .list []), ("typedefs", .list [])])
    ∃ g w w', (ofValue given true (.list []) .null .null).run { strippables := [] } = (.ok g, w) ∧
      (g.createMock (.str "foo") m .null .null).run w = (.ok (), w') ∧
      g.Wrote m (g.names (.str "foo") ".h" .null) "mocks" "Mockfoo.h" w' ∧
      (g.names (.str "foo") ".h" .null).header = "Mockfoo_s.h" := by
  intro given m
  obtain ⟨g, w', h, hg⟩ := Job.exists_run_of_any (w := { strippables := [] })
    (P := fun g => g.nameStart == "Mock" && g.nameEnd == "_s" && !g.subdir.truthy &&
      g.mockPath == .str "mocks") (x := do
      let g ← ofValue given true (.list []) .null .null
      g.createMock (.str "foo") m .null .null
      return g) (by decide +kernel)
  obtain ⟨g, w, hmade, h⟩ := run_bind_eq_ok.mp h
  obtain ⟨_, _, hrun, hpure⟩ := run_bind_eq_ok.mp h
  cases hpure
  simp only [Bool.and_eq_true, beq_iff_eq, Value.beq_str, Bool.not_eq_true'] at hg
  obtain ⟨⟨⟨hstart, hend⟩, hsubdir⟩, htop⟩ := hg
  obtain ⟨folder, ext, top, own, hfolder, hext, hpath, hown, hwrote⟩ :=
    exists_wrote ⟨by decide, by decide⟩ (by rw [hstart]; decide) hrun
  obtain rfl : .null = folder := by simpa [Generator.folder, hsubdir] using hfolder
  cases hext
  obtain rfl : "mocks" = top := Value.str.inj (htop.symm.trans hpath)
  have hincluded := eq_of_ownHeader (by decide) hown
  rw [hstart] at hincluded
  obtain rfl : own = "Mockfoo.h" := hincluded
  refine ⟨g, w, w', hmade, hrun, hwrote, ?_⟩
  rw [Names.header, names_mockName, hstart, hend]
  rfl

end Generator

end MockGen
