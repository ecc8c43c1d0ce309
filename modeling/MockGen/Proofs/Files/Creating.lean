import MockGen.Proofs.Files.Series

/-!
# Creating a file

A file that is created is there as a whole, or is as it was: what is written before a fault stays in
the draft, and a draft that says what the file says already is discarded.
-/

namespace MockGen

theorem Path.join_ne_empty {a : String} (ha : a ≠ "") (b : String) : Path.join a b ≠ "" := by
  unfold Path.join
  split
  · rename_i hroot
    rintro rfl
    cases hroot
  · split <;> simp [ha]

namespace Output

open FileTree

theorem makeDirs_empty (t : FileTree) : t.makeDirs "" = (t, .error .fileNotFound) := by
  have hdir : t.hasDir "" = false := rfl
  have hmake : t.makeDir "" = .error .fileNotFound := rfl
  have hstep : t.makeDirs "" = makeLastDir false t "" := rfl
  rw [hstep, makeLastDir, hmake, hdir]
  rfl

theorem collect_texts (texts : List String) (raised : Option Fault) :
    collect "" (texts.map .ok ++ (raised.map .error).toList) =
      (Code.concat texts, raised.elim (.ok ()) .error) := by
  induction texts with
  | nil => cases raised <;> rfl
  | cons text texts ih =>
    rw [List.map_cons, List.cons_append, collect, collect_eq_append, ih, String.empty_append]
    rfl

theorem run_write_unchanged {w : Workspace} {path text : String} {chunks : List Chunk} {d q : Place}
    (hslot : Slot w.files path d q) (hsaid : Says chunks text)
    (hsame : isUnchanged (w.files.put d (.text text)) path = true) :
    (write path chunks).run w =
      (.ok (), { w with files := (w.files.put d (.text text)).drop d }) := by
  rw [run_write_returned hslot.draft hslot.draft_free hsaid, run_settle, if_pos hsame,
    Job.run_update]
  have hput := hslot.congr (dirs_put w.files d (.text text)).symm
  have hfile : (w.files.put d (.text text)).isFile d = true :=
    isFile_iff.mpr ⟨.text text, by rw [content?_put, if_pos rfl]⟩
  rw [remove_draft hput.draft hput.draft_free hfile]

/-- Creating a file below a directory, which is made first, where neither the path of the file nor
that of its draft is a directory then.  When the draft cannot be begun, no file changes.  Otherwise
the file holds all the texts and there is no draft, and a file that held them before was not
touched; or a fault was raised behind the texts, which are in the draft, and the file is as it was.
No other file changes. -/
theorem create_whole {w : Workspace} {top below : Value} {dir : String} (name : String)
    (texts : List String) (raised : Option Fault) (hdir : directory top below = .ok dir)
    (hpath : (w.files.makeDirs dir).1.hasDir (Path.join dir name) = false)
    (hdraft : (w.files.makeDirs dir).1.hasDir (draftName (Path.join dir name)) = false) :
    let path := Path.join dir name
    let made := (w.files.makeDirs dir).1
    let text := Content.text (Code.concat texts)
    ∃ r u, (create top name (texts.map .ok ++ (raised.map .error).toList) below).run w =
        (r, { w with files := u }) ∧
      (((w.files.makeDirs dir).2 ≠ .ok () ∨ ∀ spot, made.locate (draftName path) ≠ .ok spot) ∧
          (∃ fault, r = .error fault) ∧ u.files = w.files.files ∨
        ∃ d q, made.locate (draftName path) = .ok { place := d } ∧
          made.locate path = .ok { place := q } ∧
          (∀ p, p ≠ d → p ≠ q → u.content? p = w.files.content? p) ∧
          match raised with
          | none => r = .ok () ∧ u.content? q = some text ∧ u.content? d = none ∧
              (w.files.content? q = some text →
                isUnchanged (made.put d text) path = true ∧ u = (made.put d text).drop d)
          | some fault => r = .error fault ∧ u.content? q = w.files.content? q ∧
              u.content? d = some text) := by
  have hextends := extends_makeDirs w.files dir
  rw [run_create hdir, createIn, ReadM.run_bind, Job.run_makeDirs]
  rcases hmade : w.files.makeDirs dir with ⟨made, outcome⟩
  rw [hmade] at hpath hdraft hextends
  cases outcome with
  | error fault => exact ⟨_, _, rfl, .inl ⟨.inl (by simp), ⟨fault, rfl⟩, hextends.files⟩⟩
  | ok _ =>
    have hne : Path.join dir name ≠ "" := by
      refine Path.join_ne_empty ?_ name
      rintro rfl
      rw [makeDirs_empty] at hmade
      cases hmade
    have hcollect := collect_texts texts raised
    generalize Path.join dir name = path at *
    generalize texts.map Except.ok ++ (raised.map Except.error).toList = chunks at *
    dsimp only
    cases hspot : made.locate (draftName path) with
    | error fault =>
      obtain ⟨r, u, hrun, hwritten⟩ := written_write path chunks { w with files := made }
      refine ⟨r, u, hrun, .inl ⟨.inr (by simp), ?_⟩⟩
      cases hwritten with
      | refused fault => exact ⟨⟨fault, rfl⟩, hextends.files⟩
      | stopped _ _ hdraft => cases hspot.symm.trans hdraft
      | kept _ _ hdraft => cases hspot.symm.trans hdraft
      | placed _ hdraft => cases hspot.symm.trans hdraft
    | ok spot =>
      obtain ⟨around, -, -, rfl⟩ := exists_of_locate_draft hspot
      generalize around ++ [Path.fileName path ++ ".new"] = d at hspot
      have hd : made.isDir d = false := isDir_eq_false_of_hasDir hspot hdraft
      obtain ⟨q, hslot⟩ := exists_slot hne hspot hd hpath
      have hdq : d ≠ q := draft_ne hslot.target hslot.draft
      cases raised with
      | some fault =>
        refine ⟨_, _, run_write_raised hspot hd hcollect,
          .inr ⟨d, q, rfl, hslot.target, ?_, rfl, ?_, ?_⟩⟩
        · intro p hp _
          rw [content?_put, if_neg hp, hextends.content?]
        · rw [content?_put, if_neg hdq.symm, hextends.content?]
        · rw [content?_put, if_pos rfl]
      | none =>
        obtain ⟨u, hrun, hmoved⟩ := run_write_of_slot (w := { w with files := made }) hslot hcollect
        refine ⟨_, _, hrun, .inr ⟨d, q, rfl, hslot.target, ?_, rfl, ?_, ?_, fun hsame => ?_⟩⟩
        · intro p hp hq
          rw [hmoved.content?, if_neg hq, if_neg hp, hextends.content?]
        · rw [hmoved.content?, if_pos rfl]
        · rw [hmoved.content?, if_neg hdq, if_pos rfl]
        · have hsame := (isUnchanged_put hslot _).mpr ((hextends.content? q).trans hsame)
          have hrun' := run_write_unchanged (w := { w with files := made }) hslot hcollect hsame
          exact ⟨hsame, congrArg (·.2.files) (hrun.symm.trans hrun')⟩

def oldFile : Workspace where
  files := { files := [(["mocks", "tank.h"], .text "old")], dirs := [["mocks"]] }
  strippables := []

theorem create_whole_tank : ∃ u,
    (create (.str "mocks") "tank.h" [.ok "int ", .ok "level;"] .null).run oldFile =
      (.ok (), { oldFile with files := u }) ∧
    u.content? ["mocks", "tank.h"] = some (.text "int level;") ∧
    u.content? ["mocks", "tank.h.new"] = none := by
  have hdraft : (oldFile.files.makeDirs "mocks").1.locate (draftName (Path.join "mocks" "tank.h")) =
      .ok { place := ["mocks", "tank.h.new"] } := by rfl
  have hpath : (oldFile.files.makeDirs "mocks").1.locate (Path.join "mocks" "tank.h") =
      .ok { place := ["mocks", "tank.h"] } := by rfl
  obtain ⟨r, u, hrun, ⟨hnot | hnot, -⟩ | ⟨d, q, hd, hq, -, rfl, htext, hnone, -⟩⟩ :=
    create_whole (w := oldFile) "tank.h" ["int ", "level;"] none
      (show directory (.str "mocks") .null = .ok "mocks" from rfl) (by decide +kernel)
      (by decide +kernel)
  · exact absurd rfl hnot
  · exact absurd hdraft (hnot _)
  · cases hdraft.symm.trans hd
    cases hpath.symm.trans hq
    exact ⟨u, hrun, htext, hnone⟩

/-- The directory of a file can be made at its path. -/
theorem create_below_itself :
    let w : Workspace := { strippables := [] }
    w.files.hasDir "mocks/y.c/../y.c" = false ∧ w.files.hasDir "mocks/y.c/../y.c.new" = false ∧
    ((create (.str "mocks") "y.c" [.ok "int x;"] (.str "y.c/..")).run w).2.files =
      { files := [(["mocks", "y.c", "y.c.new"], .text "int x;")]
        dirs := [["mocks"], ["mocks", "y.c"]] } := by
  decide +kernel

end Output

end MockGen
