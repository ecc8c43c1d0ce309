import MockGen.Proofs.Files.Writing

/-!
# Files that are written one after the other

When one of them cannot be written, those before it are done and those after it are as they were;
and when all of them are written once more, nothing changes.
-/

namespace MockGen

open List ReadM

namespace FileTree

variable {t u : FileTree} {p : Place} {path : String}

def place? (t : FileTree) (path : String) : Option Place :=
  (t.locate path).toOption.map Spot.place

theorem place?_of_locate {spot : Spot} (h : t.locate path = .ok spot) :
    t.place? path = some spot.place := by
  rw [place?, h]
  rfl

theorem place?_mono (h : t.dirs ⊆ u.dirs) {spot : Spot} (hspot : t.locate path = .ok spot) :
    u.place? path = some spot.place :=
  place?_of_locate (locate_mono h hspot)

/-- The same directories, and the same files with the same contents. -/
structure Same (t u : FileTree) : Prop where
  dirs : u.dirs = t.dirs
  content? : ∀ p, u.content? p = t.content? p

end FileTree

namespace Output

open FileTree

variable {t u v : FileTree} {path dir : String} {chunks : List Chunk} {d q : Place}
  {files : List (String × List Chunk)}

/-! ## One file -/

theorem Slot.congr (h : t.dirs = u.dirs) (hslot : Slot t path d q) : Slot u path d q where
  draft := (locate_congr h).mp hslot.draft
  target := (locate_congr h).mp hslot.target
  draft_free := (isDir_congr h d).symm.trans hslot.draft_free
  target_free := (isDir_congr h q).symm.trans hslot.target_free

theorem Slot.hasDir (h : Slot t path d q) : t.hasDir path = false := by
  rw [Bool.eq_false_iff]
  intro hdir
  obtain ⟨spot, hspot, hdir⟩ := hasDir_eq_true.mp hdir
  rw [h.target] at hspot
  obtain rfl := Except.ok.inj hspot
  rw [h.target_free] at hdir
  cases hdir

theorem Says.unique {text text' : String} (h : Says chunks text) (h' : Says chunks text') :
    text = text' :=
  (Prod.mk.inj (h.symm.trans h')).1

theorem run_write_of_slot {w : Workspace} {text : String} (hslot : Slot w.files path d q)
    (hsaid : Says chunks text) :
    ∃ u, (write path chunks).run w = (.ok (), { w with files := u }) ∧
      w.files.Moved u d q (.text text) := by
  obtain ⟨r, u, hrun, hwritten⟩ := written_write path chunks w
  refine ⟨u, ?_⟩
  cases hwritten with
  | refused fault hfault =>
    have hdir := hfault d hslot.draft
    rw [hslot.draft_free] at hdir
    cases hdir
  | stopped fault hfault =>
    rcases hfault with hsilent | hfault
    · exact absurd hsaid (hsilent text)
    · have hdir := hfault q hslot.target
      rw [hslot.target_free] at hdir
      cases hdir
  | kept _ hdir =>
    rw [hslot.hasDir] at hdir
    cases hdir
  | placed hsaid' hdraft _ hlanding _ hmoved =>
    rw [landing_draftName, hslot.hasDir, if_neg Bool.false_ne_true, hslot.target] at hlanding
    obtain rfl := congrArg Spot.place (Except.ok.inj hlanding)
    obtain rfl := congrArg Spot.place (Except.ok.inj (hslot.draft.symm.trans hdraft))
    obtain rfl := hsaid.unique hsaid'
    exact ⟨hrun, hmoved⟩

theorem Slot.mono (hslot : Slot t path d q) (hdirs : t.dirs ⊆ v.dirs)
    (hpath : v.hasDir path = false) (hdraft : v.hasDir (draftName path) = false) :
    Slot v path d q where
  draft := locate_mono hdirs hslot.draft
  target := locate_mono hdirs hslot.target
  draft_free := isDir_eq_false_of_hasDir (locate_mono hdirs hslot.draft) hdraft
  target_free := isDir_eq_false_of_hasDir (locate_mono hdirs hslot.target) hpath

theorem hasDir_eq_false_of_dirs (hdirs : t.dirs ⊆ v.dirs) (h : v.hasDir path = false) :
    t.hasDir path = false := by
  rw [Bool.eq_false_iff]
  intro hdir
  rw [hasDir_mono hdirs hdir] at h
  cases h

theorem Written.exists_slot (h : Written t path chunks (.ok ()) u) (hpath : t.hasDir path = false) :
    ∃ d q text, Slot t path d q ∧ Says chunks text ∧ t.Moved u d q (.text text) := by
  cases h with
  | kept _ hdir =>
    rw [hpath] at hdir
    cases hdir
  | placed hsaid hd hd' hq hq' hmoved =>
    rw [landing_draftName, hpath, if_neg Bool.false_ne_true] at hq
    exact ⟨_, _, _, ⟨hd, hq, hd', hq'⟩, hsaid, hmoved⟩

theorem Written.dirs {r : Except Fault Unit} (h : Written t path chunks r u) :
    u.dirs = t.dirs := by
  cases h with
  | refused => rfl
  | stopped _ _ _ hdirs => exact hdirs
  | kept _ _ _ hdirs => exact hdirs
  | placed _ _ _ _ _ hmoved => exact hmoved.dirs

/-! ## Several files -/

/-- Writes a file at a path below a directory, which is made if it is missing. -/
def createIn (dir : String) (file : String × List Chunk) : Job Unit := do
  Job.makeDirs dir
  write file.1 file.2

theorem run_create {top below : Value} (h : directory top below = .ok dir) (name : String)
    (chunks : List Chunk) (w : Workspace) :
    (create top name chunks below).run w = (createIn dir (Path.join dir name, chunks)).run w := by
  unfold create
  rw [run_bind, h, run_lift]
  rfl

/-- What writing one file of several can do to the tree. -/
inductive Step (t : FileTree) (file : String × List Chunk) : Except Fault Unit → FileTree → Prop
  | unmade {u : FileTree} (fault : Fault) : t.Extends u → Step t file (.error fault) u
  | made {u v : FileTree} {r : Except Fault Unit} : t.Extends v →
      Written v file.1 file.2 r u → Step t file r u

theorem run_createIn (dir : String) (file : String × List Chunk) (w : Workspace) :
    ∃ r u, (createIn dir file).run w = (r, { w with files := u }) ∧ Step w.files file r u := by
  have hextends := extends_makeDirs w.files dir
  unfold createIn
  rw [run_bind, Job.run_makeDirs]
  generalize w.files.makeDirs dir = result at hextends
  obtain ⟨v, made⟩ := result
  cases made with
  | error fault => exact ⟨_, _, rfl, .unmade fault hextends⟩
  | ok _ =>
    obtain ⟨r, u, hrun, hwritten⟩ := written_write file.1 file.2 { w with files := v }
    exact ⟨r, u, hrun, .made hextends hwritten⟩

/-- The files were written one after the other. -/
inductive Filled : FileTree → List (String × List Chunk) → FileTree → Prop
  | nil {t : FileTree} : Filled t [] t
  | cons {t u v x : FileTree} {file : String × List Chunk} {rest : List (String × List Chunk)} :
      t.Extends v → Written v file.1 file.2 (.ok ()) u → Filled u rest x →
      Filled t (file :: rest) x

theorem run_forM_createIn (dir : String) (files : List (String × List Chunk)) (w : Workspace) :
    ∃ r u, (files.forM (createIn dir)).run w = (r, { w with files := u }) ∧
      (r = .ok () ∧ Filled w.files files u ∨
        ∃ fault done next rest v, r = .error fault ∧ files = done ++ next :: rest ∧
          Filled w.files done v ∧ Step v next (.error fault) u) := by
  induction files generalizing w with
  | nil => exact ⟨_, w.files, rfl, .inl ⟨rfl, .nil⟩⟩
  | cons file files ih =>
    obtain ⟨r, u, hrun, hstep⟩ := run_createIn dir file w
    rw [forM_eq_forM, forM_cons, run_bind, hrun]
    cases r with
    | error fault =>
      exact ⟨_, _, rfl, .inr ⟨fault, [], file, files, w.files, rfl, rfl, .nil, hstep⟩⟩
    | ok _ =>
      cases hstep with
      | made hextends hwritten =>
        obtain ⟨r, x, hrest, hcases⟩ := ih { w with files := u }
        refine ⟨r, x, hrest, ?_⟩
        rcases hcases with ⟨hok, hfilled⟩ | ⟨fault, done, next, rest, v, hr, hfiles, hfilled, hstep⟩
        · exact .inl ⟨hok, .cons hextends hwritten hfilled⟩
        · exact .inr ⟨fault, file :: done, next, rest, v, hr, congrArg (file :: ·) hfiles,
            .cons hextends hwritten hfilled, hstep⟩

theorem Filled.dirs (h : Filled t files u) : t.dirs ⊆ u.dirs := by
  induction h with
  | nil => exact List.Subset.refl _
  | cons hextends hwritten _ ih =>
    rw [hwritten.dirs] at ih
    exact List.Subset.trans hextends.dirs ih

theorem Filled.append_iff {done more : List (String × List Chunk)} :
    Filled t (done ++ more) u ↔ ∃ v, Filled t done v ∧ Filled v more u := by
  induction done generalizing t with
  | nil =>
    constructor
    · exact fun h => ⟨t, .nil, h⟩
    · rintro ⟨v, hnil, h⟩
      cases hnil
      exact h
  | cons file done ih =>
    constructor
    · intro h
      cases h with
      | cons hextends hwritten hrest =>
        obtain ⟨v, hdone, hmore⟩ := ih.mp hrest
        exact ⟨v, .cons hextends hwritten hdone, hmore⟩
    · rintro ⟨v, hdone, hmore⟩
      cases hdone with
      | cons hextends hwritten hrest =>
        exact .cons hextends hwritten (ih.mpr ⟨v, hrest, hmore⟩)

/-! ## The same files once more -/

structure Placement where
  draft : Place
  target : Place
  text : String

/-- What is at a place when a file took its place, and `old` was there before. -/
def Placement.at (o : Placement) (p : Place) (old : Option Content) : Option Content :=
  if p = o.target then some (.text o.text) else if p = o.draft then none else old

/-- What is at a place when several files took theirs, one after the other. -/
def contentAfter (placements : List Placement) (p : Place) (old : Option Content) :
    Option Content :=
  placements.foldl (fun content o => o.at p content) old

variable {placements : List Placement}

theorem contentAfter_cases (placements : List Placement) (p : Place) :
    (∀ old, contentAfter placements p old = old) ∨
      ∃ new, ∀ old, contentAfter placements p old = new := by
  induction placements with
  | nil => exact .inl fun _ => rfl
  | cons o placements ih =>
    have hcons : ∀ old, contentAfter (o :: placements) p old =
        contentAfter placements p (o.at p old) := fun _ => rfl
    have hhead : (∀ old, o.at p old = old) ∨ ∃ new, ∀ old, o.at p old = new := by
      by_cases htarget : p = o.target
      · exact .inr ⟨_, fun old => if_pos htarget⟩
      by_cases hdraft : p = o.draft
      · exact .inr ⟨none, fun old => by rw [Placement.at, if_neg htarget, if_pos hdraft]⟩
      · exact .inl fun old => by rw [Placement.at, if_neg htarget, if_neg hdraft]
    rcases ih with hsame | ⟨new, hnew⟩
    · rcases hhead with hkeep | ⟨new, hset⟩
      · exact .inl fun old => by rw [hcons, hsame, hkeep]
      · exact .inr ⟨new, fun old => by rw [hcons, hsame, hset]⟩
    · exact .inr ⟨new, fun old => by rw [hcons, hnew]⟩

theorem contentAfter_contentAfter (placements : List Placement) (p : Place)
    (old : Option Content) :
    contentAfter placements p (contentAfter placements p old) = contentAfter placements p old := by
  rcases contentAfter_cases placements p with hsame | ⟨new, hnew⟩
  · rw [hsame]
  · rw [hnew, hnew]

theorem contentAfter_of_ne {p : Place} (h : ∀ o ∈ placements, p ≠ o.target ∧ p ≠ o.draft)
    (old : Option Content) : contentAfter placements p old = old := by
  induction placements generalizing old with
  | nil => rfl
  | cons o placements ih =>
    rw [forall_mem_cons] at h
    have hhead : o.at p old = old := by
      rw [Placement.at, if_neg h.1.1, if_neg h.1.2]
    have hcons : contentAfter (o :: placements) p old =
        contentAfter placements p (o.at p old) := rfl
    rw [hcons, hhead, ih h.2]

/-- A file has the place and the text of a placement. -/
structure Takes (t : FileTree) (file : String × List Chunk) (o : Placement) : Prop where
  slot : Slot t file.1 o.draft o.target
  text : Says file.2 o.text

theorem exists_of_mem_placements (h : List.Forall₂ (Takes t) files placements) {o : Placement}
    (ho : o ∈ placements) : ∃ file ∈ files, Takes t file o := by
  induction h with
  | nil => cases ho
  | cons htakes _ ih =>
    rcases mem_cons.mp ho with rfl | ho
    · exact ⟨_, mem_cons_self, htakes⟩
    · obtain ⟨file, hfile, htakes⟩ := ih ho
      exact ⟨file, mem_cons_of_mem _ hfile, htakes⟩

theorem Filled.exists_placements (h : Filled t files u) (hdirs : u.dirs ⊆ v.dirs)
    (hfree : ∀ file ∈ files, v.hasDir file.1 = false ∧ v.hasDir (draftName file.1) = false) :
    ∃ placements, List.Forall₂ (Takes v) files placements ∧
      ∀ p, u.content? p = contentAfter placements p (t.content? p) := by
  induction h with
  | nil => exact ⟨[], .nil, fun p => rfl⟩
  | cons hextends hwritten hrest ih =>
    rw [forall_mem_cons] at hfree
    obtain ⟨placements, htakes, hcontent⟩ := ih hdirs hfree.2
    have hbefore := List.Subset.trans (hwritten.dirs ▸ hrest.dirs) hdirs
    obtain ⟨d, q, text, hslot, hsaid, hmoved⟩ :=
      hwritten.exists_slot (hasDir_eq_false_of_dirs hbefore hfree.1.1)
    have hslot' := hslot.mono hbefore hfree.1.1 hfree.1.2
    refine ⟨⟨d, q, text⟩ :: placements, .cons ⟨hslot', hsaid⟩ htakes, fun p => ?_⟩
    rw [hcontent, hmoved.content?, hextends.content?]
    rfl

theorem run_forM_of_takes (h : List.Forall₂ (Takes t) files placements)
    (hdir : t.hasDir dir = true) {w : Workspace} (hw : w.files.dirs = t.dirs) :
    ∃ u, (files.forM (createIn dir)).run w = (.ok (), { w with files := u }) ∧
      u.dirs = t.dirs ∧ ∀ p, u.content? p = contentAfter placements p (w.files.content? p) := by
  induction h generalizing w with
  | nil => exact ⟨w.files, rfl, hw, fun p => rfl⟩
  | cons htakes _ ih =>
    have hmade := Job.run_makeDirs_of_hasDir ((hasDir_congr hw).trans hdir)
    obtain ⟨u, hrun, hmoved⟩ := run_write_of_slot (htakes.slot.congr hw.symm) htakes.text
    have hu := hmoved.dirs.trans hw
    obtain ⟨x, hrest, hx, hcontent⟩ := ih (w := { w with files := u }) hu
    refine ⟨x, ?_, hx, fun p => ?_⟩
    · rw [forM_eq_forM, forM_cons, run_bind, createIn, run_bind, hmade]
      dsimp only
      rw [hrun]
      exact hrest
    · rw [hcontent, hmoved.content?]
      rfl

end Output

end MockGen
