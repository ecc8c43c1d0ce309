import MockGen.Proofs.Files.Directories
import MockGen.Proofs.Mock.Chunks

/-!
# Writing a file

Its text is written to a draft, which then takes the place of the file.  What happens to the tree is
said once; everything about failed and repeated work follows from that.
-/

namespace MockGen

open List Outcome ReadM Path
open Bool hiding not_or
open String hiding append_assoc

namespace FileTree

variable {t u : FileTree} {d q : Place} {c : Content} {source target path : String}

theorem isDir_eq_false_of_hasDir {spot : Spot} (hspot : t.locate path = .ok spot)
    (h : t.hasDir path = false) : t.isDir spot.place = false := by
  rw [eq_false_iff]
  intro hdir
  rw [hasDir_eq_true.mpr ⟨spot, hspot, hdir⟩] at h
  cases h

/-! ## Moving a file -/

/-- The tree `u` is the tree `t` after a file with content `c` went from `d` to `q`. -/
structure Moved (t u : FileTree) (d q : Place) (c : Content) : Prop where
  dirs : u.dirs = t.dirs
  content? : ∀ p, u.content? p = if p = q then some c else if p = d then none else t.content? p

theorem Moved.of_put (h : (t.put d c).Moved u d q c) : t.Moved u d q c := by
  refine ⟨h.dirs.trans (dirs_put ..), fun p => ?_⟩
  rw [h.content?, content?_put]
  by_cases hp : p = d <;> simp [hp]

theorem rename_eq_ok (hsource : t.locate source = .ok { place := d })
    (hc : t.content? d = some c) :
    t.rename source target = .ok u ↔ ∃ q, t.locate target = .ok { place := q } ∧
      t.isDir q = false ∧ u = if d = q then t else (t.drop d).put q c := by
  have hwell : isMalformed source = false := (locate_eq_ok.mp hsource).1.wellFormed
  unfold rename
  by_cases hmalformed : isMalformed target = true
  · rw [if_pos (by simp [hmalformed])]
    refine iff_of_false (fun h => by cases h) ?_
    rintro ⟨q, hq, -⟩
    have hfits := (locate_eq_ok.mp hq).1.wellFormed
    simp [hfits] at hmalformed
  rw [if_neg (by simp [hwell, hmalformed])]
  simp only
  rw [hsource, bind_eq_ok]
  simp only [Except.ok.injEq, exists_eq_left', bind_eq_ok]
  constructor
  · rintro ⟨⟨q, isDotted, isSlashed⟩, hnew, h⟩
    cases isDotted with
    | true => cases h
    | false =>
      simp only [Bool.or_self, false_eq_true, if_false, hc] at h
      cases isSlashed with
      | true => cases h
      | false =>
        simp only [Bool.or_self, false_eq_true, if_false] at h
        by_cases hdir : t.isDir q = true
        · rw [if_pos hdir] at h
          cases h
        · rw [if_neg hdir] at h
          refine ⟨q, hnew, by simpa using hdir, ?_⟩
          by_cases hdq : d = q <;> simp only [beq_iff_eq, hdq, if_true, if_false] at h ⊢ <;>
            cases h <;> rfl
  · rintro ⟨q, hq, hdir, rfl⟩
    refine ⟨_, hq, ?_⟩
    simp only [Bool.or_self, false_eq_true, if_false, hc, hdir, beq_iff_eq]
    split <;> rfl

theorem moved_of_rename (hsource : t.locate source = .ok { place := d })
    (hc : t.content? d = some c) (h : t.rename source target = .ok u) :
    ∃ q, t.locate target = .ok { place := q } ∧ t.isDir q = false ∧ t.Moved u d q c := by
  obtain ⟨q, hq, hdir, rfl⟩ := (rename_eq_ok hsource hc).mp h
  refine ⟨q, hq, hdir, ?_⟩
  by_cases hdq : d = q
  · subst hdq
    rw [if_pos rfl]
    refine ⟨rfl, fun p => ?_⟩
    by_cases hp : p = d <;> simp [hp, hc]
  · rw [if_neg hdq]
    refine ⟨by rw [dirs_put, dirs_drop], fun p => ?_⟩
    rw [content?_put, content?_drop]

theorem rename_of_copyAway (hsource : t.locate source = .ok { place := d })
    (hc : t.content? d = some c) (hdir : t.hasDir target = false)
    (h : t.copyAway source target = .ok u) : ∃ v, t.rename source target = .ok v := by
  unfold copyAway at h
  rw [hdir] at h
  simp only [false_eq_true, if_false] at h
  split at h
  · cases h
  obtain ⟨e, -, h⟩ := bind_eq_ok.mp h
  split at h
  · cases h
  obtain ⟨copied, hcopied, -⟩ := bind_eq_ok.mp h
  unfold write at hcopied
  obtain ⟨spot, hspot, hcopied⟩ := bind_eq_ok.mp hcopied
  split at hcopied
  · cases hcopied
  · rename_i hplain
    obtain ⟨place, isDotted, isSlashed⟩ := spot
    simp only [or_eq_true, not_or, not_eq_true] at hplain
    obtain ⟨⟨rfl, rfl⟩, hfree⟩ := hplain
    exact ⟨_, (rename_eq_ok hsource hc).mpr ⟨place, hspot, hfree, rfl⟩⟩

/-- The path at which a file ends up that is moved: below the target where that is a directory. -/
def landing (t : FileTree) (source target : String) : String :=
  if t.hasDir target then
    Path.join target (Path.fileName (String.ofList (Text.dropTrailing '/' source.toList)))
  else target

theorem move_file (hsource : t.locate source = .ok { place := d })
    (hc : t.content? d = some c) (hd : t.isDir d = false) (target : String) :
    (∃ fault, t.move source target = (t, .error fault) ∧
        ∀ q, t.locate target = .ok { place := q } → t.isDir q = true) ∨
      ∃ u q, t.move source target = (u, .ok ()) ∧
        t.locate (t.landing source target) = .ok { place := q } ∧ t.isDir q = false ∧
        t.Moved u d q c := by
  have hwell : isMalformed source = false := (locate_eq_ok.mp hsource).1.wellFormed
  have hnoDir : t.hasDir source = false := by
    rw [eq_false_iff]
    intro h
    obtain ⟨spot, hspot, hdir⟩ := hasDir_eq_true.mp h
    rw [hsource] at hspot
    cases hspot
    simp [hd] at hdir
  have hdiffer : (t.hasDir target && t.areSame source target) = false := by
    rw [and_eq_false_imp]
    intro hdir
    obtain ⟨spot, hspot, hdir⟩ := hasDir_eq_true.mp hdir
    have hfind : t.find source = .ok d := find_eq_ok.mpr
      ⟨_, hsource, rfl, .inr ⟨isFile_iff.mpr ⟨c, hc⟩, rfl⟩⟩
    rw [areSame, hfind, find_eq_ok.mpr ⟨spot, hspot, rfl, .inl hdir⟩]
    refine beq_eq_false_iff_ne.mpr ?_
    rintro rfl
    simp [hd] at hdir
  have hgoal : (if t.hasDir target = true then
      Path.join target (Path.fileName (String.ofList (Text.dropTrailing '/' source.toList)))
      else target) = t.landing source target := rfl
  unfold move
  simp only [hdiffer, hwell, hnoDir, Bool.not_false, Bool.and_true, false_eq_true, if_false]
  rw [hgoal]
  -- where the goal is a directory itself, nothing was to be done before
  by_cases htaken : (t.hasDir target && t.exists? (t.landing source target)) = true
  · rw [if_pos htaken]
    obtain ⟨spot, hspot, hdir⟩ := hasDir_eq_true.mp (and_eq_true_iff.mp htaken).1
    refine .inl ⟨_, rfl, fun q hq => ?_⟩
    rw [hspot] at hq
    obtain rfl := Except.ok.inj hq
    exact hdir
  rw [if_neg htaken]
  have hfree : t.hasDir (t.landing source target) = false := by
    rw [eq_false_iff]
    intro hdir
    refine htaken ?_
    rw [and_eq_true]
    refine ⟨?_, exists?_of_hasDir hdir⟩
    by_contra htarget
    rw [landing, if_neg htarget] at hdir
    exact htarget hdir
  cases hrename : t.rename source (t.landing source target) with
  | ok moved =>
    obtain ⟨q, hq, hdir, hmoved⟩ := moved_of_rename hsource hc hrename
    exact .inr ⟨moved, q, rfl, hq, hdir, hmoved⟩
  | error fault =>
    left
    have hgone : ∀ q, t.locate target = .ok { place := q } → t.isDir q = true := by
      intro q hq
      by_contra hdir
      have hfree := eq_false_iff.mpr hdir
      have htarget : t.hasDir target = false := by
        rw [eq_false_iff]
        intro h
        obtain ⟨spot, hspot, h⟩ := hasDir_eq_true.mp h
        rw [hq] at hspot
        obtain rfl := Except.ok.inj hspot
        exact hdir h
      rw [landing, if_neg (by simp [htarget]),
        (rename_eq_ok hsource hc).mpr ⟨q, hq, hfree, rfl⟩] at hrename
      cases hrename
    cases hcopy : t.copyAway source (t.landing source target) with
    | ok moved =>
      obtain ⟨v, hv⟩ := rename_of_copyAway hsource hc hfree hcopy
      rw [hrename] at hv
      cases hv
    | error fault' =>
      cases fault <;> exact ⟨_, rfl, hgone⟩

end FileTree

/-! ## Writing a file -/

namespace Output

open FileTree

variable {t : FileTree} {path text : String} {chunks : List Chunk} {d q : Place} {w : Workspace}

theorem names_draftName (path : String) :
    Path.names (draftName path) = Path.names (Path.parent path) ++
      [Path.fileName path ++ ".new"] := by
  have hslash : '/' ∉ (".new" : String).toList := by decide
  have hname : '/' ∉ (Path.fileName path ++ ".new").toList := by
    rw [toList_append, mem_append, not_or]
    exact ⟨slash_notMem_fileName path, hslash⟩
  have hne : Path.fileName path ++ ".new" ≠ "" := by simp
  rw [draftName, ← names_parent, parent_append hslash, fileName_append hslash,
    names_of_notMem hname hne]

theorem append_new_ne {name : String} : name ++ ".new" ≠ "." ∧ name ++ ".new" ≠ ".." := by
  have hlength : ∀ {s : String}, name ++ ".new" = s → 4 ≤ s.length := by
    rintro s rfl
    rw [String.length_append]
    exact Nat.le_add_left 4 _
  constructor <;> intro h <;> exact absurd (hlength h) (by decide)

theorem exists_of_locate_draft {spot : Spot} (h : t.locate (draftName path) = .ok spot) :
    ∃ dir, t.descend (start path) (Path.names (Path.parent path)) = .ok dir ∧
      (Path.fileName path ++ ".new").utf8ByteSize ≤ longestStep ∧
      spot = { place := dir ++ [Path.fileName path ++ ".new"] } := by
  obtain ⟨hfits, hlead⟩ := locate_eq_ok.mp h
  have hlast : ((draftName path).toList.getLast? == some '/') = false := by
    rw [draftName, toList_append, getLast?_append_of_ne_nil _ (by decide)]
    decide
  rw [names_draftName, hlast] at hlead
  obtain ⟨dir, hdir, hshort, hspot⟩ := hlead.of_concat append_new_ne.1 append_new_ne.2
  have hroot : Path.isRoot (draftName path) = Path.isRoot path := by
    unfold Path.isRoot draftName
    cases hpath : path.toList with
    | nil => simp [hpath]
    | cons c rest => simp [hpath]
  have hstart : start (draftName path) = start path := by
    unfold start
    rw [hroot]
  exact ⟨dir, hstart ▸ hdir, hshort, hspot⟩

theorem hasDir_of_locate_draft {dir name : String} {spot : Spot} (hdir : dir ≠ "")
    (hname : Path.IsRelative name) (hne : name ≠ "") (hlast : name.toList.getLast? ≠ some '/')
    (h : t.locate (draftName (Path.join dir name)) = .ok spot) : t.hasDir dir = true := by
  have hlist : name.toList ≠ [] := by simpa using hne
  have hjoin : (Path.join dir name).toList.getLast? ≠ some '/' := by
    rwa [join_eq_append hname, toList_append, getLast?_append_of_ne_nil _ hlist]
  have hjoinne : Path.join dir name ≠ "" := by
    rw [join_eq_append hname]
    simp [hne]
  have hnames : Path.names (Path.parent (Path.join dir name)) =
      Path.names dir ++ Path.names (Path.parent name) := by
    have hboth := names_parent (Path.join dir name)
    rw [names_join hname, ← names_parent name, ← append_assoc,
      names_of_notMem (slash_notMem_fileName _) (fileName_ne_empty hjoinne hjoin),
      names_of_notMem (slash_notMem_fileName _)
        (fileName_ne_empty hne hlast)] at hboth
    exact (append_singleton_inj.mp hboth).1
  have hbelow := join_isPrefix hname dir
  have hdraft : dir.toList <+: (draftName (Path.join dir name)).toList := by
    rw [draftName, toList_append]
    exact hbelow.trans (prefix_append _ _)
  obtain ⟨place, hplace, -⟩ := exists_of_locate_draft h
  rw [hnames, ← start_eq_of_isPrefix hdir hbelow] at hplace
  obtain ⟨p, hp, -⟩ := descend_append.mp hplace
  exact hasDir_iff_descend.mpr ⟨(locate_eq_ok.mp h).1.of_isPrefix hdir hdraft, p, hp⟩

theorem draft_ne (hpath : t.locate path = .ok { place := q })
    (hdraft : t.locate (draftName path) = .ok { place := d }) : d ≠ q := by
  obtain ⟨hfits, hlead⟩ := locate_eq_ok.mp hpath
  obtain ⟨hslashed, front, last, hnames, hdot, hup⟩ := hlead.exists_last
  have hfile : Path.fileName path ≠ "" :=
    fileName_ne_empty hfits.nonempty (beq_eq_false_iff_ne.mp hslashed)
  rw [← names_parent, names_of_notMem (slash_notMem_fileName path) hfile]
    at hnames hlead
  obtain ⟨-, rfl⟩ := append_singleton_inj.mp hnames
  obtain ⟨dir, hdir, -, hspot⟩ := hlead.of_concat hdot hup
  obtain ⟨dir', hdir', -, hspot'⟩ := exists_of_locate_draft hdraft
  obtain rfl : dir = dir' := Except.ok.inj (hdir.symm.trans hdir')
  have hq : q = dir ++ [Path.fileName path] := congrArg Spot.place hspot
  have hd : d = dir ++ [Path.fileName path ++ ".new"] := congrArg Spot.place hspot'
  intro heq
  have hname := (append_singleton_inj.mp (hd.symm.trans (heq.trans hq))).2
  have hlength := congrArg String.length hname
  rw [String.length_append] at hlength
  have hnew : (".new" : String).length = 4 := rfl
  omega

/-- A path and its draft lead to places where files can be. -/
structure Slot (t : FileTree) (path : String) (d q : Place) : Prop where
  draft : t.locate (draftName path) = .ok { place := d }
  target : t.locate path = .ok { place := q }
  draft_free : t.isDir d = false
  target_free : t.isDir q = false

theorem exists_slot (hne : path ≠ "") (hdraft : t.locate (draftName path) = .ok { place := d })
    (hd : t.isDir d = false) (hpath : t.hasDir path = false) : ∃ q, Slot t path d q := by
  obtain ⟨dir, hdir, hshort, -⟩ := exists_of_locate_draft hdraft
  have hfits : Fits path := by
    refine (locate_eq_ok.mp hdraft).1.of_isPrefix hne ?_
    rw [draftName, toList_append]
    exact prefix_append _ _
  have hnames := names_parent path
  -- Where the last step is no name, the path leads to the directory of the draft or around it.
  have hopen : ∀ p, t.descend dir (Path.names (Path.fileName path)) ≠ .ok p := by
    intro p hp
    rw [hasDir_iff_descend.mpr ⟨hfits, p, hnames ▸ descend_append.mpr ⟨dir, hdir, hp⟩⟩] at hpath
    cases hpath
  have hname : Path.fileName path ≠ "" := by
    intro hempty
    rw [hempty, names_empty] at hopen
    exact hopen dir rfl
  rw [names_of_notMem (slash_notMem_fileName path) hname] at hnames hopen
  have hdots : Path.fileName path ≠ "." ∧ Path.fileName path ≠ ".." := by
    constructor <;> intro hdot <;> simp [hdot, descend] at hopen
  have hslash : (path.toList.getLast? == some '/') = false := by
    rw [beq_eq_false_iff_ne, toList_eq_append_fileName path,
      getLast?_append_of_ne_nil _ (by simpa using hname)]
    exact fun hlast => slash_notMem_fileName path (mem_of_getLast? hlast)
  have hshort' : (Path.fileName path).utf8ByteSize ≤ longestStep := by
    rw [utf8ByteSize_append] at hshort
    omega
  have htarget : t.locate path = .ok { place := dir ++ [Path.fileName path] } := by
    rw [locate_eq_ok, hslash, ← hnames]
    exact ⟨hfits, .named hdir hdots.1 hdots.2 hshort'⟩
  exact ⟨_, hdraft, htarget, hd, isDir_eq_false_of_hasDir htarget hpath⟩

theorem isUnchanged_put (hslot : Slot t path d q) (c : Content) :
    isUnchanged (t.put d c) path = true ↔ t.content? q = some c := by
  have hdirs : (t.put d c).dirs = t.dirs := dirs_put ..
  have hne : q ≠ d := (draft_ne hslot.target hslot.draft).symm
  have hdraft : ∀ e, (t.put d c).get (draftName path) = .ok e ↔ c = e := fun e => by
    rw [get_eq_ok_of_locate ((locate_congr hdirs).mpr hslot.draft), content?_put, if_pos rfl,
      Option.some_inj]
  have hpath : ∀ e, (t.put d c).get path = .ok e ↔ t.content? q = some e := fun e => by
    rw [get_eq_ok_of_locate ((locate_congr hdirs).mpr hslot.target), content?_put, if_neg hne]
  rw [isUnchanged, and_eq_true, sameFiles_eq_true]
  simp only [hdraft, hpath, exists_eq_right']
  refine and_iff_right_of_imp fun hc => ?_
  obtain ⟨p, hp, -⟩ := get_eq_ok.mp ((hpath c).mpr hc)
  exact exists?_eq_true.mpr ⟨p, hp⟩

theorem landing_draftName (t : FileTree) (path : String) :
    t.landing (draftName path) path =
      if t.hasDir path then Path.join path (Path.fileName (draftName path)) else path := by
  have htrim : Text.dropTrailing '/' (draftName path).toList = (draftName path).toList := by
    rw [draftName, toList_append]
    simp [Text.dropTrailing]
  rw [landing, htrim, ofList_toList]

/-- What writing a file can do to the tree. -/
inductive Written (t : FileTree) (path : String) (chunks : List Chunk) :
    Except Fault Unit → FileTree → Prop
  | refused (fault : Fault) :
      (∀ d, t.locate (draftName path) = .ok { place := d } → t.isDir d = true) →
      Written t path chunks (.error fault) t
  | stopped {u : FileTree} {d : Place} (fault : Fault) :
      ((∀ text, ¬Says chunks text) ∨
        ∀ q, t.locate path = .ok { place := q } → t.isDir q = true) →
      t.locate (draftName path) = .ok { place := d } → u.dirs = t.dirs →
      (∀ p, p ≠ d → u.content? p = t.content? p) → Written t path chunks (.error fault) u
  | kept {u : FileTree} {text : String} {d : Place} : Says chunks text → t.hasDir path = true →
      t.locate (draftName path) = .ok { place := d } → u.dirs = t.dirs →
      (∀ p, p ≠ d → u.content? p = t.content? p) → Written t path chunks (.ok ()) u
  | placed {u : FileTree} {text : String} {d q : Place} : Says chunks text →
      t.locate (draftName path) = .ok { place := d } → t.isDir d = false →
      t.locate (t.landing (draftName path) path) = .ok { place := q } → t.isDir q = false →
      t.Moved u d q (.text text) → Written t path chunks (.ok ()) u

theorem run_settle (path : String) (w : Workspace) :
    (settle path).run w =
      if isUnchanged w.files path then (Job.update fun t => t.remove (draftName path)).run w
      else (Job.attempt fun t => t.move (draftName path) path).run w := by
  have hstep : (settle path).run w =
      ExceptT.run (if isUnchanged w.files path then Job.update fun t => t.remove (draftName path)
      else Job.attempt fun t => t.move (draftName path) path) w := rfl
  rw [hstep]
  split <;> rfl

theorem remove_draft (hdraft : t.locate (draftName path) = .ok { place := d })
    (hd : t.isDir d = false) (hfile : t.isFile d = true) :
    t.remove (draftName path) = .ok (t.drop d) := by
  unfold remove
  rw [hdraft]
  simp only [bind, Except.bind, Bool.or_self, hd, hfile, false_eq_true, if_false,
    Bool.not_true]
  rfl

theorem moved_drop_draft {c : Content} (hslot : Slot t path d q) (hsame : t.content? q = some c) :
    t.Moved ((t.put d c).drop d) d q c := by
  have hne : q ≠ d := (draft_ne hslot.target hslot.draft).symm
  refine ⟨dirs_put .., fun p => ?_⟩
  rw [content?_drop, content?_put]
  by_cases hp : p = q
  · subst hp
    simp [hne, hsame]
  · simp only [hp, if_false]
    split <;> rfl

theorem written_settle (hsaid : Says chunks text)
    (hdraft : t.locate (draftName path) = .ok { place := d }) (hd : t.isDir d = false)
    (hw : w.files = t.put d (.text text)) :
    ∃ r u, (settle path).run w = (r, { w with files := u }) ∧ Written t path chunks r u := by
  have hdirs : (t.put d (.text text)).dirs = t.dirs := dirs_put ..
  have hcontent : (t.put d (.text text)).content? d = some (.text text) := by
    rw [content?_put, if_pos rfl]
  have hdraft' := (locate_congr hdirs).mpr hdraft
  have hd' := (isDir_congr hdirs d).trans hd
  rw [run_settle, hw]
  split
  · rename_i hsame
    refine ⟨.ok (), (t.put d (.text text)).drop d, ?_, ?_⟩
    · rw [Job.run_update, hw, remove_draft hdraft' hd' (isFile_iff.mpr ⟨_, hcontent⟩)]
    by_cases hdir : t.hasDir path = true
    · refine .kept hsaid hdir hdraft hdirs fun p hp => ?_
      rw [content?_drop, content?_put, if_neg hp, if_neg hp]
    · have hdir := eq_false_iff.mpr hdir
      have hne : path ≠ "" := by
        obtain ⟨p, hp⟩ := exists?_eq_true.mp (and_eq_true_iff.mp hsame).1
        obtain ⟨spot, hspot, -⟩ := find_eq_ok.mp hp
        exact (locate_eq_ok.mp hspot).1.nonempty
      obtain ⟨q, hslot⟩ := exists_slot hne hdraft hd hdir
      refine .placed hsaid hdraft hd ?_ hslot.target_free
        (moved_drop_draft hslot ((isUnchanged_put hslot _).mp hsame))
      rw [landing_draftName, hdir]
      exact hslot.target
  · rw [Job.run_attempt, hw]
    rcases move_file hdraft' hcontent hd' path with
      ⟨fault, hmove, hgone⟩ | ⟨u, q, hmove, hq, hfree, hmoved⟩
    · refine ⟨.error fault, _, by rw [hmove], .stopped fault (.inr fun q hq => ?_) hdraft hdirs
        fun p hp => ?_⟩
      · rw [← isDir_congr hdirs]
        exact hgone q ((locate_congr hdirs).mpr hq)
      · rw [content?_put, if_neg hp]
    · refine ⟨.ok (), u, by rw [hmove], .placed hsaid hdraft hd ?_
        ((isDir_congr hdirs q).symm.trans hfree) hmoved.of_put⟩
      rw [landing_draftName, ← hasDir_congr hdirs, ← landing_draftName]
      exact (locate_congr hdirs).mp hq

theorem run_write_draft (hdraft : w.files.locate (draftName path) = .ok { place := d })
    (hd : w.files.isDir d = false) : (write path chunks).run w =
      ((collect "" chunks).2 >>= fun _ => settle path : Job Unit).run
        { w with files := w.files.put d (.text (collect "" chunks).1) } := by
  have hrun : (write path chunks).run w =
      ((Job.update fun t => t.write (draftName path) (.text (collect "" chunks).1)) >>= fun _ =>
        ((collect "" chunks).2 >>= fun _ => settle path : Job Unit)).run w := rfl
  have hwrite : w.files.write (draftName path) (.text (collect "" chunks).1) =
      .ok (w.files.put d (.text (collect "" chunks).1)) := by
    unfold FileTree.write
    rw [hdraft]
    simp only [bind, Except.bind, hd, Bool.or_self, false_eq_true, if_false]
    rfl
  rw [hrun, run_bind, Job.run_update, hwrite]

theorem run_write_raised {fault : Fault}
    (hdraft : w.files.locate (draftName path) = .ok { place := d }) (hd : w.files.isDir d = false)
    (h : collect "" chunks = (text, .error fault)) :
    (write path chunks).run w = (.error fault, { w with files := w.files.put d (.text text) }) := by
  rw [run_write_draft hdraft hd, h, run_bind, run_lift]

theorem run_write_returned (hdraft : w.files.locate (draftName path) = .ok { place := d })
    (hd : w.files.isDir d = false) (h : Says chunks text) :
    (write path chunks).run w =
      (settle path).run { w with files := w.files.put d (.text text) } := by
  rw [run_write_draft hdraft hd, h, run_bind, run_lift]

theorem written_write (path : String) (chunks : List Chunk) (w : Workspace) :
    ∃ r u, (write path chunks).run w = (r, { w with files := u }) ∧
      Written w.files path chunks r u := by
  have hrefused : ∀ fault,
      w.files.write (draftName path) (.text (collect "" chunks).1) = .error fault →
      (write path chunks).run w = (.error fault, w) := fun fault h => by
    unfold write
    rw [run_bind, Job.run_update, h]
  cases hspot : w.files.locate (draftName path) with
  | error fault =>
    refine ⟨_, _, hrefused fault ?_, .refused fault fun d hd => ?_⟩
    · unfold FileTree.write
      rw [hspot]
      rfl
    · rw [hspot] at hd
      cases hd
  | ok spot =>
    obtain ⟨dir, -, -, rfl⟩ := exists_of_locate_draft hspot
    generalize dir ++ [Path.fileName path ++ ".new"] = d at hspot
    by_cases hdir : w.files.isDir d = true
    · refine ⟨_, _, hrefused .isDirectory ?_, .refused .isDirectory fun e he => ?_⟩
      · unfold FileTree.write
        rw [hspot]
        simp only [bind, Except.bind, hdir, Bool.or_true, if_true]
        rfl
      · rw [hspot] at he
        obtain rfl := congrArg Spot.place (Except.ok.inj he)
        exact hdir
    have hd := eq_false_iff.mpr hdir
    rcases hcollect : collect "" chunks with ⟨text, fault | ⟨⟩⟩
    · refine ⟨_, _, run_write_raised hspot hd hcollect, .stopped fault (.inl fun u hu => ?_) hspot
        (dirs_put ..) fun p hp => ?_⟩
      · rw [Says, hcollect] at hu
        cases hu
      · rw [content?_put, if_neg hp]
    · obtain ⟨r, u, hsettle, hwritten⟩ := written_settle
        (w := { w with files := w.files.put d (.text text) }) hcollect hspot hd rfl
      exact ⟨r, u, (run_write_returned hspot hd hcollect).trans hsettle, hwritten⟩

end Output

end MockGen
