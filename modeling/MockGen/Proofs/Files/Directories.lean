import MockGen.Proofs.Files.Places

/-!
# Making directories

It touches no file and takes no directory away, and where all directories are there already it does
nothing.
-/

namespace MockGen.FileTree

open List String Path

variable {t u v : FileTree} {path outer : String}

/-- The same files with the same directories, and maybe more. -/
structure Extends (t u : FileTree) : Prop where
  files : u.files = t.files
  dirs : t.dirs ⊆ u.dirs

theorem Extends.refl (t : FileTree) : t.Extends t :=
  ⟨rfl, List.Subset.refl _⟩

theorem Extends.trans (h : t.Extends u) (h' : u.Extends v) : t.Extends v :=
  ⟨h'.files.trans h.files, List.Subset.trans h.dirs h'.dirs⟩

theorem Extends.content? (h : t.Extends u) (p : Place) : u.content? p = t.content? p := by
  unfold FileTree.content?
  rw [h.files]

theorem extends_of_makeDir (h : t.makeDir path = .ok u) : t.Extends u := by
  unfold makeDir at h
  obtain ⟨spot, -, h⟩ := Outcome.bind_eq_ok.mp h
  split at h
  · cases h
  · cases h
    exact ⟨rfl, subset_append_left _ _⟩

theorem extends_makeLastDir (anew : Bool) (t : FileTree) (path : String) :
    t.Extends (makeLastDir anew t path).1 := by
  unfold makeLastDir
  split
  · rename_i u hu
    exact extends_of_makeDir hu
  · exact .refl t

theorem extends_makeDirsIn (anew : Bool) (fuel : Nat) (t : FileTree) (path : String) :
    t.Extends (makeDirsIn anew fuel t path).1 := by
  induction fuel generalizing t path with
  | zero => exact .refl t
  | succ fuel ih =>
    unfold makeDirsIn
    rcases splitLast path with ⟨outer, last⟩
    dsimp only
    generalize (outer != "" && last != "" && !t.exists? outer) = isDeep
    have houter : t.Extends (if isDeep then makeDirsIn anew fuel t outer else (t, .ok ())).1 := by
      split
      · exact ih t outer
      · exact .refl t
    generalize (if isDeep then makeDirsIn anew fuel t outer else (t, .ok ())) = made at houter
    obtain ⟨u, made⟩ := made
    dsimp only at houter ⊢
    split
    · exact houter
    · split
      · exact houter
      · exact houter.trans (extends_makeLastDir anew u path)

theorem extends_makeDirs (t : FileTree) (path : String) : t.Extends (t.makeDirs path).1 :=
  extends_makeDirsIn ..

/-! ## Directories that are there -/

theorem start_eq_of_isPrefix (hne : outer ≠ "") (h : outer.toList <+: path.toList) :
    start outer = start path := by
  obtain ⟨rest, hrest⟩ := h
  have hlist : outer.toList ≠ [] := by simpa using hne
  unfold start Path.isRoot
  rw [← hrest, head?_append_of_ne_nil _ hlist]

theorem Fits.of_isPrefix (hfits : Fits path) (hne : outer ≠ "") (h : outer.toList <+: path.toList) :
    Fits outer := by
  obtain ⟨rest, hrest⟩ := h
  have hpath : path = outer ++ String.ofList rest := by
    apply toList_inj.mp
    rw [toList_append, toList_ofList, hrest]
  refine ⟨?_, hne, ?_⟩
  · have hwell := hfits.wellFormed
    unfold isMalformed at *
    rw [← hrest, contains_eq_any_beq, any_append, Bool.or_eq_false_iff] at hwell
    rw [contains_eq_any_beq]
    exact hwell.1
  · have hshort := hfits.short
    rw [hpath, utf8ByteSize_append] at hshort
    omega

theorem hasDir_of_isPrefix {rest : List String} (hne : outer ≠ "")
    (h : outer.toList <+: path.toList) (hnames : Path.names path = Path.names outer ++ rest)
    (hdir : t.hasDir path = true) : t.hasDir outer = true := by
  obtain ⟨hfits, p, hp⟩ := hasDir_iff_descend.mp hdir
  rw [hnames, ← start_eq_of_isPrefix hne h] at hp
  obtain ⟨q, hq, -⟩ := descend_append.mp hp
  exact hasDir_iff_descend.mpr ⟨hfits.of_isPrefix hne h, q, hq⟩

/-! ## Paths that differ in slashes -/

theorem isMalformed_append (a b : String) :
    isMalformed (a ++ b) = (isMalformed a || isMalformed b) := by
  unfold isMalformed
  rw [toList_append, contains_eq_any_beq, any_append, ← contains_eq_any_beq,
    ← contains_eq_any_beq]

/-- The second path takes the same steps as the first one; it has at most `n` bytes more. -/
structure Respelled (n : Nat) (a b : String) : Prop where
  names : Path.names b = Path.names a
  start : start b = start a
  last : b.toList.getLast? = a.toList.getLast?
  nonempty : b ≠ ""
  wellFormed : isMalformed b = isMalformed a
  size : b.utf8ByteSize ≤ a.utf8ByteSize + n

theorem Respelled.trans {m n : Nat} {a b c : String} (h : Respelled m a b) (h' : Respelled n b c) :
    Respelled (m + n) a c where
  names := h'.names.trans h.names
  start := h'.start.trans h.start
  last := h'.last.trans h.last
  nonempty := h'.nonempty
  wellFormed := h'.wellFormed.trans h.wellFormed
  size := by
    have := h.size
    have := h'.size
    omega

theorem Respelled.locate {n : Nat} {a b : String} {spot : Spot} (h : Respelled n a b)
    (hshort : b.utf8ByteSize < pathLimit) (hspot : t.locate a = .ok spot) :
    t.locate b = .ok spot := by
  obtain ⟨hfits, hlead⟩ := locate_eq_ok.mp hspot
  refine locate_eq_ok.mpr ⟨⟨h.wellFormed.trans hfits.wellFormed, h.nonempty, hshort⟩, ?_⟩
  rw [h.start, h.last, h.names]
  exact hlead

theorem respelled_join {a b : String} (ha : a ≠ "") (hb : Path.IsRelative b) (hne : b ≠ "") :
    Respelled 1 (Path.join a b) (a ++ "/" ++ b) := by
  have hlist : b.toList ≠ [] := by simpa using hne
  have hslash : isMalformed "/" = false := by decide
  have hbyte : ("/" : String).utf8ByteSize = 1 := rfl
  have hjoin : Path.join a b = a ++ b ∨ Path.join a b = a ++ "/" ++ b := by
    rw [join_eq_append hb]
    unfold Path.join
    by_cases h : (a == "" || a.toList.getLast? == some '/') = true <;> simp [h]
  have hbelow : a.toList <+: (a ++ "/" ++ b).toList := by
    rw [String.append_assoc, toList_append]
    exact prefix_append _ _
  refine ⟨?_, ?_, ?_, by simp, ?_, ?_⟩
  · rw [names_append_slash, names_join hb]
  · rw [← start_eq_of_isPrefix ha hbelow, ← start_eq_of_isPrefix ha (join_isPrefix hb a)]
  · rcases hjoin with h | h <;>
      rw [h, toList_append, getLast?_append_of_ne_nil _ hlist]
    rw [toList_append, getLast?_append_of_ne_nil _ hlist]
  · rcases hjoin with h | h <;> simp [h, isMalformed_append, hslash]
  · rcases hjoin with h | h <;> rw [h] <;>
      simp only [utf8ByteSize_append, hbyte] <;> omega

theorem Respelled.below {n : Nat} {a b c : String} (h : Respelled n b c) (ha : a ≠ "")
    (hb : b ≠ "") : Respelled n (a ++ "/" ++ b) (a ++ "/" ++ c) := by
  have hblist : b.toList ≠ [] := by simpa using hb
  have hclist : c.toList ≠ [] := by simpa using h.nonempty
  have hbelow : ∀ d : String, a.toList <+: (a ++ "/" ++ d).toList := by
    intro d
    rw [String.append_assoc, toList_append]
    exact prefix_append _ _
  refine ⟨?_, ?_, ?_, by simp, ?_, ?_⟩
  · rw [names_append_slash, names_append_slash, h.names]
  · rw [← start_eq_of_isPrefix ha (hbelow b), ← start_eq_of_isPrefix ha (hbelow c)]
  · rw [toList_append, getLast?_append_of_ne_nil _ hclist, h.last,
      toList_append, getLast?_append_of_ne_nil _ hblist]
  · rw [isMalformed_append, isMalformed_append _ b, h.wellFormed]
  · have hsize := h.size
    simp only [utf8ByteSize_append]
    omega

theorem splitLast_isPrefix (path : String) : (splitLast path).1.toList <+: path.toList := by
  unfold splitLast
  split
  · exact (parent_isPrefix _).trans (parent_isPrefix _)
  · exact parent_isPrefix _

theorem names_splitLast (path : String) :
    Path.names (splitLast path).1 ++ Path.names (splitLast path).2 = Path.names path := by
  unfold splitLast
  split
  · rename_i hempty
    have hnone : Path.names (Path.fileName path) = [] := by
      rw [beq_iff_eq.mp hempty, names_empty]
    rw [← names_parent path, hnone, append_nil]
    exact names_parent _
  · exact names_parent _

theorem exists?_of_hasDir (h : t.hasDir path = true) : t.exists? path = true := by
  obtain ⟨spot, hspot, hdir⟩ := hasDir_eq_true.mp h
  exact exists?_eq_true.mpr ⟨_, find_eq_ok.mpr ⟨spot, hspot, rfl, .inl hdir⟩⟩

theorem makeDir_of_hasDir (h : t.hasDir path = true) : t.makeDir path = .error .fileExists := by
  obtain ⟨spot, hspot, hdir⟩ := hasDir_eq_true.mp h
  have hthere : (spot.isDotted || t.isThere spot.place) = true := by
    rw [isThere, hdir, Bool.or_true, Bool.or_true]
  unfold makeDir
  rw [hspot]
  simp only [bind, Except.bind, hthere, if_true]
  rfl

theorem makeDirs_of_hasDir (h : t.hasDir path = true) : t.makeDirs path = (t, .ok ()) := by
  have houter : (splitLast path).1 ≠ "" → t.exists? (splitLast path).1 = true := fun hne =>
    exists?_of_hasDir
      (hasDir_of_isPrefix hne (splitLast_isPrefix path) (names_splitLast path).symm h)
  have hshallow : ((splitLast path).1 != "" && (splitLast path).2 != "" &&
      !t.exists? (splitLast path).1) = false := by
    by_cases hne : (splitLast path).1 = ""
    · simp [hne]
    · simp [houter hne]
  unfold makeDirs makeDirsIn
  generalize splitLast path = parts at hshallow
  obtain ⟨outer, last⟩ := parts
  dsimp only at hshallow ⊢
  rw [hshallow]
  simp [overlookExisting, makeLastDir, makeDir_of_hasDir h, h]

end MockGen.FileTree

namespace MockGen.Job

variable {w : Workspace}

theorem run_update (change : FileTree → Except Fault FileTree) (w : Workspace) :
    (update change).run w = match change w.files with
      | .ok t => (.ok (), { w with files := t })
      | .error fault => (.error fault, w) := by
  have hstep : (update change).run w =
      ExceptT.run (liftM (change w.files) >>= fun t =>
        (modify fun w => { w with files := t } : Job Unit)) w := rfl
  rw [hstep, ReadM.run_bind, ReadM.run_lift]
  cases change w.files <;> rfl

theorem run_attempt (change : FileTree → FileTree × Except Fault Unit) (w : Workspace) :
    (attempt change).run w = ((change w.files).2, { w with files := (change w.files).1 }) := by
  have hstep : (attempt change).run w =
      ExceptT.run (liftM (change w.files).2 : Job Unit)
        { w with files := (change w.files).1 } := rfl
  rw [hstep, ReadM.run_lift]

theorem run_makeDirs (path : String) (w : Workspace) :
    (makeDirs path).run w =
      ((w.files.makeDirs path).2, { w with files := (w.files.makeDirs path).1 }) :=
  run_attempt ..

theorem run_makeDirs_of_hasDir {path : String} (h : w.files.hasDir path = true) :
    (makeDirs path).run w = (.ok (), w) := by
  rw [run_makeDirs, FileTree.makeDirs_of_hasDir h]

end MockGen.Job
