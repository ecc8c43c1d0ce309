import MockGen.Proofs.Outcome
import MockGen.Proofs.Path

/-!
# Where paths lead in a tree of files

Only the directories of the tree decide that, so a path leads to the same place as long as no
directory goes.
-/

namespace MockGen.FileTree

open List Outcome

variable {t u : FileTree} {p q from_ : Place} {path step : String} {c : Content} {spot : Spot}
  {rest steps : List String} {isSlashed : Bool}

/-! ## Contents -/

theorem lookup_map_replace (l : List (Place × Content)) (p q : Place) (c : Content) :
    (l.map fun entry => if entry.1 == p then (p, c) else entry).lookup q =
      if q = p then (l.lookup p).map fun _ => c else l.lookup q := by
  induction l with
  | nil => simp
  | cons entry l ih =>
    obtain ⟨r, d⟩ := entry
    rw [map_cons, List.lookup_cons, List.lookup_cons, List.lookup_cons, ih]
    by_cases hr : r = p
    · subst hr
      by_cases hq : q = r
      · simp [hq]
      · simp [hq, beq_eq_false_iff_ne.mpr hq]
    · have hpr : (p == r) = false := beq_eq_false_iff_ne.mpr fun h => hr h.symm
      by_cases hq : q = p
      · subst hq
        simp [hr, hpr]
      · simp [hr, hq]

theorem lookup_filter_ne (l : List (Place × Content)) (p q : Place) :
    (l.filter (·.1 != p)).lookup q = if q = p then none else l.lookup q := by
  induction l with
  | nil => simp
  | cons entry l ih =>
    obtain ⟨r, d⟩ := entry
    by_cases hr : r = p
    · subst hr
      rw [filter_cons_of_neg (by simp), ih, List.lookup_cons]
      by_cases hq : q = r
      · simp [hq]
      · simp [hq, beq_eq_false_iff_ne.mpr hq]
    · rw [filter_cons_of_pos (by simp [hr]), List.lookup_cons, List.lookup_cons, ih]
      by_cases hq : q = r
      · subst hq
        simp [hr]
      · simp [beq_eq_false_iff_ne.mpr hq]

theorem content?_put (t : FileTree) (p q : Place) (c : Content) :
    (t.put p c).content? q = if q = p then some c else t.content? q := by
  unfold put isFile content?
  by_cases hp : (t.files.lookup p).isSome = true
  · obtain ⟨d, hd⟩ := Option.isSome_iff_exists.mp hp
    rw [if_pos hp]
    simp only
    rw [lookup_map_replace, hd]
    rfl
  · have hnone : t.files.lookup p = none := Option.not_isSome_iff_eq_none.mp hp
    rw [if_neg hp]
    simp only
    rw [List.lookup_append]
    by_cases hq : q = p
    · subst hq
      simp [hnone]
    · simp [hq, List.lookup_cons, beq_eq_false_iff_ne.mpr hq]

theorem content?_drop (t : FileTree) (p q : Place) :
    (t.drop p).content? q = if q = p then none else t.content? q :=
  lookup_filter_ne t.files p q

@[simp] theorem dirs_put (t : FileTree) (p : Place) (c : Content) : (t.put p c).dirs = t.dirs := by
  unfold put
  split <;> rfl

@[simp] theorem dirs_drop (t : FileTree) (p : Place) : (t.drop p).dirs = t.dirs := rfl

theorem isFile_iff : t.isFile p = true ↔ ∃ c, t.content? p = some c :=
  Option.isSome_iff_exists

/-! ## Directories -/

theorem isDir_mono (h : t.dirs ⊆ u.dirs) (hp : t.isDir p = true) : u.isDir p = true := by
  unfold isDir at *
  rw [Bool.or_eq_true] at *
  exact hp.imp_right fun hmem => contains_iff_mem.mpr (h (contains_iff_mem.mp hmem))

theorem isDir_congr (h : t.dirs = u.dirs) (p : Place) : t.isDir p = u.isDir p := by
  unfold isDir
  rw [h]

/-- A place around the top of the tree, or the top itself. -/
def IsOutside (p : Place) : Prop :=
  ∀ step ∈ p, step = ".." ∨ Path.isRoot step = true

theorem IsOutside.isDir (h : IsOutside p) (t : FileTree) : t.isDir p = true := by
  have hall : (p.all fun step => step == ".." || Path.isRoot step) = true := by
    rw [all_eq_true]
    intro step hstep
    rw [Bool.or_eq_true, beq_iff_eq]
    exact h step hstep
  rw [FileTree.isDir, hall, Bool.true_or]

theorem IsOutside.up (h : IsOutside p) : IsOutside (Path.up p) := by
  have hbelow : IsOutside (p ++ [".."]) := by
    intro step hstep
    rcases mem_append.mp hstep with hstep | hstep
    · exact h step hstep
    · exact .inl (mem_singleton.mp hstep)
  unfold Path.up
  split
  · intro step hstep
    exact .inl (mem_singleton.mp hstep)
  · exact hbelow
  · rename_i last hlast hne
    have hroot : Path.isRoot last = true :=
      (h last (mem_of_getLast? hne)).resolve_left hlast
    rw [if_pos hroot]
    exact h

/-- A place with directories only on the way to it, and itself one. -/
def IsOpen (t : FileTree) (p : Place) : Prop :=
  ∃ outside inner, p = outside ++ inner ∧ IsOutside outside ∧ ".." ∉ inner ∧
    ∀ k, t.isDir (outside ++ inner.take k) = true

theorem IsOutside.isOpen (h : IsOutside p) (t : FileTree) : t.IsOpen p :=
  ⟨p, [], (append_nil p).symm, h, not_mem_nil, fun k => by
    rw [take_nil, append_nil]
    exact h.isDir t⟩

theorem IsOpen.isDir (h : t.IsOpen p) : t.isDir p = true := by
  obtain ⟨outside, inner, rfl, -, -, hdirs⟩ := h
  have hall := hdirs inner.length
  rwa [take_length] at hall

theorem IsOpen.up (h : t.IsOpen p) : t.IsOpen (Path.up p) := by
  obtain ⟨outside, inner, rfl, houtside, hinner, hdirs⟩ := h
  rcases eq_nil_or_concat inner with rfl | ⟨front, last, rfl⟩
  · rw [append_nil]
    exact houtside.up.isOpen t
  · rw [concat_eq_append] at *
    have hlast : (outside ++ (front ++ [last])).getLast? = some last := by
      rw [← append_assoc, getLast?_concat]
    have hne : last ≠ ".." := by
      rintro rfl
      simp at hinner
    have hup : Path.up (outside ++ (front ++ [last])) =
        if Path.isRoot last then outside ++ (front ++ [last]) else outside ++ front := by
      rw [Path.up, hlast]
      split
      · rename_i h
        cases h
      · rename_i h
        exact absurd (Option.some.inj h) hne
      · rename_i step _ h
        cases h
        rw [← append_assoc, dropLast_concat, append_assoc]
    rw [hup]
    split
    · exact ⟨outside, front ++ [last], rfl, houtside, hinner, hdirs⟩
    · refine ⟨outside, front, rfl, houtside, fun h => hinner (mem_append_left _ h),
        fun k => ?_⟩
      have hk := hdirs (min k front.length)
      rwa [take_append_of_le_length (Nat.min_le_right ..), ← take_eq_take_min] at hk

theorem IsOpen.concat (h : t.IsOpen p) (hstep : step ≠ "..") (hdir : t.isDir (p ++ [step]) = true) :
    t.IsOpen (p ++ [step]) := by
  obtain ⟨outside, inner, rfl, houtside, hinner, hdirs⟩ := h
  refine ⟨outside, inner ++ [step], append_assoc .., houtside, ?_, fun k => ?_⟩
  · intro h
    rcases mem_append.mp h with h | h
    · exact hinner h
    · exact hstep (mem_singleton.mp h).symm
  · by_cases hk : k ≤ inner.length
    · rw [take_append_of_le_length hk]
      exact hdirs k
    · have hlength : (inner ++ [step]).length ≤ k := by
        rw [length_append, length_singleton]
        omega
      rwa [take_of_length_le hlength, ← append_assoc]

/-! ## Walking down -/

theorem descend_cons_eq_ok :
    t.descend from_ (step :: rest) = .ok q ↔
      step = "." ∧ t.descend from_ rest = .ok q ∨
      step = ".." ∧ t.descend (Path.up from_) rest = .ok q ∨
      step ≠ "." ∧ step ≠ ".." ∧ step.utf8ByteSize ≤ longestStep ∧
        t.isDir (from_ ++ [step]) = true ∧ t.descend (from_ ++ [step]) rest = .ok q := by
  rw [descend]
  by_cases hdot : step = "."
  · subst hdot
    simp
  by_cases hup : step = ".."
  · subst hup
    simp
  by_cases hlong : longestStep < step.utf8ByteSize
  · simp [hdot, hup, hlong]
  · have hshort : step.utf8ByteSize ≤ longestStep := by omega
    by_cases hdir : t.isDir (from_ ++ [step]) = true <;> simp [hdot, hup, hlong, hshort, hdir]

theorem descend_append {first : List String} :
    t.descend from_ (first ++ rest) = .ok q ↔
      ∃ p, t.descend from_ first = .ok p ∧ t.descend p rest = .ok q := by
  induction first generalizing from_ with
  | nil =>
    rw [nil_append]
    constructor
    · exact fun h => ⟨from_, rfl, h⟩
    · rintro ⟨p, hp, h⟩
      cases hp
      exact h
  | cons step first ih =>
    rw [cons_append, descend_cons_eq_ok]
    simp only [descend_cons_eq_ok, ih]
    grind

theorem descend_mono (h : t.dirs ⊆ u.dirs) (hp : t.descend from_ steps = .ok p) :
    u.descend from_ steps = .ok p := by
  induction steps generalizing from_ with
  | nil => exact hp
  | cons step steps ih =>
    rw [descend_cons_eq_ok] at *
    rcases hp with ⟨hstep, hp⟩ | ⟨hstep, hp⟩ | ⟨hdot, hup, hshort, hdir, hp⟩
    · exact .inl ⟨hstep, ih hp⟩
    · exact .inr (.inl ⟨hstep, ih hp⟩)
    · exact .inr (.inr ⟨hdot, hup, hshort, isDir_mono h hdir, ih hp⟩)

theorem isOpen_of_descend (hfrom : t.IsOpen from_) (h : t.descend from_ steps = .ok p) :
    t.IsOpen p := by
  induction steps generalizing from_ with
  | nil =>
    cases h
    exact hfrom
  | cons step steps ih =>
    rcases descend_cons_eq_ok.mp h with ⟨-, h⟩ | ⟨-, h⟩ | ⟨-, hup, -, hdir, h⟩
    · exact ih hfrom h
    · exact ih hfrom.up h
    · exact ih (hfrom.concat hup hdir) h

theorem isOutside_start (path : String) : IsOutside (start path) := by
  intro step hstep
  unfold start at hstep
  split at hstep
  · rw [mem_singleton.mp hstep]
    exact .inr (by decide)
  · cases hstep

/-! ## Where a path leads -/

/-- A text that a file system takes for a path. -/
structure Fits (path : String) : Prop where
  wellFormed : isMalformed path = false
  nonempty : path ≠ ""
  short : path.utf8ByteSize < pathLimit

/-- Where the steps of a path lead from a place: the last one only needs a directory around it. -/
inductive Leads (t : FileTree) (from_ : Place) (isSlashed : Bool) : List String → Spot → Prop
  | top : Leads t from_ isSlashed [] { place := from_, isDotted := true }
  | here {front : List String} {dir : Place} : t.descend from_ front = .ok dir →
      Leads t from_ isSlashed (front ++ ["."]) { place := dir, isDotted := true }
  | up {front : List String} {dir : Place} : t.descend from_ front = .ok dir →
      Leads t from_ isSlashed (front ++ [".."]) { place := Path.up dir, isDotted := true }
  | named {front : List String} {last : String} {dir : Place} :
      t.descend from_ front = .ok dir → last ≠ "." → last ≠ ".." →
      last.utf8ByteSize ≤ longestStep →
      Leads t from_ isSlashed (front ++ [last]) { place := dir ++ [last], isSlashed }

theorem locate_eq_ok : t.locate path = .ok spot ↔ Fits path ∧
    t.Leads (start path) (path.toList.getLast? == some '/') (Path.names path) spot := by
  by_cases hfits : Fits path
  · have hshort : ¬pathLimit ≤ path.utf8ByteSize := Nat.not_le.mpr hfits.short
    rw [locate, if_neg (by simp [hfits.wellFormed]), if_neg (by simp [hfits.nonempty]),
      if_neg hshort]
    dsimp only
    rw [← Path.names]
    generalize Path.names path = names, start path = from_,
      (path.toList.getLast? == some '/') = isSlashed
    rcases eq_nil_or_concat names with rfl | ⟨front, last, rfl⟩
    · constructor
      · intro h
        cases h
        exact ⟨hfits, .top⟩
      · rintro ⟨-, h⟩
        generalize hnames : ([] : List String) = names at h
        cases h with
        | top => rfl
        | _ => simp at hnames
    · rw [concat_eq_append, getLast?_concat, dropLast_concat]
      simp only
      constructor
      · intro h
        obtain ⟨dir, hdir, h⟩ := bind_eq_ok.mp h
        refine ⟨hfits, ?_⟩
        by_cases hdot : last = "."
        · subst hdot
          cases h
          exact .here hdir
        by_cases hup : last = ".."
        · subst hup
          cases h
          exact .up hdir
        by_cases hlong : longestStep < last.utf8ByteSize
        · simp only [beq_iff_eq, hdot, hup, hlong, if_true, if_false] at h
          cases h
        · simp only [beq_iff_eq, hdot, hup, hlong, if_false] at h
          cases h
          exact .named hdir hdot hup (by omega)
      · rintro ⟨-, h⟩
        generalize hnames : front ++ [last] = names at h
        cases h with
        | top => simp at hnames
        | here hdir =>
          obtain ⟨rfl, rfl⟩ := append_singleton_inj.mp hnames
          exact bind_eq_ok.mpr ⟨_, hdir, rfl⟩
        | up hdir =>
          obtain ⟨rfl, rfl⟩ := append_singleton_inj.mp hnames
          exact bind_eq_ok.mpr ⟨_, hdir, rfl⟩
        | named hdir hdot hup hshort =>
          obtain ⟨rfl, rfl⟩ := append_singleton_inj.mp hnames
          have hlong : ¬longestStep < last.utf8ByteSize := by omega
          refine bind_eq_ok.mpr ⟨_, hdir, ?_⟩
          simp only [beq_iff_eq, hdot, hup, hlong, if_false]
          rfl
  · refine iff_of_false (fun h => hfits ?_) fun h => hfits h.1
    unfold locate at h
    split at h
    · cases h
    split at h
    · cases h
    split at h
    · cases h
    · exact ⟨by simpa using ‹¬isMalformed path = true›, by simpa using ‹¬(path == "") = true›,
        by omega⟩

theorem Leads.of_concat {front : List String} {last : String}
    (h : t.Leads from_ isSlashed (front ++ [last]) spot) (hdot : last ≠ ".") (hup : last ≠ "..") :
    ∃ dir, t.descend from_ front = .ok dir ∧ last.utf8ByteSize ≤ longestStep ∧
      spot = { place := dir ++ [last], isSlashed } := by
  generalize hsteps : front ++ [last] = steps at h
  cases h with
  | top => simp at hsteps
  | here => exact absurd (append_singleton_inj.mp hsteps).2 hdot
  | up => exact absurd (append_singleton_inj.mp hsteps).2 hup
  | named hdir _ _ hshort =>
    obtain ⟨rfl, rfl⟩ := append_singleton_inj.mp hsteps
    exact ⟨_, hdir, hshort, rfl⟩

theorem Leads.exists_last (h : t.Leads from_ isSlashed steps { place := p }) :
    isSlashed = false ∧ ∃ front last, steps = front ++ [last] ∧ last ≠ "." ∧ last ≠ ".." := by
  generalize hspot : ({ place := p } : Spot) = spot at h
  cases h with
  | named hdir hdot hup =>
    cases hspot
    exact ⟨rfl, _, _, rfl, hdot, hup⟩
  | _ => cases hspot

theorem Leads.mono (h : t.dirs ⊆ u.dirs) (hlead : t.Leads from_ isSlashed steps spot) :
    u.Leads from_ isSlashed steps spot := by
  cases hlead with
  | top => exact .top
  | here hdir => exact .here (descend_mono h hdir)
  | up hdir => exact .up (descend_mono h hdir)
  | named hdir hdot hup hshort => exact .named (descend_mono h hdir) hdot hup hshort

theorem locate_mono (h : t.dirs ⊆ u.dirs) (hspot : t.locate path = .ok spot) :
    u.locate path = .ok spot := by
  obtain ⟨hfits, hlead⟩ := locate_eq_ok.mp hspot
  exact locate_eq_ok.mpr ⟨hfits, hlead.mono h⟩

theorem locate_congr (h : t.dirs = u.dirs) :
    t.locate path = .ok spot ↔ u.locate path = .ok spot :=
  ⟨locate_mono (h ▸ List.Subset.refl _), locate_mono (h ▸ List.Subset.refl _)⟩

/-! ## What is at a path -/

theorem find_eq_ok : t.find path = .ok p ↔ ∃ spot, t.locate path = .ok spot ∧ spot.place = p ∧
    (t.isDir p = true ∨ t.isFile p = true ∧ spot.isSlashed = false) := by
  unfold find
  rw [bind_eq_ok]
  refine exists_congr fun spot => and_congr_right fun _ => ?_
  by_cases hdir : t.isDir spot.place = true
  · simp only [hdir, if_true]
    constructor
    · intro h
      cases h
      exact ⟨rfl, .inl hdir⟩
    · rintro ⟨rfl, -⟩
      rfl
  · by_cases hfile : t.isFile spot.place = true <;> by_cases hslash : spot.isSlashed = true <;>
      simp [hdir, hfile, hslash, throw, throwThe, MonadExceptOf.throw, pure, Except.pure, bind,
        Except.bind] <;> grind

theorem hasDir_eq_true : t.hasDir path = true ↔
    ∃ spot, t.locate path = .ok spot ∧ t.isDir spot.place = true := by
  unfold hasDir
  constructor
  · intro h
    split at h
    · rename_i p hp
      obtain ⟨spot, hspot, rfl, -⟩ := find_eq_ok.mp hp
      exact ⟨spot, hspot, h⟩
    · cases h
  · rintro ⟨spot, hspot, hdir⟩
    rw [find_eq_ok.mpr ⟨spot, hspot, rfl, .inl hdir⟩]
    exact hdir

theorem exists?_eq_true : t.exists? path = true ↔ ∃ p, t.find path = .ok p := by
  unfold exists?
  cases t.find path with
  | error fault => simp [Except.isOk, Except.toBool]
  | ok p => simp [Except.isOk, Except.toBool]

theorem get_eq_ok {c : Content} :
    t.get path = .ok c ↔ ∃ p, t.find path = .ok p ∧ t.content? p = some c := by
  unfold FileTree.get
  rw [bind_eq_ok]
  refine exists_congr fun p => and_congr_right fun _ => ?_
  cases t.content? p <;> simp

theorem get_eq_ok_of_locate {c : Content} (h : t.locate path = .ok { place := p }) :
    t.get path = .ok c ↔ t.content? p = some c := by
  rw [get_eq_ok]
  constructor
  · rintro ⟨q, hq, hc⟩
    obtain ⟨spot, hspot, rfl, -⟩ := find_eq_ok.mp hq
    rw [h] at hspot
    cases hspot
    exact hc
  · intro hc
    exact ⟨p, find_eq_ok.mpr ⟨_, h, rfl, .inr ⟨isFile_iff.mpr ⟨c, hc⟩, rfl⟩⟩, hc⟩

theorem sameFiles_eq_true {a b : String} :
    t.sameFiles a b = true ↔ ∃ c, t.get b = .ok c ∧ t.get a = .ok c := by
  unfold sameFiles
  cases t.get a <;> cases t.get b <;> simp

theorem read_eq_ok {text : String} : t.read path = .ok text ↔
    ∃ spot c, t.locate path = .ok spot ∧ t.content? spot.place = some c ∧
      (t.isDir spot.place = true ∨ spot.isSlashed = false) ∧ c.read = .ok text := by
  unfold FileTree.read
  rw [bind_eq_ok]
  simp only [get_eq_ok]
  constructor
  · rintro ⟨c, ⟨p, hp, hc⟩, htext⟩
    obtain ⟨spot, hspot, rfl, hkind⟩ := find_eq_ok.mp hp
    exact ⟨spot, c, hspot, hc, hkind.imp_right And.right, htext⟩
  · rintro ⟨spot, c, hspot, hc, hkind, htext⟩
    have hfile : t.isFile spot.place = true := isFile_iff.mpr ⟨c, hc⟩
    exact ⟨c, ⟨spot.place, find_eq_ok.mpr ⟨spot, hspot, rfl, hkind.imp_right fun h => ⟨hfile, h⟩⟩,
      hc⟩, htext⟩

theorem hasDir_iff_descend : t.hasDir path = true ↔
    Fits path ∧ ∃ p, t.descend (start path) (Path.names path) = .ok p := by
  rw [hasDir_eq_true]
  constructor
  · rintro ⟨spot, hspot, hdir⟩
    obtain ⟨hfits, hlead⟩ := locate_eq_ok.mp hspot
    refine ⟨hfits, ?_⟩
    generalize Path.names path = names at hlead
    cases hlead with
    | top => exact ⟨_, rfl⟩
    | here h => exact ⟨_, descend_append.mpr ⟨_, h, rfl⟩⟩
    | up h => exact ⟨_, descend_append.mpr ⟨_, h, rfl⟩⟩
    | named h hdot hup hshort =>
      exact ⟨_, descend_append.mpr ⟨_, h, descend_cons_eq_ok.mpr
        (.inr (.inr ⟨hdot, hup, hshort, hdir, rfl⟩))⟩⟩
  · rintro ⟨hfits, p, hp⟩
    have hlead : ∃ spot, t.Leads (start path) (path.toList.getLast? == some '/')
        (Path.names path) spot ∧ spot.place = p := by
      rcases eq_nil_or_concat (Path.names path) with hnil | ⟨front, last, hlast⟩
      · rw [hnil] at hp ⊢
        cases hp
        exact ⟨_, .top, rfl⟩
      · rw [hlast, concat_eq_append] at hp ⊢
        obtain ⟨dir, hdir, hp⟩ := descend_append.mp hp
        rcases descend_cons_eq_ok.mp hp with ⟨rfl, hp⟩ | ⟨rfl, hp⟩ | ⟨hdot, hup, hshort, -, hp⟩
        · cases hp
          exact ⟨_, .here hdir, rfl⟩
        · cases hp
          exact ⟨_, .up hdir, rfl⟩
        · cases hp
          exact ⟨_, .named hdir hdot hup hshort, rfl⟩
    obtain ⟨spot, hlead, rfl⟩ := hlead
    exact ⟨spot, locate_eq_ok.mpr ⟨hfits, hlead⟩,
      (isOpen_of_descend ((isOutside_start path).isOpen t) hp).isDir⟩

theorem hasDir_mono (h : t.dirs ⊆ u.dirs) (hdir : t.hasDir path = true) :
    u.hasDir path = true := by
  obtain ⟨spot, hspot, hdir⟩ := hasDir_eq_true.mp hdir
  exact hasDir_eq_true.mpr ⟨spot, locate_mono h hspot, isDir_mono h hdir⟩

theorem hasDir_congr (h : t.dirs = u.dirs) : t.hasDir path = u.hasDir path :=
  Bool.eq_iff_iff.mpr
    ⟨hasDir_mono (h ▸ List.Subset.refl _), hasDir_mono (h ▸ List.Subset.refl _)⟩

end MockGen.FileTree
