import MockGen.Plugin.Load
import MockGen.Proofs.Header.Run
import MockGen.Proofs.Text.Words

/-!
# The order of plugins

The order in which loaded plugins are asked: by priority, and each of them once when the options
name plugins that exist.
-/

namespace MockGen

open List Text ReadM Plugin

variable {p : Plugin}

namespace Plugin

theorem insertByPriority_perm (p : Plugin) (l : List Plugin) :
    (insertByPriority p l).Perm (p :: l) := by
  induction l with
  | nil => exact List.Perm.refl _
  | cons q rest ih =>
    unfold insertByPriority
    split
    · exact List.Perm.refl _
    · exact (ih.cons q).trans (List.Perm.swap p q rest)

theorem insertByPriority_pairwise (p : Plugin) {l : List Plugin}
    (h : l.Pairwise (·.priority ≤ ·.priority)) :
    (insertByPriority p l).Pairwise (·.priority ≤ ·.priority) := by
  induction l with
  | nil => exact pairwise_singleton _ _
  | cons q rest ih =>
    obtain ⟨hq, hrest⟩ := pairwise_cons.mp h
    unfold insertByPriority
    split
    case isTrue hlt =>
      refine pairwise_cons.mpr ⟨fun x hx => ?_, h⟩
      rcases mem_cons.mp hx with rfl | hx
      · exact Nat.le_of_lt hlt
      · exact Nat.le_trans (Nat.le_of_lt hlt) (hq x hx)
    case isFalse hge =>
      refine pairwise_cons.mpr ⟨fun x hx => ?_, ih hrest⟩
      rcases mem_cons.mp ((insertByPriority_perm p rest).mem_iff.mp hx) with rfl | hx
      · exact Nat.le_of_not_lt hge
      · exact hq x hx

theorem inOrder_perm (plugins : List Plugin) : (inOrder plugins).Perm plugins := by
  have key : ∀ l sorted : List Plugin,
      (l.foldl (fun sorted p => insertByPriority p sorted) sorted).Perm (l ++ sorted) := by
    intro l
    induction l with
    | nil => exact fun sorted => List.Perm.refl _
    | cons p rest ih =>
      intro sorted
      exact (ih _).trans (((insertByPriority_perm p sorted).append_left rest).trans
        perm_middle)
  simpa [inOrder] using key plugins []

theorem inOrder_pairwise (plugins : List Plugin) :
    (inOrder plugins).Pairwise (·.priority ≤ ·.priority) := by
  have key : ∀ l sorted : List Plugin, sorted.Pairwise (·.priority ≤ ·.priority) →
      (l.foldl (fun sorted p => insertByPriority p sorted) sorted).Pairwise
        (·.priority ≤ ·.priority) := by
    intro l
    induction l with
    | nil => exact fun sorted h => h
    | cons p rest ih => exact fun sorted h => ih _ (insertByPriority_pairwise p h)
  exact key plugins [] List.Pairwise.nil

/-! ## Loading -/

theorem ofName?_eq_some {name : String} (h : ofName? name = some p) : p.name = name := by
  simpa using find?_some h

theorem run_fail_ne_ok {α : Type} {name reason : String} {w w' : Workspace} {a : α} :
    (fail name reason : Job α).run w ≠ (.ok a, w') := by
  intro h
  obtain ⟨-, u, -, hthrow⟩ := run_bind_eq_ok.mp h
  cases hthrow

theorem run_failUnknown_ne_ok {α : Type} {name : String} {w w' : Workspace} {a : α} :
    (failUnknown name : Job α).run w ≠ (.ok a, w') := by
  intro h
  unfold failUnknown at h
  dsimp only at h
  split at h
  · exact run_fail_ne_ok h
  · split at h
    all_goals
      obtain ⟨-, u, -, hthrow⟩ := run_bind_eq_ok.mp h
      cases hthrow

theorem load_eq_ok {o : Options} {s : Settings} {name : String} {w w' : Workspace}
    (h : (load o s name).run w = (.ok p, w')) : ofName? name = some p ∧ w' = w := by
  unfold load at h
  split at h
  case h_1 => exact (run_failUnknown_ne_ok h).elim
  case h_2 hname =>
    split at h
    · exact (run_fail_ne_ok h).elim
    · cases h
      exact ⟨hname, rfl⟩
  case h_3 hname =>
    split at h
    · exact (run_fail_ne_ok h).elim
    · cases h
      exact ⟨hname, rfl⟩
  case h_4 hname =>
    cases h
    exact ⟨hname, rfl⟩

theorem map_name_of_mapM_load {o : Options} {s : Settings} {names : List String}
    {plugins : List Plugin} {w w' : Workspace}
    (h : (names.mapM (load o s)).run w = (.ok plugins, w')) : plugins.map name = names := by
  induction names generalizing plugins w with
  | nil =>
    cases h
    rfl
  | cons n rest ih =>
    rw [mapM_cons] at h
    obtain ⟨p, u, hp, htail⟩ := run_bind_eq_ok.mp h
    obtain ⟨ps, v, hps, hpure⟩ := run_bind_eq_ok.mp htail
    cases hpure
    rw [map_cons, ofName?_eq_some (load_eq_ok hp).1, ih hps]

theorem name_injective {q : Plugin} (h : p.name = q.name) : p = q := by
  have hp := ofName?_name p
  rw [h, ofName?_name] at hp
  exact (Option.some.inj hp).symm

section

variable {o : Options} (hcolon : ∀ n ∈ o.plugins, ∃ m, n = ":" ++ m)

include hcolon

theorem exists_of_mem_distinct {n : String} (hn : n ∈ distinct (":expect" :: o.plugins)) :
    ∃ m, n = ":" ++ m := by
  rcases mem_cons.mp (mem_distinct.mp hn) with rfl | hn
  · exact ⟨"expect", rfl⟩
  · exact hcolon n hn

omit hcolon in
theorem drop_colon (m : String) : String.ofList ((":" ++ m).toList.drop 1) = m := by
  simp

theorem nodup_wanted : (wanted o).Nodup := by
  refine pairwise_map.mpr ((nodup_distinct _).imp_of_mem fun hx hy hne heq => hne ?_)
  obtain ⟨x, rfl⟩ := exists_of_mem_distinct hcolon hx
  obtain ⟨y, rfl⟩ := exists_of_mem_distinct hcolon hy
  rw [drop_colon, drop_colon] at heq
  rw [heq]

theorem mem_wanted {m : String} : m ∈ wanted o ↔ m = "expect" ∨ ":" ++ m ∈ o.plugins := by
  have hexpect : ":" ++ m = ":expect" ↔ m = "expect" := by
    rw [show ":expect" = ":" ++ "expect" from rfl, String.append_right_inj]
  rw [← hexpect, ← mem_cons, wanted, mem_map]
  constructor
  · rintro ⟨n, hn, rfl⟩
    obtain ⟨m, rfl⟩ := exists_of_mem_distinct hcolon hn
    rw [drop_colon]
    exact mem_distinct.mp hn
  · intro hm
    exact ⟨_, mem_distinct.mpr hm, drop_colon m⟩

variable {plugins : List Plugin} (hnames : plugins.map name = wanted o)

include hnames

theorem nodup_of_map_name : plugins.Nodup := by
  have hnodup := nodup_wanted hcolon
  rw [← hnames] at hnodup
  exact (pairwise_map.mp hnodup).imp fun hne heq => hne (congrArg name heq)

theorem mem_of_map_name : p ∈ plugins ↔ p = expect ∨ ":" ++ p.name ∈ o.plugins := by
  have hmem : p ∈ plugins ↔ p.name ∈ wanted o := by
    rw [← hnames, mem_map]
    exact ⟨fun h => ⟨p, h, rfl⟩, fun ⟨q, hq, hname⟩ => name_injective hname ▸ hq⟩
  have hexpect : p.name = "expect" ↔ p = expect :=
    ⟨fun h => name_injective (q := expect) h, fun h => h ▸ rfl⟩
  rw [hmem, mem_wanted hcolon, hexpect]

end

end Plugin

namespace Plugins

variable {o : Options} {s : Settings} {w w' : Workspace} {ps : Plugins}

theorem settings_of_load (hload : (load o s).run w = (.ok ps, w')) : ps.settings = s := by
  obtain ⟨plugins, u, -, hpure⟩ := run_bind_eq_ok.mp hload
  cases hpure
  rfl

section

variable (hcolon : ∀ n ∈ o.plugins, ∃ m, n = ":" ++ m) (hload : (load o s).run w = (.ok ps, w'))

include hcolon hload

theorem pairwise_of_load :
    ps.loaded.Pairwise fun p q => p ≠ q ∧ p.priority ≤ q.priority := by
  obtain ⟨plugins, u, hplugins, hpure⟩ := run_bind_eq_ok.mp hload
  cases hpure
  have hnodup := nodup_of_map_name hcolon (map_name_of_mapM_load hplugins)
  have hdistinct : (inOrder plugins).Nodup :=
    (inOrder_perm plugins).nodup_iff.mpr hnodup
  exact hdistinct.and (inOrder_pairwise plugins)

theorem mem_loaded : p ∈ ps.loaded ↔ p = .expect ∨ ":" ++ p.name ∈ o.plugins := by
  obtain ⟨plugins, u, hplugins, hpure⟩ := run_bind_eq_ok.mp hload
  cases hpure
  rw [(inOrder_perm plugins).mem_iff,
    mem_of_map_name hcolon (map_name_of_mapM_load hplugins)]

end

end Plugins

end MockGen
