import MockGen.Mock.Files
import MockGen.Proofs.Outcome

/-!
# Texts and files of a mock

The text of a file that is written in chunks, and the files that making a mock writes.
-/

namespace MockGen

open Code ReadM
open List hiding concat

namespace Output

/-- The chunks give a text, without a fault. -/
def Says (chunks : List Chunk) (t : String) : Prop :=
  collect "" chunks = (t, .ok ())

theorem collect_eq_append (written : String) (chunks : List Chunk) :
    collect written chunks = (written ++ (collect "" chunks).1, (collect "" chunks).2) := by
  induction chunks generalizing written with
  | nil => simp [collect]
  | cons chunk rest ih =>
    cases chunk with
    | error fault => simp [collect]
    | ok text =>
      rw [collect, ih, collect, ih ("" ++ text), String.empty_append, String.append_assoc]

namespace Says

variable {chunks more : List Chunk} {t : String} {chunk : Chunk} {P : String → Prop}

theorem nil_iff : Says [] t ↔ t = "" := by
  simp [Says, collect, eq_comm]

theorem cons_iff :
    Says (chunk :: chunks) t ↔ ∃ u v, chunk = .ok u ∧ Says chunks v ∧ t = u ++ v := by
  unfold Says
  cases chunk with
  | error fault => simp [collect]
  | ok text =>
    rw [collect, collect_eq_append, String.empty_append, Prod.mk.injEq]
    constructor
    · rintro ⟨rfl, hrest⟩
      exact ⟨text, _, rfl, Prod.ext rfl hrest, rfl⟩
    · rintro ⟨u, v, hu, hv, rfl⟩
      cases hu
      rw [hv]
      exact ⟨rfl, rfl⟩

theorem append_iff :
    Says (chunks ++ more) t ↔ ∃ u v, Says chunks u ∧ Says more v ∧ t = u ++ v := by
  induction chunks generalizing t with
  | nil => simp [nil_iff]
  | cons chunk chunks ih =>
    rw [cons_append, cons_iff]
    constructor
    · rintro ⟨u, _, hu, hrest, rfl⟩
      obtain ⟨v, x, hv, hx, rfl⟩ := ih.mp hrest
      exact ⟨u ++ v, x, cons_iff.mpr ⟨u, v, hu, hv, rfl⟩, hx, (String.append_assoc ..).symm⟩
    · rintro ⟨_, x, hfirst, hx, rfl⟩
      obtain ⟨u, v, hu, hv, rfl⟩ := cons_iff.mp hfirst
      exact ⟨u, v ++ x, hu, ih.mpr ⟨v, x, hv, hx, rfl⟩, String.append_assoc ..⟩

theorem singleton_iff : Says [chunk] t ↔ chunk = .ok t := by
  simp [cons_iff, nil_iff]

theorem flatMap_iff {α : Type} {l : List α} {f : α → List Chunk} :
    Says (l.flatMap f) t ↔
      ∃ texts, List.Forall₂ (fun a u => Says (f a) u) l texts ∧ t = concat texts := by
  induction l generalizing t with
  | nil => simp [nil_iff]
  | cons a l ih =>
    rw [flatMap_cons, append_iff]
    constructor
    · rintro ⟨u, v, hu, hv, rfl⟩
      obtain ⟨texts, htexts, rfl⟩ := ih.mp hv
      exact ⟨u :: texts, .cons hu htexts, rfl⟩
    · rintro ⟨texts, htexts, rfl⟩
      cases htexts with
      | cons hu htexts => exact ⟨_, _, hu, ih.mpr ⟨_, htexts, rfl⟩, rfl⟩

theorem exists_of_mem (h : Says chunks t) (hmem : chunk ∈ chunks) :
    ∃ u, chunk = .ok u ∧ u.toList <:+: t.toList := by
  induction chunks generalizing t with
  | nil => cases hmem
  | cons first chunks ih =>
    obtain ⟨u, v, rfl, hv, rfl⟩ := cons_iff.mp h
    rw [String.toList_append]
    rcases mem_cons.mp hmem with rfl | hmem
    · exact ⟨u, rfl, (prefix_append _ _).isInfix⟩
    · obtain ⟨x, hx, hinfix⟩ := ih hv hmem
      exact ⟨x, hx, hinfix.trans (suffix_append _ _).isInfix⟩

theorem of_forall (hnil : P "") (happend : ∀ {t u}, P t → P u → P (t ++ u)) (h : Says chunks t)
    (hchunks : ∀ chunk ∈ chunks, ∀ u, chunk = .ok u → P u) : P t := by
  induction chunks generalizing t with
  | nil => exact nil_iff.mp h ▸ hnil
  | cons chunk chunks ih =>
    obtain ⟨u, v, rfl, hv, rfl⟩ := cons_iff.mp h
    rw [forall_mem_cons] at hchunks
    exact happend (hchunks.1 u rfl) (ih hv hchunks.2)

theorem of_flatMap {α : Type} {l : List α} {f : α → List Chunk} (hnil : P "")
    (happend : ∀ {t u}, P t → P u → P (t ++ u)) (h : Says (l.flatMap f) t)
    (hf : ∀ a ∈ l, ∀ u, Says (f a) u → P u) : P t := by
  induction l generalizing t with
  | nil => exact nil_iff.mp h ▸ hnil
  | cons a l ih =>
    obtain ⟨u, v, hu, hv, rfl⟩ := append_iff.mp h
    rw [forall_mem_cons] at hf
    exact happend (hf.1 u hu) (ih hv hf.2)

end Says

theorem exists_says_of_write {path : String} {chunks : List Chunk} {w w' : Workspace}
    (h : (write path chunks).run w = (.ok (), w')) : ∃ t, Says chunks t := by
  unfold write at h
  rcases hcollect : collect "" chunks with ⟨text, outcome⟩
  rw [hcollect] at h
  obtain ⟨_, u, -, h⟩ := run_bind_eq_ok.mp h
  obtain ⟨_, v, houtcome, -⟩ := run_bind_eq_ok.mp h
  rw [run_lift] at houtcome
  obtain rfl := (Prod.mk.inj houtcome).1
  exact ⟨text, hcollect⟩

theorem create_eq_ok {top below : Value} {name : String} {chunks : List Chunk} {w w' : Workspace}
    (h : (create top name chunks below).run w = (.ok (), w')) :
    ∃ dir u, directory top below = .ok dir ∧
      (write (Path.join dir name) chunks).run u = (.ok (), w') := by
  unfold create at h
  obtain ⟨dir, u, hdir, h⟩ := run_bind_eq_ok.mp h
  rw [run_lift] at hdir
  obtain ⟨_, v, -, h⟩ := run_bind_eq_ok.mp h
  exact ⟨dir, v, (Prod.mk.inj hdir).1, h⟩

end Output

namespace Generator

theorem mockFiles_eq_ok {g : Generator} {n : Names} {m : Material}
    {files : List (String × List Chunk)} (h : g.mockFiles n m = .ok files) :
    ∃ inlines, files = inlines ++ [(n.mockName ++ n.extension, g.headerChunks n m),
      (n.mockName ++ ".c", g.sourceChunks n m)] := by
  unfold mockFiles at h
  dsimp only at h
  split at h
  · obtain ⟨file, -, h⟩ := Outcome.bind_eq_ok.mp h
    cases h
    exact ⟨_, rfl⟩
  · cases h
    exact ⟨_, rfl⟩

theorem createMock_eq_ok {g : Generator} {moduleName extension asked : Value} {m : Material}
    {w w' : Workspace} (h : (g.createMock moduleName m extension asked).run w = (.ok (), w')) :
    ∃ folder ext u v, g.folder asked = .ok folder ∧ headerExtension extension = .ok ext ∧
      (Output.create g.mockPath ((g.names moduleName ext folder).mockName ++ ext)
        (g.headerChunks (g.names moduleName ext folder) m) folder).run u = (.ok (), v) ∧
      (Output.create g.mockPath ((g.names moduleName ext folder).mockName ++ ".c")
        (g.sourceChunks (g.names moduleName ext folder) m) folder).run v = (.ok (), w') := by
  unfold createMock at h
  obtain ⟨folder, _, hfolder, h⟩ := run_bind_eq_ok.mp h
  obtain ⟨_, _, -, h⟩ := run_bind_eq_ok.mp h
  obtain ⟨ext, _, hext, h⟩ := run_bind_eq_ok.mp h
  obtain ⟨files, u, hfiles, h⟩ := run_bind_eq_ok.mp h
  rw [run_lift] at hfolder hext hfiles
  obtain ⟨inlines, rfl⟩ := mockFiles_eq_ok (Prod.mk.inj hfiles).1
  rw [forM_eq_forM, forM_append, forM_cons, forM_cons, forM_nil] at h
  obtain ⟨_, v, -, h⟩ := run_bind_eq_ok.mp h
  obtain ⟨_, x, hheader, h⟩ := run_bind_eq_ok.mp h
  obtain ⟨_, y, hsource, hpure⟩ := run_bind_eq_ok.mp h
  cases hpure
  exact ⟨folder, ext, v, x, (Prod.mk.inj hfolder).1, (Prod.mk.inj hext).1, hheader, hsource⟩

end Generator

end MockGen
