import MockGen.Proofs.Files.Series
import MockGen.Proofs.Header.PlainHeader
import MockGen.Proofs.Mock.Include
import MockGen.Proofs.Plugin.Hook
import MockGen.Proofs.Text.Lacks
import MockGen.Sample.Prototype

/-!
# Skeletons that are made over older ones

What was there is kept, functions that it does not declare are added, and making the skeleton once
more changes nothing.
-/

namespace MockGen

open Code String Text Outcome ReadM Lacks Path
open List hiding concat concat_append concat_cons concat_nil

/-! ## Line ends -/

namespace Text

theorem unifyFrom_of_notMem {t : List Char} (h : '\r' ∉ t) : unifyFrom false t = t := by
  induction t with
  | nil => rfl
  | cons c t ih =>
    have hc : (c == '\r') = false := beq_eq_false_iff_ne.mpr fun hc => h (by simp [hc])
    have ht : '\r' ∉ t := fun ht => h (mem_cons_of_mem _ ht)
    rw [unifyFrom, hc, if_neg Bool.false_ne_true, Bool.false_and, if_neg Bool.false_ne_true, ih ht]

theorem notMem_unifyFrom (returned : Bool) (t : List Char) : '\r' ∉ unifyFrom returned t := by
  induction t generalizing returned with
  | nil => exact not_mem_nil
  | cons c t ih =>
    rw [unifyFrom]
    by_cases hc : c = '\r'
    · simp [hc, ih]
    · by_cases hskip : (returned && c == '\n') = true
      · simp [hc, hskip, ih]
      · have hne : '\r' ≠ c := fun h => hc h.symm
        simp [hc, hskip, hne, ih]

end Text

theorem Content.read_text {t : String} (h : Lacks '\r' t) : (Content.text t).read = .ok t := by
  rw [Content.read, unifyLineEnds, unifyFrom_of_notMem h.notMem, ofList_toList]

theorem Content.lacks_of_read {c : Content} {t : String} (h : c.read = .ok t) : Lacks '\r' t := by
  cases c with
  | text s =>
    obtain rfl := Except.ok.inj h
    exact .ofList (notMem_unifyFrom _ _)
  | bytes b => cases h

/-! ## The texts of a skeleton -/

namespace Generator

open Output

variable {g : Generator} {m : Material} {d : Draft} {p : Prototype} {old module t u : String}
  {functions : List Draft} {l : List String}

/-- The prototype that a skeleton declares for a record. -/
def declared (d : Draft) : Prototype :=
  Draft.fill { d with callingConvention := d.callingConvention.filter Value.truthy }

/-- An empty function as it stands in a skeleton. -/
def stubText (p : Prototype) : String :=
  let type := p.returned.type
  lines [declarationText p, "\x7b", "  /*TODO: Implement Haha Me!*/"] ++
    (concat (p.args.map fun a => lines ["  (void)" ++ a.name ++ ";"]) ++
      lines (only (!p.returned.isVoid) [s!"  return ({type})0;"] ++ ["\x7d", ""]))

theorem eq_of_says_stub (h : Says (stub d) t) : t = stubText d.fill := by
  obtain ⟨first, ending, hfirst, hending, rfl⟩ := Says.append_iff.mp h
  obtain ⟨start, args, hstart, hargs, rfl⟩ := Says.append_iff.mp hfirst
  obtain ⟨u, v, hu, hv, rfl⟩ := Says.cons_iff.mp hstart
  have hu := Draft.eq_of_render hu
  have hv := Draft.eq_of_render (Says.singleton_iff.mp hv)
  have hending := Draft.eq_of_render (Says.singleton_iff.mp hending)
  have hargs : args = concat (d.fill.args.map fun a => lines ["  (void)" ++ a.name ++ ";"]) := by
    have hzip : ∀ (l : List Argument) (k : Nat) (args : String),
        Says ((l.zipIdx k).map fun item =>
          d.render [.shown (.argName item.2)] fun _ => lines ["  (void)" ++ item.1.name ++ ";"])
          args →
        args = concat (l.map fun a => lines ["  (void)" ++ a.name ++ ";"]) := by
      intro l
      induction l with
      | nil =>
        intro k args h
        exact Says.nil_iff.mp h
      | cons a l ih =>
        intro k args h
        rw [zipIdx_cons, map_cons] at h
        obtain ⟨x, y, hx, hy, rfl⟩ := Says.cons_iff.mp h
        rw [map_cons, concat_cons, ← ih (k + 1) y hy, Draft.eq_of_render hx]
    exact hzip _ 0 args hargs
  rw [hu, hv, hargs, hending, append_empty, String.append_assoc]
  rfl

/-- Whether the parts of a record that its declaration needs are there. -/
def CanDeclare (d : Draft) : Prop :=
  Draft.require { d with callingConvention := d.callingConvention.filter Value.truthy }
    (declarationNeeds (declared d)) = .ok ()

theorem canDeclare_of_addition (h : Says (addition old d) t) : CanDeclare d := by
  unfold addition at h
  dsimp only at h
  split at h
  · cases Says.singleton_iff.mp h
  · assumption

theorem addition_of_canDeclare (h : CanDeclare d) :
    addition old d = if declares old (declared d) then []
      else stub { d with callingConvention := d.callingConvention.filter Value.truthy } := by
  unfold addition
  dsimp only
  rw [CanDeclare, declared] at h
  rw [h]
  rfl

theorem eq_of_says_addition (h : Says (addition old d) t) :
    t = if declares old (declared d) then "" else stubText (declared d) := by
  rw [addition_of_canDeclare (canDeclare_of_addition h)] at h
  split at h
  · rw [if_pos ‹_›]
    exact Says.nil_iff.mp h
  · rw [if_neg ‹_›]
    exact eq_of_says_stub h

/-- The start of a skeleton: what was there, or includes where there was nothing. -/
def startText (g : Generator) (module old : String) : String :=
  if old = "" then g.sourceIncludes (module ++ ".h") ++ "\n"
  else if old.toList.getLast? = some '\n' then old
  else old ++ "\n"

/-- The skeleton over an older one: its start, and an empty function for each record that is not
declared yet. -/
def skeletonText (g : Generator) (module old : String) (functions : List Draft) : String :=
  startText g module old ++
    concat (((functions.map declared).filter fun p => !declares old p).map stubText)

theorem skeletonStart_eq (g : Generator) (module old : String) :
    g.skeletonStart (.str module) old = .ok (startText g module old) := by
  unfold skeletonStart startText
  by_cases hold : old = ""
  · rw [if_pos (beq_iff_eq.mpr hold), if_pos hold]
    rfl
  · rw [if_neg (by simpa using hold), if_neg hold]
    by_cases hlast : old.toList.getLast? = some '\n'
    · rw [if_pos (beq_iff_eq.mpr hlast), if_pos hlast]
      rfl
    · rw [if_neg (by simpa using hlast), if_neg hlast]
      rfl

theorem eq_of_says_additions (h : Says (functions.flatMap (addition old)) t) :
    (∀ d ∈ functions, CanDeclare d) ∧
      t = concat (((functions.map declared).filter fun p => !declares old p).map stubText) := by
  induction functions generalizing t with
  | nil =>
    rw [flatMap_nil, Says.nil_iff] at h
    exact ⟨by simp, h⟩
  | cons d functions ih =>
    rw [flatMap_cons] at h
    obtain ⟨u, v, hu, hv, rfl⟩ := Says.append_iff.mp h
    obtain ⟨hneeds, rfl⟩ := ih hv
    refine ⟨forall_mem_cons.mpr ⟨canDeclare_of_addition hu, hneeds⟩, ?_⟩
    rw [eq_of_says_addition hu, map_cons]
    by_cases hdeclares : declares old (declared d) = true
    · rw [if_pos hdeclares, filter_cons_of_neg (by simp [hdeclares]), empty_append]
    · rw [if_neg hdeclares, filter_cons_of_pos (by simpa using hdeclares), map_cons,
        concat_cons]

theorem eq_of_says_skeletonChunks (h : Says (g.skeletonChunks (.str module) old m) t) :
    ∃ functions, m.functions.bind Listed.all = .ok functions ∧
      (∀ d ∈ functions, CanDeclare d) ∧ t = g.skeletonText module old functions := by
  unfold skeletonChunks at h
  obtain ⟨u, v, hu, hv, rfl⟩ := Says.cons_iff.mp h
  obtain rfl := Except.ok.inj ((skeletonStart_eq g module old).symm.trans hu)
  split at hv
  · rename_i functions hfunctions
    obtain ⟨hneeds, rfl⟩ := eq_of_says_additions hv
    exact ⟨functions, hfunctions, hneeds, rfl⟩
  · cases Says.singleton_iff.mp hv

/-! ## What a skeleton holds -/

theorem isInfix_stubText (p : Prototype) : (declarationText p).toList <:+: (stubText p).toList := by
  unfold stubText
  rw [lines_cons, String.append_assoc, String.append_assoc, toList_append]
  exact (prefix_append _ _).isInfix

example : declarationText Sample.filling = "int fill(int* cells, int count)" := by decide +kernel

theorem isPrefix_startText (g : Generator) (module old : String) :
    old.toList <+: (startText g module old).toList := by
  unfold startText
  split
  · rename_i hold
    rw [hold]
    exact nil_prefix
  · split
    · exact prefix_rfl
    · rw [toList_append]
      exact prefix_append _ _

theorem isPrefix_skeletonText (g : Generator) (module old : String) (functions : List Draft) :
    old.toList <+: (g.skeletonText module old functions).toList := by
  rw [skeletonText, toList_append]
  exact (isPrefix_startText g module old).trans (prefix_append _ _)

theorem isInfix_concat (h : u ∈ l) : u.toList <:+: (concat l).toList := by
  induction l with
  | nil => cases h
  | cons v l ih =>
    rw [concat_cons, toList_append]
    rcases mem_cons.mp h with rfl | h
    · exact (prefix_append _ _).isInfix
    · exact (ih h).trans (suffix_append _ _).isInfix

theorem isInfix_skeletonText (hd : d ∈ functions) :
    (declarationText (declared d)).toList <:+: (g.skeletonText module old functions).toList := by
  by_cases hdeclares : declares old (declared d) = true
  · exact (hasPart_iff.mp hdeclares).trans
      (isPrefix_skeletonText g module old functions).isInfix
  · have hadded : stubText (declared d) ∈
        ((functions.map declared).filter fun p => !declares old p).map stubText := by
      apply mem_map_of_mem
      rw [mem_filter]
      exact ⟨mem_map_of_mem hd, by simpa using hdeclares⟩
    rw [skeletonText, toList_append]
    exact ((isInfix_stubText _).trans (isInfix_concat hadded)).trans
      (suffix_append _ _).isInfix

def EndsLine (t : String) : Prop :=
  t.toList.getLast? = some '\n'

theorem EndsLine.append (h : EndsLine u) (t : String) : EndsLine (t ++ u) := by
  have hne : u.toList ≠ [] := by
    intro hnil
    rw [EndsLine, hnil] at h
    cases h
  rw [EndsLine, toList_append, getLast?_append_of_ne_nil _ hne]
  exact h

theorem endsLine_newline : EndsLine "\n" := by
  unfold EndsLine
  decide

theorem endsLine_startText (g : Generator) (module old : String) :
    EndsLine (startText g module old) := by
  unfold startText
  split
  · exact endsLine_newline.append _
  · split
    · assumption
    · exact endsLine_newline.append _

theorem endsLine_stubText (p : Prototype) : EndsLine (stubText p) := by
  have hend : EndsLine (lines ["\x7d", ""]) := by
    unfold EndsLine
    decide
  unfold stubText
  dsimp only
  rw [lines_append]
  exact ((hend.append _).append _).append _

theorem endsLine_skeletonText (g : Generator) (module old : String) (functions : List Draft) :
    EndsLine (g.skeletonText module old functions) := by
  unfold skeletonText
  rcases eq_nil_or_concat
    (((functions.map declared).filter fun p => !declares old p).map stubText) with
    hnil | ⟨front, last, hlast⟩
  · rw [hnil, concat_nil, append_empty]
    exact endsLine_startText g module old
  · have hmem : last ∈ ((functions.map declared).filter fun p => !declares old p).map stubText := by
      simp [hlast]
    obtain ⟨p, -, rfl⟩ := mem_map.mp hmem
    rw [hlast, concat_eq_append, concat_append, concat_cons, concat_nil, append_empty]
    exact ((endsLine_stubText p).append _).append _

theorem says_skeletonChunks_self (hfunctions : m.functions.bind Listed.all = .ok functions)
    (hneeds : ∀ d ∈ functions, CanDeclare d)
    (hdeclares : ∀ d ∈ functions, declares t (declared d) = true) (hend : EndsLine t) :
    Says (g.skeletonChunks (.str module) t m) t := by
  have hne : t ≠ "" := by
    rintro rfl
    cases hend
  have hstart : startText g module t = t := by
    unfold EndsLine at hend
    rw [startText, if_neg hne, if_pos hend]
  have hnothing : functions.flatMap (addition t) = [] := by
    rw [flatMap_eq_nil_iff]
    intro d hd
    rw [addition_of_canDeclare (hneeds d hd), if_pos (hdeclares d hd)]
  unfold skeletonChunks
  rw [hfunctions]
  dsimp only
  rw [hnothing, skeletonStart_eq, hstart]
  exact Says.singleton_iff.mpr rfl

/-! ## Skeletons without carriage returns -/

theorem lacks_lines {c : Char} (hc : c ≠ '\n') (h : ∀ u ∈ l, Lacks c u) : Lacks c (lines l) := by
  induction l with
  | nil => exact .ofList not_mem_nil
  | cons u l ih =>
    rw [forall_mem_cons] at h
    rw [lines_cons]
    exact (h.1.append (.ofList (by simpa using hc))).append (ih h.2)

theorem lacks_concat {c : Char} (h : ∀ u ∈ l, Lacks c u) : Lacks c (concat l) := by
  induction l with
  | nil => exact .ofList not_mem_nil
  | cons u l ih =>
    rw [forall_mem_cons] at h
    exact h.1.append (ih h.2)

theorem lacks_declarationText (h : p.Lacks '\r') : Lacks '\r' (declarationText p) := by
  have hblank : Lacks '\r' " " := .fixed rfl
  have htype : Lacks '\r' (if p.modifier == "" then p.returned.type
      else p.modifier ++ " " ++ p.returned.type) := by
    split
    · exact h.returnedType
    · exact (h.modifier.append hblank).append h.returnedType
  have hparameters : Lacks '\r' (parameterText p) := by
    unfold parameterText
    split
    · rename_i more hmore
      exact (h.argsString.append (.fixed rfl)).append (h.varArg more hmore)
    · exact h.argsString
  unfold declarationText
  refine (((((htype.append ?_).append hblank).append h.name).append
    (.fixed rfl)).append hparameters).append (.fixed rfl)
  split
  · rename_i name hname
    split
    · exact .fixed rfl
    · exact hblank.append (h.callingConvention name hname)
  · exact .fixed rfl

theorem lacks_stubText (h : p.Lacks '\r') : Lacks '\r' (stubText p) := by
  unfold stubText
  refine .append (lacks_lines (by decide) ?_) (.append (lacks_concat ?_)
    (lacks_lines (by decide) ?_))
  · simp only [forall_mem_cons, not_mem_nil, false_implies, implies_true, and_true]
    exact ⟨lacks_declarationText h, .fixed rfl, .fixed rfl⟩
  · intro u hu
    obtain ⟨a, ha, rfl⟩ := mem_map.mp hu
    have hname : Lacks '\r' ("  (void)" ++ a.name ++ ";") :=
      ((fixed rfl).append (h.argName a ha)).append (.fixed rfl)
    exact lacks_lines (by decide) (by simpa using hname)
  · intro u hu
    rcases mem_append.mp hu with hu | hu
    · cases hvoid : p.returned.isVoid with
      | true =>
        rw [hvoid] at hu
        cases hu
      | false =>
        rw [hvoid] at hu
        obtain rfl := mem_singleton.mp hu
        exact ((fixed rfl).append h.returnedType).append (.fixed rfl)
    · simp only [mem_cons, not_mem_nil, or_false] at hu
      rcases hu with rfl | rfl <;> exact .fixed rfl

theorem lacks_includeLines (h : ∀ file ∈ l, Lacks '\r' file) : Lacks '\r' (includeLines l) := by
  refine lacks_lines (by decide) fun u hu => ?_
  obtain ⟨file, hfile, rfl⟩ := mem_map.mp hu
  exact (fixed rfl).append (h file hfile)

theorem lacks_firstIncludes (h : ∀ file ∈ g.sourceIncludesBefore, Lacks '\r' file) :
    Lacks '\r' g.firstIncludes := by
  refine .append (lacks_lines (by decide) fun u hu => ?_) (lacks_includeLines h)
  have hall : ∀ u ∈ ["#include <string.h>", "#include <stdlib.h>", "#include <setjmp.h>",
      "#include \"cmock.h\""], Lacks '\r' u := by decide
  apply hall
  generalize g.usesJumps = jumps at hu
  cases jumps <;> simp [only] at hu ⊢ <;> tauto

theorem lacks_skeletonText (hold : Lacks '\r' old) (hmodule : Lacks '\r' module)
    (hbefore : ∀ file ∈ g.sourceIncludesBefore, Lacks '\r' file)
    (hafter : ∀ file ∈ g.sourceIncludesAfter, Lacks '\r' file)
    (hfunctions : ∀ d ∈ functions, (declared d).Lacks '\r') :
    Lacks '\r' (g.skeletonText module old functions) := by
  have hnewline : Lacks '\r' "\n" := .fixed rfl
  refine .append ?_ (lacks_concat fun u hu => ?_)
  · unfold startText
    split
    · have hheader : Lacks '\r' (module ++ ".h") := hmodule.append (.fixed rfl)
      generalize module ++ ".h" = header at hheader
      have hown : Lacks '\r' (lines [s!"#include \"{header}\""]) := by
        refine lacks_lines (by decide) fun u hu => ?_
        obtain rfl := mem_singleton.mp hu
        exact ((fixed rfl).append hheader).append (.fixed rfl)
      exact ((((lacks_firstIncludes hbefore).append hown).append (lacks_includeLines hafter)).append
        hnewline).append hnewline
    · split
      · exact hold
      · exact hold.append hnewline
  · obtain ⟨p, hp, rfl⟩ := mem_map.mp hu
    obtain ⟨d, hd, rfl⟩ := mem_map.mp (mem_filter.mp hp).1
    exact lacks_stubText (hfunctions d hd)

/-! ## The path of a skeleton -/

open FileTree

variable {path dir : String} {w w' : Workspace}

theorem respelled_skeletonPath (hdir : directory g.mockPath g.subdir = .ok dir)
    (hpath : g.skeletonPath (.str module) = .ok path) (hmodule : Path.IsRelative module)
    (htop : g.mockPath ≠ .str "") (hsubdir : ∀ sub, g.subdir = .str sub → Path.IsRelative sub) :
    dir ≠ "" ∧ Respelled 2 (Path.join dir (module ++ ".c")) path := by
  have hname : Path.IsRelative (module ++ ".c") := isRelative_append hmodule (by decide)
  have hne : module ++ ".c" ≠ "" := by simp
  unfold directory at hdir
  unfold skeletonPath at hpath
  by_cases hsub : g.subdir.truthy = true
  · rw [if_pos hsub] at hdir
    dsimp only at hpath
    rw [if_pos hsub] at hpath
    obtain ⟨top, htext, hdir⟩ := bind_eq_ok.mp hdir
    obtain ⟨sub, hsubtext, hdir⟩ := bind_eq_ok.mp hdir
    obtain rfl := Except.ok.inj hdir
    have hsubdir' := eq_str_of_pathOf hsubtext
    have hmockPath := eq_str_of_pathOf htext
    rw [hsubdir', hmockPath] at hpath
    obtain rfl := Except.ok.inj hpath
    have hsubne : sub ≠ "" := by
      rintro rfl
      rw [hsubdir'] at hsub
      cases hsub
    have htopne : top ≠ "" := by
      rintro rfl
      exact htop hmockPath
    have hrelative := hsubdir sub hsubdir'
    have hinner : Path.IsRelative (Path.join sub (module ++ ".c")) := by
      rwa [Path.IsRelative, head?_join hsubne hname]
    have hinnerne : Path.join sub (module ++ ".c") ≠ "" := by
      rw [join_eq_append hname]
      simp
    have hpath : Value.display (.str top) ++ "/" ++ sub ++ "/" ++
        Value.display (.str module) ++ ".c" = top ++ "/" ++ (sub ++ "/" ++ (module ++ ".c")) := by
      simp [Value.display, String.append_assoc]
    constructor
    · rw [join_eq_append hrelative]
      simp [hsubne]
    · rw [join_join hname, hpath]
      exact (respelled_join htopne hinner hinnerne).trans
        ((respelled_join hsubne hname hne).below htopne hinnerne)
  · rw [if_neg hsub] at hdir
    dsimp only at hpath
    rw [if_neg hsub] at hpath
    have hmockPath := eq_str_of_pathOf hdir
    rw [hmockPath] at hpath
    obtain rfl := Except.ok.inj hpath
    have htopne : dir ≠ "" := by
      rintro rfl
      exact htop hmockPath
    have hpath : Value.display (.str dir) ++ "/" ++ Value.display (.str module) ++ ".c" =
        dir ++ "/" ++ (module ++ ".c") := by
      simp [Value.display, String.append_assoc]
    refine ⟨htopne, ?_⟩
    rw [hpath]
    have hspelled := respelled_join htopne hname hne
    exact { hspelled with size := hspelled.size.trans (by omega) }

/-! ## Making a skeleton -/

/-- What is at the path of a skeleton before it is made; an empty text where nothing is. -/
def Previous (t : FileTree) (path old : String) : Prop :=
  if t.exists? path then t.read path = .ok old else old = ""

theorem Previous.lacks {t : FileTree} (h : Previous t path old) : Lacks '\r' old := by
  unfold Previous at h
  split at h
  · obtain ⟨-, c, -, -, -, hread⟩ := read_eq_ok.mp h
    exact Content.lacks_of_read hread
  · rw [h]
    exact .ofList not_mem_nil

theorem run_createSkeleton (hpath : g.skeletonPath (.str module) = .ok path)
    (hold : Previous w.files path old) :
    (g.createSkeleton (.str module) m).run w =
      (create g.mockPath (module ++ ".c") (g.skeletonChunks (.str module) old m)
        g.subdir).run w := by
  have hover : (g.skeletonOver (.str module) m).run w =
      (.ok (g.skeletonChunks (.str module) old m), w) := by
    unfold skeletonOver
    rw [hpath, run_bind, run_lift]
    unfold Previous at hold
    have hfiles : ∀ f : FileTree → Job (List Chunk), (Job.files >>= f).run w = (f w.files).run w :=
      fun _ => rfl
    dsimp only
    rw [hfiles]
    split at hold
    · rw [if_pos ‹_›, run_bind]
      have hread : (Job.readFile path).run w = (w.files.read path, w) := run_lift _ _
      rw [hread, hold]
      rfl
    · rw [if_neg ‹_›, hold]
      rfl
  unfold createSkeleton
  rw [run_bind, hover]
  rfl

theorem exists_previous (h : (g.createSkeleton (.str module) m).run w = (.ok (), w'))
    (hpath : g.skeletonPath (.str module) = .ok path) : ∃ old, Previous w.files path old := by
  unfold createSkeleton at h
  obtain ⟨chunks, u, hover, -⟩ := run_bind_eq_ok.mp h
  unfold skeletonOver at hover
  rw [hpath] at hover
  obtain ⟨path', u', hpath', hover⟩ := run_bind_eq_ok.mp hover
  rw [run_lift] at hpath'
  cases hpath'
  obtain ⟨files, u', hfiles, hover⟩ := run_bind_eq_ok.mp hover
  cases hfiles
  unfold Previous
  split
  · rename_i hthere
    rw [if_pos hthere] at hover
    obtain ⟨old, u', hread, -⟩ := run_bind_eq_ok.mp hover
    have hrun : (Job.readFile path).run w = (w.files.read path, w) := run_lift _ _
    rw [hrun] at hread
    exact ⟨old, (Prod.mk.inj hread).1⟩
  · exact ⟨"", rfl⟩

theorem exists_slot_of_createSkeleton (hpath : g.skeletonPath (.str module) = .ok path)
    (hold : Previous w.files path old) (hmodule : Path.IsRelative module)
    (htop : g.mockPath ≠ .str "") (hsubdir : ∀ sub, g.subdir = .str sub → Path.IsRelative sub)
    (hfree : w'.files.hasDir path = false)
    (h : (g.createSkeleton (.str module) m).run w = (.ok (), w')) :
    ∃ dir d q text v, directory g.mockPath g.subdir = .ok dir ∧ w'.files.hasDir dir = true ∧
      Slot w'.files (Path.join dir (module ++ ".c")) d q ∧
      w'.files.locate path = .ok { place := q } ∧
      Says (g.skeletonChunks (.str module) old m) text ∧ Moved v w'.files d q (.text text) := by
  have hname : Path.IsRelative (module ++ ".c") := isRelative_append hmodule (by decide)
  have hne : module ++ ".c" ≠ "" := by simp
  have hlast : (module ++ ".c").toList.getLast? ≠ some '/' := by
    rw [toList_append, getLast?_append_of_ne_nil _ (by decide)]
    decide
  rw [run_createSkeleton hpath hold] at h
  obtain ⟨dir, -, hdir, -⟩ := create_eq_ok h
  obtain ⟨hdirne, hspelled⟩ := respelled_skeletonPath hdir hpath hmodule htop hsubdir
  rw [run_create hdir] at h
  obtain ⟨r, u, hrun, hstep⟩ := run_createIn dir (Path.join dir (module ++ ".c"),
    g.skeletonChunks (.str module) old m) w
  rw [h] at hrun
  cases hrun
  cases hstep with
  | @made _ v _ hextends hwritten =>
  have hdirs := hwritten.dirs
  -- the draft fits, and the other spelling of the path is not longer than the draft
  have hshort : ∀ {spot : Spot}, v.locate (draftName (Path.join dir (module ++ ".c"))) = .ok spot →
      path.utf8ByteSize < pathLimit := by
    intro spot hspot
    have hfits := (locate_eq_ok.mp hspot).1.short
    have hsize := hspelled.size
    have hnew : (".new" : String).utf8ByteSize = 4 := rfl
    rw [draftName, utf8ByteSize_append, hnew] at hfits
    omega
  have hnodir : v.hasDir (Path.join dir (module ++ ".c")) = false := by
    rw [Bool.eq_false_iff]
    intro hthere
    obtain ⟨spot, hspot, hplace⟩ := hasDir_eq_true.mp hthere
    have hfits : path.utf8ByteSize < pathLimit := by
      cases hwritten with
      | kept _ _ hd => exact hshort hd
      | placed _ hd => exact hshort hd
    have hdir' : v.hasDir path = true :=
      hasDir_eq_true.mpr ⟨spot, hspelled.locate hfits hspot, hplace⟩
    rw [← hasDir_congr hdirs, hfree] at hdir'
    cases hdir'
  obtain ⟨d, q, text, hslot, hsaid, hmoved⟩ := hwritten.exists_slot hnodir
  have hslot' := hslot.congr hdirs.symm
  refine ⟨dir, d, q, text, v, hdir, ?_, hslot', ?_, hsaid, hmoved⟩
  · exact hasDir_of_locate_draft hdirne hname hne hlast hslot'.draft
  · exact hspelled.locate (hshort hslot.draft) hslot'.target

/-- Making a skeleton keeps what was there and declares every record, with an empty function for
each of those that were not declared; made once more, it stays as it is. -/
theorem createSkeleton_update (hpath : g.skeletonPath (.str module) = .ok path)
    (hmodule : Path.IsRelative module) (htop : g.mockPath ≠ .str "")
    (hsubdir : ∀ sub, g.subdir = .str sub → Path.IsRelative sub)
    (hreturn : Lacks '\r' module) (hbefore : ∀ file ∈ g.sourceIncludesBefore, Lacks '\r' file)
    (hafter : ∀ file ∈ g.sourceIncludesAfter, Lacks '\r' file)
    (hrecords : ∀ functions, m.functions.bind Listed.all = .ok functions →
      ∀ d ∈ functions, (declared d).Lacks '\r')
    (h : (g.createSkeleton (.str module) m).run w = (.ok (), w'))
    (hfree : w'.files.hasDir path = false) :
    ∃ old functions, Previous w.files path old ∧ m.functions.bind Listed.all = .ok functions ∧
      w'.files.get path = .ok (.text (g.skeletonText module old functions)) ∧
      old.toList <+: (g.skeletonText module old functions).toList ∧
      (∀ d ∈ functions, (declarationText (declared d)).toList <:+:
        (g.skeletonText module old functions).toList) ∧
      ∃ w'', (g.createSkeleton (.str module) m).run w' = (.ok (), w'') ∧
        w'.files.Same w''.files := by
  obtain ⟨old, hold⟩ := exists_previous h hpath
  obtain ⟨dir, d, q, text, v, hdir, hthere, hslot, hplace, hsaid, hmoved⟩ :=
    exists_slot_of_createSkeleton hpath hold hmodule htop hsubdir hfree h
  obtain ⟨functions, hfunctions, hneeds, rfl⟩ := eq_of_says_skeletonChunks hsaid
  have hlacks := lacks_skeletonText hold.lacks hreturn hbefore hafter
    (hrecords functions hfunctions)
  have hheld : ∀ d ∈ functions, (declarationText (declared d)).toList <:+:
      (g.skeletonText module old functions).toList := fun d hd => isInfix_skeletonText hd
  have hcontent : w'.files.content? q = some (.text (g.skeletonText module old functions)) := by
    rw [hmoved.content?, if_pos rfl]
  have hfind : w'.files.find path = .ok q :=
    find_eq_ok.mpr ⟨_, hplace, rfl, .inr ⟨isFile_iff.mpr ⟨_, hcontent⟩, rfl⟩⟩
  have hget : w'.files.get path = .ok (.text (g.skeletonText module old functions)) := by
    unfold FileTree.get
    rw [hfind]
    exact bind_eq_ok.mpr ⟨q, rfl, by rw [hcontent]⟩
  refine ⟨old, functions, hold, hfunctions, hget, isPrefix_skeletonText .., hheld, ?_⟩
  have hold' : Previous w'.files path (g.skeletonText module old functions) := by
    rw [Previous, if_pos (exists?_eq_true.mpr ⟨q, hfind⟩)]
    exact bind_eq_ok.mpr ⟨_, hget, Content.read_text hlacks⟩
  have hsaid' : Says (g.skeletonChunks (.str module) (g.skeletonText module old functions) m)
      (g.skeletonText module old functions) :=
    says_skeletonChunks_self hfunctions hneeds
      (fun d hd => hasPart_iff.mpr (hheld d hd)) (endsLine_skeletonText ..)
  obtain ⟨u, hrun, hmoved'⟩ := run_write_of_slot hslot hsaid'
  refine ⟨{ w' with files := u }, ?_, hmoved'.dirs, fun p => ?_⟩
  · rw [run_createSkeleton hpath hold', run_create hdir, createIn, run_bind,
      Job.run_makeDirs_of_hasDir hthere]
    exact hrun
  · have hne := draft_ne hslot.target hslot.draft
    rw [hmoved'.content?]
    by_cases hp : p = q
    · rw [if_pos hp, hp, hcontent]
    by_cases hp' : p = d
    · rw [if_neg hp, if_pos hp', hmoved.content?, if_neg hp, if_pos hp']
    · rw [if_neg hp, if_neg hp']

/-! ## Sample skeletons -/

def workedOn : Workspace where
  files := {
    files := [(["mocks", "sub", "tank.c"], .text "int empty;\nvoid empty(void)\n\x7b\n\x7d"),
      (["mocks", "x.c"], .text "int keep;\n"), (["sub", "x.c"], .text "int keep;\n"),
      (["/", "y.c"], .text "int keep;\n")]
    dirs := [["mocks"], ["mocks", "sub"], ["sub"]] }
  strippables := []

/-- Whether a new generator makes a skeleton, and then something holds. -/
def skeletonHolds (given : Value) (module : String) (m : Material)
    (P : Generator → Workspace → Workspace → Bool) : Bool :=
  match (ofValue given true (.list []) .null .null).run workedOn with
  | (.ok g, w) =>
    match (g.createSkeleton (.str module) m).run w with
    | (.ok (), w') => P g w w'
    | _ => false
  | _ => false

theorem exists_of_skeletonHolds {given : Value} {P : Generator → Workspace → Workspace → Bool}
    (h : skeletonHolds given module m P = true) :
    ∃ g w w', (ofValue given true (.list []) .null .null).run workedOn = (.ok g, w) ∧
      (g.createSkeleton (.str module) m).run w = (.ok (), w') ∧ P g w w' = true := by
  unfold skeletonHolds at h
  split at h
  · rename_i g w hg
    split at h
    · rename_i w' hrun
      exact ⟨g, w, w', hg, hrun, h⟩
    · cases h
  · cases h

/-- A skeleton that declares one of two functions already. -/
theorem createSkeleton_update_tank :
    ∃ g w w', (ofValue (.map [(.str ":subdir", .str "sub")]) true (.list []) .null .null).run
        workedOn = (.ok g, w) ∧
      (g.createSkeleton (.str "tank") (.ofValue Sample.tank)).run w = (.ok (), w') ∧
      ∃ old functions, Previous w.files "mocks/sub/tank.c" old ∧
        (Material.ofValue Sample.tank).functions.bind Listed.all = .ok functions ∧
        w'.files.get "mocks/sub/tank.c" = .ok (.text (g.skeletonText "tank" old functions)) ∧
        old.toList <+: (g.skeletonText "tank" old functions).toList ∧
        (∀ d ∈ functions, (declarationText (declared d)).toList <:+:
          (g.skeletonText "tank" old functions).toList) ∧
        ∃ w'', (g.createSkeleton (.str "tank") (.ofValue Sample.tank)).run w' = (.ok (), w'') ∧
          w'.files.Same w''.files := by
  have hholds : skeletonHolds (.map [(.str ":subdir", .str "sub")]) "tank" (.ofValue Sample.tank)
      (fun g _ w' => decide (
        (g.skeletonPath (.str "tank")).toOption = some "mocks/sub/tank.c" ∧
        (g.mockPath.text? = some "mocks" ∧ g.subdir.text? = some "sub") ∧
        (∀ file ∈ g.sourceIncludesBefore, Lacks '\r' file) ∧
        (∀ file ∈ g.sourceIncludesAfter, Lacks '\r' file) ∧
        w'.files.hasDir "mocks/sub/tank.c" = false)) := by
    decide +kernel
  have hrecords : ∀ functions, (Material.ofValue Sample.tank).functions.bind Listed.all =
      .ok functions → ∀ d ∈ functions, (declared d).Lacks '\r' := by
    intro functions h
    obtain rfl := Except.ok.inj h
    decide +kernel
  obtain ⟨g, w, w', hmade, hrun, hcheck⟩ := exists_of_skeletonHolds hholds
  obtain ⟨hpath, ⟨htop, hsub⟩, hbefore, hafter, hfree⟩ := of_decide_eq_true hcheck
  refine ⟨g, w, w', hmade, hrun, createSkeleton_update (eq_ok_of_toOption hpath)
    (by decide) ?_ ?_ (by decide) hbefore hafter hrecords hrun hfree⟩
  · intro hempty
    rw [hempty] at htop
    exact absurd (Option.some.inj htop) (by decide)
  · intro sub hsubdir
    rw [hsubdir] at hsub
    obtain rfl := Option.some.inj hsub
    decide

/-- What is read from a header that declares nothing. -/
def bare : Value :=
  .record [("functions", .list [])]

/-- Making a skeleton loses what was in a file that someone has worked on. -/
def Overwrites (given : Value) (module file : String) : Prop :=
  ∃ g w w', (ofValue given true (.list []) .null .null).run workedOn = (.ok g, w) ∧
    (g.createSkeleton (.str module) (.ofValue bare)).run w = (.ok (), w') ∧
    w.files.read file = .ok "int keep;\n" ∧
    ∃ text, w'.files.read file = .ok text ∧ ¬"int keep;\n".toList <+: text.toList

theorem overwrites_of_skeletonHolds {given : Value} {file : String}
    (h : skeletonHolds given module (.ofValue bare) (fun _ w w' =>
      decide ((w.files.read file).toOption = some "int keep;\n") &&
        (w'.files.read file).toOption.any fun text =>
          decide (¬"int keep;\n".toList <+: text.toList)) = true) :
    Overwrites given module file := by
  obtain ⟨g, w, w', hg, hrun, hcheck⟩ := exists_of_skeletonHolds h
  obtain ⟨hbefore, hafter⟩ := Bool.and_eq_true_iff.mp hcheck
  obtain ⟨text, htext, hlost⟩ := exists_of_any hafter
  exact ⟨g, w, w', hg, hrun, eq_ok_of_toOption (of_decide_eq_true hbefore), text, htext,
    of_decide_eq_true hlost⟩

/-- Skeletons that do not converge, or that lose what was there: a module name with a carriage
return, which is read as another line end; a subdirectory that leads through a directory with the
name of the skeleton; and a subdirectory that leads through one that is not there yet, a
subdirectory of nowhere and a module name from the root, where the skeleton is not looked for in the
place where it is written. -/
theorem createSkeleton_update_exceptions :
    (∃ g w w', (ofValue .null true (.list []) .null .null).run workedOn = (.ok g, w) ∧
      (g.createSkeleton (.str "a\rb") (.ofValue bare)).run w = (.ok (), w') ∧
      ((g.createSkeleton (.str "a\rb") (.ofValue bare)).run w').2.files.content?
        ["mocks", "a\rb.c"] ≠ w'.files.content? ["mocks", "a\rb.c"]) ∧
    (∃ g w w', (ofValue (.map [(.str ":subdir", .str "y.c/..")]) true (.list []) .null .null).run
        workedOn = (.ok g, w) ∧
      (g.createSkeleton (.str "y") (.ofValue bare)).run w = (.ok (), w') ∧
      ((g.createSkeleton (.str "y") (.ofValue bare)).run w').1.isOk = false) ∧
    Overwrites (.map [(.str ":subdir", .str "new/..")]) "x" "mocks/x.c" ∧
    Overwrites (.map [(.str ":mock_path", .str ""), (.str ":subdir", .str "sub")]) "x" "sub/x.c" ∧
    Overwrites .null "/y" "/y.c" := by
  refine ⟨?_, ?_, ?_, ?_, ?_⟩
  · have hholds : skeletonHolds .null "a\rb" (.ofValue bare) (fun g _ w' => decide (
        ((g.createSkeleton (.str "a\rb") (.ofValue bare)).run w').2.files.content?
          ["mocks", "a\rb.c"] ≠ w'.files.content? ["mocks", "a\rb.c"])) := by
      decide +kernel
    obtain ⟨g, w, w', hg, hrun, hcheck⟩ := exists_of_skeletonHolds hholds
    exact ⟨g, w, w', hg, hrun, of_decide_eq_true hcheck⟩
  · have hholds : skeletonHolds (.map [(.str ":subdir", .str "y.c/..")]) "y" (.ofValue bare)
        (fun g _ w' =>
          !((g.createSkeleton (.str "y") (.ofValue bare)).run w').1.isOk) := by
      decide +kernel
    obtain ⟨g, w, w', hg, hrun, hcheck⟩ := exists_of_skeletonHolds hholds
    exact ⟨g, w, w', hg, hrun, by simpa using hcheck⟩
  · apply overwrites_of_skeletonHolds
    decide +kernel
  · apply overwrites_of_skeletonHolds
    decide +kernel
  · apply overwrites_of_skeletonHolds
    decide +kernel

end Generator

end MockGen
