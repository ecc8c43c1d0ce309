import MockGen.Request.Header
import MockGen.Request.Session
import MockGen.Proofs.Header.Isolation
import MockGen.Proofs.Outcome

/-!
# Work that keeps the defaults

Work that leaves the default list of things to strip as it is: all that reads headers, writes files
or prints.
-/

namespace MockGen

open HeaderReader

variable {α : Type}

/-! ## Jobs -/

namespace Job

variable {α β : Type}

/-- The job leaves the default list of things to strip as it is, whether it succeeds or not. -/
def Keeps (x : Job α) : Prop :=
  ∀ w, (x.run w).2.strippables = w.strippables

namespace Keeps

variable {f : α → Job β}

theorem pure (a : α) : Keeps (Pure.pure a : Job α) :=
  fun _ => rfl

theorem throw (fault : Fault) : Keeps (MonadExcept.throw fault : Job α) :=
  fun _ => rfl

theorem get : Keeps (getThe Workspace : Job Workspace) :=
  fun _ => rfl

theorem lift (x : Except Fault α) : Keeps (liftM x : Job α) := by
  intro w
  rw [ReadM.run_lift]

theorem modify {f : Workspace → Workspace} (h : ∀ w, (f w).strippables = w.strippables) :
    Keeps (MonadState.modifyGet fun w => ((), f w) : Job Unit) :=
  h

theorem ite {c : Prop} [Decidable c] {x y : Job α} (hx : Keeps x) (hy : Keeps y) :
    Keeps (if c then x else y) := by
  split
  · exact hx
  · exact hy

theorem bind_of_run {x : Job α} (hx : Keeps x)
    (hf : ∀ a w w', x.run w = (.ok a, w') → Keeps (f a)) : Keeps (x >>= f) := by
  intro w
  have hw := hx w
  rw [ReadM.run_bind]
  rcases hrun : x.run w with ⟨outcome, u⟩
  rw [hrun] at hw
  cases outcome with
  | error fault => exact hw
  | ok a => exact (hf a w u hrun u).trans hw

theorem bind {x : Job α} (hx : Keeps x) (hf : ∀ a, Keeps (f a)) : Keeps (x >>= f) :=
  hx.bind_of_run fun a _ _ _ => hf a

theorem mapM (hf : ∀ a, Keeps (f a)) (l : List α) : Keeps (l.mapM f) := by
  induction l with
  | nil => exact pure _
  | cons a l ih =>
    rw [List.mapM_cons]
    exact (hf a).bind fun _ => ih.bind fun _ => pure _

theorem forM {f : α → Job Unit} (hf : ∀ a, Keeps (f a)) (l : List α) : Keeps (l.forM f) := by
  induction l with
  | nil => exact pure _
  | cons a l ih => exact (hf a).bind fun _ => ih

end Keeps

theorem keeps_print (line : String) : Keeps (print line) :=
  .modify fun _ => rfl

theorem keeps_files : Keeps files :=
  .bind .get fun _ => .pure _

theorem keeps_readFile (path : String) : Keeps (readFile path) :=
  .bind keeps_files fun _ => .lift _

theorem keeps_update (change : FileTree → Except Fault FileTree) : Keeps (update change) :=
  .bind keeps_files fun _ => .bind (.lift _) fun _ => .modify fun _ => rfl

theorem keeps_attempt (change : FileTree → FileTree × Except Fault Unit) :
    Keeps (attempt change) :=
  .bind keeps_files fun _ => .bind (.modify fun _ => rfl) fun _ => .lift _

theorem keeps_makeDirs (path : String) : Keeps (makeDirs path) :=
  keeps_attempt _

end Job

open Job

/-! ## Options -/

namespace Options

theorem keeps_load (file : String) : Keeps (load file) := by
  refine .bind (keeps_readFile file) fun text => ?_
  split
  · exact .throw _
  · exact .throw _
  · exact .throw _
  · exact .pure _
  · exact .throw _

theorem keeps_dropNonList (o : Options) (key : String) : Keeps (dropNonList o key) := by
  refine .bind (.lift _) fun wants => ?_
  cases wants with
  | false => exact .pure _
  | true => exact .bind (keeps_print _) fun _ => .pure _

theorem keeps_requireLists (keys : List String) (o : Options) : Keeps (requireLists keys o) := by
  induction keys generalizing o with
  | nil => exact .pure o
  | cons key rest ih =>
    rw [requireLists]
    exact .ite (.bind (.pure o) ih) (.bind (keeps_dropNonList o key) ih)

theorem keeps_requireListsIfGiven (keys : List String) (o : Options) :
    Keeps (requireListsIfGiven keys o) := by
  induction keys generalizing o with
  | nil => exact .pure o
  | cons key rest ih =>
    rw [requireListsIfGiven]
    exact .ite (.bind (.pure o) ih) (.bind (keeps_dropNonList o key) ih)

theorem keeps_ownEntries (given : Value) : Keeps (ownEntries given) := by
  unfold ownEntries
  dsimp only
  split <;> refine .bind ?_ fun own => by split <;> first | exact .pure _ | exact .throw _
  · exact .pure _
  · exact keeps_load _
  · exact .pure _
  · exact .throw _

theorem keeps_resolve (given : Value) : Keeps (resolve given) :=
  .bind (keeps_ownEntries given) fun _ => .bind .get fun _ =>
    .bind (keeps_requireLists _ _) fun _ => .bind (keeps_requireListsIfGiven _ _) fun _ =>
      .bind (.lift _) fun _ => .bind (.lift _) fun _ => .lift _

theorem keeps_helperText (o : Options) : Keeps (helperText o) := by
  have hread : ∀ path : Value,
      Keeps (do return "\n" ++ (← readFile (← path.asText)) : Job String) :=
    fun path => .bind (.lift _) fun _ => .bind (keeps_readFile _) fun _ => .pure _
  exact .ite (.pure _) (.bind (.lift _) fun paths => .bind (.mapM hread paths) fun _ => .pure _)

theorem keeps_loadValue (file : Value) : Keeps (loadValue file) := by
  cases file with
  | str path => exact keeps_load path
  | int n => exact .ite (.throw _) (.ite (.throw _) (.throw _))
  | _ => exact .throw _

end Options

theorem Comparisons.keeps_ofHelperFiles (o : Options) : Keeps (ofHelperFiles o) := by
  refine .bind o.keeps_helperText fun text => ?_
  cases text with
  | none => exact .pure _
  | some source => exact .pure _

theorem Comparisons.keeps_ofOptions (o : Options) : Keeps (ofOptions o) :=
  .bind (.lift _) fun _ => .bind (keeps_ofHelperFiles o) fun _ => .pure _

/-! ## Plugins -/

namespace Plugin

theorem keeps_fail (name reason : String) : Keeps (fail name reason : Job α) :=
  .bind (keeps_print _) fun _ => .throw _

theorem keeps_failUnknown (name : String) : Keeps (failUnknown name : Job α) := by
  rw [failUnknown]
  exact .ite (keeps_fail _ _) (.ite (.bind (keeps_print _) fun _ => .throw _)
    (.bind (keeps_print _) fun _ => .throw _))

theorem keeps_load (o : Options) (s : Settings) (name : String) : Keeps (load o s name) := by
  rw [load.eq_def]
  split
  · exact keeps_failUnknown name
  · exact .ite (keeps_fail _ _) (.pure _)
  · exact .ite (keeps_fail _ _) (.pure _)
  · exact .pure _

end Plugin

theorem Plugins.keeps_load (o : Options) (s : Settings) : Keeps (load o s) :=
  .bind (.mapM (Plugin.keeps_load o s) _) fun _ => .pure _

/-! ## Files -/

namespace Output

theorem keeps_makeSubdir (top below : Value) : Keeps (makeSubdir top below) :=
  .bind (.lift _) fun _ => .bind (keeps_makeDirs _) fun _ =>
    .ite (.bind (.lift _) fun _ => keeps_makeDirs _) (.pure _)

theorem keeps_settle (path : String) : Keeps (settle path) :=
  .bind keeps_files fun _ => .ite (keeps_update _) (keeps_attempt _)

theorem keeps_write (path : String) (chunks : List Chunk) : Keeps (write path chunks) :=
  .bind (keeps_update _) fun _ => .bind (.lift _) fun _ => keeps_settle path

theorem keeps_create (top : Value) (name : String) (chunks : List Chunk) (below : Value) :
    Keeps (create top name chunks below) :=
  .bind (.lift _) fun _ => .bind (keeps_makeDirs _) fun _ => keeps_write _ _

end Output

namespace Generator

theorem keeps_createMock (g : Generator) (moduleName : Value) (m : Material)
    (extension asked : Value) : Keeps (g.createMock moduleName m extension asked) :=
  .bind (.lift _) fun _ => .bind (Output.keeps_makeSubdir _ _) fun _ => .bind (.lift _) fun _ =>
    .bind (.lift _) fun _ => .forM (fun _ => Output.keeps_create _ _ _ _) _

theorem keeps_skeletonOver (g : Generator) (moduleName : Value) (m : Material) :
    Keeps (g.skeletonOver moduleName m) :=
  .bind (.lift _) fun path => .bind keeps_files fun _ =>
    .ite (.bind (keeps_readFile path) fun _ => .pure _) (.bind (.pure _) fun _ => .pure _)

theorem keeps_createSkeleton (g : Generator) (moduleName : Value) (m : Material) :
    Keeps (g.createSkeleton moduleName m) :=
  .bind (g.keeps_skeletonOver moduleName m) fun _ => Output.keeps_create _ _ _ _

end Generator

/-! ## Requests -/

/-- Requests to an object of some kind, which they may change. -/
abbrev RequestM (σ : Type) := ExceptT Fault (StateT σ (StateM Workspace))

namespace RequestM

variable {σ α β : Type}

/-- The request leaves the default list of things to strip as it is. -/
def Keeps (x : RequestM σ α) : Prop :=
  ∀ s w, ((x.run s).run w).2.strippables = w.strippables

namespace Keeps

theorem pure (a : α) : Keeps (Pure.pure a : RequestM σ α) :=
  fun _ _ => rfl

theorem get : Keeps (MonadState.get : RequestM σ σ) :=
  fun _ _ => rfl

theorem lift (x : Except Fault α) : Keeps (liftM x : RequestM σ α) := by
  intro s w
  cases x <;> rfl

theorem bind {x : RequestM σ α} {f : α → RequestM σ β} (hx : Keeps x) (hf : ∀ a, Keeps (f a)) :
    Keeps (x >>= f) := by
  intro s w
  have hw := hx s w
  have hstep : ((x >>= f).run s).run w =
      match (x.run s).run w with
      | ((.ok a, t), u) => ((f a).run t).run u
      | ((.error fault, t), u) => ((.error fault, t), u) := by
    have hcont : ((x >>= f).run s).run w =
        (ExceptT.bindCont f ((x.run s).run w).1.1 ((x.run s).run w).1.2).run
          ((x.run s).run w).2 := rfl
    rw [hcont]
    rcases (x.run s).run w with ⟨⟨outcome, t⟩, u⟩
    cases outcome <;> rfl
  rw [hstep]
  rcases hrun : (x.run s).run w with ⟨⟨outcome, t⟩, u⟩
  rw [hrun] at hw
  cases outcome with
  | error fault => exact hw
  | ok a => exact (hf a t u).trans hw

theorem forM {f : α → RequestM σ Unit} (hf : ∀ a, Keeps (f a)) (l : List α) :
    Keeps (l.forM f) := by
  induction l with
  | nil => exact pure _
  | cons a l ih => exact (hf a).bind fun _ => ih

end Keeps

end RequestM

namespace HeaderWork

open RequestM

/-- What can be asked of a reader of headers. -/
inductive Call where
  | parse (name source : Value)
  | statements (source cpp : Value)
  | cleanArguments (list : Value)
  | prototype (declared namespaces className : Value)
  | state
  | removeComments (source : Value)
  | flattenBraces (source : Value)
  | countPairs (source : Value)
  | transformInlines (source : Value)
  | staticFunctions (lines : Value)
  | declarations (name lines : Value)
  | typeAndName (declared : Value)
  | arguments (list : Value)
  | isPointer (declared : Value)
  | isConstant (declared : Value)
  | qualifiers (declared : Value)
  | withNames (list : Value)
  | inspectRecord (v : Value)
  | inspectRecords (v : Value)

def Call.request : Call → HeaderM Value
  | parse name source => HeaderWork.parse name source
  | statements source cpp => HeaderWork.statements source cpp
  | cleanArguments list => HeaderWork.cleanArguments list
  | prototype declared namespaces className => HeaderWork.prototype declared namespaces className
  | state => HeaderWork.state
  | removeComments source => HeaderWork.removeComments source
  | flattenBraces source => HeaderWork.flattenBraces source
  | countPairs source => HeaderWork.countPairs source
  | transformInlines source => HeaderWork.transformInlines source
  | staticFunctions lines => HeaderWork.staticFunctions lines
  | declarations name lines => HeaderWork.declarations name lines
  | typeAndName declared => HeaderWork.typeAndName declared
  | arguments list => HeaderWork.arguments list
  | isPointer declared => HeaderWork.isPointer declared
  | isConstant declared => HeaderWork.isConstant declared
  | qualifiers declared => HeaderWork.qualifiers declared
  | withNames list => HeaderWork.withNames list
  | inspectRecord v => HeaderWork.inspectRecord v
  | inspectRecords v => HeaderWork.inspectRecords v

theorem keeps_reading (read : Header.Rules → ReadM α) : RequestM.Keeps (reading read) :=
  fun h w => strippables_run h.reader h.project read w

theorem keeps_rules : RequestM.Keeps rules :=
  fun _ _ => rfl

theorem keeps_parse (name source : Value) : RequestM.Keeps (parse name source) :=
  .bind (.lift _) fun name => .bind (.lift _) fun source h w =>
    strippables_run h.reader h.project
      (fun rules => Header.parse rules name source.toList) w

theorem keeps_request (c : Call) : RequestM.Keeps c.request := by
  have htypedefs : RequestM.Keeps (do return .texts (← get).project.typedefs : HeaderM Value) :=
    .bind .get fun _ => .pure _
  have hvoids : RequestM.Keeps (do
      let reader := (← get).reader
      return .list (← Value.sorted (reader.strays.voids ++ reader.voids.map .str)) :
        HeaderM Value) :=
    .bind .get fun _ => .bind (.lift _) fun _ => .pure _
  cases c with
  | parse name source => exact keeps_parse name source
  | statements source cpp =>
    exact .bind (.lift _) fun _ => .bind (keeps_reading _) fun _ => .bind htypedefs fun _ =>
      .bind hvoids fun _ => .pure _
  | cleanArguments list =>
    exact .bind (.lift _) fun _ => .bind (keeps_reading _) fun _ => .bind htypedefs fun _ =>
      .pure _
  | prototype declared namespaces className =>
    exact .bind (.lift _) fun _ => .bind (keeps_reading _) fun _ => .bind htypedefs fun _ =>
      .pure _
  | state =>
    have hsorted : ∀ (strays : List Value) (names : List String), RequestM.Keeps (do
        return Value.list (← (Value.sorted (strays ++ names.map .str) : Except Fault _)) :
          HeaderM Value) :=
      fun _ _ => .bind (.lift _) fun _ => .pure _
    exact .bind keeps_rules fun _ => .bind .get fun _ => .bind (hsorted _ _) fun _ =>
      .bind (hsorted _ _) fun _ => .bind (hsorted _ _) fun _ => .bind hvoids fun _ =>
        .bind hvoids fun _ => .bind (hsorted _ _) fun _ => .bind (hsorted _ _) fun _ =>
          .bind htypedefs fun _ => .pure _
  | transformInlines source =>
    exact .bind keeps_rules fun _ => .bind (.lift _) fun _ => .bind (.lift _) fun _ =>
      .bind (.lift _) fun _ => .pure _
  | declarations name lines =>
    exact .bind (.lift _) fun _ => .bind (keeps_reading _) fun _ => .pure _
  | typeAndName declared =>
    exact .bind keeps_rules fun _ => .bind (.lift _) fun _ => .bind (.lift _) fun _ => .pure _
  | arguments list =>
    exact .bind keeps_rules fun _ => .bind (.lift _) fun _ => .bind (.lift _) fun _ => .pure _
  | isPointer declared =>
    refine .bind (.lift _) fun holds => ?_
    cases holds with
    | true => exact .bind (.lift _) fun _ => .pure _
    | false => exact .pure _
  | withNames list => exact .bind keeps_rules fun _ => .bind (.lift _) fun _ => .pure _
  | _ => exact .bind (.lift _) fun _ => .pure _

end HeaderWork

namespace Session

inductive Call where
  | generateMock (path folder : Value)
  | generateSkeleton (path : Value)
  | setupMocks (files folder : Value)
  | setupSkeletons (files : Value)

def Call.request : Call → SessionM Unit
  | generateMock path folder => generateMockOf path folder
  | generateSkeleton path => generateSkeletonOf path
  | setupMocks files folder => setupMocksOf files folder
  | setupSkeletons files => setupSkeletonsOf files

theorem keeps_job {j : Job α} (hj : j.Keeps) : RequestM.Keeps (job j) :=
  fun _ w => hj w

theorem keeps_read (name text : String) : RequestM.Keeps (read name text) := fun s w =>
  strippables_run s.reader { moduleName := name }
    (fun rules => Header.parse rules name text.toList) w

theorem keeps_openHeader (verb path : String) : RequestM.Keeps (openHeader verb path) := by
  have hread : ∀ name extension : String, RequestM.Keeps (do
      let text ← job (Job.readFile path)
      return (name, extension, material (← read name text)) : SessionM _) := fun _ _ =>
    .bind (keeps_job (keeps_readFile path)) fun _ => .bind (keeps_read _ _) fun _ => .pure _
  unfold openHeader
  split
  refine .bind .get fun s => ?_
  split
  · exact .bind (keeps_job (keeps_print _)) fun _ => hread _ _
  · exact hread _ _

theorem keeps_generateMock (path : String) (folder : Value) :
    RequestM.Keeps (generateMock path folder) :=
  .bind (keeps_openHeader _ _) fun _ => .bind .get fun s =>
    keeps_job (s.generator.keeps_createMock _ _ _ _)

theorem keeps_generateSkeleton (path : String) : RequestM.Keeps (generateSkeleton path) :=
  .bind (keeps_openHeader _ _) fun _ => .bind .get fun s =>
    keeps_job (s.generator.keeps_createSkeleton _ _)

theorem keeps_request (c : Call) : RequestM.Keeps c.request := by
  have hmock : ∀ path folder, RequestM.Keeps (generateMockOf path folder) := fun _ folder =>
    .bind (.lift _) fun path => keeps_generateMock path folder
  have hskeleton : ∀ path, RequestM.Keeps (generateSkeletonOf path) := fun _ =>
    .bind (.lift _) fun path => keeps_generateSkeleton path
  cases c with
  | generateMock path folder => exact hmock path folder
  | generateSkeleton path => exact hskeleton path
  | setupMocks files folder => exact .forM (fun path => hmock path folder) _
  | setupSkeletons files => exact .forM hskeleton _

end Session

end MockGen
