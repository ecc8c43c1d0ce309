import MockGen.Proofs.Session.Keeping
import MockGen.Proofs.Header.DefaultReader
import MockGen.Proofs.Options

/-!
# What becomes of the default options

Readers that share the default list of things to strip add to it the words of the declarations that
they are asked to read; nothing else changes the defaults, whatever is set up and asked for.
-/

namespace MockGen

open Job List ReadM HeaderReader Options

/-! ## Options -/

namespace Options

/-- What a reader set up from these options adds to the default list of things to strip. -/
def marks (o : Options) : List Value :=
  if o.sharesStrippables then
    (if o.get ":treat_externs" == .str ":include" then [.str "extern"] else []) ++
      if o.get ":treat_inlines" == .str ":include" then [.str "inline"] else []
  else []

theorem marks_eq_nil_iff (o : Options) : o.marks = [] ↔
    (o.sharesStrippables = true →
      o.get ":treat_externs" ≠ .str ":include" ∧ o.get ":treat_inlines" ≠ .str ":include") := by
  rw [marks, ne_eq, ne_eq, ← Value.beq_str, ← Value.beq_str]
  cases o.sharesStrippables <;> simp

/-- The default options over a default list of things to strip, with the standard comparisons. -/
def initial (strippables : List Value) : Options :=
  (overDefaults strippables []).set ":treat_as" (.map standardTreatAsEntries)

set_option maxRecDepth 10000 in
theorem resolve_null (w : Workspace) :
    (resolve .null).run w = (.ok (initial w.strippables), w) := by
  rfl

theorem initial_inj {s t : List Value} (h : initial s = initial t) : s = t := by
  have hget := congrArg (·.get ":strippables") h
  exact Value.list.inj hget

inductive Call where
  | helperText
  | load (file : Value)
  | includeHelpers

def Call.request (o : Options) : Call → Job Options
  | helperText => do
    let _ ← o.helperText
    return o
  | load file => do
    let _ ← loadValue file
    return o
  | includeHelpers => o.includeHelpers

theorem keeps_request (o : Options) (c : Call) : Keeps (c.request o) := by
  cases c with
  | helperText => exact .bind o.keeps_helperText fun _ => .pure o
  | load file => exact .bind (keeps_loadValue file) fun _ => .pure o
  | includeHelpers => exact .lift _

end Options

/-! ## Readers -/

namespace Job

variable {α β : Type}

/-- The job adds words to the default list of things to strip if it succeeds. -/
def Adds (words : List Value) (x : Job α) : Prop :=
  ∀ w, (x.run w).2.strippables = w.strippables ++ if (x.run w).1.isOk then words else []

namespace Adds

theorem nil {x : Job α} (h : Keeps x) : Adds [] x := by
  intro w
  rw [h w, ite_self, append_nil]

theorem lift_bind {words : List Value} {f : α → Job β} (x : Except Fault α)
    (hf : ∀ a, Adds words (f a)) : Adds words (liftM x >>= f) := by
  intro w
  rw [run_bind, run_lift]
  cases x with
  | error fault => exact (append_nil _).symm
  | ok a => exact hf a w

end Adds

end Job

namespace HeaderReader

theorem run_strip {r : HeaderReader} (hr : r.sharesStrippables = true) (word : String)
    (w : Workspace) :
    (strip word r).run w = (.ok r, { w with strippables := w.strippables ++ [.str word] }) := by
  rw [strip, if_pos hr]
  rfl

theorem keeps_strip {r : HeaderReader} (hr : r.sharesStrippables = false) (word : String) :
    Keeps (strip word r) := by
  rw [strip, hr, if_neg Bool.false_ne_true]
  split
  · exact .pure _
  · exact .throw _

theorem shares_of_strip {r q : HeaderReader} {word : String} {w w' : Workspace}
    (h : (strip word r).run w = (.ok q, w')) : q.sharesStrippables = r.sharesStrippables := by
  rw [strip] at h
  split at h
  · rw [← Except.ok.inj (Prod.mk.inj h).1]
  · split at h
    · rw [← Except.ok.inj (Prod.mk.inj h).1]
    · cases h

theorem adds_strips (r : HeaderReader) (externs inlines : Bool) :
    Adds (if r.sharesStrippables then
        (if externs then [.str "extern"] else []) ++ if inlines then [.str "inline"] else []
      else []) (do
        let r ← if externs then strip "extern" r else pure r
        if inlines then strip "inline" r else pure r) := by
  cases hr : r.sharesStrippables with
  | true =>
    intro w
    have hpure : ∀ u : Workspace, (pure r : Job HeaderReader).run u = (.ok r, u) := fun _ => rfl
    cases externs <;> cases inlines <;>
      simp [run_bind, run_strip hr, hpure, Except.isOk, Except.toBool]
  | false =>
    have hlast : ∀ q : HeaderReader, q.sharesStrippables = false →
        Keeps (if inlines then strip "inline" q else pure q) := fun q hq =>
      .ite (keeps_strip hq _) (.pure q)
    refine .nil (.ite ?_ ?_)
    · exact (keeps_strip hr _).bind_of_run fun q _ _ hq =>
        hlast q ((shares_of_strip hq).trans hr)
    · exact .bind_of_run (.pure r) fun q _ _ hq => by
        cases hq
        exact hlast r hr

theorem adds_ofOptions (o : Options) : Adds o.marks (ofOptions o) :=
  .lift_bind _ fun _ => .lift_bind _ fun _ => .lift_bind _ fun _ => .lift_bind _ fun _ =>
    .lift_bind _ fun _ => .lift_bind _ fun _ => .lift_bind _ fun _ => .lift_bind _ fun _ =>
      .lift_bind _ fun _ => adds_strips _ _ _

set_option maxRecDepth 10000 in
theorem ofOptions_null (w : Workspace) : (Options.resolve .null >>= ofOptions).run w =
    (.ok ⟨{ Header.Rules.standard with strippables := .list w.strippables }, true, ["void"], {}⟩,
      w) := by
  rw [run_bind, resolve_null]
  rfl

/-- The options again, if a reader can be set up from them. -/
def accepted (o : Options) : Job Options := do
  let _ ← ofOptions o
  return o

theorem strippables_setUp {α β : Type} {x : Job α} (hx : Keeps x) (options : α → Options)
    {rest : α → HeaderReader → Job β} (hrest : ∀ a r, Keeps (rest a r)) (w : Workspace) :
    ((x >>= fun a => ofOptions (options a) >>= rest a).run w).2.strippables =
      w.strippables ++
        (((x >>= fun a => accepted (options a)).run w).1.toOption.elim [] Options.marks) := by
  have hw := hx w
  rw [run_bind, run_bind]
  generalize x.run w = done at hw ⊢
  rcases done with ⟨_ | a, u⟩
  · exact hw.trans (append_nil _).symm
  · have hadds := adds_ofOptions (options a) u
    dsimp only at hw ⊢
    rw [accepted, run_bind, run_bind, ← hw]
    generalize (ofOptions (options a)).run u = made at hadds ⊢
    rcases made with ⟨_ | r, v⟩
    · exact hadds
    · exact (hrest a r v).trans hadds

end HeaderReader

/-- The options of a session and its plugins, which are loaded before the reader is made. -/
def Session.prepared (given : Value) : Job (Options × Plugins) := do
  let o ← Options.resolve given
  let settings := Settings.ofOptions o (some (← Comparisons.ofOptions o))
  return (o, ← Plugins.load o settings)

theorem Session.keeps_prepared (given : Value) : Keeps (prepared given) :=
  .bind (keeps_resolve given) fun o => .bind (Comparisons.keeps_ofOptions o) fun _ =>
    .bind (Plugins.keeps_load o _) fun _ => .pure _

theorem Session.exists_start (given : Value) :
    ∃ rest : Options × Plugins → HeaderReader → Job Session, (∀ p r, Keeps (rest p r)) ∧
      start given = prepared given >>= fun p => ofOptions p.1 >>= rest p := by
  refine ⟨fun p reader => do
    let generator ← Generator.ofOptions p.1 p.2
    ((p.1.get ":verbosity").isBelow? 2).elim (throw .wrongKind) fun silent =>
      return { reader, generator, silent }, fun p reader => .bind (.lift _) fun generator => ?_, ?_⟩
  · cases (p.1.get ":verbosity").isBelow? 2 with
    | none => exact .throw _
    | some silent => exact .pure _
  · simp only [start, prepared, bind_assoc, pure_bind]
    refine bind_congr fun o => bind_congr fun _ => bind_congr fun _ => bind_congr fun reader =>
      bind_congr fun generator => ?_
    cases (o.get ":verbosity").isBelow? 2 with
    | none => rfl
    | some silent => rfl

/-! ## Objects -/

/-- A workspace with the objects that were set up in it. -/
structure Desk where
  workspace : Workspace
  options : List Options := []
  readers : List HeaderWork := []
  sessions : List Session := []

inductive Action where
  | newOptions (given : Value)
  | newReader (moduleName : String) (given : Value)
  | newSession (given : Value)
  | askOptions (i : Nat) (c : Options.Call)
  | askReader (i : Nat) (c : HeaderWork.Call)
  | askSession (i : Nat) (c : Session.Call)

namespace Desk

/-- What an action leaves.  An object that cannot be set up is not there afterwards, and asking an
object that is not there does nothing. -/
def perform (d : Desk) : Action → Desk
  | .newOptions given =>
    let (outcome, workspace) := (Options.resolve given).run d.workspace
    { d with workspace, options := d.options ++ outcome.toOption.toList }
  | .newReader moduleName given =>
    let (outcome, workspace) := (HeaderWork.ofOptions moduleName given).run d.workspace
    { d with workspace, readers := d.readers ++ outcome.toOption.toList }
  | .newSession given =>
    let (outcome, workspace) := (Session.start given).run d.workspace
    { d with workspace, sessions := d.sessions ++ outcome.toOption.toList }
  | .askOptions i c =>
    match d.options[i]? with
    | none => d
    | some o =>
      let (outcome, workspace) := (c.request o).run d.workspace
      { d with workspace, options := d.options.set i (outcome.toOption.getD o) }
  | .askReader i c =>
    match d.readers[i]? with
    | none => d
    | some r =>
      let ((_, r), workspace) := (c.request.run r).run d.workspace
      { d with workspace, readers := d.readers.set i r }
  | .askSession i c =>
    match d.sessions[i]? with
    | none => d
    | some s =>
      let ((_, s), workspace) := (c.request.run s).run d.workspace
      { d with workspace, sessions := d.sessions.set i s }

def after (d : Desk) (actions : List Action) : Desk :=
  actions.foldl perform d

/-- The options from which an action sets up a reader, if it comes to that. -/
def readerOptions? (d : Desk) : Action → Option Options
  | .newReader _ given =>
    ((Options.resolve given >>= accepted).run d.workspace).1.toOption
  | .newSession given =>
    ((Session.prepared given >>= fun p => accepted p.1).run d.workspace).1.toOption
  | _ => none

/-- The words that an action adds to the default list of things to strip. -/
def marks (d : Desk) (a : Action) : List Value :=
  (d.readerOptions? a).elim [] Options.marks

/-- The words that actions add to the default list of things to strip, in order. -/
def allMarks (d : Desk) : List Action → List Value
  | [] => []
  | a :: rest => d.marks a ++ (d.perform a).allMarks rest

theorem strippables_perform (d : Desk) (a : Action) :
    (d.perform a).workspace.strippables = d.workspace.strippables ++ d.marks a := by
  have hkept : ∀ {s : List Value}, s = d.workspace.strippables →
      s = d.workspace.strippables ++ [] :=
    fun h => h.trans (append_nil _).symm
  cases a with
  | newOptions given => exact hkept (keeps_resolve given d.workspace)
  | newReader moduleName given =>
    exact strippables_setUp (keeps_resolve given) id
      (fun _ _ => .pure _) d.workspace
  | newSession given =>
    obtain ⟨rest, hrest, hstart⟩ := Session.exists_start given
    rw [perform, hstart]
    exact strippables_setUp (Session.keeps_prepared given) Prod.fst hrest d.workspace
  | askOptions i c =>
    rw [perform]
    cases d.options[i]? with
    | none => exact hkept rfl
    | some o => exact hkept (keeps_request o c d.workspace)
  | askReader i c =>
    rw [perform]
    cases d.readers[i]? with
    | none => exact hkept rfl
    | some r => exact hkept (HeaderWork.keeps_request c r d.workspace)
  | askSession i c =>
    rw [perform]
    cases d.sessions[i]? with
    | none => exact hkept rfl
    | some s => exact hkept (Session.keeps_request c s d.workspace)

theorem strippables_after (d : Desk) (actions : List Action) :
    (d.after actions).workspace.strippables = d.workspace.strippables ++ d.allMarks actions := by
  induction actions generalizing d with
  | nil => exact (append_nil _).symm
  | cons a rest ih =>
    have hstep : (d.after (a :: rest)) = (d.perform a).after rest := rfl
    rw [hstep, ih, strippables_perform, allMarks, append_assoc]

theorem allMarks_eq_nil_iff (d : Desk) (actions : List Action) :
    d.allMarks actions = [] ↔
      ∀ before a later, actions = before ++ a :: later → (d.after before).marks a = [] := by
  induction actions generalizing d with
  | nil =>
    refine iff_of_true rfl fun before a later h => ?_
    simp at h
  | cons a rest ih =>
    rw [allMarks, append_eq_nil_iff, ih]
    constructor
    · rintro ⟨ha, hrest⟩ before b later h
      cases before with
      | nil =>
        obtain ⟨rfl, -⟩ := List.cons.inj h
        exact ha
      | cons c before =>
        obtain ⟨rfl, hsplit⟩ := List.cons.inj h
        exact hrest before b later hsplit
    · intro h
      refine ⟨h [] a rest rfl, fun before b later hsplit => ?_⟩
      exact h (a :: before) b later (by rw [hsplit]; rfl)

/-- No action sets up a reader that shares the default list of things to strip and is asked for
what is marked `extern` or `inline`. -/
def Spares (d : Desk) (actions : List Action) : Prop :=
  ∀ before a later, actions = before ++ a :: later →
    ∀ o ∈ (d.after before).readerOptions? a, o.sharesStrippables = true →
      o.get ":treat_externs" ≠ .str ":include" ∧ o.get ":treat_inlines" ≠ .str ":include"

theorem spares_iff (d : Desk) (actions : List Action) :
    d.Spares actions ↔ d.allMarks actions = [] := by
  rw [allMarks_eq_nil_iff]
  refine forall₄_congr fun before a later _ => ?_
  rw [marks]
  cases (d.after before).readerOptions? a with
  | none => simp
  | some o => simp [← marks_eq_nil_iff]

/-- What a reader with the default options makes of a header. -/
def reads (d : Desk) (name : String) (source : List Char) : Except Fault Header.Parsed :=
  ((Options.resolve .null >>= ofOptions >>= fun r =>
    ExceptT.mk (r.outcome name source)).run d.workspace).1

theorem reads_eq (d : Desk) (name : String) (source : List Char) :
    d.reads name source = ((Header.parse
      { Header.Rules.standard with strippables := .list d.workspace.strippables } name source).run
        { project := { moduleName := name }, voids := ["void"] }).1 := by
  rw [reads, run_bind, ofOptions_null]
  generalize Header.Rules.standard = rules
  rfl

/-- Whatever is set up and asked for, the default options are afterwards those over the default list
with the words that readers added to it.  They are as before exactly if no reader shares the list
and is asked for what is marked `extern` or `inline`; a reader with the default options then
makes of every header what it made of it before. -/
theorem defaults_after_iff (d : Desk) (actions : List Action) :
    ((Options.resolve .null).run (d.after actions).workspace).1 =
        .ok (Options.initial (d.workspace.strippables ++ d.allMarks actions)) ∧
      (((Options.resolve .null).run (d.after actions).workspace).1 =
          ((Options.resolve .null).run d.workspace).1 ↔ d.Spares actions) ∧
      (d.Spares actions →
        ∀ name source, (d.after actions).reads name source = d.reads name source) := by
  have hafter := d.strippables_after actions
  rw [resolve_null, resolve_null, hafter, spares_iff]
  refine ⟨rfl, ?_, fun hspares name source => ?_⟩
  · constructor
    · intro h
      exact append_right_eq_self.mp (initial_inj (Except.ok.inj h))
    · intro h
      rw [h, append_nil]
  · rw [reads_eq, reads_eq, hafter, hspares, append_nil]

/-- The desk before anything is set up, without files. -/
def empty : Desk where
  workspace := { strippables := Options.defaultStrippables }

/-- A reader with a list of its own that is asked for what is marked `extern`, and a session with
the default options. -/
def ownList : List Action := [
  .newReader "tank" (.map [(.str ":treat_externs", .str ":include"),
    (.str ":strippables", .list [])]),
  .askReader 0 (.parse (.str "tank") (.str "extern int level(void);")), .newSession .null]

theorem defaults_after_ownList : empty.Spares ownList ∧
    ∀ name source, (empty.after ownList).reads name source = empty.reads name source := by
  have hspares : empty.Spares ownList :=
    (spares_iff empty ownList).mpr (isEmpty_iff.mp (by decide +kernel))
  exact ⟨hspares, (defaults_after_iff empty ownList).2.2 hspares⟩

/-- A reader with the default list that is asked for what is marked `extern`. -/
def sharedList : List Action := [
  .newReader "tank" (.map [(.str ":treat_externs", .str ":include")])]

/-- The default options are not what they were, and with them a header that had no function for a
mock has one. -/
theorem defaults_after_sharedList :
    ((Options.resolve .null).run (empty.after sharedList).workspace).1 ≠
        ((Options.resolve .null).run empty.workspace).1 ∧
      (empty.reads "h" "extern int f(void);".toList).toOption.map
        (·.functions.map (·.name)) = some [] ∧
      ((empty.after sharedList).reads "h" "extern int f(void);".toList).toOption.map
        (·.functions.map (·.name)) = some ["f"] := by
  refine ⟨fun h => ?_, ?_, ?_⟩
  · have hmarks : (empty.allMarks sharedList).length = 1 := by decide +kernel
    rw [resolve_null, resolve_null, strippables_after] at h
    rw [append_right_eq_self.mp (initial_inj (Except.ok.inj h))] at hmarks
    cases hmarks
  · decide +kernel
  · decide +kernel

end Desk

end MockGen
