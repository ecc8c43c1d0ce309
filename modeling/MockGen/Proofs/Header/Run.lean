import MockGen.Header.Reader

/-!
# Reading a header step by step

The steps of reading a header, with the state that they carry made explicit.
-/

namespace MockGen

open Argument

namespace ReadM

theorem run_bind {σ α β : Type} (x : ExceptT Fault (StateM σ) α)
    (f : α → ExceptT Fault (StateM σ) β) (s : σ) :
    (x >>= f).run s =
      match x.run s with
      | (.ok a, t) => (f a).run t
      | (.error e, t) => (.error e, t) := by
  have hstep : (x >>= f).run s = ExceptT.bindCont f (x.run s).1 (x.run s).2 := rfl
  rw [hstep]
  rcases x.run s with ⟨outcome, t⟩
  cases outcome <;> rfl

theorem run_bind_eq_ok {σ α β : Type} {x : ExceptT Fault (StateM σ) α}
    {f : α → ExceptT Fault (StateM σ) β} {s t : σ} {b : β} :
    (x >>= f).run s = (.ok b, t) ↔ ∃ a u, x.run s = (.ok a, u) ∧ (f a).run u = (.ok b, t) := by
  rw [run_bind]
  rcases x.run s with ⟨outcome, u⟩
  cases outcome with
  | error e =>
    constructor
    · intro h
      cases h
    · rintro ⟨a, u', h, -⟩
      cases h
  | ok a =>
    constructor
    · intro h
      exact ⟨a, u, rfl, h⟩
    · rintro ⟨a', u', h, hf⟩
      cases h
      exact hf

theorem run_lift {σ α : Type} (x : Except Fault α) (s : σ) :
    ExceptT.run (liftM x : ExceptT Fault (StateM σ) α) s = (x, s) := by
  cases x <;> rfl

theorem run_pure {α : Type} (a : α) (s : Reading) : (pure a : ReadM α).run s = (.ok a, s) := rfl

theorem run_modify (f : Reading → Reading) (s : Reading) :
    (modify f : ReadM PUnit).run s = (.ok (), f s) := rfl

theorem run_get (s : Reading) : (get : ReadM Reading).run s = (.ok s, s) := rfl

theorem run_set (s t : Reading) : (set t : ReadM PUnit).run s = (.ok (), t) := rfl

end ReadM

namespace Header

open Pattern ReadM

/-! ## Statements -/

theorem statements_run (r : Rules) (source : List Char) (cpp : Bool) (s : Reading) :
    (statements r source cpp).run s =
      match reduced r source cpp with
      | .error e => (.error e, { s with voids := s.voids ++ voidNames source })
      | .ok t =>
        let typed := declarePointers pointerResultUse (pointerResult.pieces t) s.project 0
        (.ok (statementsOf r cpp typed.1),
          { s with voids := s.voids ++ voidNames source, project := typed.2.1 }) := by
  cases hreduced : reduced r source cpp with
  | error e => simp only [statements, run_bind, run_modify, run_lift, hreduced]
  | ok t => simp only [statements, run_bind, run_modify, run_lift, run_get, run_set, run_pure,
      hreduced]

/-! ## Declarations -/

/-- What selecting declarations notes or refuses: something only when there are none. -/
def notesOn (r : Rules) (header : String) (found : List (List Char)) :
    Except Fault (List String) :=
  if !found.isEmpty then .ok []
  else if r.whenNoPrototypes == .str "error" then .error (.noPrototypes header)
  else if r.whenNoPrototypes == .str "warn" then do
    if ← atLeastOne r.verbosity then
      return [s!"WARNING: No function prototypes found by CMock in {header}"]
    else return []
  else .ok []

theorem declarations_run (r : Rules) (header : String) (lines : List (List Char)) (s : Reading) :
    (declarations r header lines).run s =
      match notesOn r header (selected lines) with
      | .error e => (.error e, s)
      | .ok notes => (.ok (selected lines), { s with notes := s.notes ++ notes }) := by
  have hnone : s = { s with notes := s.notes ++ [] } := by simp
  rw [declarations, notesOn]
  cases (selected lines).isEmpty with
  | false => exact congrArg (Prod.mk (Except.ok (selected lines))) hnone
  | true =>
    cases r.whenNoPrototypes == .str "error" with
    | true => rfl
    | false =>
      cases r.whenNoPrototypes == .str "warn" with
      | false => exact congrArg (Prod.mk (Except.ok (selected lines))) hnone
      | true =>
        cases atLeastOne r.verbosity with
        | error e => rfl
        | ok loud =>
          cases loud with
          | true => rfl
          | false => exact congrArg (Prod.mk (Except.ok (selected lines))) hnone

/-! ## Prototypes -/

/-- The record of a declaration that has been taken apart. -/
def prototypeOf (scope : List String × Option String) (parsed : TypedName) (returned : Returned)
    (varArg : Option String) (list : List Char) (args : List Argument) : Prototype where
  name := scopedName scope.1 scope.2 parsed.name
  unscopedName := parsed.name
  namespaces := scope.1
  className := scope.2
  modifier := parsed.modifier
  callingConvention := parsed.callingConvention
  returned := returned
  args := args
  argsString := String.ofList list
  argsCall := ", ".intercalate (args.map name)
  containsPtr := args.any isPtr
  varArg := varArg

theorem prototypeUnder_run (r : Rules) (declared : List Char)
    (scope : Except Fault (List String × Option String)) (s : Reading) :
    (prototypeUnder r declared scope).run s =
      match declaration.matchStart? declared with
      | none => (.error (.unreadableDeclaration (String.ofList declared)), s)
      | some m =>
        match typeAndName r (m.group 1) with
        | .error e => (.error e, s)
        | .ok parsed =>
          match scope with
          | .error e => (.error e, s)
          | .ok scope =>
            let returned := returnedOf s.voids parsed
            let split := splitVarArg (Text.strip (m.group 2))
            let cleaned := cleanArguments r split.2 s
            match arguments r cleaned.1 with
            | .error e => (.error e, cleaned.2)
            | .ok args =>
              if returned.type == "" then
                (.error (.incompletePrototype (String.ofList declared) parsed.modifier
                  (inspectRecord returned.entries) (scopedName scope.1 scope.2 parsed.name)
                  (inspectRecords (args.map entries))), cleaned.2)
              else (.ok (prototypeOf scope parsed returned split.1 cleaned.1 args),
                cleaned.2) := by
  rw [prototypeUnder]
  cases declaration.matchStart? declared with
  | none => rfl
  | some m =>
    cases htype : typeAndName r (m.group 1) with
    | error e => simp only [run_bind, run_lift, htype]
    | ok parsed =>
      cases scope with
      | error e => simp only [run_bind, run_lift, htype]
      | ok scope =>
        simp only [run_bind, run_lift, htype, run_get, run_set]
        cases hargs :
            arguments r (cleanArguments r (splitVarArg (Text.strip (m.group 2))).2 s).1 with
        | error e => rfl
        | ok args =>
          dsimp only
          split
          · rfl
          · rfl

theorem prototype_run (r : Rules) (declared : List Char) (s : Reading) :
    (prototype r declared [] none).run s =
      match declaration.matchStart? declared with
      | none => (.error (.unreadableDeclaration (String.ofList declared)), s)
      | some m =>
        match typeAndName r (m.group 1) with
        | .error e => (.error e, s)
        | .ok parsed =>
          let returned := returnedOf s.voids parsed
          let split := splitVarArg (Text.strip (m.group 2))
          let cleaned := cleanArguments r split.2 s
          match arguments r cleaned.1 with
          | .error e => (.error e, cleaned.2)
          | .ok args =>
            if returned.type == "" then
              (.error (.incompletePrototype (String.ofList declared) parsed.modifier
                (inspectRecord returned.entries) (scopedName [] none parsed.name)
                (inspectRecords (args.map entries))), cleaned.2)
            else (.ok (prototypeOf ([], none) parsed returned split.1 cleaned.1 args),
              cleaned.2) :=
  prototypeUnder_run r declared (.ok ([], none)) s

theorem prototype_run_eq_ok {r : Rules} {declared : List Char} {namespaces : List String}
    {className : Option String} {s t : Reading} {f : Prototype} :
    (prototype r declared namespaces className).run s = (.ok f, t) ↔
      ∃ m parsed args, declaration.matchStart? declared = some m ∧
        typeAndName r (m.group 1) = .ok parsed ∧
        arguments r (cleanArguments r (splitVarArg (Text.strip (m.group 2))).2 s).1 = .ok args ∧
        (returnedOf s.voids parsed).type ≠ "" ∧
        f = prototypeOf (namespaces, className) parsed (returnedOf s.voids parsed)
          (splitVarArg (Text.strip (m.group 2))).1
          (cleanArguments r (splitVarArg (Text.strip (m.group 2))).2 s).1 args ∧
        t = (cleanArguments r (splitVarArg (Text.strip (m.group 2))).2 s).2 := by
  rw [prototype, prototypeUnder_run]
  constructor
  · intro h
    split at h
    · cases h
    · rename_i m hmatch
      split at h
      · cases h
      · rename_i parsed htype
        dsimp only at h
        split at h
        · cases h
        · rename_i args hargs
          split at h
          · cases h
          · rename_i hempty
            obtain ⟨hf, ht⟩ := Prod.mk.inj h
            exact ⟨m, parsed, args, hmatch, htype, hargs, by simpa using hempty,
              (Except.ok.inj hf).symm, ht.symm⟩
  · rintro ⟨m, parsed, args, hmatch, htype, hargs, hempty, rfl, rfl⟩
    simp only [hmatch, htype, hargs, beq_iff_eq, hempty, if_false]

/-! ## Headers -/

/-- The project that a header starts with. -/
def projectOf (name : String) : Project :=
  { moduleName := String.ofList (identifierOf name.toList) }

/-- A header before its declarations are read. -/
structure Prepared where
  found : List (List Char)
  members : List ScopedDeclaration
  project : Project
  notes : List String

/-- The steps of reading a header that do not look at the names for `void`. -/
def prepare (r : Rules) (name : String) (source : List Char) : Except Fault Prepared := do
  let t ← reduced r source false
  let typed := declarePointers pointerResultUse (pointerResult.pieces t) (projectOf name) 0
  let found := selected (statementsOf r false typed.1)
  let notes ← notesOn r name found
  let u ← reduced r source true
  let typed' := declarePointers pointerResultUse (pointerResult.pieces u) typed.2.1 0
  return ⟨found, staticFunctions {} (statementsOf r true typed'.1), typed'.2.1, notes⟩

/-- The declarations that are selected from a header. -/
def declarationsIn (r : Rules) (name : String) (source : List Char) : List (List Char) :=
  match reduced r source false with
  | .error _ => []
  | .ok t => selected (statementsOf r false
      (declarePointers pointerResultUse (pointerResult.pieces t) (projectOf name) 0).1)

theorem found_of_prepare {r : Rules} {name : String} {source : List Char} {p : Prepared}
    (h : prepare r name source = .ok p) : p.found = declarationsIn r name source := by
  rw [prepare] at h
  rw [declarationsIn]
  cases hfirst : reduced r source false with
  | error e => simp [hfirst, bind, Except.bind] at h
  | ok t =>
    simp only [hfirst, bind, Except.bind] at h
    split at h
    · cases h
    · split at h
      · cases h
      · rw [← Except.ok.inj h]

/-- The text of a header with plain declarations for inline functions, if those are read. -/
def normalizedOf (r : Rules) (source : List Char) : Except Fault (List Char) :=
  if r.includeInlines then transformInlines r.inlinePatterns source else .ok []

/-- The steps that follow once the declarations have been read. -/
def finish (r : Rules) (source : List Char) (members : List ScopedDeclaration)
    (functions : List Prototype) (project : Project) : Except Fault Parsed :=
  if members.isEmpty then
    (normalizedOf r source).map fun text => ⟨functions, project.typedefs, String.ofList text⟩
  else .error .wrongKind

section

variable {r : Rules} {name : String} {source : List Char} (s : Reading)

theorem parse_run_of_ok {p : Prepared} (h : prepare r name source = .ok p) :
    (parse r name source).run s =
      match (prototypes r p.found []).run {
        project := p.project
        voids := s.voids ++ voidNames source ++ voidNames source
        notes := s.notes ++ p.notes } with
      | (.error e, t) => (.error e, t)
      | (.ok functions, t) => (finish r source p.members functions t.project, t) := by
  simp only [parse, run_bind, run_modify, statements_run, declarations_run]
  rw [prepare] at h
  cases hfirst : reduced r source false with
  | error e => simp [hfirst, bind, Except.bind] at h
  | ok t =>
    simp only [hfirst, bind, Except.bind] at h
    split at h
    · cases h
    · rename_i notes hnotes
      split at h
      · cases h
      · rename_i u hsecond
        obtain rfl := Except.ok.inj h
        rw [projectOf] at hnotes
        simp only [hnotes, hsecond]
        rw [← projectOf]
        generalize ExceptT.run (prototypes r _ []) _ = outcome
        obtain ⟨outcome, left⟩ := outcome
        cases outcome with
        | error e => rfl
        | ok functions =>
          dsimp only
          rw [finish, normalizedOf]
          generalize staticFunctions {} _ = members
          cases members with
          | cons member members => rfl
          | nil =>
            cases r.includeInlines with
            | false => rfl
            | true =>
              cases transformInlines r.inlinePatterns source with
              | error e => rfl
              | ok normalized => rfl

theorem parse_run_of_error {e : Fault} (h : prepare r name source = .error e) :
    ∃ left, (parse r name source).run s = (.error e, left) ∧
      (left.voids = s.voids ++ voidNames source ∨
        left.voids = s.voids ++ voidNames source ++ voidNames source) := by
  simp only [parse, run_bind, run_modify, statements_run, declarations_run]
  rw [prepare] at h
  cases hfirst : reduced r source false with
  | error e' =>
    obtain rfl : e' = e := by simpa [hfirst, bind, Except.bind] using h
    exact ⟨_, rfl, Or.inl rfl⟩
  | ok t =>
    simp only [hfirst, bind, Except.bind] at h
    split at h
    · rename_i e' hnotes
      obtain rfl := Except.error.inj h
      rw [projectOf] at hnotes
      simp only [hnotes]
      exact ⟨_, rfl, Or.inl rfl⟩
    · rename_i notes hnotes
      split at h
      · rename_i e' hsecond
        obtain rfl := Except.error.inj h
        rw [projectOf] at hnotes
        simp only [hnotes, hsecond]
        exact ⟨_, rfl, Or.inr rfl⟩
      · cases h

end

end Header

end MockGen
