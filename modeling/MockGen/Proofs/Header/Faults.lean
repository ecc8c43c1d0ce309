import MockGen.Proofs.Header.Run

/-!
# Where a header is refused

Where a header is refused because of an unreadable declaration: only where a selected declaration is
read.
-/

namespace MockGen

/-- A computation that does not fail because of an unreadable declaration. -/
def Spares {α : Type} (x : Except Fault α) : Prop :=
  ∀ text, x ≠ .error (.unreadableDeclaration text)

namespace Spares

variable {α β : Type} {f : α → Except Fault β} {x : Except Fault α}

theorem ok (a : α) : Spares (.ok a) := by
  intro text h
  cases h

theorem bind (hx : Spares x) (hf : ∀ a, Spares (f a)) : Spares (x >>= f) := by
  cases x with
  | error e =>
    intro text h
    exact hx text (congrArg Except.error (Except.error.inj h))
  | ok a => exact hf a

theorem map (hx : Spares x) (f : α → β) : Spares (x.map f) := by
  cases x with
  | error e =>
    intro text h
    exact hx text (congrArg Except.error (Except.error.inj h))
  | ok a => exact ok _

theorem mapM (hf : ∀ a, Spares (f a)) (xs : List α) : Spares (xs.mapM f) := by
  induction xs with
  | nil => exact ok _
  | cons x xs ih =>
    rw [List.mapM_cons]
    exact bind (hf x) fun _ => bind ih fun _ => ok _

end Spares

/-! ## Values and patterns -/

theorem Value.spares_asText (v : Value) : Spares v.asText := by
  cases v <;> simp [Spares, asText]

theorem Value.spares_items (v : Value) : Spares v.items := by
  cases v <;> simp [Spares, items]

namespace Header

variable {r : Rules} {declared source : List Char} {text name : String} {found : List (List Char)}

theorem spares_patternOf (t : List Char) : Spares (patternOf t) := by
  rw [patternOf]
  split <;> simp [Spares]

theorem spares_readPattern (v : Value) : Spares (readPattern v) :=
  v.spares_asText.bind fun _ => spares_patternOf _

theorem spares_removeAll (patterns : List Value) (t : List Char) :
    Spares (removeAll patterns t) := by
  induction patterns generalizing t with
  | nil => exact .ok _
  | cons v rest ih => exact (spares_readPattern v).bind fun p => ih _

theorem spares_strip (v : Value) (t : List Char) : Spares (strip v t) := by
  rw [strip]
  split
  · have htext : Spares (strippableText v) :=
      v.spares_items.bind fun items => (Spares.mapM Value.spares_asText items).bind fun _ => .ok _
    exact htext.bind fun text => (spares_patternOf text).bind fun p => .ok _
  · exact .ok _

theorem spares_reduced (r : Rules) (source : List Char) (cpp : Bool) :
    Spares (reduced r source cpp) := by
  rw [reduced]
  dsimp only
  split
  · exact r.inlinePatterns.spares_items.bind fun items => (spares_removeAll items _).bind fun t =>
      (spares_strip _ _).bind fun u => .ok _
  · exact (Spares.ok _).bind fun t => (spares_strip _ _).bind fun u => .ok _

theorem spares_notesOn (r : Rules) (header : String) (found : List (List Char)) :
    Spares (notesOn r header found) := by
  rw [notesOn]
  split
  · exact .ok _
  · split
    · simp [Spares]
    · split
      · refine Spares.bind ?_ fun loud => ?_
        · rw [atLeastOne]
          split <;> simp [Spares]
        · cases loud <;> exact .ok _
      · exact .ok _

theorem spares_prepare (r : Rules) (name : String) (source : List Char) :
    Spares (prepare r name source) :=
  (spares_reduced r source false).bind fun _ => (spares_notesOn r name _).bind fun _ =>
    (spares_reduced r source true).bind fun _ => .ok _

theorem spares_finish (r : Rules) (source : List Char) (members : List ScopedDeclaration)
    (functions : List Prototype) (project : Project) :
    Spares (finish r source members functions project) := by
  rw [finish]
  split
  · refine Spares.map ?_ _
    rw [normalizedOf]
    split
    · have hpattern : ∀ v, Spares (inlinePattern v) := fun v =>
        (spares_readPattern v).bind fun _ => v.spares_asText.bind fun _ => spares_patternOf _
      exact r.inlinePatterns.spares_items.bind fun items =>
        (Spares.mapM hpattern items).bind fun _ => .ok _
    · exact .ok _
  · simp [Spares]

/-! ## Declarations -/

theorem spares_typeAndName (r : Rules) (t : List Char) : Spares (typeAndName r t) := by
  rw [typeAndName]
  dsimp only
  split <;> simp [Spares]

theorem spares_argument (r : Rules) (item : List Char) : Spares (argument r item) := by
  refine (spares_typeAndName r item).bind fun parsed => Spares.bind ?_ fun element => ?_
  · rw [elementType?]
    split
    · simp [Spares]
    · split <;> exact .ok _
  · cases element with
    | none => exact .ok _
    | some element =>
      dsimp only
      split <;> exact .ok _

theorem spares_argumentsOf (r : Rules) (items : List (List Char)) :
    Spares (argumentsOf r items) := by
  induction items with
  | nil => exact .ok _
  | cons item rest ih =>
    rw [argumentsOf]
    dsimp only
    split
    · exact .ok _
    · exact (spares_argument r _).bind fun a => ih.bind fun _ => .ok _

theorem spares_markArrays (r : Rules) (isSize : Bool) (args : List Argument) :
    Spares (markArrays r isSize args) := by
  induction args generalizing isSize with
  | nil => exact .ok _
  | cons a rest ih =>
    have hsize : ∀ next, Spares (isSizeParameter r next) := fun next =>
      (spares_readPattern _).bind fun _ => .ok _
    have marks : ∀ isData, Spares (markArrays r isData rest >>= fun more =>
        .ok ({ a with isArrayData := isData, isArraySize := isSize } :: more)) := fun isData =>
      (ih isData).bind fun _ => .ok _
    rw [markArrays]
    split
    · split
      · exact (hsize _).bind marks
      · exact marks false
    · exact marks false

theorem spares_arguments (r : Rules) (list : List Char) : Spares (arguments r list) := by
  refine (spares_argumentsOf r _).bind fun result => ?_
  obtain ⟨args, complete⟩ := result
  dsimp only
  split
  · exact spares_markArrays r false args
  · exact .ok _

theorem prototype_unreadable {s t : Reading} :
    (prototype r declared [] none).run s = (.error (.unreadableDeclaration text), t) ↔
      declaration.matchStart? declared = none ∧ text = String.ofList declared ∧ t = s := by
  rw [prototype_run]
  cases declaration.matchStart? declared with
  | none =>
    constructor
    · intro h
      obtain ⟨hfault, rfl⟩ := Prod.mk.inj h
      obtain rfl := Fault.unreadableDeclaration.inj (Except.error.inj hfault)
      exact ⟨rfl, rfl, rfl⟩
    · rintro ⟨-, rfl, rfl⟩
      rfl
  | some m =>
    refine ⟨fun h => ?_, by rintro ⟨h, -⟩; cases h⟩
    dsimp only at h
    split at h
    · rename_i e htype
      obtain ⟨hfault, -⟩ := Prod.mk.inj h
      obtain rfl := Except.error.inj hfault
      exact absurd htype (spares_typeAndName r _ text)
    · split at h
      · rename_i e hargs
        obtain ⟨hfault, -⟩ := Prod.mk.inj h
        obtain rfl := Except.error.inj hfault
        exact absurd hargs (spares_arguments r _ text)
      · split at h <;> cases h

theorem prototypes_unreadable {known : List Prototype} {s t : Reading}
    (h : (prototypes r found known).run s = (.error (.unreadableDeclaration text), t)) :
    ∃ declared ∈ found, declaration.matchStart? declared = none ∧
      text = String.ofList declared := by
  induction found generalizing known s with
  | nil => cases h
  | cons declared rest ih =>
    rw [prototypes, ReadM.run_bind] at h
    split at h
    · rename_i f u hrun
      obtain ⟨d, hd, hnone, rfl⟩ := ih h
      exact ⟨d, by simp [hd], hnone, rfl⟩
    · rename_i e u hrun
      obtain ⟨hfault, -⟩ := Prod.mk.inj h
      obtain rfl := Except.error.inj hfault
      obtain ⟨hnone, rfl, -⟩ := prototype_unreadable.mp hrun
      exact ⟨declared, by simp, hnone, rfl⟩

theorem prototypes_ne_ok (hmem : declared ∈ found)
    (hnone : declaration.matchStart? declared = none) {known fs : List Prototype} {s t : Reading} :
    (prototypes r found known).run s ≠ (.ok fs, t) := by
  intro h
  induction found generalizing known s with
  | nil => cases hmem
  | cons first rest ih =>
    rw [prototypes] at h
    obtain ⟨f, u, hf, hrest⟩ := ReadM.run_bind_eq_ok.mp h
    rcases List.mem_cons.mp hmem with rfl | hmem
    · obtain ⟨m, -, -, hmatch, -⟩ := prototype_run_eq_ok.mp hf
      rw [hnone] at hmatch
      cases hmatch
    · exact ih hmem hrest

theorem parse_unreadable {s : Reading}
    (h : ((parse r name source).run s).1 = .error (.unreadableDeclaration text)) :
    ∃ declared ∈ declarationsIn r name source, declaration.matchStart? declared = none ∧
      text = String.ofList declared := by
  cases hprepare : prepare r name source with
  | error e =>
    obtain ⟨left, hleft, -⟩ := parse_run_of_error s hprepare
    rw [hleft] at h
    obtain rfl := Except.error.inj h
    exact absurd hprepare (spares_prepare r name source text)
  | ok p =>
    rw [parse_run_of_ok s hprepare] at h
    rw [← found_of_prepare hprepare]
    split at h
    · rename_i e t hrun
      obtain rfl := Except.error.inj h
      exact prototypes_unreadable hrun
    · exact absurd h (spares_finish r source _ _ _ text)

theorem parse_ne_ok (hmem : declared ∈ declarationsIn r name source)
    (hnone : declaration.matchStart? declared = none) (s : Reading) (parsed : Parsed) :
    ((parse r name source).run s).1 ≠ .ok parsed := by
  intro h
  cases hprepare : prepare r name source with
  | error e =>
    obtain ⟨left, hleft, -⟩ := parse_run_of_error s hprepare
    rw [hleft] at h
    cases h
  | ok p =>
    rw [parse_run_of_ok s hprepare] at h
    rw [← found_of_prepare hprepare] at hmem
    split at h
    · cases h
    · rename_i fs t hrun
      exact prototypes_ne_ok hmem hnone hrun

end Header

end MockGen
