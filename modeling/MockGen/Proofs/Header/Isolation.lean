import MockGen.HeaderReader
import MockGen.Proofs.Header.VoidNames

/-!
# What one header leaves behind for the next

A reader keeps the names that headers define as `void`, and nothing else; a later header is read
differently exactly if a declaration in it uses a name that it does not define so itself.
-/

namespace MockGen

open List

namespace Header

open Text Pattern ReadM

/-! ## Declarations in a row -/

/-- The name that a declaration declares. -/
def declaredName? (r : Rules) (declared : List Char) : Option String :=
  match declaration.matchStart? declared with
  | none => none
  | some m =>
    match typeAndName r (m.group 1) with
    | .error _ => none
    | .ok parsed => some parsed.name

/-- The declarations that are the first of their name and have none of the names in `seen`. -/
def firsts (r : Rules) : (seen : List (Option String)) → List (List Char) → List (List Char)
  | _, [] => []
  | seen, declared :: rest =>
    if seen.contains (declaredName? r declared) then firsts r seen rest
    else declared :: firsts r (seen ++ [declaredName? r declared]) rest

def namesOf (known : List Prototype) : List (Option String) :=
  known.map fun f => some f.name

theorem any_name_eq (known : List Prototype) (name : String) :
    known.any (·.name == name) = (namesOf known).contains (some name) := by
  rw [Bool.eq_iff_iff, any_eq_true, contains_iff_mem, namesOf, mem_map]
  simp

theorem voids_prototypes (r : Rules) (found : List (List Char)) (known : List Prototype)
    (s : Reading) : ((prototypes r found known).run s).2.voids = s.voids := by
  induction found generalizing known s with
  | nil => rfl
  | cons declared rest ih =>
    have hstep := voids_prototype r declared s
    rw [prototypes, run_bind]
    split
    · rename_i f t hrun
      rw [hrun] at hstep
      exact (ih _ t).trans hstep
    · rename_i e t hrun
      rw [hrun] at hstep
      exact hstep

section

variable {r : Rules} {V : List String}

theorem prototypes_congr {found : List (List Char)} {s : Reading}
    (h : ∀ declared ∈ found, ∀ x ∈ voidTexts r declared, x ∈ V ↔ x ∈ s.voids)
    (known : List Prototype) :
    (prototypes r found known).run { s with voids := V } =
      (((prototypes r found known).run s).1,
        { ((prototypes r found known).run s).2 with voids := V }) := by
  induction found generalizing known s with
  | nil => rfl
  | cons declared rest ih =>
    have hstep := voids_prototype r declared s
    rw [prototypes, run_bind, run_bind, prototype_congr (h declared (by simp))]
    rcases hrun : (prototype r declared [] none).run s with ⟨outcome, t⟩
    rw [hrun] at hstep
    cases outcome with
    | error e => rfl
    | ok f =>
      refine ih (fun d hd x hx => ?_) _
      rw [show t.voids = s.voids from hstep]
      exact h d (by simp [hd]) x hx

theorem declaredName?_of_ok {declared : List Char} {s t : Reading} {f : Prototype}
    (hf : (prototype r declared [] none).run s = (.ok f, t)) :
    declaredName? r declared = some f.name := by
  obtain ⟨m, parsed, args, hmatch, htype, -, -, rfl, -⟩ := prototype_run_eq_ok.mp hf
  simp only [declaredName?, hmatch, htype]
  rfl

/-- Declarations that can be read can be read with more names for `void`; the records are the same
exactly if no declaration that is kept uses one of the further names. -/
theorem prototypes_of_ok {found : List (List Char)} {known known' fs : List Prototype}
    {s t : Reading} (hfs : (prototypes r found known).run s = (.ok fs, t))
    (hvoid : "void" ∈ s.voids) (hV : ∀ x ∈ s.voids, x ∈ V)
    (hnames : ∀ x ∈ V, x ∉ s.voids → IsName x) (hknown : namesOf known' = namesOf known) :
    ∃ gs, (prototypes r found known').run { s with voids := V } = (.ok gs, { t with voids := V }) ∧
      (gs = fs ↔ known' = known ∧ ∀ declared ∈ firsts r (namesOf known) found,
        ∀ x ∈ voidTexts r declared, x ∈ V → x ∈ s.voids) := by
  induction found generalizing known known' s with
  | nil =>
    obtain ⟨hknownfs, rfl⟩ := Prod.mk.inj hfs
    obtain rfl := Except.ok.inj hknownfs
    exact ⟨known', rfl, by simp [firsts]⟩
  | cons declared rest ih =>
    rw [prototypes, run_bind] at hfs
    rcases hrun : (prototype r declared [] none).run s with ⟨outcome, u⟩
    rw [hrun] at hfs
    cases outcome with
    | error e => cases hfs
    | ok f =>
      have hu : u.voids = s.voids := by
        have := voids_prototype r declared s
        rwa [hrun] at this
      obtain ⟨g, hg, hname, hsame⟩ := prototype_of_ok hrun hvoid hV hnames
      have hrest := fun {k k' : List Prototype} (hk : namesOf k' = namesOf k)
          (h : (prototypes r rest k).run u = (.ok fs, t)) =>
        ih (s := u) h (hu ▸ hvoid) (hu ▸ hV) (hu ▸ hnames) hk
      rw [hu] at hrest
      have hstep : ∀ k, (prototypes r (declared :: rest) k).run { s with voids := V } =
          (prototypes r rest (addPrototype k g)).run { u with voids := V } := by
        intro k
        rw [prototypes, run_bind, hg]
      have hseen : (namesOf known').contains (some g.name) =
          (namesOf known).contains (some f.name) := by
        rw [hname, hknown]
      rw [hstep, firsts, declaredName?_of_ok hrun]
      dsimp only at hfs
      rw [addPrototype, any_name_eq] at hfs ⊢
      cases hold : (namesOf known).contains (some f.name) with
      | true =>
        rw [hold, if_pos rfl] at hfs
        rw [hseen, hold, if_pos rfl, if_pos rfl]
        exact hrest hknown hfs
      | false =>
        rw [hold, if_neg (by simp)] at hfs
        rw [hseen, hold, if_neg (by simp), if_neg (by simp)]
        have hadd : ∀ k f, namesOf (k ++ [f]) = namesOf k ++ [some f.name] := by simp [namesOf]
        have hadded : namesOf (known' ++ [g]) = namesOf (known ++ [f]) := by
          rw [hadd, hadd, hknown, hname]
        obtain ⟨gs, hgs, hiff⟩ := hrest hadded hfs
        refine ⟨gs, hgs, hiff.trans ?_⟩
        rw [hadd, forall_mem_cons, ← hsame]
        constructor
        · rintro ⟨heq, hrest⟩
          obtain ⟨hk, hgf⟩ := append_inj' heq rfl
          exact ⟨hk, singleton_inj.mp hgf, hrest⟩
        · rintro ⟨rfl, rfl, hrest⟩
          exact ⟨rfl, hrest⟩

end

/-! ## Headers -/

section

variable {r : Rules} {name : String} {source : List Char} {s : Reading}

theorem mem_voids_parse {x : String} : x ∈ ((parse r name source).run s).2.voids ↔
    x ∈ s.voids ∨ x ∈ voidNames source := by
  cases hprepare : prepare r name source with
  | error e =>
    obtain ⟨left, hleft, hvoids⟩ := parse_run_of_error s hprepare
    rw [hleft]
    rcases hvoids with hvoids | hvoids <;> simp [hvoids]
  | ok p =>
    have hvoids := voids_prototypes r p.found [] {
      project := p.project
      voids := s.voids ++ voidNames source ++ voidNames source
      notes := s.notes ++ p.notes }
    rw [parse_run_of_ok s hprepare]
    generalize ExceptT.run (prototypes r p.found []) _ = result at hvoids ⊢
    obtain ⟨outcome, t⟩ := result
    dsimp only at hvoids
    cases outcome <;> simp [hvoids]

theorem finish_eq_iff {members : List ScopedDeclaration} {fs gs : List Prototype}
    {project : Project} {parsed : Parsed} (h : finish r source members fs project = .ok parsed) :
    finish r source members gs project = .ok parsed ↔ gs = fs := by
  cases members with
  | cons member members => cases h
  | nil =>
    simp only [finish, isEmpty_nil, if_true] at h ⊢
    cases hnormalized : normalizedOf r source with
    | error e =>
      rw [hnormalized] at h
      cases h
    | ok normalized =>
      rw [hnormalized] at h
      obtain rfl := Except.ok.inj h
      simp [Except.map]

variable {V : List String} (hV : ∀ x ∈ s.voids, x ∈ V)

include hV

theorem parse_congr (h : ∀ declared ∈ declarationsIn r name source,
      ∀ x ∈ voidTexts r declared, x ∈ V → x ∈ s.voids ++ voidNames source) :
    ((parse r name source).run { s with voids := V }).1 = ((parse r name source).run s).1 := by
  cases hprepare : prepare r name source with
  | error e =>
    obtain ⟨left, hleft, -⟩ := parse_run_of_error s hprepare
    obtain ⟨left', hleft', -⟩ := parse_run_of_error { s with voids := V } hprepare
    rw [hleft, hleft']
  | ok p =>
    rw [parse_run_of_ok _ hprepare, parse_run_of_ok _ hprepare]
    rw [← found_of_prepare hprepare] at h
    have hrun := @prototypes_congr r (V ++ voidNames source ++ voidNames source) p.found {
        project := p.project
        voids := s.voids ++ voidNames source ++ voidNames source
        notes := s.notes ++ p.notes } (fun d hd x hx => ?_) []
    · dsimp only at hrun ⊢
      rw [hrun]
      generalize ExceptT.run (prototypes r p.found []) _ = result
      obtain ⟨outcome, t⟩ := result
      cases outcome <;> rfl
    · have hx := h d hd x hx
      have hVx := hV x
      simp only [mem_append] at hx ⊢
      tauto

/-- A header that can be read is read in the same way with more names for `void` exactly if no
declaration that is kept uses one that is new. -/
theorem parse_of_ok {parsed : Parsed} (hparsed : ((parse r name source).run s).1 = .ok parsed)
    (hvoid : "void" ∈ s.voids) (hnames : ∀ x ∈ V, x ∉ s.voids → IsName x) :
    ((parse r name source).run { s with voids := V }).1 = .ok parsed ↔
      ∀ declared ∈ firsts r [] (declarationsIn r name source),
        ∀ x ∈ voidTexts r declared, x ∈ V → x ∈ s.voids ++ voidNames source := by
  cases hprepare : prepare r name source with
  | error e =>
    obtain ⟨left, hleft, -⟩ := parse_run_of_error s hprepare
    rw [hleft] at hparsed
    cases hparsed
  | ok p =>
    rw [parse_run_of_ok _ hprepare] at hparsed ⊢
    rw [← found_of_prepare hprepare]
    rcases hrun : ExceptT.run (prototypes r p.found []) {
        project := p.project
        voids := s.voids ++ voidNames source ++ voidNames source
        notes := s.notes ++ p.notes } with ⟨outcome, t⟩
    rw [hrun] at hparsed
    cases outcome with
    | error e => cases hparsed
    | ok fs =>
      have hmore : ∀ x ∈ s.voids ++ voidNames source ++ voidNames source,
          x ∈ V ++ voidNames source ++ voidNames source := by
        intro x hx
        have hVx := hV x
        simp only [mem_append] at hx ⊢
        tauto
      have hnew : ∀ x ∈ V ++ voidNames source ++ voidNames source,
          x ∉ s.voids ++ voidNames source ++ voidNames source → IsName x := by
        intro x hx hnot
        have hname := hnames x
        simp only [mem_append] at hx hnot
        tauto
      obtain ⟨gs, hgs, hiff⟩ := prototypes_of_ok hrun (by simp [hvoid]) hmore hnew
        (show namesOf [] = namesOf [] from rfl)
      dsimp only at hgs hparsed ⊢
      rw [hgs, finish_eq_iff hparsed, hiff]
      simp only [mem_append, true_and]
      refine forall₂_congr fun declared _ => forall₂_congr fun x _ => ?_
      tauto

end

end Header

/-! ## Readers -/

namespace HeaderReader

open Header ReadM Text

theorem voids_strip {word : String} {r q : HeaderReader} {w w' : Workspace}
    (h : (strip word r).run w = (.ok q, w')) : q.voids = r.voids := by
  rw [strip] at h
  split at h
  · obtain ⟨h, -⟩ := Prod.mk.inj h
    rw [← Except.ok.inj h]
  · split at h
    · obtain ⟨h, -⟩ := Prod.mk.inj h
      rw [← Except.ok.inj h]
    · cases h

theorem mem_namesIn {name : String} {items : List Value} {names : List String}
    {others : List Value} (h : namesIn (.str name :: items) = .ok (names, others)) :
    name ∈ names := by
  rw [namesIn, Value.keySet] at h
  split at h
  · obtain ⟨hnames, -⟩ := Prod.mk.inj (Except.ok.inj h)
    rw [← hnames, mem_filterMap]
    exact ⟨.str name, head_mem_distinct _ _, rfl⟩
  · cases h

theorem void_mem_ofOptions {o : Options} {r : HeaderReader} {w w' : Workspace}
    (h : (ofOptions o).run w = (.ok r, w')) : "void" ∈ r.voids := by
  rw [ofOptions] at h
  obtain ⟨_, _, -, h⟩ := run_bind_eq_ok.mp h
  obtain ⟨_, _, -, h⟩ := run_bind_eq_ok.mp h
  obtain ⟨_, _, -, h⟩ := run_bind_eq_ok.mp h
  obtain ⟨_, _, -, h⟩ := run_bind_eq_ok.mp h
  obtain ⟨_, _, -, h⟩ := run_bind_eq_ok.mp h
  obtain ⟨⟨voids, others⟩, _, hvoids, h⟩ := run_bind_eq_ok.mp h
  obtain ⟨_, _, -, h⟩ := run_bind_eq_ok.mp h
  obtain ⟨_, _, -, h⟩ := run_bind_eq_ok.mp h
  obtain ⟨_, _, -, h⟩ := run_bind_eq_ok.mp h
  rw [run_lift] at hvoids
  have hvoid : "void" ∈ voids := mem_namesIn (Prod.mk.inj hvoids).1
  have hpure : ∀ {q q' : HeaderReader} {u u' : Workspace},
      (pure q : Job HeaderReader).run u = (.ok q', u') → q'.voids = q.voids := by
    intro q q' u u' h
    rw [← Except.ok.inj (Prod.mk.inj h).1]
  dsimp only at h
  split at h
  · obtain ⟨q, _, hq, h⟩ := run_bind_eq_ok.mp h
    split at h
    · rw [voids_strip h, voids_strip hq]
      exact hvoid
    · rw [hpure h, voids_strip hq]
      exact hvoid
  · obtain ⟨q, _, hq, h⟩ := run_bind_eq_ok.mp h
    split at h
    · rw [voids_strip h, hpure hq]
      exact hvoid
    · rw [hpure h, hpure hq]
      exact hvoid

def outcome (r : HeaderReader) (name : String) (source : List Char) :
    StateM Workspace (Except Fault Parsed) := do
  let (outcome, _, _) ← r.run { moduleName := name } fun rules => parse rules name source
  return outcome

/-- The reader after some headers, each given by its name and its text. -/
def after (r : HeaderReader) : List (String × List Char) → StateM Workspace HeaderReader
  | [] => return r
  | (name, source) :: rest => do
    let (_, r, _) ← r.run { moduleName := name } fun rules => parse rules name source
    r.after rest

theorem strippables_run {α : Type} (r : HeaderReader) (project : Project) (read : Rules → ReadM α)
    (w : Workspace) : ((r.run project read).run w).2.strippables = w.strippables := by
  have key : ∀ (notes : List String) (w : Workspace),
      ((notes.forM fun note => modify fun w : Workspace =>
        { w with console := w.console ++ note ++ "\n" } : StateM Workspace PUnit).run
          w).2.strippables = w.strippables := by
    intro notes
    induction notes with
    | nil => intro w; rfl
    | cons note notes ih => intro w; exact ih _
  exact key _ w

theorem after_run (r : HeaderReader) (history : List (String × List Char)) (w : Workspace) :
    ∃ V w', (r.after history).run w = ({ r with voids := V }, w') ∧
      w'.strippables = w.strippables ∧
      ∀ x, x ∈ V ↔ x ∈ r.voids ∨ x ∈ history.flatMap fun h => voidNames h.2 := by
  induction history generalizing r w with
  | nil => exact ⟨r.voids, w, rfl, rfl, by simp⟩
  | cons header rest ih =>
    obtain ⟨name, source⟩ := header
    rcases hrun : (r.run { moduleName := name } fun rules => parse rules name source).run w with
      ⟨⟨outcome, q, project⟩, u⟩
    have hu : u.strippables = w.strippables := by
      have := strippables_run r { moduleName := name } (fun rules => parse rules name source) w
      rwa [hrun] at this
    have hq : q = { r with voids := ((parse (r.rulesIn w) name source).run {
        project := { moduleName := name }, voids := r.voids }).2.voids } := by
      have := congrArg (·.1.2.1) hrun
      exact this.symm
    obtain ⟨V, w', hafter, hw', hV⟩ := ih q u
    refine ⟨V, w', ?_, hw'.trans hu, fun x => ?_⟩
    · have hstep : (r.after ((name, source) :: rest)).run w = (q.after rest).run u := by
        rw [after, StateT.run_bind, hrun]
        rfl
      rw [hstep, hafter, hq]
    · rw [hV, hq, mem_voids_parse, flatMap_cons, mem_append, or_assoc]

/-- The names for `void` that earlier headers leave and that a header would not have without
them. -/
def leaked (r : HeaderReader) (history : List (String × List Char)) (source : List Char) :
    List String :=
  (history.flatMap fun h => voidNames h.2).filter fun x => !(r.voids ++ voidNames source).contains x

theorem outcome_run (r : HeaderReader) (name : String) (source : List Char) (w : Workspace) :
    ((r.outcome name source).run w).1 = ((parse (r.rulesIn w) name source).run {
      project := { moduleName := name }, voids := r.voids }).1 := rfl

theorem outcome_after (r : HeaderReader) (history : List (String × List Char)) (name : String)
    (source : List Char) (w : Workspace) :
    ∃ V, ((r.after history >>= fun q => q.outcome name source).run w).1 =
        ((parse (r.rulesIn w) name source).run {
          project := { moduleName := name }, voids := V }).1 ∧
      ∀ x, x ∈ V ↔ x ∈ r.voids ∨ x ∈ history.flatMap fun h => voidNames h.2 := by
  obtain ⟨V, w', hafter, hw', hV⟩ := r.after_run history w
  refine ⟨V, ?_, hV⟩
  have hrules : rulesIn { r with voids := V } w' = r.rulesIn w := by
    rw [rulesIn, rulesIn, hw']
  rw [StateT.run_bind, hafter]
  exact (outcome_run { r with voids := V } name source w').trans (by rw [hrules])

/-- A header is read after others as it is read by a new reader if none of its declarations uses a
name that the others left.  If a new reader can read it, that is so exactly if no declaration that
is kept uses such a name for the type that it returns or for its whole parameter list. -/
theorem outcome_after_eq_iff {o : Options} {w w' : Workspace} {r : HeaderReader}
    (hr : (ofOptions o).run w = (.ok r, w')) (history : List (String × List Char))
    (name : String) (source : List Char) :
    ((∀ declared ∈ declarationsIn (r.rulesIn w') name source,
        ∀ x ∈ voidTexts (r.rulesIn w') declared, x ∉ r.leaked history source) →
      ((r.after history >>= fun q => q.outcome name source).run w').1 =
        ((r.outcome name source).run w').1) ∧
    ∀ parsed, ((r.outcome name source).run w').1 = .ok parsed →
      (((r.after history >>= fun q => q.outcome name source).run w').1 =
          ((r.outcome name source).run w').1 ↔
        ∀ declared ∈ firsts (r.rulesIn w') [] (declarationsIn (r.rulesIn w') name source),
          ∀ x ∈ voidTexts (r.rulesIn w') declared, x ∉ r.leaked history source) := by
  obtain ⟨V, hafter, hV⟩ := r.outcome_after history name source w'
  have hmore : ∀ x ∈ r.voids, x ∈ V := fun x hx => (hV x).mpr (Or.inl hx)
  have hleaked : ∀ x, x ∉ r.leaked history source ↔
      (x ∈ V → x ∈ r.voids ++ voidNames source) := by
    intro x
    rw [leaked, mem_filter, hV]
    simp only [Bool.not_eq_true', contains_eq_mem, decide_eq_false_iff_not, mem_append]
    tauto
  have hnames : ∀ x ∈ V, x ∉ r.voids → IsName x := by
    intro x hx hnot
    obtain ⟨header, -, hmem⟩ := mem_flatMap.mp (((hV x).mp hx).resolve_left hnot)
    exact isName_of_mem_voidNames hmem
  simp only [hleaked]
  rw [hafter, outcome_run]
  refine ⟨fun h => ?_, fun parsed hparsed => ?_⟩
  · exact parse_congr (s := { project := { moduleName := name }, voids := r.voids }) hmore h
  · rw [hparsed]
    exact parse_of_ok (s := { project := { moduleName := name }, voids := r.voids }) hmore hparsed
      (void_mem_ofOptions hr) hnames

/-- A header that defines a name itself, and uses another one only in a pointer type. -/
theorem outcome_after_eq_iff_own_names :
    ∃ r, (ofOptions ⟨Options.defaults Options.defaultStrippables, true⟩).run
        { strippables := Options.defaultStrippables } =
          (.ok r, { strippables := Options.defaultStrippables }) ∧
      ((r.after [("a", "typedef void V; typedef void W;".toList)] >>= fun q =>
          q.outcome "b" "typedef void V; V f(V); int g(W *p);".toList).run
        { strippables := Options.defaultStrippables }).1 =
      ((r.outcome "b" "typedef void V; V f(V); int g(W *p);".toList).run
        { strippables := Options.defaultStrippables }).1 := by
  have hr : (ofOptions ⟨Options.defaults Options.defaultStrippables, true⟩).run
      { strippables := Options.defaultStrippables } =
        (.ok _, { strippables := Options.defaultStrippables }) := rfl
  exact ⟨_, hr, (outcome_after_eq_iff hr _ _ _).1 (by decide +kernel)⟩

/-- One header defines `V` as `void`, and the next one uses `V`. -/
theorem outcome_after_void_typedef :
    ∃ r, (ofOptions ⟨Options.defaults Options.defaultStrippables, true⟩).run
        { strippables := Options.defaultStrippables } =
          (.ok r, { strippables := Options.defaultStrippables }) ∧
      ((r.outcome "b" "V f(V);".toList).run
        { strippables := Options.defaultStrippables }).1.toOption.map (·.functions.map fun f =>
          (f.returned.type, f.argsString)) = some [("V", "V cmock_arg1")] ∧
      ((r.after [("a", "typedef void V; int g(void);".toList)] >>= fun q =>
          q.outcome "b" "V f(V);".toList).run
        { strippables := Options.defaultStrippables }).1.toOption.map (·.functions.map fun f =>
          (f.returned.type, f.argsString)) = some [("void", "void")] := by
  refine ⟨_, rfl, ?_, ?_⟩
  · decide +kernel
  · decide +kernel

end HeaderReader

end MockGen
