import MockGen.Proofs.Options
import MockGen.Proofs.Plugin.Order
import MockGen.Request.Mock
import Mathlib.Data.Set.List

/-!
# Order and spelling of plugins

The order and the spelling of the plugins that options name do not matter, nor how often they are
named: generators come out the same.
-/

namespace MockGen

open List Text ReadM Plugin

variable {v : Value}

namespace Plugin

/-- The plugin that a value names: in letters of any case, with a colon in front or without. -/
def named? : Value → Option Plugin
  | .str s =>
    let spelled := lower s.toList
    all.find? fun p => spelled == p.name.toList || spelled == ':' :: p.name.toList
  | _ => none

def named (items : List Value) : List Plugin :=
  items.filterMap named?

theorem pluginName_of_named? {p : Plugin} (h : named? v = some p) :
    Options.pluginName v = .ok (":" ++ p.name) := by
  unfold named? at h
  split at h
  case h_2 => cases h
  case h_1 s =>
    have hs : lower s.toList = p.name.toList ∨ lower s.toList = ':' :: p.name.toList := by
      simpa using find?_some h
    unfold Options.pluginName
    dsimp only
    rcases hs with hs | hs
    · have hhead : ∃ c rest, p.name.toList = c :: rest ∧ c ≠ ':' := by
        cases p <;> exact ⟨_, _, rfl, by decide⟩
      obtain ⟨c, rest, hname, hc⟩ := hhead
      rw [hs, hname]
      simp [hc, ← hname]
    · rw [hs]
      simp

theorem exists_pluginNames {items : List Value}
    (h : ∀ v ∈ items, Options.isEntry v = true → (named? v).isSome = true) :
    ∃ names, Options.pluginNames items = .ok names ∧
      (∀ n ∈ names, ∃ p : Plugin, n = ":" ++ p.name) ∧
      ∀ p : Plugin, ":" ++ p.name ∈ names ↔ p ∈ named items := by
  have hentry : ∀ v ∈ items.filter Options.isEntry, ∃ p, named? v = some p := fun v hv => by
    obtain ⟨hv, hentry⟩ := mem_filter.mp hv
    exact Option.isSome_iff_exists.mp (h v hv hentry)
  have htexts : (items.filter Options.isEntry).any (fun v => v.text?.isNone) = false := by
    rw [any_eq_false]
    intro v hv
    obtain ⟨p, hp⟩ := hentry v hv
    unfold named? at hp
    split at hp
    · exact Bool.false_ne_true
    · cases hp
  obtain ⟨names, hnames⟩ := Outcome.exists_mapM_eq_ok (f := Options.pluginName) fun v hv => by
    obtain ⟨p, hp⟩ := hentry v hv
    exact ⟨_, pluginName_of_named? hp⟩
  have hmem : ∀ n, n ∈ names ↔ ∃ p ∈ named items, n = ":" ++ p.name := by
    intro n
    rw [Outcome.mem_mapM_iff hnames]
    constructor
    · rintro ⟨v, hv, hn⟩
      obtain ⟨p, hp⟩ := hentry v hv
      rw [pluginName_of_named? hp] at hn
      exact ⟨p, mem_filterMap.mpr ⟨v, mem_of_mem_filter hv, hp⟩,
        (Except.ok.inj hn).symm⟩
    · rintro ⟨p, hp, rfl⟩
      obtain ⟨v, hv, hp⟩ := mem_filterMap.mp hp
      have hfilled : Options.isEntry v = true := by
        cases v with
        | null => cases hp
        | _ => rfl
      exact ⟨v, mem_filter.mpr ⟨hv, hfilled⟩, pluginName_of_named? hp⟩
  refine ⟨names, ?_, ?_, ?_⟩
  · unfold Options.pluginNames
    dsimp only
    rw [htexts]
    exact hnames
  · intro n hn
    obtain ⟨p, -, rfl⟩ := (hmem n).mp hn
    exact ⟨p, rfl⟩
  · intro p
    rw [hmem]
    constructor
    · rintro ⟨q, hq, hname⟩
      rwa [name_injective ((String.append_right_inj _).mp hname)]
    · intro hp
      exact ⟨p, hp, rfl⟩

/-! ## Loading -/

def refusal? (o : Options) (s : Settings) : Plugin → Option String
  | expect => if s.comparisons.isNone then some "'unity_helper'" else none
  | exceptions =>
    if o.flag ":exclude_setjmp_h" then some (Fault.exceptionsNeedJumps.message?.getD "") else none
  | _ => none

theorem load_name (o : Options) (s : Settings) (p : Plugin) :
    load o s p.name =
      match refusal? o s p with
      | some reason => fail p.name reason
      | none => pure p := by
  unfold load
  rw [ofName?_name]
  cases p with
  | expect => cases hnone : s.comparisons.isNone <;> simp [refusal?, hnone]
  | exceptions => cases hflag : o.flag ":exclude_setjmp_h" <;> simp [refusal?, hflag]
  | _ => rfl

theorem run_mapM_load (o : Options) (s : Settings) (plugins : List Plugin) (w : Workspace) :
    ((plugins.map name).mapM (load o s)).run w =
      match plugins.find? fun p => (refusal? o s p).isSome with
      | some p => (fail p.name ((refusal? o s p).getD "")).run w
      | none => (.ok plugins, w) := by
  induction plugins with
  | nil => rfl
  | cons p rest ih =>
    rw [map_cons, mapM_cons, load_name, find?_cons]
    cases hp : refusal? o s p with
    | some reason =>
      simp only [Option.isSome_some, hp]
      rfl
    | none =>
      rw [run_bind, Option.isSome_none]
      dsimp only
      have hpure : (pure p : Job Plugin).run w = (.ok p, w) := rfl
      rw [hpure]
      dsimp only
      rw [run_bind, ih]
      cases rest.find? fun p => (refusal? o s p).isSome <;> rfl

theorem find?_eq_of_unique {a : Plugin} {P : Plugin → Bool} (h : ∀ p, P p = true → p = a)
    (plugins : List Plugin) :
    plugins.find? P = if a ∈ plugins ∧ P a = true then some a else none := by
  induction plugins with
  | nil => simp
  | cons p rest ih =>
    rw [find?_cons, ih]
    cases hp : P p with
    | true => simp [← h p hp, hp]
    | false =>
      have hne : a ∈ p :: rest ∧ P a = true ↔ a ∈ rest ∧ P a = true := by
        constructor
        · rintro ⟨hmem, ha⟩
          rcases mem_cons.mp hmem with rfl | hmem
          · rw [ha] at hp
            cases hp
          · exact ⟨hmem, ha⟩
        · rintro ⟨hmem, ha⟩
          exact ⟨mem_cons_of_mem _ hmem, ha⟩
      simp only [hne]

/-- The first plugin that cannot be set up: the one for expected calls comes first, and only one
other can be refused. -/
theorem find?_refusal (o : Options) (s : Settings) (plugins : List Plugin) :
    (expect :: plugins).find? (fun p => (refusal? o s p).isSome) =
      if (refusal? o s expect).isSome then some expect
      else if exceptions ∈ plugins ∧ (refusal? o s exceptions).isSome then some exceptions
      else none := by
  rw [find?_cons]
  split
  case h_1 h => rw [h, if_pos rfl]
  case h_2 h =>
    rw [h, if_neg Bool.false_ne_true]
    refine find?_eq_of_unique (fun p hp => ?_) plugins
    cases p with
    | expect =>
      rw [h] at hp
      cases hp
    | exceptions => rfl
    | _ => cases hp

theorem eq_of_priority {p q : Plugin} (h : p.priority = q.priority) :
    p = q ∨ p = ignore ∧ q = ignoreStateless ∨ p = ignoreStateless ∧ q = ignore := by
  revert h
  cases p <;> cases q <;> decide

theorem inOrder_eq {plugins plugins' : List Plugin} (hnodup : plugins.Nodup)
    (hnodup' : plugins'.Nodup) (hmem : ∀ p, p ∈ plugins ↔ p ∈ plugins')
    (hignore : ¬(ignore ∈ plugins ∧ ignoreStateless ∈ plugins)) :
    inOrder plugins = inOrder plugins' := by
  have hperm : (inOrder plugins).Perm (inOrder plugins') :=
    (inOrder_perm plugins).trans (((perm_ext_iff_of_nodup hnodup hnodup').mpr hmem).trans
      (inOrder_perm plugins').symm)
  refine hperm.eq_of_pairwise ?_ (inOrder_pairwise plugins) (inOrder_pairwise plugins')
  intro p q hp hq hle hge
  have hp := (inOrder_perm plugins).mem_iff.mp hp
  have hq := (hmem q).mpr ((inOrder_perm plugins').mem_iff.mp hq)
  rcases eq_of_priority (Nat.le_antisymm hle hge) with heq | ⟨rfl, rfl⟩ | ⟨rfl, rfl⟩
  · exact heq
  · exact absurd ⟨hp, hq⟩ hignore
  · exact absurd ⟨hq, hp⟩ hignore

theorem exists_map_name_eq_wanted {o : Options}
    (hknown : ∀ n ∈ o.plugins, ∃ p : Plugin, n = ":" ++ p.name) :
    ∃ plugins, (expect :: plugins).map name = wanted o := by
  obtain ⟨rest, hrest⟩ := exists_distinct_cons ":expect" o.plugins
  have hnames : ∀ n ∈ rest.map fun name => String.ofList (name.toList.drop 1),
      n ∈ Set.range name := by
    intro n hn
    obtain ⟨m, hm, rfl⟩ := mem_map.mp hn
    have hm : m ∈ ":expect" :: o.plugins :=
      mem_distinct.mp (hrest ▸ mem_cons_of_mem _ hm)
    rcases mem_cons.mp hm with rfl | hm
    · exact ⟨expect, rfl⟩
    · obtain ⟨p, rfl⟩ := hknown m hm
      exact ⟨p, (drop_colon p.name).symm⟩
  obtain ⟨plugins, hplugins⟩ := (Set.range_list_map name).symm.subset hnames
  refine ⟨plugins, ?_⟩
  rw [wanted, hrest, map_cons, map_cons, hplugins]
  rfl

end Plugin

namespace Options

/-- Names of plugins that exist, with the same ones here and there except for the plugin that is
always loaded, and at most one plugin for ignored calls. -/
structure SamePlugins (names names' : List String) : Prop where
  known : ∀ n ∈ names, ∃ p : Plugin, n = ":" ++ p.name
  known' : ∀ n ∈ names', ∃ p : Plugin, n = ":" ++ p.name
  mem_iff : ∀ p : Plugin, p ≠ .expect → (":" ++ p.name ∈ names ↔ ":" ++ p.name ∈ names')
  oneIgnore : ¬(":" ++ ignore.name ∈ names ∧ ":" ++ ignoreStateless.name ∈ names)

namespace Differ

variable {names names' : List String} {o o' : Options} {u : Value}

theorem plugins_eq (h : Differ (.texts names) v o o') : o.plugins = names := by
  rw [plugins, h.left]
  exact (filterMap_map ..).trans filterMap_some

theorem plugins_eq' (h : Differ v (.texts names') o o') : o'.plugins = names' := by
  rw [plugins, h.right]
  exact (filterMap_map ..).trans filterMap_some

theorem treatAs (h : Differ u v o o') : o.treatAs = o'.treatAs := by
  rw [Options.treatAs, Options.treatAs, h.get _ (by decide)]

theorem helperText (h : Differ u v o o') : o.helperText = o'.helperText := by
  unfold Options.helperText
  rw [h.flag ":unity_helper_path" (by decide), h.get ":unity_helper_path" (by decide)]

theorem items (h : Differ u v o o') (key : String) (hkey : key ≠ ":plugins") :
    Generator.items o key = Generator.items o' key := by
  rw [Generator.items, Generator.items, h.get key hkey]

theorem refusal? (h : Differ u v o o') (s : Settings) (p : Plugin) :
    p.refusal? o s = p.refusal? o' s := by
  unfold Plugin.refusal?
  rw [h.flag ":exclude_setjmp_h" (by decide)]

theorem generator (h : Differ u v o o') (ps : Plugins) :
    Generator.ofOptions o ps = Generator.ofOptions o' ps := by
  unfold Generator.ofOptions
  rw [h.items ":includes" (by decide), h.items ":includes_h_pre_orig_header" (by decide),
    h.items ":includes_h_post_orig_header" (by decide),
    h.items ":includes_c_pre_header" (by decide), h.items ":includes_c_post_header" (by decide),
    h.get ":weak" (by decide),
    h.get ":mock_path" (by decide), h.get ":mock_prefix" (by decide),
    h.get ":mock_suffix" (by decide), h.get ":treat_inlines" (by decide),
    h.get ":framework" (by decide), h.flag ":fail_on_unexpected_calls" (by decide),
    h.flag ":exclude_setjmp_h" (by decide), h.get ":subdir" (by decide),
    h.get ":orig_header_include_fmt" (by decide)]

section

variable (h : Differ (.texts names) (.texts names') o o') (hsame : SamePlugins names names')

include h hsame

theorem hasPlugin {p : Plugin} (hp : p ≠ .expect) :
    o.hasPlugin (":" ++ p.name) = o'.hasPlugin (":" ++ p.name) := by
  rw [Options.hasPlugin, Options.hasPlugin, h.plugins_eq, h.plugins_eq', Bool.eq_iff_iff,
    contains_iff_mem, contains_iff_mem]
  exact hsame.mem_iff p hp

theorem settings (c : Option Comparisons) : Settings.ofOptions o c = Settings.ofOptions o' c := by
  have harray : o.hasPlugin ":array" = o'.hasPlugin ":array" :=
    h.hasPlugin hsame (p := .array) (by decide)
  have hexceptions : o.hasPlugin ":cexception" = o'.hasPlugin ":cexception" :=
    h.hasPlugin hsame (p := .exceptions) (by decide)
  have hanyArgs : o.hasPlugin ":expect_any_args" = o'.hasPlugin ":expect_any_args" :=
    h.hasPlugin hsame (p := .expectAnyArgs) (by decide)
  have hreturn : o.hasPlugin ":return_thru_ptr" = o'.hasPlugin ":return_thru_ptr" :=
    h.hasPlugin hsame (p := .returnThruPtr) (by decide)
  have hignoreArg : o.hasPlugin ":ignore_arg" = o'.hasPlugin ":ignore_arg" :=
    h.hasPlugin hsame (p := .ignoreArg) (by decide)
  have hignore : o.hasPlugin ":ignore" = o'.hasPlugin ":ignore" :=
    h.hasPlugin hsame (p := .ignore) (by decide)
  have hstateless : o.hasPlugin ":ignore_stateless" = o'.hasPlugin ":ignore_stateless" :=
    h.hasPlugin hsame (p := .ignoreStateless) (by decide)
  unfold Settings.ofOptions
  rw [h.get ":when_ptr" (by decide), h.flag ":enforce_strict_ordering" (by decide), harray,
    hexceptions, hanyArgs, hreturn, hignoreArg, hignore, hstateless, h.treatAs,
    h.flag ":callback_include_count" (by decide), h.flag ":callback_after_arg_check" (by decide)]

theorem comparisons : Comparisons.ofOptions o = Comparisons.ofOptions o' := by
  have harray : o.hasPlugin ":array" = o'.hasPlugin ":array" :=
    h.hasPlugin hsame (p := .array) (by decide)
  unfold Comparisons.ofOptions Comparisons.ofHelperFiles
  rw [h.treatAs, h.helperText, harray, h.flag ":memcmp_if_unknown" (by decide)]

theorem settingsOfResolved (helped : Bool) (voids : Value) :
    Settings.ofResolved o helped voids = Settings.ofResolved o' helped voids := by
  unfold Settings.ofResolved
  simp only [h.comparisons hsame, h.settings hsame]

theorem load (s : Settings) (w : Workspace) :
    (Plugins.load o s).run w = (Plugins.load o' s).run w := by
  obtain ⟨plugins, hplugins⟩ := exists_map_name_eq_wanted (o := o) fun n hn =>
    hsame.known n (h.plugins_eq ▸ hn)
  obtain ⟨plugins', hplugins'⟩ := exists_map_name_eq_wanted (o := o') fun n hn =>
    hsame.known' n (h.plugins_eq' ▸ hn)
  have hcolon : ∀ n ∈ o.plugins, ∃ m, n = ":" ++ m := fun n hn =>
    (hsame.known n (h.plugins_eq ▸ hn)).imp' _ fun _ hp => hp
  have hcolon' : ∀ n ∈ o'.plugins, ∃ m, n = ":" ++ m := fun n hn =>
    (hsame.known' n (h.plugins_eq' ▸ hn)).imp' _ fun _ hp => hp
  have hmem : ∀ p, p ∈ expect :: plugins ↔ p ∈ expect :: plugins' := by
    intro p
    rw [mem_of_map_name hcolon hplugins, mem_of_map_name hcolon' hplugins',
      h.plugins_eq, h.plugins_eq']
    by_cases hp : p = .expect
    · simp only [hp, true_or]
    · simp only [hsame.mem_iff p hp]
  have horder : inOrder (.expect :: plugins) = inOrder (.expect :: plugins') := by
    refine inOrder_eq (nodup_of_map_name hcolon hplugins)
      (nodup_of_map_name hcolon' hplugins') hmem ?_
    rw [mem_of_map_name hcolon hplugins, mem_of_map_name hcolon hplugins,
      h.plugins_eq]
    rintro ⟨hignore | hignore, hstateless | hstateless⟩
    · cases hignore
    · cases hignore
    · cases hstateless
    · exact hsame.oneIgnore ⟨hignore, hstateless⟩
  have hexceptions : exceptions ∈ plugins ↔ exceptions ∈ plugins' := by
    simpa using hmem .exceptions
  have hfirst : (expect :: plugins).find? (fun p => (p.refusal? o' s).isSome) =
      (expect :: plugins').find? fun p => (p.refusal? o' s).isSome := by
    rw [find?_refusal, find?_refusal]
    simp only [hexceptions]
  unfold Plugins.load
  rw [run_bind, run_bind, ← hplugins, ← hplugins', run_mapM_load,
    run_mapM_load]
  simp only [h.refusal? s, hfirst]
  cases (expect :: plugins').find? fun p => (p.refusal? o' s).isSome with
  | some p => rfl
  | none =>
    dsimp only
    rw [horder]

theorem ofResolved (helped : Bool) (voids : Value) :
    Job.Alike Eq (Plugins.ofResolved o helped voids) (Plugins.ofResolved o' helped voids) := by
  unfold Plugins.ofResolved
  rw [h.settingsOfResolved hsame]
  refine .bind (.refl _) ?_
  rintro s _ rfl
  exact .of_run_eq (h.load hsame s)

end

end Differ

end Options

namespace Generator

open Plugin in
/-- Two lists that name the same plugins give the same generator, or the same fault, and so the same
files. -/
theorem ofValue_plugins {before after : List (Value × Value)} {items items' : List Value}
    (hafter : ∀ entry ∈ after, entry.1 ≠ .str ":plugins")
    (hknown : ∀ v ∈ items, Options.isEntry v = true → (named? v).isSome = true)
    (hknown' : ∀ v ∈ items', Options.isEntry v = true → (named? v).isSome = true)
    (hsame : ∀ p : Plugin, p ≠ .expect → (p ∈ named items ↔ p ∈ named items'))
    (hignore : ¬(.ignore ∈ named items ∧ .ignoreStateless ∈ named items))
    (helped : Bool) (voids home frameworkDir : Value) (w : Workspace) :
    let make := fun plugins => ofValue
      (.map (before ++ (.str ":plugins", .list plugins) :: after)) helped voids home frameworkDir
    (make items).run w = (make items').run w ∧
      ∀ g g' v v', (make items).run w = (.ok g, v) → (make items').run w = (.ok g', v') →
        ∀ moduleName parsed extension folder u,
          (g.createMockOf moduleName parsed extension folder).run u =
            (g'.createMockOf moduleName parsed extension folder).run u := by
  intro make
  obtain ⟨names, hnames, hall, hmem⟩ := exists_pluginNames hknown
  obtain ⟨names', hnames', hall', hmem'⟩ := exists_pluginNames hknown'
  have hplugins : Options.SamePlugins names names' :=
    ⟨hall, hall', fun p hp => by rw [hmem, hmem', hsame p hp], by rwa [hmem, hmem]⟩
  have hrun : Job.Alike Eq (make items) (make items') := by
    refine .bind (Options.resolve_alike hafter hnames hnames'
      (hplugins.mem_iff .ignore (by decide))) ?_
    intro o o' h
    refine .bind (h.ofResolved hplugins helped voids) ?_
    rintro ps _ rfl
    rw [h.generator]
    exact .refl _
  have heq := hrun.run_eq w
  refine ⟨heq, fun g g' v v' hg hg' moduleName parsed extension folder u => ?_⟩
  rw [heq, hg'] at hg
  cases hg
  rfl

theorem ofValue_plugins_spelled :
    let make := fun plugins => ofValue (.map [(.str ":mock_prefix", .str "mock_"),
      (.str ":plugins", .list plugins), (.str ":when_ptr", .str ":smart")])
      true (.list []) .null .null
    let items := [.str "Array", .null, .str ":IGNORE", .str "array"]
    let items' := [.str ":ignore", .str "expect", .str ":array"]
    (∃ g w, (make items).run { strippables := [] } = (.ok g, w)) ∧
      (make items).run { strippables := [] } = (make items').run { strippables := [] } :=
  ⟨Job.exists_run_eq_ok (by decide +kernel),
    (@ofValue_plugins [(.str ":mock_prefix", .str "mock_")] [(.str ":when_ptr", .str ":smart")] _ _
      (by simp) (by decide) (by decide) (by intro p; cases p <;> decide) (by decide) true (.list [])
      .null .null _).1⟩

end Generator

end MockGen
