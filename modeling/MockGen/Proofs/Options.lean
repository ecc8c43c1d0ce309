import MockGen.Options
import MockGen.Proofs.Outcome

/-!
# Options as they are resolved

The value under a key, and the spelling of the plugins.
-/

namespace MockGen

open List ReadM Value

variable {v : Value} {key : String}

namespace Value

theorem beq_str {s : String} : (v == .str s) = true ↔ v = .str s := by
  cases v <;> simp [BEq.beq, same, int?]

theorem str_beq {s : String} : (Value.str s == v) = true ↔ v = .str s := by
  cases v <;> simp [BEq.beq, same, int?, eq_comm]

theorem lookup_cons (key : String) (entry : Value × Value) (rest : List (Value × Value)) :
    lookup (.str key) (entry :: rest) =
      if entry.1 == .str key then some entry.2 else lookup (.str key) rest := by
  unfold lookup
  rw [find?_cons]
  cases entry.1 == .str key <;> rfl

theorem lookup_insert (key : String) (k v : Value) (entries : List (Value × Value)) :
    lookup (.str key) (insert k v entries) =
      if k == .str key then some v else lookup (.str key) entries := by
  induction entries with
  | nil => rw [insert, lookup_cons]
  | cons entry rest ih =>
    unfold insert
    split
    case isTrue h =>
      have hkey : (entry.1 == .str key) = (k == .str key) := by
        rw [Bool.eq_iff_iff, beq_str, beq_str]
        constructor
        · intro he
          rw [he] at h
          exact str_beq.mp h
        · intro hk
          rw [hk] at h
          exact beq_str.mp h
      rw [lookup_cons, lookup_cons, hkey]
      split <;> rfl
    case isFalse h =>
      rw [lookup_cons, lookup_cons, ih]
      split
      case isTrue he =>
        rw [beq_str.mp he, str_beq] at h
        rw [if_neg (mt beq_str.mp h)]
      case isFalse => rfl

theorem lookup_append (key : Value) (entries more : List (Value × Value)) :
    lookup key (entries ++ more) = (lookup key entries).or (lookup key more) := by
  unfold lookup
  rw [find?_append, Option.map_or]

theorem merge_append (base entries more : List (Value × Value)) :
    merge base (entries ++ more) = merge (merge base entries) more :=
  foldl_append

theorem merge_cons (base : List (Value × Value)) (entry : Value × Value)
    (more : List (Value × Value)) :
    merge base (entry :: more) = merge (insert entry.1 entry.2 base) more :=
  rfl

theorem lookup_merge_congr {base base' : List (Value × Value)}
    (h : lookup (.str key) base = lookup (.str key) base') (more : List (Value × Value)) :
    lookup (.str key) (merge base more) = lookup (.str key) (merge base' more) := by
  induction more generalizing base base' with
  | nil => exact h
  | cons entry more ih =>
    refine ih ?_
    rw [lookup_insert, lookup_insert, h]

theorem lookup_merge_of_ne {more : List (Value × Value)} (h : ∀ entry ∈ more, entry.1 ≠ .str key)
    (base : List (Value × Value)) :
    lookup (.str key) (merge base more) = lookup (.str key) base := by
  induction more generalizing base with
  | nil => rfl
  | cons entry more ih =>
    have hentry := h entry mem_cons_self
    rw [merge_cons, ih fun e he => h e (mem_cons_of_mem _ he), lookup_insert,
      if_neg (mt beq_str.mp hentry)]

end Value

namespace Options

variable {l names : List String} {name : String}

theorem get_set (o : Options) (key key' : String) (v : Value) :
    (o.set key v).get key' = if key = key' then v else o.get key' := by
  have hkey : (Value.str key == .str key') = true ↔ key = key' := by simp [beq_str]
  unfold set get
  rw [lookup_insert]
  simp only [hkey]
  split <;> rfl

theorem get_set_self (o : Options) (key : String) (v : Value) : (o.set key v).get key = v := by
  rw [get_set, if_pos rfl]

theorem get_set_of_ne (o : Options) {key' : String} (h : key ≠ key') (v : Value) :
    (o.set key v).get key' = o.get key' := by
  rw [get_set, if_neg h]

theorem plugins_set_texts (o : Options) (names : List String) :
    (o.set ":plugins" (.texts names)).plugins = names := by
  unfold plugins
  rw [get_set_self]
  simp only [Value.texts, filterMap_map]
  exact filterMap_some

theorem plugins_set_of_ne (o : Options) (h : key ≠ ":plugins") (v : Value) :
    (o.set key v).plugins = o.plugins := by
  rw [plugins, plugins, get_set_of_ne o h]

/-! ## Texts in order -/

theorem mem_insertSorted {a b : String} : b ∈ insertSorted a l ↔ b = a ∨ b ∈ l := by
  induction l with
  | nil => simp [insertSorted]
  | cons c l ih =>
    unfold insertSorted
    split
    case isTrue heq =>
      rw [beq_iff_eq.mp heq]
      simp
    case isFalse =>
      split
      · exact mem_cons
      · rw [mem_cons, ih, mem_cons]
        exact or_left_comm

theorem pairwise_insertSorted {a : String} (h : l.Pairwise (· < ·)) :
    (insertSorted a l).Pairwise (· < ·) := by
  induction l with
  | nil => exact pairwise_singleton _ _
  | cons b l ih =>
    obtain ⟨hb, hl⟩ := pairwise_cons.mp h
    unfold insertSorted
    split
    case isTrue => exact h
    case isFalse hne =>
      split
      case isTrue hlt =>
        refine pairwise_cons.mpr ⟨forall_mem_cons.mpr ⟨hlt, fun c hc => ?_⟩, h⟩
        exact String.lt_trans hlt (hb c hc)
      case isFalse hle =>
        have hlt : b < a := Std.lt_of_le_of_ne (String.not_lt.mp hle) (Ne.symm (by simpa using hne))
        refine pairwise_cons.mpr ⟨fun c hc => ?_, ih hl⟩
        rcases mem_insertSorted.mp hc with rfl | hc
        · exact hlt
        · exact hb c hc

theorem mem_sortedSet {b : String} : b ∈ sortedSet l ↔ b ∈ l := by
  have key : ∀ l start : List String,
      b ∈ l.foldl (fun sorted a => insertSorted a sorted) start ↔ b ∈ l ∨ b ∈ start := by
    intro l
    induction l with
    | nil => simp
    | cons a l ih =>
      intro start
      rw [foldl_cons, ih, mem_insertSorted, mem_cons]
      tauto
  simpa [sortedSet] using key l []

theorem pairwise_sortedSet (l : List String) : (sortedSet l).Pairwise (· < ·) := by
  have key : ∀ l start : List String, start.Pairwise (· < ·) →
      (l.foldl (fun sorted a => insertSorted a sorted) start).Pairwise (· < ·) := by
    intro l
    induction l with
    | nil => exact fun start h => h
    | cons a l ih => exact fun start h => ih _ (pairwise_insertSorted h)
  exact key l [] .nil

/-! ## Plugins -/

theorem exists_of_pluginName (h : pluginName v = .ok name) : ∃ rest, name = ":" ++ rest := by
  unfold pluginName at h
  split at h
  · rename_i s
    dsimp only at h
    split at h
    · cases h
    · rename_i c rest _
      cases h
      split
      · rename_i hc
        obtain rfl : c = ':' := by simpa using hc
        exact ⟨String.ofList rest, by simp [*]⟩
      · exact ⟨String.ofList (Text.lower s.toList), by simp⟩
  · cases h

theorem exists_of_mem_pluginNames {items : List Value} (h : pluginNames items = .ok names)
    (hname : name ∈ names) : ∃ rest, name = ":" ++ rest := by
  unfold pluginNames at h
  dsimp only at h
  split at h
  · cases h
  · obtain ⟨v, -, hv⟩ := (Outcome.mem_mapM_iff h).mp hname
    exact exists_of_pluginName hv

/-- The names of the plugins that options give, whatever their spelling. -/
def givenPlugins (o : Options) : Except Fault (List String) :=
  match o.get ":plugins" with
  | .list items => pluginNames items
  | _ => .ok []

theorem flag_set_plugins (o : Options) (v : Value) (hkey : ":plugins" ≠ key) :
    (o.set ":plugins" v).flag key = o.flag key := by
  rw [flag, flag, get_set_of_ne o hkey]

theorem namePlugins_eq_bind (o : Options) :
    o.namePlugins = o.givenPlugins >>= fun names =>
      if ":ignore" ∈ names ∨ o.flag ":fail_on_unexpected_calls" = true then
        .ok (o.set ":plugins" (.texts names))
      else .error .ignoreRequired := by
  have hstep : o.namePlugins = o.givenPlugins >>= fun names =>
      if !names.contains ":ignore" && !(o.set ":plugins" (.texts names)).flag
        ":fail_on_unexpected_calls" then .error .ignoreRequired
      else .ok (o.set ":plugins" (.texts names)) := by
    unfold namePlugins givenPlugins
    cases o.get ":plugins" <;> rfl
  rw [hstep]
  refine congrArg _ (funext fun names => ?_)
  rw [flag_set_plugins o _ (by decide)]
  cases hflag : o.flag ":fail_on_unexpected_calls" with
  | true => simp
  | false => by_cases hignore : ":ignore" ∈ names <;> simp [hignore]

theorem namePlugins_eq_ok {o o' : Options} :
    o.namePlugins = .ok o' ↔ ∃ names, o.givenPlugins = .ok names ∧
      (":ignore" ∈ names ∨ o.flag ":fail_on_unexpected_calls" = true) ∧
      o' = o.set ":plugins" (.texts names) := by
  rw [namePlugins_eq_bind, Outcome.bind_eq_ok]
  refine exists_congr fun names => and_congr_right fun _ => ?_
  split
  case isTrue h =>
    rw [Except.ok.injEq, eq_comm]
    exact (and_iff_right h).symm
  case isFalse h => simp [h]

theorem completeTreatAs_eq_ok {o o' : Options} (h : o.completeTreatAs = .ok o') :
    ∃ v, o' = o.set ":treat_as" v := by
  unfold completeTreatAs at h
  split at h
  · cases h
    exact ⟨_, rfl⟩
  · cases h

theorem exists_of_mem_plugins {given : Value} {o : Options} {w w' : Workspace}
    (h : (resolve given).run w = (.ok o, w')) (hname : name ∈ o.plugins) :
    ∃ rest, name = ":" ++ rest := by
  unfold resolve at h
  obtain ⟨own, w₁, -, h⟩ := run_bind_eq_ok.mp h
  obtain ⟨_, w₂, -, h⟩ := run_bind_eq_ok.mp h
  obtain ⟨o₁, w₃, -, h⟩ := run_bind_eq_ok.mp h
  obtain ⟨o₂, w₄, -, h⟩ := run_bind_eq_ok.mp h
  obtain ⟨o₃, w₅, -, h⟩ := run_bind_eq_ok.mp h
  obtain ⟨o₄, w₆, hnamed, h⟩ := run_bind_eq_ok.mp h
  rw [run_lift] at hnamed h
  obtain ⟨names, hnames, -, rfl⟩ := namePlugins_eq_ok.mp (Prod.mk.inj hnamed).1
  obtain ⟨v, rfl⟩ := completeTreatAs_eq_ok (Prod.mk.inj h).1
  rw [plugins_set_of_ne _ (by decide), plugins_set_texts] at hname
  unfold givenPlugins at hnames
  split at hnames
  · exact exists_of_mem_pluginNames hnames hname
  · cases hnames
    cases hname

/-! ## Other plugins -/

/-- Options that differ only in their plugins, which are `u` here and `v` there. -/
structure Differ (u v : Value) (o o' : Options) : Prop where
  left : o.get ":plugins" = u
  right : o'.get ":plugins" = v
  get : ∀ key, key ≠ ":plugins" → o.get key = o'.get key
  sharesStrippables : o.sharesStrippables = o'.sharesStrippables

namespace Differ

variable {u v : Value} {o o' : Options}

section

variable (h : Differ u v o o')

include h

theorem flag (key : String) (hkey : key ≠ ":plugins") :
    o.flag key = o'.flag key := by
  rw [Options.flag, Options.flag, h.get key hkey]

theorem set (hkey : key ≠ ":plugins") (value : Value) :
    Differ u v (o.set key value) (o'.set key value) where
  left := by rw [get_set_of_ne o hkey, h.left]
  right := by rw [get_set_of_ne o' hkey, h.right]
  get other hother := by rw [get_set, get_set, h.get other hother]
  sharesStrippables := h.sharesStrippables

theorem setPlugins (u' v' : Value) :
    Differ u' v' (o.set ":plugins" u') (o'.set ":plugins" v') where
  left := get_set_self o _ _
  right := get_set_self o' _ _
  get other hother := by
    rw [get_set_of_ne o hother.symm, get_set_of_ne o' hother.symm, h.get other hother]
  sharesStrippables := h.sharesStrippables

theorem wantsWarnings : wantsWarnings o = wantsWarnings o' := by
  rw [Options.wantsWarnings, Options.wantsWarnings, h.get _ (by decide)]

theorem dropNonList (hkey : key ≠ ":plugins") :
    Job.Alike (Differ u v) (dropNonList o key) (dropNonList o' key) := by
  have hset := h.set hkey (.list [])
  unfold Options.dropNonList
  dsimp only
  rw [hset.wantsWarnings]
  refine .bind (.refl _) ?_
  rintro warns _ rfl
  cases warns with
  | false => exact .pure hset
  | true => exact .bind (.refl _) fun _ _ _ => .pure hset

theorem listHelpers : Differ u v o.listHelpers o'.listHelpers := by
  unfold Options.listHelpers
  rw [h.get ":unity_helper_path" (by decide)]
  split
  · exact h.set (by decide) _
  · exact h

theorem includeHelpers :
    Outcome.Alike (Differ u v) (includeHelpers o) (includeHelpers o') := by
  unfold Options.includeHelpers
  rw [h.get ":unity_helper_path" (by decide), h.get ":mock_path" (by decide),
    h.get ":includes_c_post_header" (by decide)]
  refine .bind (.refl _) ?_
  rintro _ _ rfl
  refine .bind (.refl _) ?_
  rintro _ _ rfl
  refine .bind (.refl _) ?_
  rintro _ _ rfl
  split
  · refine .bind (.refl _) ?_
    rintro _ _ rfl
    exact .ok (h.set (by decide) _)
  · exact .error _

theorem addHelpers :
    Outcome.Alike (Differ u v) o.addHelpers o'.addHelpers := by
  unfold Options.addHelpers
  rw [h.flag ":unity_helper_path" (by decide)]
  split
  · exact h.includeHelpers
  · exact .ok h

theorem completeTreatAs :
    Outcome.Alike (Differ u v) o.completeTreatAs o'.completeTreatAs := by
  unfold Options.completeTreatAs
  rw [h.get ":treat_as" (by decide)]
  split
  · exact .ok (h.set (by decide) _)
  · exact .error _

end

theorem requireLists (hu : u.isList = true) (hv : v.isList = true) (keys : List String)
    (h : Differ u v o o') :
    Job.Alike (Differ u v) (requireLists keys o) (requireLists keys o') := by
  induction keys generalizing o o' with
  | nil => exact .pure h
  | cons key rest ih =>
    unfold Options.requireLists
    dsimp only
    by_cases hkey : key = ":plugins"
    · rw [hkey, h.left, h.right, hu, hv]
      exact ih h
    · rw [h.get key hkey]
      split
      · exact ih h
      · exact (h.dropNonList hkey).bind fun _ _ hset => ih hset

theorem requireListsIfGiven {keys : List String} (hkeys : ":plugins" ∉ keys)
    (h : Differ u v o o') :
    Job.Alike (Differ u v) (requireListsIfGiven keys o) (requireListsIfGiven keys o') := by
  induction keys generalizing o o' with
  | nil => exact .pure h
  | cons key rest ih =>
    obtain ⟨hkey, hrest⟩ := not_or.mp (mt mem_cons.mpr hkeys)
    unfold Options.requireListsIfGiven
    dsimp only
    rw [h.get key (Ne.symm hkey)]
    split
    · exact ih hrest h
    · split
      · exact ih hrest h
      · exact (h.dropNonList (Ne.symm hkey)).bind fun _ _ hset => ih hrest hset

theorem overDefaults (strippables : List Value) (before after : List (Value × Value))
    (hafter : ∀ entry ∈ after, entry.1 ≠ .str ":plugins") (u v : Value) :
    Differ u v (overDefaults strippables (before ++ (.str ":plugins", u) :: after))
      (overDefaults strippables (before ++ (.str ":plugins", v) :: after)) := by
  have hself : ∀ x, (Options.overDefaults strippables (before ++ (.str ":plugins", x) ::
      after)).get ":plugins" = x := fun x => by
    unfold Options.overDefaults Options.get
    rw [merge_append, merge_cons, lookup_merge_of_ne hafter,
      lookup_insert, if_pos (beq_str.mpr rfl)]
    rfl
  refine ⟨hself u, hself v, fun key hkey => ?_, ?_⟩
  · have hother : (Value.str ":plugins" == .str key) = false := by
      rw [Bool.eq_false_iff, ne_eq, beq_str, Value.str.injEq]
      exact hkey.symm
    unfold Options.overDefaults Options.get
    rw [merge_append, merge_cons, merge_append, merge_cons]
    refine congrArg (·.getD .null) (lookup_merge_congr ?_ after)
    rw [lookup_insert, lookup_insert, hother]
    rfl
  · have hother : (Value.str ":plugins" == .str ":strippables") = false := by decide
    unfold Options.overDefaults
    simp only [lookup_append, lookup_cons, hother]
    rfl

theorem namePlugins {us vs : List Value} {names' : List String}
    (h : Differ (.list us) (.list vs) o o') (hus : pluginNames us = .ok names)
    (hvs : pluginNames vs = .ok names') (hignore : ":ignore" ∈ names ↔ ":ignore" ∈ names') :
    Outcome.Alike (Differ (.texts names) (.texts names')) o.namePlugins o'.namePlugins := by
  have hgiven : o.givenPlugins = .ok names := by
    rw [givenPlugins, h.left]
    exact hus
  have hgiven' : o'.givenPlugins = .ok names' := by
    rw [givenPlugins, h.right]
    exact hvs
  rw [namePlugins_eq_bind, namePlugins_eq_bind, hgiven, hgiven']
  refine .bind (R := fun a b => a = names ∧ b = names') (.ok ⟨rfl, rfl⟩) ?_
  rintro _ _ ⟨rfl, rfl⟩
  simp only [hignore, h.flag ":fail_on_unexpected_calls" (by decide)]
  split
  · exact .ok (h.setPlugins _ _)
  · exact .error _

end Differ

theorem resolve_alike {before after : List (Value × Value)}
    (hafter : ∀ entry ∈ after, entry.1 ≠ .str ":plugins") {us vs : List Value}
    {names names' : List String} (hus : pluginNames us = .ok names)
    (hvs : pluginNames vs = .ok names') (hignore : ":ignore" ∈ names ↔ ":ignore" ∈ names') :
    Job.Alike (Differ (.texts names) (.texts names'))
      (resolve (.map (before ++ (.str ":plugins", .list us) :: after)))
      (resolve (.map (before ++ (.str ":plugins", .list vs) :: after))) := by
  unfold resolve ownEntries
  refine .bind (R := fun own own' => own = before ++ (.str ":plugins", .list us) :: after ∧
    own' = before ++ (.str ":plugins", .list vs) :: after) (.pure ⟨rfl, rfl⟩) ?_
  rintro _ _ ⟨rfl, rfl⟩
  refine .bind (.refl _) ?_
  rintro w _ rfl
  have hdiffer := Differ.overDefaults w.strippables before after hafter (.list us) (.list vs)
  refine .bind (hdiffer.requireLists rfl rfl _) ?_
  intro o o' h
  refine .bind (h.requireListsIfGiven (by decide)) ?_
  intro o o' h
  refine .bind (.lift h.listHelpers.addHelpers) ?_
  intro o o' h
  refine .bind (.lift (h.namePlugins hus hvs hignore)) ?_
  intro o o' h
  exact .lift h.completeTreatAs

end Options

end MockGen
