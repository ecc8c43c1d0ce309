import MockGen.Proofs.Options
import MockGen.Proofs.Text.LowerCase
import MockGen.Proofs.Text.Words

/-!
# Resolved options

Resolved options resolve to themselves: their keys are those of the defaults and the others behind
them, lists are lists, plugins are spelled in their usual way, and what is included is a set.
-/

namespace MockGen

open List Text Outcome ReadM Value

variable {entries : List (Value × Value)} {key : String} {v : Value}

/-! ## Comparison -/

theorem Double.same_comm (x y : Double) : x.same y = y.same x := by
  cases x with
  | nan => cases y <;> rfl
  | infinite n => cases y <;> simp [same, Bool.beq_comm]
  | finite n m e =>
    cases y with
    | nan => rfl
    | infinite n' => rfl
    | finite n' m' e' =>
      by_cases hm : m = m'
      · simp [same, hm, Bool.beq_comm]
      · rw [same, same, beq_eq_false_iff_ne.mpr hm, beq_eq_false_iff_ne.mpr (Ne.symm hm)]
        rfl

theorem Value.beq_comm_of_isKey {a b : Value} (ha : a.isKey = true) (hb : b.isKey = true) :
    (a == b) = (b == a) := by
  cases a <;> cases b <;>
    simp_all [BEq.beq, same, int?, isKey, Double.same_comm, eq_comm]

/-! ## Keys -/

namespace Value

def Apart (entries : List (Value × Value)) : Prop :=
  (entries.map Prod.fst).Pairwise fun a b => (a == b) = false

theorem keys_insert (k v : Value) (entries : List (Value × Value)) :
    (insert k v entries).map Prod.fst =
      if (entries.map Prod.fst).any (· == k) then entries.map Prod.fst
      else entries.map Prod.fst ++ [k] := by
  induction entries with
  | nil => rfl
  | cons entry rest ih =>
    unfold insert
    cases hkey : entry.1 == k with
    | true => simp [hkey]
    | false =>
      rw [if_neg Bool.false_ne_true, map_cons, ih, map_cons, any_cons, hkey,
        Bool.false_or]
      split <;> rfl

theorem Apart.insert (h : Apart entries) (k v : Value) : Apart (insert k v entries) := by
  rw [Apart, keys_insert]
  split
  case isTrue => exact h
  case isFalse hnew =>
    refine pairwise_append.mpr ⟨h, pairwise_singleton _ _, fun a ha b hb => ?_⟩
    rw [mem_singleton.mp hb]
    by_contra hsame
    exact hnew (any_eq_true.mpr ⟨a, ha, by simpa using hsame⟩)

theorem Apart.merge {base : List (Value × Value)} (h : Apart base) (more : List (Value × Value)) :
    Apart (merge base more) := by
  induction more generalizing base with
  | nil => exact h
  | cons entry more ih => exact ih (h.insert entry.1 entry.2)

theorem prefix_insert (k v : Value) (entries : List (Value × Value)) :
    entries.map Prod.fst <+: (insert k v entries).map Prod.fst := by
  rw [keys_insert]
  split
  · exact prefix_rfl
  · exact prefix_append _ _

theorem prefix_merge (base more : List (Value × Value)) :
    base.map Prod.fst <+: (merge base more).map Prod.fst := by
  induction more generalizing base with
  | nil => exact prefix_rfl
  | cons entry more ih => exact (prefix_insert entry.1 entry.2 base).trans (ih _)

theorem merge_cons_of_apart {entry : Value × Value} {base more : List (Value × Value)}
    (h : ∀ other ∈ more, (entry.1 == other.1) = false) :
    merge (entry :: base) more = entry :: merge base more := by
  induction more generalizing base with
  | nil => rfl
  | cons other more ih =>
    have hinsert : insert other.1 other.2 (entry :: base) =
        entry :: insert other.1 other.2 base := by
      rw [insert, h other mem_cons_self, if_neg Bool.false_ne_true]
    rw [merge_cons, merge_cons, hinsert]
    exact ih fun next hnext => h next (mem_cons_of_mem _ hnext)

theorem merge_eq_self {base more : List (Value × Value)}
    (hkeys : base.map Prod.fst <+: more.map Prod.fst) (hmore : Apart more)
    (hself : ∀ entry ∈ base, (entry.1 == entry.1) = true) : merge base more = more := by
  induction more generalizing base with
  | nil =>
    rw [map_nil, prefix_nil, map_eq_nil_iff] at hkeys
    rw [hkeys]
    rfl
  | cons entry more ih =>
    rw [Apart, map_cons, pairwise_cons] at hmore
    have hnext : ∀ other ∈ more, (entry.1 == other.1) = false := fun other hother =>
      hmore.1 other.1 (mem_map_of_mem hother)
    cases base with
    | nil =>
      have hrest : merge [] more = more := ih nil_prefix hmore.2 nofun
      rw [merge_cons, insert, merge_cons_of_apart hnext, hrest]
    | cons first base =>
      rw [map_cons, map_cons, cons_prefix_cons] at hkeys
      have hfirst : insert entry.1 entry.2 (first :: base) = entry :: base := by
        rw [insert, ← hkeys.1, hself first mem_cons_self, if_pos rfl, hkeys.1]
      rw [merge_cons, hfirst, merge_cons_of_apart hnext,
        ih hkeys.2 hmore.2 fun other hother => hself other (mem_cons_of_mem _ hother)]

theorem insert_lookup (h : lookup (.str key) entries = some v) :
    insert (.str key) v entries = entries := by
  induction entries with
  | nil => cases h
  | cons entry rest ih =>
    rw [lookup_cons] at h
    unfold insert
    split at h
    case isTrue hkey =>
      rw [if_pos hkey, ← Option.some.inj h]
    case isFalse hkey =>
      rw [if_neg hkey, ih h]

theorem insert_insert (key : String) (u v : Value) (entries : List (Value × Value)) :
    insert (.str key) v (insert (.str key) u entries) = insert (.str key) v entries := by
  induction entries with
  | nil => rw [insert, insert, insert, if_pos (beq_str.mpr rfl)]
  | cons entry rest ih =>
    by_cases hkey : (entry.1 == .str key) = true
    · rw [insert, if_pos hkey, insert, if_pos hkey, insert, if_pos hkey]
    · rw [insert, if_neg hkey, insert, if_neg hkey, insert, if_neg hkey, ih]

end Value

namespace Options

/-! ## Complete options -/

/-- Options with the keys of the defaults first, and no key twice. -/
structure Complete (o : Options) : Prop where
  begins : (defaults []).map Prod.fst <+: o.entries.map Prod.fst
  apart : Value.Apart o.entries

def HasDefault (key : String) : Prop :=
  .str key ∈ (defaults []).map Prod.fst

variable {o o' : Options} {paths keys : List String}

theorem keys_defaults (strippables : List Value) :
    (defaults strippables).map Prod.fst = (defaults []).map Prod.fst :=
  rfl

theorem defaults_same (strippables : List Value) :
    ∀ entry ∈ defaults strippables, (entry.1 == entry.1) = true := by
  intro entry hentry
  obtain ⟨⟨key, value⟩, -, rfl⟩ := mem_map.mp hentry
  exact beq_str.mpr rfl

theorem complete_overDefaults (strippables : List Value) (own : List (Value × Value)) :
    Complete (overDefaults strippables own) := by
  have hbase : Value.Apart (defaults strippables) := by
    rw [Value.Apart, keys_defaults]
    decide
  refine ⟨?_, hbase.merge own⟩
  rw [← keys_defaults strippables]
  exact prefix_merge _ _

theorem Complete.lookup (h : Complete o) (hkey : HasDefault key) :
    Value.lookup (.str key) o.entries = some (o.get key) := by
  have hmem : .str key ∈ o.entries.map Prod.fst := h.begins.subset hkey
  obtain ⟨entry, hentry, hfst⟩ := mem_map.mp hmem
  have hsome : (o.entries.find? fun entry => entry.1 == .str key).isSome = true :=
    find?_isSome.mpr ⟨entry, hentry, beq_str.mpr hfst⟩
  obtain ⟨found, hfound⟩ := Option.isSome_iff_exists.mp hsome
  rw [get, Value.lookup, hfound]
  rfl

theorem Complete.set (h : Complete o) (key : String) (v : Value) :
    Complete (o.set key v) where
  begins := h.begins.trans (prefix_insert _ _ _)
  apart := h.apart.insert _ _

theorem Complete.set_eq_self (h : Complete o) (hkey : HasDefault key) (hv : o.get key = v) :
    o.set key v = o := by
  rw [Options.set, ← hv, insert_lookup (h.lookup hkey)]

theorem Complete.overDefaults_eq (h : Complete o) (strippables : List Value) :
    (overDefaults strippables o.entries).entries = o.entries := by
  have hkeys : (defaults strippables).map Prod.fst <+: o.entries.map Prod.fst := h.begins
  exact merge_eq_self hkeys h.apart (defaults_same strippables)

/-! ## What is included -/

theorem sortedSet_perm {l l' : List String} (h : ∀ t, t ∈ l ↔ t ∈ l') :
    (sortedSet l).Perm (sortedSet l') := by
  have hnodup : ∀ k : List String, (sortedSet k).Nodup := fun k =>
    (pairwise_sortedSet k).imp fun {a b} hab => by
      rintro rfl
      exact String.lt_irrefl a hab
  refine (perm_ext_iff_of_nodup (hnodup l) (hnodup l')).mpr fun t => ?_
  rw [mem_sortedSet, mem_sortedSet, h]

theorem keySet_eq_ok {values different : List Value} :
    Value.keySet values = .ok different ↔
      (∀ v ∈ values, v.isKey = true) ∧ different = distinct values := by
  rw [Value.keySet]
  split
  case isTrue h =>
    rw [Except.ok.injEq]
    exact ⟨fun heq => ⟨all_eq_true.mp h, heq.symm⟩, fun hset => hset.2.symm⟩
  case isFalse h =>
    rw [all_eq_true] at h
    exact ⟨nofun, fun hset => absurd hset.1 h⟩

theorem keySet_again {values ys : List Value} (hkeys : ∀ v ∈ values, v.isKey = true)
    (hpaths : ∀ path ∈ paths, .str path ∈ values) (hys : (distinct values).Perm ys) :
    Value.keySet (ys ++ paths.map .str) = .ok ys := by
  have hmem : ∀ y ∈ ys, y.isKey = true := fun y hy =>
    hkeys y (distinct_subset values (hys.mem_iff.mpr hy))
  rw [keySet_eq_ok]
  constructor
  · intro v hv
    rcases mem_append.mp hv with hv | hv
    · exact hmem v hv
    · obtain ⟨path, -, rfl⟩ := mem_map.mp hv
      rfl
  · refine (distinct_append_eq ?_ ?_).symm
    · -- being different goes both ways between keys
      have hapart : (distinct values).Pairwise fun a b =>
          a.isKey = true → b.isKey = true → (b == a) = false :=
        (pairwise_distinct values).imp fun h _ _ => h
      have hperm := (hys.pairwise_iff fun {a b} h hb ha => by
        rw [beq_comm_of_isKey ha hb]
        exact h ha hb).mp hapart
      exact hperm.imp_of_mem fun {a b} ha hb h => h (hmem a ha) (hmem b hb)
    · intro v hv
      obtain ⟨path, hpath, rfl⟩ := mem_map.mp hv
      rcases exists_of_mem_distinct (hpaths path hpath) with hd | ⟨d, hd, hsame⟩
      · exact ⟨_, hys.mem_iff.mp hd, beq_str.mpr rfl⟩
      · exact ⟨d, hys.mem_iff.mp hd, hsame⟩

theorem includedSet_again {headers : List Value} (h : includedSet headers paths = .ok v) :
    ∃ xs, v = .list xs ∧
      ∀ ys, xs.Perm ys → ∃ zs, includedSet ys paths = .ok (.list zs) ∧ xs.Perm zs := by
  rw [includedSet] at h
  split at h
  case isTrue htexts =>
    cases h
    refine ⟨_, rfl, fun ys hys => ?_⟩
    have htext : ys.all (·.text?.isSome) = true := by
      rw [all_eq_true]
      intro y hy
      obtain ⟨t, -, rfl⟩ := mem_map.mp (hys.mem_iff.mpr hy)
      rfl
    refine ⟨_, by rw [includedSet, htext]; rfl, List.Perm.map _ (sortedSet_perm fun t => ?_)⟩
    have hdisplay : (sortedSet (headers.map Value.display ++ paths)).Perm
        (ys.map Value.display) := by
      have hmap := hys.map Value.display
      have hid : Value.display ∘ Value.str = id := rfl
      rwa [map_map, hid, map_id] at hmap
    have hys : t ∈ ys.map Value.display ↔ t ∈ headers.map Value.display ++ paths := by
      rw [← hdisplay.mem_iff, mem_sortedSet]
    rw [mem_append, mem_append, hys, mem_append]
    tauto
  case isFalse hmixed =>
    obtain ⟨different, hdifferent, h⟩ := bind_eq_ok.mp h
    obtain ⟨hkeys, rfl⟩ := keySet_eq_ok.mp hdifferent
    cases h
    refine ⟨_, rfl, fun ys hys => ?_⟩
    have hperm : (distinct (headers ++ paths.map .str)).Perm ys :=
      (mergeSort_perm _ _).symm.trans hys
    have hagain : Value.keySet (ys ++ paths.map .str) = .ok ys :=
      keySet_again hkeys (fun path hpath => by simp [hpath]) hperm
    have hstray : ys.all (·.text?.isSome) = false := by
      rw [Bool.not_eq_true, all_eq_false] at hmixed
      obtain ⟨header, hheader, hnone⟩ := hmixed
      rw [all_eq_false]
      rcases exists_of_mem_distinct (mem_append_left (paths.map Value.str) hheader) with
        hd | ⟨d, hd, hsame⟩
      · exact ⟨header, hperm.mem_iff.mp hd, hnone⟩
      · refine ⟨d, hperm.mem_iff.mp hd, fun htext => hnone ?_⟩
        cases d with
        | str s => rw [beq_str.mp hsame]; rfl
        | _ => cases htext
    refine ⟨_, by rw [includedSet, hstray, hagain]; rfl, ?_⟩
    exact hys.trans (mergeSort_perm _ _).symm

/-! ## Plugins -/

theorem pluginName_again {name : String} (h : pluginName v = .ok name) :
    pluginName (.str name) = .ok name := by
  obtain ⟨rest, hname⟩ := exists_of_pluginName h
  have hlowered : ∀ c ∈ name.toList, isLowered c = true := by
    unfold pluginName at h
    split at h
    · rename_i s
      dsimp only at h
      split at h
      · cases h
      · rename_i c chars hlower
        cases h
        intro d hd
        rw [String.toList_ofList] at hd
        split at hd
        · exact isLowered_of_mem_lower hd
        · rcases mem_cons.mp hd with rfl | hd
          · decide
          · exact isLowered_of_mem_lower hd
    · cases h
  have hchars : lower name.toList = ':' :: rest.toList := by
    rw [lower_eq_self hlowered, hname]
    simp
  unfold pluginName
  dsimp only
  rw [hchars]
  dsimp only
  rw [beq_self_eq_true, if_pos rfl, hname]
  simp

theorem pluginNames_again {items : List Value} {names : List String}
    (h : pluginNames items = .ok names) : pluginNames (names.map .str) = .ok names := by
  have hnames : ∀ name ∈ names, pluginName (.str name) = .ok name := by
    intro name hname
    unfold pluginNames at h
    dsimp only at h
    split at h
    · cases h
    · obtain ⟨v, -, hv⟩ := (mem_mapM_iff h).mp hname
      exact pluginName_again hv
  have hgiven : (names.map Value.str).filter isEntry = names.map Value.str :=
    List.filter_eq_self.mpr fun v hv => by
      obtain ⟨name, -, rfl⟩ := mem_map.mp hv
      rfl
  have htexts : (names.map Value.str).any (fun v => v.text?.isNone) = false := by
    rw [any_eq_false]
    intro v hv
    obtain ⟨name, -, rfl⟩ := mem_map.mp hv
    exact Bool.false_ne_true
  unfold pluginNames
  dsimp only
  rw [hgiven, htexts, if_neg Bool.false_ne_true]
  refine mapM_eq_ok.mpr (forall₂_map_left_iff.mpr ?_)
  exact forall₂_same.mpr hnames

/-! ## Helper files -/

/-- The helper files as they are included. -/
def helperPaths (o : Options) : Except Fault (List String) := do
  let paths ← (← (o.get ":unity_helper_path").items).mapM Value.asText
  paths.mapM fun path => do
    return helperInclude (← (o.get ":mock_path").asText) path

theorem helperPaths_congr (hhelpers : o.get ":unity_helper_path" = o'.get ":unity_helper_path")
    (hpath : o.get ":mock_path" = o'.get ":mock_path") : helperPaths o = helperPaths o' := by
  rw [helperPaths, helperPaths, hhelpers, hpath]

theorem includeHelpers_eq_ok :
    includeHelpers o = .ok o' ↔ ∃ paths headers v, helperPaths o = .ok paths ∧
      o.get ":includes_c_post_header" = .list headers ∧ includedSet headers paths = .ok v ∧
      o' = o.set ":includes_c_post_header" v := by
  constructor
  · intro h
    rw [includeHelpers] at h
    obtain ⟨items, hitems, h⟩ := bind_eq_ok.mp h
    obtain ⟨texts, htexts, h⟩ := bind_eq_ok.mp h
    obtain ⟨paths, hpaths, h⟩ := bind_eq_ok.mp h
    split at h
    · rename_i headers hheaders
      obtain ⟨v, hv, h⟩ := bind_eq_ok.mp h
      refine ⟨paths, headers, v, ?_, hheaders, hv, (Except.ok.inj h).symm⟩
      exact bind_eq_ok.mpr ⟨items, hitems, bind_eq_ok.mpr ⟨texts, htexts, hpaths⟩⟩
    · cases h
  · rintro ⟨paths, headers, v, hpaths, hheaders, hv, rfl⟩
    obtain ⟨items, hitems, h⟩ := bind_eq_ok.mp hpaths
    obtain ⟨texts, htexts, h⟩ := bind_eq_ok.mp h
    rw [includeHelpers]
    refine bind_eq_ok.mpr ⟨items, hitems, bind_eq_ok.mpr ⟨texts, htexts, ?_⟩⟩
    refine bind_eq_ok.mpr ⟨paths, h, ?_⟩
    rw [hheaders]
    exact bind_eq_ok.mpr ⟨v, hv, rfl⟩

/-! ## Lists -/

/-- Options of which some have been replaced by empty lists. -/
structure Emptied (o o' : Options) : Prop where
  complete : Complete o'
  get : ∀ key, o'.get key = o.get key ∨ o'.get key = .list []

theorem Emptied.refl (h : Complete o) : Emptied o o :=
  ⟨h, fun _ => Or.inl rfl⟩

theorem Emptied.trans {o'' : Options} (h : Emptied o o') (h' : Emptied o' o'') : Emptied o o'' := by
  refine ⟨h'.complete, fun key => ?_⟩
  rcases h'.get key with hkey | hkey
  · rw [hkey]
    exact h.get key
  · exact Or.inr hkey

theorem Emptied.isList (h : Emptied o o') (hkey : (o.get key).isList = true) :
    (o'.get key).isList = true := by
  rcases h.get key with hget | hget
  · rw [hget, hkey]
  · rw [hget]
    rfl

theorem emptied_of_dropNonList {w w' : Workspace} (ho : Complete o)
    (h : (dropNonList o key).run w = (.ok o', w')) : Emptied o o' ∧ o'.get key = .list [] := by
  have hset : o' = o.set key (.list []) := by
    rw [dropNonList] at h
    obtain ⟨warns, w₁, -, h⟩ := run_bind_eq_ok.mp h
    cases warns with
    | false => exact (Except.ok.inj (Prod.mk.inj h).1).symm
    | true =>
      obtain ⟨-, w₂, -, h⟩ := run_bind_eq_ok.mp h
      exact (Except.ok.inj (Prod.mk.inj h).1).symm
  rw [hset]
  refine ⟨⟨ho.set _ _, fun other => ?_⟩, get_set_self o key _⟩
  rw [get_set]
  split
  · exact Or.inr rfl
  · exact Or.inl rfl

theorem emptied_of_requireLists {w w' : Workspace} (ho : Complete o)
    (h : (requireLists keys o).run w = (.ok o', w')) :
    Emptied o o' ∧ ∀ key ∈ keys, (o'.get key).isList = true := by
  induction keys generalizing o w with
  | nil =>
    cases h
    exact ⟨.refl ho, nofun⟩
  | cons key rest ih =>
    rw [requireLists] at h
    have hstep : ∃ o₁ w₁, Emptied o o₁ ∧ (o₁.get key).isList = true ∧
        (requireLists rest o₁).run w₁ = (.ok o', w') := by
      split at h
      case isTrue hlist => exact ⟨o, w, .refl ho, hlist, h⟩
      case isFalse =>
        obtain ⟨o₁, w₁, hdrop, hrest⟩ := run_bind_eq_ok.mp h
        obtain ⟨hemptied, hget⟩ := emptied_of_dropNonList ho hdrop
        exact ⟨o₁, w₁, hemptied, by rw [hget]; rfl, hrest⟩
    obtain ⟨o₁, w₁, hfirst, hlist, hrest⟩ := hstep
    obtain ⟨hemptied, hlists⟩ := ih hfirst.complete hrest
    refine ⟨hfirst.trans hemptied, fun other hother => ?_⟩
    rcases mem_cons.mp hother with rfl | hother
    · exact hemptied.isList hlist
    · exact hlists other hother

/-- An option that is a list or not given. -/
def IsListIfGiven (v : Value) : Prop :=
  v = .null ∨ v.isList = true

theorem Emptied.isListIfGiven (h : Emptied o o') (hkey : IsListIfGiven (o.get key)) :
    IsListIfGiven (o'.get key) := by
  rcases h.get key with hget | hget
  · rw [hget]
    exact hkey
  · rw [hget]
    exact Or.inr rfl

theorem emptied_of_requireListsIfGiven {w w' : Workspace} (ho : Complete o)
    (h : (requireListsIfGiven keys o).run w = (.ok o', w')) :
    Emptied o o' ∧ ∀ key ∈ keys, IsListIfGiven (o'.get key) := by
  induction keys generalizing o w with
  | nil =>
    cases h
    exact ⟨.refl ho, nofun⟩
  | cons key rest ih =>
    rw [requireListsIfGiven] at h
    have hstep : ∃ o₁ w₁, Emptied o o₁ ∧ IsListIfGiven (o₁.get key) ∧
        (requireListsIfGiven rest o₁).run w₁ = (.ok o', w') := by
      dsimp only at h
      split at h
      case h_1 hnull => exact ⟨o, w, .refl ho, Or.inl hnull, h⟩
      case h_2 =>
        split at h
        case isTrue hlist => exact ⟨o, w, .refl ho, Or.inr hlist, h⟩
        case isFalse =>
          obtain ⟨o₁, w₁, hdrop, hrest⟩ := run_bind_eq_ok.mp h
          obtain ⟨hemptied, hget⟩ := emptied_of_dropNonList ho hdrop
          exact ⟨o₁, w₁, hemptied, Or.inr (by rw [hget]; rfl), hrest⟩
    obtain ⟨o₁, w₁, hfirst, hlist, hrest⟩ := hstep
    obtain ⟨hemptied, hlists⟩ := ih hfirst.complete hrest
    refine ⟨hfirst.trans hemptied, fun other hother => ?_⟩
    rcases mem_cons.mp hother with rfl | hother
    · exact hemptied.isListIfGiven hlist
    · exact hlists other hother

theorem requireLists_of_isList (h : ∀ key ∈ keys, (o.get key).isList = true) (w : Workspace) :
    (requireLists keys o).run w = (.ok o, w) := by
  induction keys with
  | nil => rfl
  | cons key rest ih =>
    rw [requireLists, if_pos (h key mem_cons_self)]
    exact ih fun other hother => h other (mem_cons_of_mem _ hother)

theorem requireListsIfGiven_of_isList (h : ∀ key ∈ keys, IsListIfGiven (o.get key))
    (w : Workspace) : (requireListsIfGiven keys o).run w = (.ok o, w) := by
  induction keys with
  | nil => rfl
  | cons key rest ih =>
    have hrest := ih fun other hother => h other (mem_cons_of_mem _ hother)
    rw [requireListsIfGiven]
    dsimp only
    split
    case h_1 => exact hrest
    case h_2 hnull =>
      rw [if_pos ((h key mem_cons_self).resolve_left hnull)]
      exact hrest

/-! ## Settled options -/

/-- Options whose lists are lists and whose helper files are included. -/
structure Helped (o : Options) : Prop where
  complete : Complete o
  lists : ∀ key ∈ [":plugins", ":attributes", ":treat_as_void"], (o.get key).isList = true
  given : ∀ key ∈ [":includes", ":includes_h_pre_orig_header", ":includes_h_post_orig_header",
    ":includes_c_pre_header", ":includes_c_post_header"], IsListIfGiven (o.get key)
  helpers : ∀ path, o.get ":unity_helper_path" ≠ .str path
  headers : o.flag ":unity_helper_path" = true → ∃ paths xs, helperPaths o = .ok paths ∧
    o.get ":includes_c_post_header" = .list xs ∧
    ∀ ys, xs.Perm ys → ∃ zs, includedSet ys paths = .ok (.list zs) ∧ xs.Perm zs

/-- Options on which no step of resolving has anything to do, but for the order of what is
included. -/
structure Settled (o : Options) : Prop extends Helped o where
  plugins : ∃ names, o.get ":plugins" = .texts names ∧
    pluginNames (names.map .str) = .ok names ∧
    (":ignore" ∈ names ∨ o.flag ":fail_on_unexpected_calls" = true)
  treatAs : ∃ entries, o.get ":treat_as" = .map entries ∧
    Value.merge standardTreatAsEntries entries = entries

/-- The entries of the options, with what is included in any order. -/
def Reordered (o : Options) (entries : List (Value × Value)) : Prop :=
  entries = o.entries ∨ ∃ xs ys, o.get ":includes_c_post_header" = .list xs ∧ xs.Perm ys ∧
    entries = (o.set ":includes_c_post_header" (.list ys)).entries

theorem merge_standardTreatAs_again (entries : List (Value × Value)) :
    Value.merge standardTreatAsEntries (Value.merge standardTreatAsEntries entries) =
      Value.merge standardTreatAsEntries entries := by
  have hstandard : Value.Apart standardTreatAsEntries := by
    rw [Value.Apart]
    decide
  refine merge_eq_self (prefix_merge _ _) (hstandard.merge entries) ?_
  intro entry hentry
  obtain ⟨⟨type, kind⟩, -, rfl⟩ := mem_map.mp hentry
  exact beq_str.mpr rfl

theorem completeTreatAs_eq_ok_iff :
    o.completeTreatAs = .ok o' ↔ ∃ entries, o.get ":treat_as" = .map entries ∧
      o' = o.set ":treat_as" (.map (Value.merge standardTreatAsEntries entries)) := by
  rw [completeTreatAs]
  split
  case h_1 entries hentries => simp [hentries, eq_comm]
  case h_2 hother => simpa using fun entries hentries => absurd hentries (hother entries)

theorem listHelpers_get (hkey : ":unity_helper_path" ≠ key) :
    o.listHelpers.get key = o.get key := by
  rw [listHelpers]
  split
  · exact get_set_of_ne o hkey _
  · rfl

theorem listHelpers_ne_str (o : Options) (path : String) :
    o.listHelpers.get ":unity_helper_path" ≠ .str path := by
  rw [listHelpers]
  split
  case h_1 => rw [get_set_self]; nofun
  case h_2 hother => exact hother path

theorem Complete.listHelpers (h : Complete o) : Complete o.listHelpers := by
  rw [Options.listHelpers]
  split
  · exact h.set _ _
  · exact h

theorem Helped.congr (h : Helped o) (hcomplete : Complete o')
    (hplugins : (o'.get ":plugins").isList = true)
    (hget : ∀ key, key ≠ ":plugins" → key ≠ ":treat_as" → o'.get key = o.get key) :
    Helped o' where
  complete := hcomplete
  lists := by
    intro key hkey
    by_cases hplugin : key = ":plugins"
    · rw [hplugin]
      exact hplugins
    · have hother : key ≠ ":treat_as" := by
        rintro rfl
        exact absurd hkey (by decide)
      rw [hget key hplugin hother]
      exact h.lists key hkey
  given := by
    intro key hkey
    have hother : key ≠ ":plugins" ∧ key ≠ ":treat_as" := by
      constructor <;> (rintro rfl; exact absurd hkey (by decide))
    rw [hget key hother.1 hother.2]
    exact h.given key hkey
  helpers := by
    rw [hget _ (by decide) (by decide)]
    exact h.helpers
  headers := by
    rw [flag, hget _ (by decide) (by decide),
      hget ":includes_c_post_header" (by decide) (by decide),
      helperPaths_congr (hget ":unity_helper_path" (by decide) (by decide))
        (hget ":mock_path" (by decide) (by decide))]
    exact h.headers

theorem helped_of_addHelpers (hcomplete : Complete o)
    (hlists : ∀ key ∈ [":plugins", ":attributes", ":treat_as_void"], (o.get key).isList = true)
    (hgiven : ∀ key ∈ [":includes", ":includes_h_pre_orig_header", ":includes_h_post_orig_header",
      ":includes_c_pre_header", ":includes_c_post_header"], IsListIfGiven (o.get key))
    (hhelpers : ∀ path, o.get ":unity_helper_path" ≠ .str path) (h : o.addHelpers = .ok o') :
    Helped o' := by
  rw [addHelpers] at h
  split at h
  case isFalse hflag =>
    cases h
    exact ⟨hcomplete, hlists, hgiven, hhelpers, fun h => absurd h hflag⟩
  case isTrue =>
    obtain ⟨paths, headers, v, hpaths, -, hv, rfl⟩ := includeHelpers_eq_ok.mp h
    obtain ⟨xs, rfl, hagain⟩ := includedSet_again hv
    have hget : ∀ key, ":includes_c_post_header" ≠ key →
        (o.set ":includes_c_post_header" (.list xs)).get key = o.get key := fun key hkey =>
      get_set_of_ne o hkey _
    constructor
    case complete => exact hcomplete.set _ _
    case lists =>
      intro key hkey
      rw [hget key (by rintro rfl; exact absurd hkey (by decide))]
      exact hlists key hkey
    case given =>
      intro key hkey
      by_cases hpost : ":includes_c_post_header" = key
      · rw [← hpost, get_set_self]
        exact Or.inr rfl
      · rw [hget key hpost]
        exact hgiven key hkey
    case helpers =>
      rw [hget _ (by decide)]
      exact hhelpers
    case headers =>
      refine fun _ => ⟨paths, xs, ?_, get_set_self o _ _, hagain⟩
      rw [helperPaths_congr (hget _ (by decide)) (hget _ (by decide))]
      exact hpaths

theorem settled_of_resolve {given : Value} {w w' : Workspace}
    (h : (resolve given).run w = (.ok o, w')) : Settled o := by
  rw [resolve] at h
  obtain ⟨own, w₁, -, h⟩ := run_bind_eq_ok.mp h
  obtain ⟨found, w₂, -, h⟩ := run_bind_eq_ok.mp h
  obtain ⟨o₁, w₃, hlists, h⟩ := run_bind_eq_ok.mp h
  obtain ⟨o₂, w₄, hgiven, h⟩ := run_bind_eq_ok.mp h
  obtain ⟨o₃, w₅, hhelpers, h⟩ := run_bind_eq_ok.mp h
  obtain ⟨o₄, w₆, hplugins, h⟩ := run_bind_eq_ok.mp h
  rw [run_lift] at hhelpers hplugins h
  obtain ⟨hemptied₁, hlists⟩ := emptied_of_requireLists (complete_overDefaults _ _) hlists
  obtain ⟨hemptied₂, hgiven⟩ := emptied_of_requireListsIfGiven hemptied₁.complete hgiven
  have hhelped : Helped o₃ := by
    refine helped_of_addHelpers hemptied₂.complete.listHelpers ?_ ?_ (listHelpers_ne_str o₂)
      (Prod.mk.inj hhelpers).1
    · intro key hkey
      rw [listHelpers_get (by rintro rfl; exact absurd hkey (by decide))]
      exact hemptied₂.isList (hlists key hkey)
    · intro key hkey
      rw [listHelpers_get (by rintro rfl; exact absurd hkey (by decide))]
      exact hgiven key hkey
  obtain ⟨names, hnames, hignore, rfl⟩ := namePlugins_eq_ok.mp (Prod.mk.inj hplugins).1
  obtain ⟨entries, hentries, rfl⟩ := completeTreatAs_eq_ok_iff.mp (Prod.mk.inj h).1
  have hplugin : ((o₃.set ":plugins" (.texts names)).set ":treat_as"
      (.map (Value.merge standardTreatAsEntries entries))).get ":plugins" = .texts names := by
    rw [get_set_of_ne _ (by decide), get_set_self]
  have hget : ∀ key, key ≠ ":plugins" → key ≠ ":treat_as" →
      ((o₃.set ":plugins" (.texts names)).set ":treat_as"
        (.map (Value.merge standardTreatAsEntries entries))).get key = o₃.get key := by
    intro key hplugin htreat
    rw [get_set_of_ne _ htreat.symm, get_set_of_ne _ hplugin.symm]
  refine ⟨hhelped.congr ((hhelped.complete.set _ _).set _ _) (by rw [hplugin]; rfl) hget,
    ⟨names, hplugin, ?_, ?_⟩, ⟨_, get_set_self _ _ _, merge_standardTreatAs_again entries⟩⟩
  · rw [givenPlugins] at hnames
    split at hnames
    · exact pluginNames_again hnames
    · cases hnames
      rfl
  · rw [flag, hget _ (by decide) (by decide)]
    exact hignore

/-! ## Resolving again -/

theorem Settled.congr (h : Settled o) (hentries : o'.entries = o.entries) : Settled o' := by
  have hget : ∀ key, o'.get key = o.get key := by
    intro key
    rw [get, get, hentries]
  have hcomplete : Complete o' := ⟨hentries ▸ h.complete.begins, hentries ▸ h.complete.apart⟩
  have hlist := h.lists ":plugins" (by decide)
  refine ⟨h.toHelped.congr hcomplete (by rwa [hget]) fun key _ _ => hget key, ?_, ?_⟩
  · rw [flag, hget, hget]
    exact h.plugins
  · rw [hget]
    exact h.treatAs

theorem Settled.reorder (h : Settled o) {xs ys : List Value}
    (hxs : o.get ":includes_c_post_header" = .list xs) (hperm : xs.Perm ys) :
    Settled (o.set ":includes_c_post_header" (.list ys)) := by
  have hget : ∀ key, ":includes_c_post_header" ≠ key →
      (o.set ":includes_c_post_header" (.list ys)).get key = o.get key := fun key hkey =>
    get_set_of_ne o hkey _
  constructor
  case toHelped =>
    constructor
    case complete => exact h.complete.set _ _
    case lists =>
      intro key hkey
      rw [hget key (by rintro rfl; exact absurd hkey (by decide))]
      exact h.lists key hkey
    case given =>
      intro key hkey
      by_cases hpost : ":includes_c_post_header" = key
      · rw [← hpost, get_set_self]
        exact Or.inr rfl
      · rw [hget key hpost]
        exact h.given key hkey
    case helpers =>
      rw [hget _ (by decide)]
      exact h.helpers
    case headers =>
      intro hflag
      rw [flag, hget _ (by decide)] at hflag
      obtain ⟨paths, xs', hpaths, hxs', hagain⟩ := h.headers hflag
      obtain rfl : xs' = xs := Value.list.inj (hxs'.symm.trans hxs)
      refine ⟨paths, ys, ?_, get_set_self o _ _, fun ys' hys' => ?_⟩
      · rw [helperPaths_congr (hget _ (by decide)) (hget _ (by decide))]
        exact hpaths
      · obtain ⟨zs, hzs, hxzs⟩ := hagain ys' (hperm.trans hys')
        exact ⟨zs, hzs, hperm.symm.trans hxzs⟩
  case plugins =>
    rw [flag, hget _ (by decide), hget _ (by decide)]
    exact h.plugins
  case treatAs =>
    rw [hget _ (by decide)]
    exact h.treatAs

theorem Reordered.trans (h : Reordered o o'.entries) (h' : Reordered o' entries) :
    Reordered o entries := by
  rcases h with h | ⟨xs, ys, hxs, hxys, h⟩
  · rcases h' with h' | ⟨us, vs, hus, huvs, h'⟩
    · exact Or.inl (h'.trans h)
    · refine Or.inr ⟨us, vs, ?_, huvs, ?_⟩
      · rw [get, ← h]
        exact hus
      · rw [h', set, set, h]
  · rcases h' with h' | ⟨us, vs, hus, huvs, h'⟩
    · exact Or.inr ⟨xs, ys, hxs, hxys, h'.trans h⟩
    · have hys : us = ys := by
        rw [get, h] at hus
        exact Value.list.inj (hus.symm.trans (get_set_self o _ _))
      refine Or.inr ⟨xs, vs, hxs, hxys.trans (hys ▸ huvs), ?_⟩
      rw [h', set, h, set, insert_insert, set]

theorem Settled.listHelpers_eq (h : Settled o) : o.listHelpers = o := by
  rw [listHelpers]
  split
  case h_1 path hpath => exact absurd hpath (h.helpers path)
  case h_2 => rfl

theorem Settled.exists_addHelpers (h : Settled o) :
    ∃ o', o.addHelpers = .ok o' ∧ Reordered o o'.entries ∧ Settled o' := by
  rw [addHelpers]
  split
  case isTrue hflag =>
    obtain ⟨paths, xs, hpaths, hxs, hagain⟩ := h.headers hflag
    obtain ⟨zs, hzs, hperm⟩ := hagain xs (List.Perm.refl xs)
    exact ⟨_, includeHelpers_eq_ok.mpr ⟨paths, xs, _, hpaths, hxs, hzs, rfl⟩,
      Or.inr ⟨xs, zs, hxs, hperm, rfl⟩, h.reorder hxs hperm⟩
  case isFalse => exact ⟨o, rfl, Or.inl rfl, h⟩

theorem Settled.namePlugins_eq (h : Settled o) : o.namePlugins = .ok o := by
  obtain ⟨names, hnames, hagain, hignore⟩ := h.plugins
  refine namePlugins_eq_ok.mpr ⟨names, ?_, hignore, ?_⟩
  · rw [givenPlugins, hnames]
    exact hagain
  · exact (h.complete.set_eq_self (by simp [HasDefault, defaults]) hnames).symm

theorem Settled.completeTreatAs_eq (h : Settled o) : o.completeTreatAs = .ok o := by
  obtain ⟨entries, hentries, hagain⟩ := h.treatAs
  refine completeTreatAs_eq_ok_iff.mpr ⟨entries, hentries, ?_⟩
  rw [hagain]
  exact (h.complete.set_eq_self (by simp [HasDefault, defaults]) hentries).symm

/-- Resolving settled options prints nothing and changes nothing but the order of what is
included. -/
theorem Settled.resolve_run (h : Settled o) (w : Workspace) :
    ∃ o', (resolve (.map o.entries)).run w = (.ok o', w) ∧ Reordered o o'.entries := by
  have hbase : (overDefaults w.strippables o.entries).entries = o.entries :=
    h.complete.overDefaults_eq w.strippables
  have hsettled : Settled (overDefaults w.strippables o.entries) := h.congr hbase
  obtain ⟨o', ho', hreordered, hsettled'⟩ := hsettled.exists_addHelpers
  refine ⟨o', ?_, Reordered.trans (Or.inl hbase) hreordered⟩
  rw [resolve]
  refine run_bind_eq_ok.mpr ⟨o.entries, w, rfl, ?_⟩
  refine run_bind_eq_ok.mpr ⟨w, w, rfl, ?_⟩
  refine run_bind_eq_ok.mpr ⟨_, w, requireLists_of_isList hsettled.lists w, ?_⟩
  refine run_bind_eq_ok.mpr ⟨_, w, requireListsIfGiven_of_isList hsettled.given w, ?_⟩
  refine run_bind_eq_ok.mpr ⟨o', w, ?_, ?_⟩
  · rw [run_lift, hsettled.listHelpers_eq, ho']
  · refine run_bind_eq_ok.mpr ⟨o', w, ?_, ?_⟩
    · rw [run_lift, hsettled'.namePlugins_eq]
    · rw [run_lift, hsettled'.completeTreatAs_eq]

/-- Whatever options were resolved, and in whatever order the result lists what is included:
resolving the result succeeds in every workspace, prints no warning, and gives the same entries in
the same order again, but for the order of what is included. -/
theorem resolve_again {given : Value} {o : Options} {w w' : Workspace}
    (h : (resolve given).run w = (.ok o, w')) {entries : List (Value × Value)}
    (hentries : Reordered o entries) (w₂ : Workspace) :
    ∃ o₂, (resolve (.map entries)).run w₂ = (.ok o₂, w₂) ∧ Reordered o o₂.entries := by
  have hsettled := settled_of_resolve h
  rcases hentries with rfl | ⟨xs, ys, hxs, hperm, rfl⟩
  · exact hsettled.resolve_run w₂
  · obtain ⟨o₂, hrun, hreordered⟩ := (hsettled.reorder hxs hperm).resolve_run w₂
    exact ⟨o₂, hrun, Reordered.trans (Or.inr ⟨xs, ys, hxs, hperm, rfl⟩) hreordered⟩

theorem resolve_again_spelled : ∃ o w',
    (resolve (.map [(.str ":plugins", .list [.str "Ignore", .null, .str ":CException"]),
      (.str ":verbosity", .int 0), (.str ":attributes", .str "none"),
      (.str ":unity_helper_path", .str "mocks/help.h"), (.str "note", .null),
      (.str ":includes_c_post_header", .list [.int 1, .str "a.h", .bool true]),
      (.str ":treat_as", .map [(.str "tank_t", .str "INT"), (.str "int", .str "HEX")])])).run
      { strippables := [] } = (.ok o, w') ∧
    o.plugins = [":ignore", ":cexception"] ∧
    ∃ o₂, (resolve (.map o.entries)).run w' = (.ok o₂, w') ∧ Reordered o o₂.entries := by
  obtain ⟨o, w', hrun, hplugins⟩ := exists_run_of_any
    (P := fun o => o.plugins == [":ignore", ":cexception"])
    (x := resolve (.map [(.str ":plugins", .list [.str "Ignore", .null, .str ":CException"]),
      (.str ":verbosity", .int 0), (.str ":attributes", .str "none"),
      (.str ":unity_helper_path", .str "mocks/help.h"), (.str "note", .null),
      (.str ":includes_c_post_header", .list [.int 1, .str "a.h", .bool true]),
      (.str ":treat_as", .map [(.str "tank_t", .str "INT"), (.str "int", .str "HEX")])]))
    (s := { strippables := [] }) (by decide +kernel)
  exact ⟨o, w', hrun, beq_iff_eq.mp hplugins, resolve_again hrun (Or.inl rfl) w'⟩

end Options

end MockGen
