import MockGen.Path
import MockGen.Proofs.Text.Words

/-!
# Paths as text

What joining them gives, and the names on the way.
-/

namespace MockGen.Path

open List Text
open String hiding takeWhile_append_dropWhile

/-! ## Joining -/

/-- A path that does not start at the root. -/
def IsRelative (path : String) : Prop :=
  path.toList.head? ≠ some '/'

instance (path : String) : Decidable (IsRelative path) :=
  inferInstanceAs (Decidable (_ ≠ _))

variable {b c a tail : String}

theorem join_eq_append (hb : IsRelative b) (a : String) : join a b = join a "" ++ b := by
  have hroot : (b.toList.head? == some '/') = false := beq_eq_false_iff_ne.mpr hb
  unfold join
  rw [hroot]
  by_cases ha : (a == "" || a.toList.getLast? == some '/') = true <;> simp [ha]

theorem join_append (hb : b ≠ "") (a : String) : join (a ++ b) "" = a ++ join b "" := by
  have hlist : b.toList ≠ [] := by simpa using hb
  have hlast : (a ++ b).toList.getLast? = b.toList.getLast? := by
    rw [toList_append, getLast?_append_of_ne_nil _ hlist]
  have hne : a ++ b ≠ "" := by simp [hb]
  unfold join
  rw [hlast]
  by_cases hslash : b.toList.getLast? = some '/' <;> simp [hslash, hb, hne, String.append_assoc]

theorem head?_join (hb : b ≠ "") (hc : IsRelative c) :
    (join b c).toList.head? = b.toList.head? := by
  have hlist : b.toList ≠ [] := by simpa using hb
  have hlead : ∃ u, join b "" = b ++ u := by
    unfold join
    by_cases h : (b == "" || b.toList.getLast? == some '/') = true
    · exact ⟨"", by simp [h]⟩
    · exact ⟨"/", by simp [h]⟩
  obtain ⟨u, hu⟩ := hlead
  rw [join_eq_append hc, hu, String.append_assoc, toList_append,
    head?_append_of_ne_nil _ hlist]

theorem join_join (hc : IsRelative c) (a : String) : join (join a b) c = join a (join b c) := by
  by_cases hempty : b = ""
  · subst hempty
    have hleft : join "" "" = "" := rfl
    rw [join_eq_append hc (join a ""), join_eq_append hc "", hleft, empty_append,
      join_eq_append hc a]
    unfold join
    by_cases ha : a = "" <;> by_cases hslash : a.toList.getLast? = some '/' <;> simp [ha, hslash]
  · have hhead := head?_join hempty hc
    by_cases hb : IsRelative b
    · have hrelative : IsRelative (join b c) := by rwa [IsRelative, hhead]
      rw [join_eq_append hrelative a, join_eq_append hc, join_eq_append hc b, join_eq_append hb a,
        join_append hempty, String.append_assoc]
    · have hroot : b.toList.head? = some '/' := not_not.mp hb
      have hleft : join a b = b := by simp [join, hroot]
      have hright : join a (join b c) = join b c := by
        rw [join, hhead, hroot]
        rfl
      rw [hleft, hright]

theorem join_isPrefix (hb : IsRelative b) (a : String) : a.toList <+: (join a b).toList := by
  have hlead : a.toList <+: (join a "").toList := by
    unfold join
    by_cases h : (a == "" || a.toList.getLast? == some '/') = true <;> simp [h]
  rw [join_eq_append hb, toList_append]
  exact hlead.trans (prefix_append _ _)

theorem isRelative_append (ha : IsRelative a) (hb : IsRelative b) : IsRelative (a ++ b) := by
  unfold IsRelative at *
  rw [toList_append, head?_append]
  cases hhead : a.toList.head? with
  | none => simpa using hb
  | some c => simpa [hhead] using ha

theorem isRelative_append_of_ne (ha : IsRelative a) (hne : a ≠ "") (b : String) :
    IsRelative (a ++ b) := by
  have hlist : a.toList ≠ [] := by simpa using hne
  unfold IsRelative at *
  rwa [toList_append, head?_append_of_ne_nil _ hlist]

/-! ## The names on the way -/

/-- The steps of a path that are not empty. -/
def names (path : String) : List String :=
  (steps path).filter (· != "")

theorem names_empty : names "" = [] := rfl

theorem steps_append_slash (a b : String) : steps (a ++ "/" ++ b) = steps a ++ steps b := by
  have htext : (a ++ "/" ++ b).toList = a.toList ++ '/' :: b.toList := by simp
  unfold steps
  rw [htext, splitAt_append_cons, map_append]

theorem names_append_slash (a b : String) : names (a ++ "/" ++ b) = names a ++ names b := by
  unfold names
  rw [steps_append_slash, filter_append]

theorem names_slash_end (a : String) : names (a ++ "/") = names a := by
  have h := names_append_slash a ""
  rwa [append_empty, names_empty, append_nil] at h

theorem names_of_notMem {name : String} (h : '/' ∉ name.toList) (hne : name ≠ "") :
    names name = [name] := by
  unfold names steps
  rw [splitAt_of_notMem h]
  simp [hne]

theorem exists_of_getLast? (h : a.toList.getLast? = some '/') : ∃ b, a = b ++ "/" := by
  obtain ⟨front, hfront⟩ := getLast?_eq_some_iff.mp h
  refine ⟨String.ofList front, toList_inj.mp ?_⟩
  simp [hfront]

theorem names_join (hb : IsRelative b) (a : String) : names (join a b) = names a ++ names b := by
  have hroot : (b.toList.head? == some '/') = false := beq_eq_false_iff_ne.mpr hb
  unfold join
  rw [hroot, if_neg Bool.false_ne_true]
  by_cases hempty : a = ""
  · subst hempty
    simp [names_empty]
  by_cases hslash : a.toList.getLast? = some '/'
  · obtain ⟨front, rfl⟩ := exists_of_getLast? hslash
    rw [if_pos (by simp), names_append_slash, names_slash_end]
  · rw [if_neg (by simp [hempty, hslash]), names_append_slash]

/-! ## The last step -/

theorem toList_eq_append_fileName (path : String) :
    path.toList =
      (path.toList.reverse.dropWhile (· != '/')).reverse ++ (fileName path).toList := by
  rw [fileName, toList_ofList, ← reverse_append, takeWhile_append_dropWhile,
    reverse_reverse]

theorem slash_notMem_fileName (path : String) : '/' ∉ (fileName path).toList := by
  intro h
  rw [fileName, toList_ofList, mem_reverse] at h
  have hne := mem_takeWhile_imp h
  simp at hne

theorem eq_nil_or_exists_slash (path : String) :
    (path.toList.reverse.dropWhile (· != '/')).reverse = [] ∨
      ∃ front, (path.toList.reverse.dropWhile (· != '/')).reverse = front ++ ['/'] := by
  generalize path.toList.reverse = l
  rcases hrest : l.dropWhile (· != '/') with _ | ⟨c, rest⟩
  · exact .inl rfl
  · right
    have hhead := head?_dropWhile_not (· != '/') l
    rw [hrest] at hhead
    have hc : c = '/' := by simpa using hhead
    exact ⟨rest.reverse, by rw [reverse_cons, hc]⟩

theorem names_dropTrailing (l : List Char) :
    names (String.ofList (dropTrailing '/' l)) = names (String.ofList l) := by
  induction l using List.reverseRecOn with
  | nil => rfl
  | append_singleton front c ih =>
    by_cases hc : c = '/'
    · subst hc
      have htext : String.ofList (front ++ ['/']) = String.ofList front ++ "/" := by
        apply toList_inj.mp
        simp
      rw [dropTrailing_concat_self, ih, htext, names_slash_end]
    · rw [dropTrailing_eq_self (by simpa using hc)]

theorem names_parent (path : String) :
    names (parent path) ++ names (fileName path) = names path := by
  have hparts := toList_eq_append_fileName path
  have hbefore := eq_nil_or_exists_slash path
  unfold parent
  generalize (path.toList.reverse.dropWhile (· != '/')).reverse = before at hparts hbefore
  have hparent : names (String.ofList
      (if (dropTrailing '/' before).isEmpty then before else dropTrailing '/' before)) =
      names (String.ofList before) := by
    split
    · rfl
    · exact names_dropTrailing before
  dsimp only
  rw [hparent]
  rcases hbefore with rfl | ⟨front, rfl⟩
  · have hpath : path = fileName path := toList_inj.mp (by simpa using hparts)
    have hnil : names (String.ofList []) = [] := rfl
    rw [hnil, nil_append, ← hpath]
  · have htext : String.ofList (front ++ ['/']) = String.ofList front ++ "/" := by
      apply toList_inj.mp
      simp
    have hpath : path = String.ofList front ++ "/" ++ fileName path := by
      apply toList_inj.mp
      rw [hparts]
      simp [toList_append]
    rw [htext, names_slash_end, ← names_append_slash, ← hpath]

theorem fileName_ne_empty {path : String} (hne : path ≠ "")
    (h : path.toList.getLast? ≠ some '/') : fileName path ≠ "" := by
  intro hempty
  have hparts := toList_eq_append_fileName path
  rw [hempty, toList_empty, append_nil] at hparts
  rcases eq_nil_or_exists_slash path with hnil | ⟨front, hfront⟩
  · rw [hnil] at hparts
    exact hne (by simpa using hparts)
  · rw [hfront] at hparts
    exact h (by rw [hparts, getLast?_concat])

theorem fileName_append (h : '/' ∉ tail.toList) (path : String) :
    fileName (path ++ tail) = fileName path ++ tail := by
  have hpass : ∀ c ∈ tail.toList.reverse, (c != '/') = true := by
    intro c hc
    rw [bne_iff_ne]
    rintro rfl
    exact h (mem_reverse.mp hc)
  apply toList_inj.mp
  rw [fileName, fileName, toList_append, toList_append, toList_ofList,
    toList_ofList, reverse_append, takeWhile_append_of_pos hpass,
    reverse_append, reverse_reverse]

theorem parent_append (h : '/' ∉ tail.toList) (path : String) :
    parent (path ++ tail) = parent path := by
  have hpass : ∀ c ∈ tail.toList.reverse, (c != '/') = true := by
    intro c hc
    rw [bne_iff_ne]
    rintro rfl
    exact h (mem_reverse.mp hc)
  unfold parent
  rw [toList_append, reverse_append, dropWhile_append_of_pos hpass]

theorem dropTrailing_isPrefix (c : Char) (l : List Char) : dropTrailing c l <+: l := by
  have h := dropWhile_suffix (l := l.reverse) (· == c)
  have hrev := reverse_prefix.mpr h
  rwa [reverse_reverse] at hrev

theorem parent_isPrefix (path : String) : (parent path).toList <+: path.toList := by
  have hbefore : (path.toList.reverse.dropWhile (· != '/')).reverse <+: path.toList :=
    ⟨_, (toList_eq_append_fileName path).symm⟩
  unfold parent
  dsimp only
  rw [toList_ofList]
  split
  · exact hbefore
  · exact (dropTrailing_isPrefix _ _).trans hbefore

end MockGen.Path
