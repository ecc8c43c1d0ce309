import MockGen.Proofs.Pattern.Pieces

/-!
# What the groups of a match hold

A group of a simple pattern holds a reading of the pattern in it.
-/

namespace MockGen.Pattern

open List

/-- A text that a group with the number may hold after a match. -/
def Captures (number : Nat) : Pattern → List Char → Prop
  | seq p q, u => p.Captures number u ∨ q.Captures number u
  | alt p q, u => p.Captures number u ∨ q.Captures number u
  | group n p, u => (n = number ∧ ∃ before rest, p.Reads before u rest) ∨ p.Captures number u
  | _, _ => False

variable {u t : List Char} {number n : Nat} {p : Pattern} {m : Match} {c : Char}

@[simp] theorem captures_append {q : Pattern} :
    (p ++ q).Captures number u ↔ p.Captures number u ∨ q.Captures number u :=
  Iff.rfl

@[simp] theorem captures_group :
    (group n p).Captures number u ↔
      (n = number ∧ ∃ before rest, p.Reads before u rest) ∨ p.Captures number u :=
  Iff.rfl

@[simp] theorem not_captures_text (w : String) : ¬(text w).Captures number u := by
  unfold text
  induction w.toList with
  | nil => exact id
  | cons c t ih => exact fun h => h.elim id ih

@[simp] theorem not_captures_char (c : Char) : ¬(char c).Captures number u :=
  id

@[simp] theorem not_captures_stretch (s : CharSet) : ¬(stretch s).Captures number u :=
  id

@[simp] theorem not_captures_stretch1 (s : CharSet) : ¬(stretch1 s).Captures number u :=
  id

@[simp] theorem not_captures_place (a : Anchor) : ¬(place a).Captures number u :=
  id

/-- Everything that the groups hold is as `Q` allows. -/
def Hold (Q : Nat → List Char → Prop) (groups : List (Nat × Cursor × Cursor)) : Prop :=
  ∀ entry ∈ groups, Q entry.1 (entry.2.1.upTo entry.2.2)

/-- On its way to an accepting continuation, a simple pattern reads what it allows, and so do its
groups. -/
theorem run_captures {Q : Nat → List Char → Prop} (p : Pattern) (hp : p.isSimple = true)
    (hQ : ∀ number u, p.Captures number u → Q number u) {β : Type} {s : Progress}
    {k : Progress → Option β} {x : β} (h : p.run s k = some x) (hs : Hold Q s.groups) :
    ∃ u rest groups, s.cursor.rest = u ++ rest ∧ p.Reads s.cursor.before u rest ∧
      Hold Q groups ∧ k ⟨s.cursor.past u rest, groups⟩ = some x := by
  induction p generalizing s k with
  | empty => exact ⟨[], s.cursor.rest, s.groups, rfl, rfl, hs, h⟩
  | never => cases h
  | one cs =>
    obtain ⟨c, rest, hrest, hc, hk⟩ := run_one_sound h
    exact ⟨[c], rest, s.groups, hrest, ⟨c, rfl, hc⟩, hs, hk⟩
  | span cs least most greedy =>
    obtain ⟨u, rest, hrest, hleast, hmem, hk⟩ := run_span_sound h
    exact ⟨u, rest, s.groups, hrest, ⟨hleast, hmem⟩, hs, hk⟩
  | seq a b iha ihb =>
    obtain ⟨ha, hb⟩ : a.isSimple = true ∧ b.isSimple = true := by simpa [isSimple] using hp
    obtain ⟨u, rest, groups, hrest, hread, hgroups, h⟩ :=
      iha ha (fun n v hv => hQ n v (.inl hv)) h hs
    obtain ⟨v, rest', groups', hrest', hread', hgroups', hk⟩ :=
      ihb hb (fun n v hv => hQ n v (.inr hv)) h hgroups
    obtain rfl : rest = v ++ rest' := hrest'
    exact ⟨u ++ v, rest', groups', by simpa using hrest, ⟨u, v, rfl, hread, hread'⟩, hgroups',
      by simpa using hk⟩
  | alt a b iha ihb =>
    obtain ⟨ha, hb⟩ : a.isSimple = true ∧ b.isSimple = true := by simpa [isSimple] using hp
    rw [run] at h
    split at h
    case h_1 found hfound =>
      cases h
      obtain ⟨u, rest, groups, hrest, hread, hgroups, hk⟩ :=
        iha ha (fun n v hv => hQ n v (.inl hv)) hfound hs
      exact ⟨u, rest, groups, hrest, .inl hread, hgroups, hk⟩
    case h_2 =>
      obtain ⟨u, rest, groups, hrest, hread, hgroups, hk⟩ :=
        ihb hb (fun n v hv => hQ n v (.inr hv)) h hs
      exact ⟨u, rest, groups, hrest, .inr hread, hgroups, hk⟩
  | group number a ih =>
    rw [run_group] at h
    obtain ⟨u, rest, groups, hrest, hread, hgroups, hk⟩ :=
      ih (by simpa [isSimple] using hp) (fun n v hv => hQ n v (.inr hv)) h hs
    refine ⟨u, rest, _, hrest, hread, ?_, hk⟩
    refine forall_mem_cons.mpr ⟨?_, hgroups⟩
    rw [Cursor.upTo_past hrest]
    exact hQ number u (.inl ⟨rfl, _, _, hread⟩)
  | place a =>
    rw [run] at h
    split at h
    case isTrue ha =>
      refine ⟨[], s.cursor.rest, s.groups, rfl, ⟨rfl, ?_⟩, hs, h⟩
      rw [← ha]
      exact a.holds_pos _ _ _ _
    case isFalse => cases h
  | _ => simp [isSimple] at hp

theorem mem_allMatches : m ∈ p.allMatches t ↔ .hit m ∈ p.pieces t := by
  rw [allMatches, mem_filterMap]
  constructor
  · rintro ⟨piece, hpiece, hm⟩
    cases piece with
    | kept u => cases hm
    | hit m' =>
      cases hm
      exact hpiece
  · intro h
    exact ⟨_, h, rfl⟩

theorem captures_of_mem_allMatches (hp : p.isSimple = true) (h : m ∈ p.allMatches t)
    (number : Nat) : m.group number = [] ∨ p.Captures number (m.group number) := by
  obtain ⟨advance, c, hmatch⟩ := exists_matchHere?_of_mem_allMatches h
  obtain ⟨u, rest, groups, -, -, hgroups, hm⟩ :=
    run_captures (Q := fun n u => p.Captures n u) p hp (fun _ _ hu => hu) hmatch
      (fun entry hentry => nomatch hentry)
  split at hm
  · cases hm
  · cases hm
    unfold Match.group
    split
    case h_1 first last hlookup =>
      obtain ⟨front, back, (hsplit : groups = _), -⟩ := lookup_eq_some_iff.mp hlookup
      exact .inr (hgroups (number, first, last) (by rw [hsplit]; simp))
    case h_2 => exact .inl rfl

/-! ## Characters that a group cannot hold -/

/-- No reading of the pattern has the character, as far as its form shows. -/
def avoids (c : Char) : Pattern → Bool
  | empty | never | place _ => true
  | one s | span s _ _ _ => !s.mem c
  | seq p q | alt p q => p.avoids c && q.avoids c
  | group _ p | many p _ _ _ => p.avoids c
  | _ => false

theorem Repeats.notMem {R : List Char → List Char → List Char → Prop}
    (hR : ∀ before u rest, R before u rest → c ∉ u) {before rest : List Char}
    (h : Repeats R n before u rest) : c ∉ u := by
  induction h with
  | zero => exact not_mem_nil
  | succ first more ih => exact not_mem_append (hR _ _ _ first) ih

theorem notMem_of_avoids (hp : p.avoids c = true) {before rest : List Char}
    (h : p.Reads before u rest) : c ∉ u := by
  induction p generalizing before u rest with
  | empty =>
    obtain rfl : u = [] := h
    exact not_mem_nil
  | never => exact h.elim
  | one s =>
    obtain ⟨d, rfl, hd⟩ := h
    rw [mem_singleton]
    rintro rfl
    simp [avoids, hd] at hp
  | span s least most greedy =>
    intro hc
    have hmem := h.2 c hc
    simp [avoids, hmem] at hp
  | seq p q ihp ihq =>
    obtain ⟨hp, hq⟩ := (Bool.and_eq_true _ _).mp hp
    obtain ⟨v, w, rfl, hv, hw⟩ := h
    rw [mem_append, not_or]
    exact ⟨ihp hp hv, ihq hq hw⟩
  | alt p q ihp ihq =>
    obtain ⟨hp, hq⟩ := (Bool.and_eq_true _ _).mp hp
    exact h.elim (ihp hp) (ihq hq)
  | group number p ih => exact ih hp h
  | many p least most greedy ih =>
    obtain ⟨n, -, hrepeats⟩ := h
    exact hrepeats.notMem fun _ _ _ => ih hp
  | place a =>
    obtain ⟨rfl, -⟩ := h
    exact not_mem_nil
  | _ => cases hp

/-- No group with the number can hold the character, as far as the form of the pattern shows. -/
def spares (c : Char) (number : Nat) : Pattern → Bool
  | seq p q | alt p q => p.spares c number && q.spares c number
  | group n p => (n != number || p.avoids c) && p.spares c number
  | _ => true

theorem notMem_of_spares (hp : p.spares c number = true) (h : p.Captures number u) : c ∉ u := by
  induction p with
  | seq p q ihp ihq =>
    obtain ⟨hp, hq⟩ := (Bool.and_eq_true _ _).mp hp
    exact h.elim (ihp hp) (ihq hq)
  | alt p q ihp ihq =>
    obtain ⟨hp, hq⟩ := (Bool.and_eq_true _ _).mp hp
    exact h.elim (ihp hp) (ihq hq)
  | group n p ih =>
    obtain ⟨hown, hp⟩ := (Bool.and_eq_true _ _).mp hp
    rcases h with ⟨rfl, before, rest, hread⟩ | h
    · exact notMem_of_avoids (by simpa using hown) hread
    · exact ih hp h
  | _ => exact h.elim

theorem notMem_group (hsimple : p.isSimple = true) (hp : p.spares c number = true)
    (h : m ∈ p.allMatches t) : c ∉ m.group number := by
  rcases captures_of_mem_allMatches hsimple h number with hnil | hcaptures
  · rw [hnil]
    exact not_mem_nil
  · exact notMem_of_spares hp hcaptures

end MockGen.Pattern
