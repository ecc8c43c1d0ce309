import MockGen.Text.Case
import Mathlib.Data.List.Basic

/-!
# Lower case

Texts in lower case stay as they are when they are brought into lower case again.
-/

namespace MockGen.Text

open List Bool Option

/-- A character that is its own lower case form, also at the end of a word. -/
def isLowered (c : Char) : Bool :=
  lowerForm c == [c] && c != 'Σ'

variable {t before : List Char}

theorem lowerForm_of_isLowered {c : Char} (h : isLowered c = true) : lowerForm c = [c] := by
  rw [isLowered, and_eq_true, beq_iff_eq] at h
  exact h.1

/-! ## The tables lead to lower case -/

namespace CaseRun

def covers (run : CaseRun) (n : Nat) : Bool :=
  run.first ≤ n && n ≤ run.last && (n - run.first) % run.step == 0

def codes (run : CaseRun) : List Nat :=
  List.range' run.first ((run.last - run.first) / run.step + 1) run.step

def shifted (run : CaseRun) (n : Nat) : Nat :=
  ((n : Int) + run.shift).toNat

/-- No code point that the run gives is covered by the other one: the stretches do not meet, or the
code points are compared one by one. -/
def clears (run other : CaseRun) : Bool :=
  Nat.blt (run.shifted run.last) other.first || Nat.blt other.last (run.shifted run.first) ||
    run.codes.all fun n => !other.covers (run.shifted n)

theorem mem_codes {run : CaseRun} {n : Nat} (h : run.covers n = true) : n ∈ run.codes := by
  simp only [covers, and_eq_true, decide_eq_true_eq, beq_iff_eq] at h
  obtain ⟨⟨hfirst, hlast⟩, hmod⟩ := h
  rw [codes, mem_range']
  have hdiv := Nat.div_add_mod (n - run.first) run.step
  have hle : (n - run.first) / run.step ≤ (run.last - run.first) / run.step :=
    Nat.div_le_div_right (by omega)
  refine ⟨(n - run.first) / run.step, by omega, ?_⟩
  omega

theorem not_covers_of_clears {run other : CaseRun} {n : Nat} (hclears : run.clears other = true)
    (hn : run.covers n = true) : other.covers (run.shifted n) = false := by
  have hbounds : run.first ≤ n ∧ n ≤ run.last := by
    simp only [covers, and_eq_true, decide_eq_true_eq] at hn
    exact hn.1
  rw [clears, or_eq_true, or_eq_true] at hclears
  rcases hclears with (hbelow | habove) | hall
  · have hlt : run.shifted n < other.first := by
      have hlast := Nat.blt_eq.mp hbelow
      simp only [shifted] at hlast ⊢
      omega
    rw [covers, decide_eq_false (by omega), Bool.false_and, Bool.false_and]
  · have hlt : other.last < run.shifted n := by
      have hfirst := Nat.blt_eq.mp habove
      simp only [shifted] at hfirst ⊢
      omega
    rw [covers, decide_eq_false (p := run.shifted n ≤ other.last) (by omega), Bool.and_false,
      Bool.false_and]
  · have hcode := all_eq_true.mp hall n (mem_codes hn)
    rwa [not_eq_true'] at hcode

end CaseRun

/-- A code point of a character outside the list of longer forms; below the runs it is a lower case
letter already. -/
def isPlainCode (code : Nat) : Bool :=
  decide code.isValidChar && code != 'Σ'.toNat && (lowerForms.lookup code).isNone &&
    (Nat.ble 128 code || (Char.ofNat code).toLower == Char.ofNat code)

theorem isLowered_ascii : ∀ n < 128, isLowered (Char.ofNat n).toLower = true := by
  decide +kernel

theorem isLowered_lowerForms :
    ∀ form ∈ lowerForms, ∀ code ∈ form.2, isLowered (Char.ofNat code) = true := by
  decide +kernel

theorem isPlainCode_lowerRuns :
    ∀ run ∈ lowerRuns, ∀ n ∈ run.codes, isPlainCode (run.shifted n) = true := by
  decide +kernel

theorem clears_lowerRuns : (lowerRuns.all fun run => lowerRuns.all run.clears) = true := by
  decide +kernel

theorem isLowered_ofNat {code : Nat} (hplain : isPlainCode code = true)
    (hruns : ∀ other ∈ lowerRuns, other.covers code = false) :
    isLowered (Char.ofNat code) = true := by
  simp only [isPlainCode, and_eq_true, decide_eq_true_eq, bne_iff_ne,
    isNone_iff_eq_none] at hplain
  obtain ⟨⟨⟨hvalid, hsigma⟩, hlookup⟩, hascii⟩ := hplain
  have htoNat : (Char.ofNat code).toNat = code := by
    rw [Char.ofNat, dif_pos hvalid]
    rfl
  have hne : Char.ofNat code ≠ 'Σ' := fun h => hsigma (h ▸ htoNat.symm)
  have hform : lowerForm (Char.ofNat code) = [Char.ofNat code] := by
    rw [lowerForm, htoNat]
    split
    · rcases or_eq_true_iff.mp hascii with hlarge | hlower
      · exact absurd (Nat.ble_eq.mp hlarge) (by omega)
      · rw [beq_iff_eq.mp hlower]
    · have hshifted : shifted? lowerRuns code = none := by
        rw [shifted?, map_eq_none_iff, List.find?_eq_none]
        intro other hother
        exact eq_false_iff.mp (hruns other hother)
      rw [form, hlookup, hshifted]
      rfl
  rw [isLowered, hform, beq_self_eq_true, Bool.true_and, bne_iff_ne]
  exact hne

theorem isLowered_of_shifted {n code : Nat} (h : shifted? lowerRuns n = some code) :
    isLowered (Char.ofNat code) = true := by
  obtain ⟨run, hfind, rfl⟩ := map_eq_some_iff.mp h
  have hrun := mem_of_find?_eq_some hfind
  have hcovers : run.covers n = true :=
    find?_some (p := fun run : CaseRun => run.covers n) hfind
  refine isLowered_ofNat (isPlainCode_lowerRuns run hrun n (CaseRun.mem_codes hcovers)) ?_
  intro other hother
  have hclears := all_eq_true.mp (all_eq_true.mp clears_lowerRuns run hrun) other hother
  exact CaseRun.not_covers_of_clears hclears hcovers

theorem isLowered_of_mem_lowerForm {c d : Char} (h : d ∈ lowerForm c) : isLowered d = true := by
  by_cases hascii : c.toNat < 128
  · rw [lowerForm, if_pos hascii, mem_singleton] at h
    rw [h, ← Char.ofNat_toNat c]
    exact isLowered_ascii c.toNat hascii
  · cases hform : form lowerForms lowerRuns c.toNat with
    | none =>
      have hself : lowerForm c = [c] := by rw [lowerForm, if_neg hascii, hform, getD_none]
      rw [hself, mem_singleton] at h
      rw [h, isLowered, hself, beq_self_eq_true, Bool.true_and, bne_iff_ne]
      -- the capital sigma has a form
      rintro rfl
      revert hform
      decide +kernel
    | some chars =>
      rw [lowerForm, if_neg hascii, hform, getD_some] at h
      rw [form] at hform
      split at hform
      · rename_i codes hlookup
        obtain rfl := Option.some.inj hform
        obtain ⟨code, hcode, rfl⟩ := mem_map.mp h
        obtain ⟨front, back, hsplit, -⟩ := lookup_eq_some_iff.mp hlookup
        exact isLowered_lowerForms (c.toNat, codes) (by simp [hsplit]) code hcode
      · obtain ⟨code, hshifted, rfl⟩ := map_eq_some_iff.mp hform
        rw [mem_singleton.mp h]
        exact isLowered_of_shifted hshifted

/-! ## Texts -/

theorem isLowered_of_mem_lowerAfter {d : Char} (h : d ∈ lowerAfter before t) :
    isLowered d = true := by
  induction t generalizing before with
  | nil => cases h
  | cons c t ih =>
    rw [lowerAfter, mem_append] at h
    rcases h with h | h
    · split at h
      · rw [mem_singleton.mp h]
        decide +kernel
      · exact isLowered_of_mem_lowerForm h
    · exact ih h

theorem lowerAfter_eq_self (h : ∀ c ∈ t, isLowered c = true) : lowerAfter before t = t := by
  induction t generalizing before with
  | nil => rfl
  | cons c t ih =>
    have hc := h c mem_cons_self
    have hsigma : (c == 'Σ') = false := by
      rw [isLowered, and_eq_true, bne_iff_ne] at hc
      exact beq_eq_false_iff_ne.mpr hc.2
    rw [lowerAfter, hsigma, ih fun d hd => h d (mem_cons_of_mem c hd)]
    simp [lowerForm_of_isLowered hc]

theorem isLowered_of_mem_lower {c : Char} (h : c ∈ lower t) : isLowered c = true :=
  isLowered_of_mem_lowerAfter h

theorem lower_eq_self (h : ∀ c ∈ t, isLowered c = true) : lower t = t :=
  lowerAfter_eq_self h

end MockGen.Text
