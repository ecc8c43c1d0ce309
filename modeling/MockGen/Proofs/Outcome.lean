import MockGen.Workspace
import MockGen.Proofs.Header.Run
import Mathlib.Data.List.Forall2

/-!
# Results and faults

Steps that give a result or a fault: what it means that several of them give results, and that two
of them run alike.
-/

namespace MockGen.Outcome

variable {α β : Type} {f : α → Except Fault β} {x : Except Fault α} {l : List α} {results : List β}

theorem bind_eq_ok {b : β} : x >>= f = .ok b ↔ ∃ a, x = .ok a ∧ f a = .ok b := by
  cases x with
  | error fault =>
    constructor
    · intro h
      cases h
    · rintro ⟨a, h, -⟩
      cases h
  | ok a =>
    constructor
    · intro h
      exact ⟨a, rfl, h⟩
    · rintro ⟨a', h, hf⟩
      cases h
      exact hf

theorem mapM_eq_ok : l.mapM f = .ok results ↔ List.Forall₂ (fun a b => f a = .ok b) l results := by
  induction l generalizing results with
  | nil =>
    constructor
    · intro h
      cases h
      exact .nil
    · rintro ⟨⟩
      rfl
  | cons a l ih =>
    rw [List.mapM_cons, bind_eq_ok]
    constructor
    · rintro ⟨b, hb, h⟩
      obtain ⟨bs, hbs, hpure⟩ := bind_eq_ok.mp h
      cases hpure
      exact .cons hb (ih.mp hbs)
    · intro h
      cases h with
      | cons hb hbs => exact ⟨_, hb, bind_eq_ok.mpr ⟨_, ih.mpr hbs, rfl⟩⟩

theorem mem_mapM_iff (h : l.mapM f = .ok results) {b : β} : b ∈ results ↔ ∃ a ∈ l, f a = .ok b := by
  rw [mapM_eq_ok] at h
  induction h with
  | nil => simp
  | cons hhead _ ih => simp [ih, hhead, eq_comm]

theorem exists_mapM_eq_ok (h : ∀ a ∈ l, ∃ b, f a = .ok b) : ∃ results, l.mapM f = .ok results := by
  induction l with
  | nil => exact ⟨[], rfl⟩
  | cons a l ih =>
    obtain ⟨b, hb⟩ := h a List.mem_cons_self
    obtain ⟨bs, hbs⟩ := ih fun c hc => h c (List.mem_cons_of_mem _ hc)
    exact ⟨b :: bs, mapM_eq_ok.mpr (.cons hb (mapM_eq_ok.mp hbs))⟩

theorem eq_map_of_mapM {g : α → β} (hg : ∀ a ∈ l, ∀ b, f a = .ok b → b = g a)
    (h : l.mapM f = .ok results) : results = l.map g := by
  rw [mapM_eq_ok] at h
  induction h with
  | nil => rfl
  | cons hb _ ih =>
    rw [List.map_cons, hg _ List.mem_cons_self _ hb,
      ih fun a ha => hg a (List.mem_cons_of_mem _ ha)]

/-- Two outcomes with results in relation to each other, or with the same fault. -/
inductive Alike (R : α → β → Prop) : Except Fault α → Except Fault β → Prop
  | ok {a : α} {b : β} : R a b → Alike R (.ok a) (.ok b)
  | error (fault : Fault) : Alike R (.error fault) (.error fault)

theorem Alike.refl (x : Except Fault α) : Alike Eq x x := by
  cases x with
  | error fault => exact .error fault
  | ok a => exact .ok rfl

theorem Alike.bind {γ δ : Type} {R : α → β → Prop} {S : γ → δ → Prop} {y : Except Fault β}
    {f : α → Except Fault γ} {g : β → Except Fault δ} (h : Alike R x y)
    (hfg : ∀ a b, R a b → Alike S (f a) (g b)) : Alike S (x >>= f) (y >>= g) := by
  cases h with
  | ok hab => exact hfg _ _ hab
  | error fault => exact .error fault

theorem eq_ok_of_toOption {a : α} (h : x.toOption = some a) : x = .ok a := by
  cases x with
  | error fault => cases h
  | ok b => rw [Option.some.inj h]

theorem exists_of_any {P : α → Bool} (h : x.toOption.any P = true) :
    ∃ a, x = .ok a ∧ P a = true := by
  cases x with
  | error fault => cases h
  | ok a => exact ⟨a, rfl, h⟩

theorem exists_run_of_any {σ : Type} {x : ExceptT Fault (StateM σ) α} {s : σ} {P : α → Bool}
    (h : (x.run s).1.toOption.any P = true) : ∃ a t, x.run s = (.ok a, t) ∧ P a = true := by
  obtain ⟨a, ha, hP⟩ := exists_of_any h
  exact ⟨a, (x.run s).2, Prod.ext ha rfl, hP⟩

end MockGen.Outcome

namespace MockGen.Job

open Outcome ReadM

variable {α β γ δ : Type} {x : Job α}

theorem exists_run_of_any {w : Workspace} {P : α → Bool} (h : (x.run w).1.toOption.any P = true) :
    ∃ a w', x.run w = (.ok a, w') ∧ P a = true :=
  Outcome.exists_run_of_any h

theorem exists_run_eq_ok {w : Workspace} (h : (x.run w).1.toOption.isSome = true) :
    ∃ a w', x.run w = (.ok a, w') := by
  have hany : (x.run w).1.toOption.any (fun _ => true) = true := by
    obtain ⟨a, ha⟩ := Option.isSome_iff_exists.mp h
    rw [ha]
    rfl
  obtain ⟨a, w', hrun, -⟩ := exists_run_of_any hany
  exact ⟨a, w', hrun⟩

/-- Two jobs that run alike: from every workspace they come to the same one, with outcomes that are
alike. -/
def Alike (R : α → β → Prop) (x : Job α) (y : Job β) : Prop :=
  ∀ w, Outcome.Alike R (x.run w).1 (y.run w).1 ∧ (x.run w).2 = (y.run w).2

namespace Alike

variable {R : α → β → Prop} {S : γ → δ → Prop}

theorem refl (x : Job α) : Alike Eq x x :=
  fun _ => ⟨.refl _, rfl⟩

theorem of_run_eq {y : Job α} (h : ∀ w, x.run w = y.run w) : Alike Eq x y := by
  intro w
  rw [h w]
  exact refl y w

theorem run_eq {y : Job α} (h : Alike Eq x y) (w : Workspace) : x.run w = y.run w := by
  have hw := h w
  generalize x.run w = r, y.run w = q at hw
  obtain ⟨hout, hstate⟩ := hw
  refine Prod.ext ?_ hstate
  generalize r.1 = a, q.1 = b at hout
  cases hout with
  | ok hab => rw [hab]
  | error fault => rfl

theorem pure {a : α} {b : β} (h : R a b) : Alike R (Pure.pure a : Job α) (Pure.pure b : Job β) :=
  fun _ => ⟨.ok h, rfl⟩

theorem lift {x : Except Fault α} {y : Except Fault β} (h : Outcome.Alike R x y) :
    Alike R (liftM x : Job α) (liftM y : Job β) := by
  intro w
  rw [run_lift, run_lift]
  exact ⟨h, rfl⟩

theorem bind {y : Job β} {f : α → Job γ} {g : β → Job δ} (h : Alike R x y)
    (hfg : ∀ a b, R a b → Alike S (f a) (g b)) : Alike S (x >>= f) (y >>= g) := by
  intro w
  have hw := h w
  rw [run_bind, run_bind]
  generalize x.run w = r, y.run w = q at hw
  obtain ⟨a, u⟩ := r
  obtain ⟨b, v⟩ := q
  obtain ⟨hout, hstate⟩ := hw
  obtain rfl : u = v := hstate
  cases hout with
  | ok hab => exact hfg _ _ hab u
  | error fault => exact ⟨.error fault, rfl⟩

end Alike

end MockGen.Job
