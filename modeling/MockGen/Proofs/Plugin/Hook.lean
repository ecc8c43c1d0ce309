import MockGen.Request.Plugin
import MockGen.Proofs.Outcome

/-!
# Drafts and their prototypes

What is said for a draft is what is said for its prototype: the parts that are missing or of the
wrong kind decide only whether anything is said.
-/

namespace MockGen

open Code Outcome

theorem Code.join_eq_concat (texts : List String) : String.join texts = concat texts := by
  induction texts with
  | nil => rfl
  | cons t texts ih => rw [String.join_cons, ih, concat_cons]

namespace Draft

variable {s : Settings} {d : Draft} {t : String}

theorem eq_of_render {needs : List Need} {text : Prototype → String}
    (h : d.render needs text = .ok t) : t = text d.fill := by
  obtain ⟨-, -, hpure⟩ := bind_eq_ok.mp h
  cases hpure
  rfl

theorem verify?_eq_ok {i : Nat} {a : Argument} {check : Option String}
    (h : d.verify? s i a = .ok check) : Expectation.verify? s d.fill.name a = .ok check := by
  unfold verify? at h
  obtain ⟨e, he, h⟩ := bind_eq_ok.mp h
  refine bind_eq_ok.mpr ⟨e, he, ?_⟩
  cases e with
  | none => exact h
  | some e =>
    obtain ⟨text, htext, hpure⟩ := bind_eq_ok.mp h
    refine bind_eq_ok.mpr ⟨text, ?_, hpure⟩
    obtain ⟨c, hc, htext⟩ := bind_eq_ok.mp htext
    obtain ⟨-, -, hc⟩ := bind_eq_ok.mp hc
    obtain ⟨-, -, hpure⟩ := bind_eq_ok.mp htext
    exact bind_eq_ok.mpr ⟨c, hc, hpure⟩

theorem verifyAll_eq_ok (h : d.verifyAll s = .ok t) : Expectation.verifyAll s d.fill = .ok t := by
  unfold verifyAll at h
  obtain ⟨-, -, h⟩ := bind_eq_ok.mp h
  obtain ⟨checks, hchecks, hpure⟩ := bind_eq_ok.mp h
  refine bind_eq_ok.mpr ⟨checks, ?_, hpure⟩
  rw [mapM_eq_ok] at hchecks ⊢
  rw [← List.zipIdx_map_fst 0 d.fill.args, List.forall₂_map_left_iff]
  refine hchecks.imp fun a check hcheck => ?_
  obtain ⟨e, he, hcheck⟩ := bind_eq_ok.mp hcheck
  exact bind_eq_ok.mpr ⟨e, verify?_eq_ok he, hcheck⟩

end Draft

namespace Plugin

variable {s : Settings} {plugin : Plugin} {d : Draft} {hook : Hook} {t : String}

theorem checksOn_eq_ok (h : checksOn s d = .ok t) : implementation s expect d.fill = .ok t := by
  have hargs : d.fill.args.isEmpty = d.argDrafts.isEmpty := List.isEmpty_map
  have hchecks : ∀ u, d.verifyAll s = .ok u → guardCheck s d.fill u = t →
      implementation s expect d.fill = .ok t := fun u hu ht =>
    bind_eq_ok.mpr ⟨u, Draft.verifyAll_eq_ok hu, congrArg Except.ok ht⟩
  unfold checksOn at h
  split at h
  case isFalse =>
    obtain ⟨u, hu, hpure⟩ := bind_eq_ok.mp h
    exact hchecks u hu (Except.ok.inj hpure)
  case isTrue hany =>
    obtain ⟨-, -, h⟩ := bind_eq_ok.mp h
    split at h
    case isFalse =>
      obtain ⟨u, hu, hpure⟩ := bind_eq_ok.mp h
      exact hchecks u hu (Except.ok.inj hpure)
    case isTrue hempty =>
      cases h
      have hnone : d.fill.args = [] := List.isEmpty_iff.mp (hargs.trans hempty)
      simp [implementation, Expectation.verifyAll, guardCheck, hany, hnone, bind, Except.bind, pure,
        Except.pure]

theorem text_of_textOn (h : plugin.textOn s d hook = .ok t) :
    plugin.text s d.fill hook = .ok t := by
  cases hook with
  | includes => exact h
  | destroy => exact h
  | implementation =>
    cases plugin with
    | expect => exact checksOn_eq_ok h
    | _ => exact congrArg Except.ok (Draft.eq_of_render h).symm
  | _ => exact congrArg Except.ok (Draft.eq_of_render h).symm

theorem textOn_of_sayAt {f : Value} (h : plugin.sayAt s hook f = .ok t) :
    plugin.textOn s (.ofValue f) hook = .ok t := by
  unfold sayAt at h
  obtain ⟨text, htext, h⟩ := bind_eq_ok.mp h
  dsimp only at h
  split at h
  · cases h
  · cases h
    exact htext

theorem textOn_of_ask {f v : Value} (hhook : hook ≠ .includes)
    (h : plugin.ask s (.hook hook) [f] = .ok v) (hv : v.asText = .ok t) :
    plugin.textOn s (.ofValue f) hook = .ok t := by
  have hask : plugin.ask s (.hook hook) [f] =
      plugin.sayAt s hook f >>= fun text => .ok (.str text) := by
    cases hook with
    | includes => exact absurd rfl hhook
    | _ => rfl
  rw [hask] at h
  obtain ⟨text, htext, hpure⟩ := bind_eq_ok.mp h
  cases hpure
  cases hv
  exact textOn_of_sayAt htext

end Plugin

namespace Plugins

variable {ps : Plugins} {hook : Hook} {d : Draft} {t : String}

theorem text_of_textOn (h : ps.textOn hook d = .ok t) : ps.text hook d.fill = .ok t := by
  obtain ⟨texts, htexts, hpure⟩ := bind_eq_ok.mp h
  refine bind_eq_ok.mpr ⟨texts, ?_, hpure⟩
  rw [mapM_eq_ok] at htexts ⊢
  exact htexts.imp fun plugin text htext => Plugin.text_of_textOn htext

theorem eq_concat_of_textOn {text : Plugin → String}
    (htext : ∀ plugin : Plugin, plugin.text ps.settings d.fill hook = .ok (text plugin))
    (h : ps.textOn hook d = .ok t) : t = concat (ps.loaded.map text) := by
  obtain ⟨texts, htexts, hpure⟩ := bind_eq_ok.mp (text_of_textOn h)
  cases hpure
  rw [eq_map_of_mapM (fun plugin _ u hu => ?_) htexts]
  rw [htext] at hu
  exact (Except.ok.inj hu).symm

theorem of_textOn {P : String → Prop} (hnil : P "") (happend : ∀ {t u}, P t → P u → P (t ++ u))
    (hplugin : ∀ plugin ∈ ps.loaded, ∀ u, plugin.text ps.settings d.fill hook = .ok u → P u)
    (h : ps.textOn hook d = .ok t) : P t := by
  obtain ⟨texts, htexts, hpure⟩ := bind_eq_ok.mp (text_of_textOn h)
  cases hpure
  refine concat_of_forall hnil happend fun u hu => ?_
  obtain ⟨plugin, hmem, hu⟩ := (mem_mapM_iff htexts).mp hu
  exact hplugin plugin hmem u hu

theorem exists_of_run {name v : Value} {args : List Value} (h : ps.run name args = .ok v) :
    ∃ t, v = .str t := by
  unfold run at h
  obtain ⟨_, -, h⟩ := bind_eq_ok.mp h
  obtain ⟨texts, -, hpure⟩ := bind_eq_ok.mp h
  cases hpure
  exact ⟨_, rfl⟩

theorem textOn_of_run {name : String} {f : Value}
    (hname : Plugin.Member.hooks.lookup name = some hook)
    (hanswers : ∀ plugin, Plugin.answers hook plugin = true)
    (h : ps.run (.str name) [f] = .ok (.str t)) : ps.textOn hook (.ofValue f) = .ok t := by
  have hfind : ∀ plugin, Plugin.Member.find? plugin name = some (.hook hook) := fun plugin => by
    unfold Plugin.Member.find?
    rw [hname, Option.filter_some, if_pos (hanswers plugin)]
  have hincludes : hook ≠ .includes := by
    rintro rfl
    exact absurd (hanswers .expect) (by decide)
  unfold run at h
  obtain ⟨_, hname, h⟩ := bind_eq_ok.mp h
  cases hname
  obtain ⟨texts, htexts, hpure⟩ := bind_eq_ok.mp h
  obtain rfl : String.join texts = t := Value.str.inj (Except.ok.inj hpure)
  refine bind_eq_ok.mpr ⟨texts, ?_, by rw [join_eq_concat]; rfl⟩
  rw [mapM_eq_ok] at htexts ⊢
  refine htexts.imp fun plugin text htext => ?_
  rw [hfind] at htext
  obtain ⟨v, hv, htext⟩ := bind_eq_ok.mp htext
  exact Plugin.textOn_of_ask hincludes hv htext

end Plugins

end MockGen
