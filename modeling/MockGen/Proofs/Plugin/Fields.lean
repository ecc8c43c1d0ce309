import MockGen.Proofs.Plugin.Texts
import MockGen.Proofs.Plugin.Traits

/-!
# The fields that plugins declare

A plugin that is loaded declares all fields that the code for a function refers to on its behalf:
those of a call instance, and those of the mock.
-/

namespace MockGen

open Code Trait List

/-- The function and its parameters have names, and no other text could be taken for a reference or
ends a line. -/
@[mk_iff]
structure Prototype.WellNamed (p : Prototype) : Prop where
  name : IsName p.name
  argName : ∀ a ∈ p.args, IsName a.name
  arrows : p.Lacks '>'
  dots : p.Lacks '.'
  breaks : p.Lacks '\n'

instance (p : Prototype) : Decidable p.WellNamed :=
  decidable_of_iff _ (Prototype.wellNamed_iff p).symm

theorem Prototype.WellNamed.fits {F : Fields} {p : Prototype} (hp : p.WellNamed) :
    p.Fits (references F) := by
  have htext : ∀ {t : String}, Code.Lacks '>' t → Code.Lacks '.' t →
      (references F).Takes .text t :=
    fun harrow hdot => references_takes (Resolves.of_lacks harrow hdot).opens
  constructor
  case name => exact references_takes_name (.of_isName hp.name)
  case argName => exact fun a ha => references_takes_name (.of_isName (hp.argName a ha))
  case argType => exact fun a ha => htext (hp.arrows.argType a ha) (hp.dots.argType a ha)
  case constType =>
    exact fun a ha => htext (lacks_pointsToConst (by decide) (hp.arrows.argType a ha))
      (lacks_pointsToConst (by decide) (hp.dots.argType a ha))
  case bareType =>
    exact fun a ha => htext (lacks_dropTrailing '*' (hp.arrows.argType a ha))
      (lacks_dropTrailing '*' (hp.dots.argType a ha))
  case unscopedName => exact htext hp.arrows.unscopedName hp.dots.unscopedName
  case namespaces => exact fun t ht => htext (hp.arrows.namespaces t ht) (hp.dots.namespaces t ht)
  case className => exact fun t ht => htext (hp.arrows.className t ht) (hp.dots.className t ht)
  case modifier => exact htext hp.arrows.modifier hp.dots.modifier
  case callingConvention =>
    exact fun t ht => htext (hp.arrows.callingConvention t ht) (hp.dots.callingConvention t ht)
  case returnedType => exact htext hp.arrows.returnedType hp.dots.returnedType
  case returnedName => exact htext hp.arrows.returnedName hp.dots.returnedName
  case returnedStr => exact htext hp.arrows.returnedStr hp.dots.returnedStr
  case argsString => exact htext hp.arrows.argsString hp.dots.argsString
  case varArg => exact fun t ht => htext (hp.arrows.varArg t ht) (hp.dots.varArg t ht)

namespace Plugin

variable {s : Settings} {p : Prototype}

theorem ended_callFields (s : Settings) (plugin : Plugin) (p : Prototype) :
    Ended (callFields s plugin p).toList := by
  cases plugin with
  | returnThruPtr => exact ended_intercalate (forall_mem_map.mpr fun a _ => ended_lines _)
  | ignore => exact .inl rfl
  | ignoreStateless => exact .inl rfl
  | callback => exact .inl rfl
  | _ => exact ended_lines _

theorem ended_functionFields (plugin : Plugin) (p : Prototype) :
    Ended (functionFields plugin p).toList := by
  cases plugin with
  | ignore => exact ended_lines _
  | ignoreStateless => exact ended_lines _
  | callback => exact ended_lines _
  | _ => exact .inl rfl

section

variable {F : Fields} {ls : List String} (line front : String)

theorem takes_callField {name : String} (h : ∀ x ∈ fieldsIn (lines ls), x ∈ F.call)
    (hname : IsName name) (hmem : line ∈ ls)
    (hline : line.toList = ' ' :: front.toList ++ ' ' :: name.toList ++ [';'])
    (hfront : Lacks '\n' front) : (references F).Takes .text (callField name) :=
  references_takes (.callField hname (h _ (mem_fieldsIn_lines line front hmem hline hfront hname)))

theorem takes_mockField {f name : String} (h : ∀ x ∈ fieldsIn (lines ls), x ∈ F.mock)
    (hf : IsName f) (hname : IsName name) (hmem : line ∈ ls)
    (hline : line.toList = ' ' :: front.toList ++ ' ' :: (f ++ "_" ++ name).toList ++ [';'])
    (hfront : Lacks '\n' front) : (references F).Takes .text (mockField f name) := by
  have hfull : IsName (f ++ "_" ++ name) := (hf.append (.fixed rfl)).append hname
  exact references_takes (.mockField hf hname
    (h _ (mem_fieldsIn_lines line front hmem hline hfront hfull)))

end

section

variable {F : Fields} {plugins : List Plugin} (hp : p.WellNamed)

include hp

theorem takes_output (h : ∀ x ∈ fieldsIn (callFields s returnThruPtr p), x ∈ F.call) {a : Argument}
    (ha : a ∈ s.outputs p) {part : String} (hpart : part ∈ ["_Used", "_Val", "_Size"]) :
    (references F).Takes .text (callField ("ReturnThruPtr_" ++ (a.name ++ part))) := by
  have harg := mem_of_mem_filter ha
  have hthis := fun x hx => h x (mem_fieldsIn_intercalate
    (forall_mem_map.mpr fun a _ => ended_lines _) (mem_map_of_mem ha) hx)
  have hname : ∀ {last : String}, IsName last → IsName ("ReturnThruPtr_" ++ (a.name ++ last)) :=
    fun hlast => .append (.fixed rfl) ((hp.argName a harg).append hlast)
  simp only [mem_cons, not_mem_nil, or_false] at hpart
  rcases hpart with rfl | rfl | rfl
  · exact takes_callField _ " char" hthis (hname (.fixed rfl)) mem_cons_self (by simp)
      (.fixed rfl)
  · exact takes_callField _ (" " ++ pointsToConst a.type) hthis (hname (.fixed rfl))
      (mem_cons_of_mem _ mem_cons_self) (by simp)
      (.append (.fixed rfl) (lacks_pointsToConst (by decide) (hp.breaks.argType a harg)))
  · exact takes_callField _ " size_t" hthis (hname (.fixed rfl))
      (mem_cons_of_mem _ (mem_cons_of_mem _ mem_cons_self)) (by simp) (.fixed rfl)

/-- The fields of the loaded plugins, with the one that every call instance has, cover what plugins
may refer to. -/
theorem coversCall_of_fields (hloaded : .expect ∈ plugins)
    (hline : "LineNumber".toList ∈ F.call)
    (h : ∀ plugin ∈ plugins, ∀ x ∈ fieldsIn (callFields s plugin p), x ∈ F.call) :
    CoversCall (references F) s plugins p := by
  have hexpect := h _ hloaded
  have hfield : ∀ {start : String} {a : Argument}, a ∈ p.args → IsName start →
      IsName (start ++ a.name) := fun ha hstart => hstart.append (hp.argName _ ha)
  constructor
  case line => exact references_takes (.callField (.fixed rfl) hline)
  case result =>
    intro hvoid
    refine takes_callField ("  " ++ p.returned.type ++ " ReturnVal;") (" " ++ p.returned.type)
      hexpect (.fixed rfl) ?_ (by simp) ?_
    · simp [hvoid]
    · exact .append (.fixed rfl) hp.breaks.returnedType
  case order =>
    intro hordered
    refine takes_callField "  int CallOrder;" " int" hexpect (.fixed rfl) ?_ (by simp) (.fixed rfl)
    simp [hordered]
  case thrown =>
    intro hmem
    have hthis := h _ hmem
    rw [callFields] at hthis
    exact takes_callField _ " CEXCEPTION_T" hthis (.fixed rfl) mem_cons_self
      (by simp) (.fixed rfl)
  case anyArgs =>
    intro hmem
    have hthis := h _ hmem
    rw [callFields] at hthis
    exact takes_callField _ " char" hthis (.fixed rfl) mem_cons_self (by simp) (.fixed rfl)
  case expected =>
    intro a ha
    exact takes_callField _ (" " ++ a.type) hexpect (hfield ha (.fixed rfl))
      (mem_append_right _ (mem_map_of_mem ha)) (by simp)
      (.append (.fixed rfl) (hp.breaks.argType a ha))
  case depth =>
    intro hmem a ha hptr
    have hthis := h _ hmem
    rw [callFields] at hthis
    exact takes_callField _ " int" hthis
      (.append (.fixed rfl) ((hp.argName a ha).append (.fixed rfl)))
      (mem_map_of_mem (mem_filter.mpr ⟨ha, hptr⟩)) (by simp) (.fixed rfl)
  case output => exact fun hmem a ha part hpart => takes_output hp (h _ hmem) ha hpart
  case ignoredArg =>
    intro hmem a ha
    have hthis := h _ hmem
    rw [callFields] at hthis
    exact takes_callField _ " char" hthis (hfield ha (.fixed rfl))
      (mem_map_of_mem ha) (by simp) (.fixed rfl)

theorem takes_callback (h : ∀ x ∈ fieldsIn (functionFields callback p), x ∈ F.mock) {part : String}
    (hpart : part ∈ ["CallbackBool", "CallbackFunctionPointer", "CallbackCalls"]) :
    (references F).Takes .text (mockField p.name part) := by
  simp only [mem_cons, not_mem_nil, or_false] at hpart
  rcases hpart with rfl | rfl | rfl
  · exact takes_mockField _ " char" h hp.name (.fixed rfl) mem_cons_self (by simp) (.fixed rfl)
  · exact takes_mockField _ (" CMOCK_" ++ p.name ++ "_CALLBACK") h hp.name (.fixed rfl)
      (mem_cons_of_mem _ mem_cons_self) (by simp)
      (.append (.append (.fixed rfl) hp.breaks.name) (.fixed rfl))
  · exact takes_mockField _ " int" h hp.name (.fixed rfl)
      (mem_cons_of_mem _ (mem_cons_of_mem _ mem_cons_self)) (by simp) (.fixed rfl)

theorem coversMock_of_fields (hchain : (p.name ++ "_" ++ "CallInstance").toList ∈ F.mock)
    (h : ∀ plugin ∈ plugins, ∀ x ∈ fieldsIn (functionFields plugin p), x ∈ F.mock) :
    CoversMock (references F) plugins p := by
  have hignore : .ignore ∈ plugins ∨ .ignoreStateless ∈ plugins →
      ∀ x ∈ fieldsIn (functionFields.ignoreFields p), x ∈ F.mock :=
    fun hmem => hmem.elim (h _) (h _)
  constructor
  case chain => exact references_takes (.mockField hp.name (.fixed rfl) hchain)
  case ignored =>
    intro hmem
    exact takes_mockField _ " char" (hignore hmem) hp.name (.fixed rfl) mem_cons_self
      (by simp) (.fixed rfl)
  case final =>
    intro hmem hvoid
    refine takes_mockField ("  " ++ p.returned.type ++ " " ++ p.name ++ "_FinalReturn;")
      (" " ++ p.returned.type) (hignore hmem) hp.name (.fixed rfl) ?_ (by simp) ?_
    · simp [hvoid]
    · exact .append (.fixed rfl) hp.breaks.returnedType
  case callback => exact fun hmem part hpart => takes_callback hp (h _ hmem) hpart

end

end Plugin

end MockGen
