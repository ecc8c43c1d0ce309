import MockGen.HeaderReader

/-!
# The reader that the default options give
-/

namespace MockGen

def Header.Rules.standard : Header.Rules where
  strippables := .list Options.defaultStrippables
  attributes := ["__ramfunc", "__irq", "__fiq", "register", "extern"]
  callingConventions := ["__stdcall", "__cdecl", "__fastcall"]
  arrayTypes := some []
  standards := Text.distinct (["int", "short", "char", "long", "unsigned", "signed"] ++
    Options.standardTreatAs.map Prod.fst)
  arraySizeName := .str "size|len"
  arraySizeTypes := ["int", "size_t"]
  whenNoPrototypes := .str ":warn"
  verbosity := .int 2
  includeExterns := false
  includeInlines := false
  inlinePatterns := Value.texts [
    "(static\\s+inline|inline\\s+static)\\s*",
    "(\\binline\\b)\\s*",
    "(?:static\\s*)?(?:__inline__)?__attribute__\\s*\\([ (]*always_inline[ )]*\\)",
    "static __inline__"]

theorem HeaderReader.fst_run {α : Type} (r : HeaderReader) (project : Project)
    (read : Header.Rules → ReadM α) (w : Workspace) :
    ((r.run project read).run w).1 =
      let result := (read (r.rulesIn w)).run { project := project, voids := r.voids }
      (result.1, { r with voids := result.2.voids }, result.2.project) := rfl

set_option maxRecDepth 10000 in
theorem HeaderReader.ofOptions_default {w : Workspace}
    (hw : w.strippables = Options.defaultStrippables) :
    (Options.resolve .null >>= HeaderReader.ofOptions).run w =
      (.ok ⟨Header.Rules.standard, true, ["void"], {}⟩, w) := by
  obtain ⟨files, console, strippables⟩ := w
  obtain rfl : strippables = Options.defaultStrippables := hw
  rfl

end MockGen
