import MockGen.Comparison
import MockGen.Plugin.Basic
import MockGen.Sample.Options
import MockGen.Version

/-!
# Resolving options, good ones and bad ones
-/

namespace MockGen.Workload

def typeCount : Nat :=
  120

def complaint {α : Type} (work : Job α) : Job Value :=
  tryCatch (do
    let _ ← work
    return .null)
    fun fault => return .str (fault.message?.getD "")

def comparisonsOf (options : Value) : Job Comparisons := do
  Comparisons.ofOptions (← Options.resolve options)

def manyTypesReport : Job (List Value) := do
  let o ← Options.resolve (Sample.manyTypes typeCount)
  let comparisons ← Comparisons.ofOptions o
  let found ← comparisons.find "CT3"
  return [.int comparisons.table.length,
    .list [.str found.assertion, .str found.access.text],
    (Value.lookup (.str "int") o.treatAs).getD .null]

/-- Resolves the defaults, an option file, options with helper files, `count` options with many
types, and options that are refused. -/
def resolveAll (dir : String) (count : Nat) : Job Value := do
  let plain ← Options.resolve .null
  let filed ← Options.resolve (.str (Path.join dir "cfg.yml"))
  let paths := [Path.join dir "uh.h", Path.join dir "mocks/uh2.h"]
  let helped ← Options.resolve (Sample.options [(":unity_helper_path", Value.texts paths),
    (":mock_path", .str (Path.join dir "mocks")), (":verbosity", .int 0)])
  let helperText := (← helped.helperText).getD ""
  let many ← (List.range count).mapM fun _ => manyTypesReport
  let _ ← Options.resolve (Sample.options [(":includes", .str "notalist"), (":verbosity", .int 1)])
  let unreadable ← tryCatch (do
    let _ ← Options.resolve (.str (Path.join dir "bad.yml"))
    return Value.null) fun _ => return .str "yamlerr"
  return .list ([plain.get ":mock_prefix", filed.get ":mock_prefix",
      .str (String.ofList (helperText.toList.take 12)), .int paths.length] ++
    many.flatten ++
    [.str Version.current, .str (String.ofList (Plugin.camelize "ignore_arg".toList)),
      ← complaint (Options.resolve (.list [])),
      ← complaint (Options.resolve (Sample.options [(":fail_on_unexpected_calls", .bool false)])),
      unreadable,
      ← complaint (do
        let known ← comparisonsOf (Sample.options [(":memcmp_if_unknown", .bool false)])
        known.find "totally_unknown_t"),
      ← complaint (comparisonsOf (Sample.options [
        (":treat_as", .map [(.int 123, .str "INT")])]))])

end MockGen.Workload
