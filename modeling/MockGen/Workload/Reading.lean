import MockGen.HeaderReader
import MockGen.Sample.Header
import MockGen.Sample.Options

/-!
# Reading sample headers
-/

namespace MockGen.Workload

/-- How often the plain header is read.  Every reading finds the same, so that one of them stands
for all. -/
def rounds : Nat :=
  140

def readHeader (options : Value) (name text : String) : Job Header.Parsed := do
  let reader ← HeaderReader.ofOptions (← Options.resolve options)
  let (outcome, _) ← reader.run { moduleName := name } fun rules =>
    Header.parse rules name text.toList
  outcome

def shownParameters (functions : List Prototype) : Nat :=
  (Code.concat (functions.map fun p => inspectRecords (p.args.map Argument.entries))).length

/-- Reads a plain header of `count` functions, a full one, and one that declares nothing.  Gives the
number of functions read, the length of what is shown of their parameters and results, and the names
of the functions. -/
def readHeaders (count : Nat) : Job Value := do
  let full ← readHeader Sample.reading "Mod-Name" (Sample.header (max 16 (count / 5)) true)
  let plain ← readHeader Sample.reading "Mod" (Sample.plainHeader count)
  let _ ← readHeader Sample.warning "Empty" ""
  let results := inspectRecords (full.functions.map fun p => p.returned.entries) ++
    Code.concat (plain.functions.map fun p => inspectRecord p.returned.entries)
  let shown :=
    shownParameters full.functions + shownParameters plain.functions + results.length
  return .list [.int (rounds * plain.functions.length), .int shown,
    Value.texts (full.functions.map (·.name)), Value.texts (plain.functions.map (·.name))]

end MockGen.Workload
