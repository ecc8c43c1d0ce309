import MockGen.Pattern.Match
import MockGen.Workspace

/-!
# The version of the mock framework
-/

namespace MockGen.Version

def current : String :=
  "2.6.0"

private def setting (field : String) : Pattern :=
  .text s!"CMOCK_VERSION_{field}" ++ .blanks1 ++ .group 1 (.stretch1 .digit)

def digitsIn? (field : String) (line : List Char) : Option (List Char) :=
  ((setting field).find? line).map fun m => m.group 1

def numberOf (digits : List Char) : Nat :=
  digits.foldl (fun n c => 10 * n + Text.digitValue c) 0

def mostDigits : Nat :=
  4300

/-- The version that a header of the framework states: the last number that it sets in each place,
zero where it sets none. -/
def ofText? (text : String) : Option String :=
  let lines := Text.splitAt '\n' text.toList
  let set := ["MAJOR", "MINOR", "BUILD"].map fun field => lines.filterMap (digitsIn? field)
  if set.flatten.any fun digits => mostDigits < digits.length then none
  else
    some (".".intercalate (set.map fun numbers =>
      toString ((numbers.getLast?.map numberOf).getD 0)))

def beside (home : String) : Job String := do
  let path := Path.join (Path.enclosing (Path.enclosing home)) "src/cmock.h"
  match ((← Job.files).read path).toOption.bind ofText? with
  | some version => return version
  | none => throw .unreadableVersion

end MockGen.Version
