import MockGen.Comparison
import MockGen.Prototype

/-!
# Settings

What the options say about the code of a mock.
-/

namespace MockGen

inductive PointerMode where
  | data
  | smart
  | pointers
  | always
  | unknown
  deriving Repr, DecidableEq

namespace PointerMode

def ofValue : Value → PointerMode
  | .str ":compare_data" => data
  | .str ":smart" => smart
  | .str ":compare_ptr" => pointers
  | .str "compare_ptr" => always
  | _ => unknown

end PointerMode

structure Settings where
  pointers : PointerMode
  ordered : Bool
  arrays : Bool
  exceptions : Bool
  anyArgs : Bool
  returnThruPtr : Bool
  ignoreArg : Bool
  ignore : Bool
  ignoreStateless : Bool
  known : List String
  starred : List String
  unmarkable : List String
  comparisons : Option Comparisons
  countsCalls : Bool
  callbackAfterCheck : Bool
  voids : Value := .list []
  deriving Repr

namespace Settings

def ofOptions (o : Options) (comparisons : Option Comparisons) : Settings where
  pointers := .ofValue (o.get ":when_ptr")
  ordered := o.flag ":enforce_strict_ordering"
  arrays := o.hasPlugin ":array"
  exceptions := o.hasPlugin ":cexception"
  anyArgs := o.hasPlugin ":expect_any_args"
  returnThruPtr := o.hasPlugin ":return_thru_ptr"
  ignoreArg := o.hasPlugin ":ignore_arg"
  ignore := o.hasPlugin ":ignore"
  ignoreStateless := o.hasPlugin ":ignore_stateless"
  known := o.treatAs.filterMap fun entry => entry.1.text?
  starred := o.treatAs.filterMap fun (type, kind) =>
    match kind.holds "*" with
    | .ok true => type.text?
    | _ => none
  unmarkable := o.treatAs.filterMap fun (type, kind) =>
    match kind.holds "*" with
    | .error _ => type.text?
    | _ => none
  comparisons := comparisons
  countsCalls := o.flag ":callback_include_count"
  callbackAfterCheck := o.flag ":callback_after_arg_check"

def isPointerLike (s : Settings) (type : String) : Bool :=
  type.toList.contains '*' || s.starred.contains type

def comparison (s : Settings) (a : Argument) : Except Fault Comparison :=
  if a.isPtr && (Text.hasPart ['*', '*'] a.type.toList || s.pointers == .always) then
    .ok ⟨"UNITY_TEST_ASSERT_EQUAL_PTR", .direct⟩
  else
    match s.comparisons with
    | some known => known.find a.type
    | none => .ok ⟨"UNITY_TEST_ASSERT_EQUAL", .direct⟩

end Settings

end MockGen
