import MockGen.Options

/-!
# Sample options

Sample options for the sample headers, and a helper file for the types they use.  Paths are below a
directory that the caller chooses.
-/

namespace MockGen.Sample

def helperText : String := "\n".intercalate [
  "",
  "// custom unity helpers /* nested */",
  "/* block",
  "   comment */",
  "#define UNITY_TEST_ASSERT_EQUAL_MY_T(e,a,l,m) " ++
    "UNITY_TEST_ASSERT_EQUAL_MEMORY(&(e),&(a),sizeof(MY_T),l,m)",
  "#define UNITY_TEST_ASSERT_EQUAL_MY_T_ARRAY(e,a,n,l,m) " ++
    "UNITY_TEST_ASSERT_EQUAL_MEMORY_ARRAY(e,a,sizeof(MY_T),n,l,m)",
  "#define UNITY_TEST_ASSERT_EQUAL_THING_T_ARRAY(e,a,n,l,m) cmp_things(e,a,n,l,m)",
  "#define UNITY_TEST_ASSERT_EQUAL_MEMORY_ARRAY(e,a,n,l,m) cmp_mem(e,a,n,l,m)",
  ""]

def options (entries : List (String × Value)) : Value :=
  .map (entries.map fun (key, value) => (.str key, value))

def textMap (entries : List (String × String)) : Value :=
  options (entries.map fun (key, value) => (key, .str value))

def types : List (String × Value) := [
  (":treat_as", textMap [("BLOB_T", "MEMORY"), ("INTISH", "INT"), ("PTRISH", "INT*")]),
  (":treat_as_array", textMap [("INTISH", "int")])]

def reading : Value :=
  options (types ++ [(":treat_externs", .str ":include"), (":treat_inlines", .str ":include")])

def warning : Value :=
  options [(":when_no_prototypes", .str "warn")]

def common (dir : String) : List (String × Value) :=
  types ++ [
    (":treat_as_void", Value.texts ["MYVOID2"]),
    (":treat_externs", .str ":include"),
    (":includes", Value.texts ["<stdio.h>", "extra.h"]),
    (":includes_h_pre_orig_header", Value.texts ["pre.h"]),
    (":includes_h_post_orig_header", Value.texts ["post.h"]),
    (":includes_c_pre_header", Value.texts ["cpre.h"]),
    (":includes_c_post_header", Value.texts ["cpost.h"]),
    (":mock_path", .str (Path.join dir "mocks")),
    (":skeleton_path", .str (Path.join dir "skel")),
    (":unity_helper_path", .str (Path.join dir "unity_helper.h"))]

def strict : List (String × Value) := [
  (":enforce_strict_ordering", .bool true),
  (":fail_on_unexpected_calls", .bool false),
  (":weak", .str "__attribute__((weak))")]

def nested : List (String × Value) := [
  (":subdir", .str "sd"),
  (":treat_inlines", .str ":include"),
  (":verbosity", .int 1)]

def allPlugins : List String :=
  [":ignore", ":ignore_stateless", ":ignore_arg", ":callback", ":cexception", ":expect_any_args",
    ":array", ":return_thru_ptr"]

def everything (dir : String) : Value :=
  options (common dir ++ strict ++ nested ++ [(":plugins", Value.texts allPlugins)])

def smart (dir : String) : Value :=
  options (common dir ++ strict ++ nested ++ [
    (":plugins", Value.texts (allPlugins.filter (· != ":cexception"))),
    (":when_ptr", .str ":smart"),
    (":callback_include_count", .bool false),
    (":callback_after_arg_check", .bool true)])

def slim (dir : String) : Value :=
  options (common dir ++ nested ++ [
    (":plugins", Value.texts [":ignore", ":callback", ":ignore_arg", ":return_thru_ptr"]),
    (":exclude_setjmp_h", .bool true)])

def stubs (dir : String) : Value :=
  options (common dir ++ strict ++ [
    (":plugins", Value.texts [":ignore"]),
    (":treat_inlines", .str ":include"),
    (":verbosity", .int 1)])

def talkative (dir : String) : Value :=
  options (common dir ++ strict ++ [
    (":plugins", Value.texts allPlugins),
    (":verbosity", .int 3)])

def manyTypes (count : Nat) : Value :=
  options [
    (":treat_as", textMap ((List.range count).map fun i =>
      (s!"CT{i}", if i % 2 == 0 then "HEX8*" else "HEX32"))),
    (":plugins", .list [.str "IGNORE", .null, .str "array"]),
    (":verbosity", .int 0)]

end MockGen.Sample
