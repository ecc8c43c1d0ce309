import MockGen.Text.Basic
import MockGen.Text.Case

/-!
# Plugins

The plugins that add to a mock, and the order in which they are asked.
-/

namespace MockGen

inductive Plugin where
  | expect
  | expectAnyArgs
  | ignore
  | ignoreStateless
  | callback
  | exceptions
  | array
  | returnThruPtr
  | ignoreArg
  deriving Repr, DecidableEq

namespace Plugin

def all : List Plugin :=
  [expect, expectAnyArgs, ignore, ignoreStateless, callback, exceptions, array, returnThruPtr,
    ignoreArg]

def name : Plugin → String
  | expect => "expect"
  | expectAnyArgs => "expect_any_args"
  | ignore => "ignore"
  | ignoreStateless => "ignore_stateless"
  | callback => "callback"
  | exceptions => "cexception"
  | array => "array"
  | returnThruPtr => "return_thru_ptr"
  | ignoreArg => "ignore_arg"

def priority : Plugin → Nat
  | ignore => 2
  | ignoreStateless => 2
  | expectAnyArgs => 3
  | expect => 5
  | callback => 6
  | exceptions => 7
  | array => 8
  | returnThruPtr => 9
  | ignoreArg => 10

def ofName? (name : String) : Option Plugin :=
  all.find? fun p => p.name == name

@[simp] theorem ofName?_name (p : Plugin) : ofName? p.name = some p := by
  cases p <;> decide

def camelize (t : List Char) : List Char :=
  (Text.splitAt '_' t).flatMap Text.capitalize

def objectName (name : String) : String :=
  "CMockGeneratorPlugin" ++ String.ofList (camelize name.toList)

def insertByPriority (p : Plugin) : List Plugin → List Plugin
  | [] => [p]
  | q :: rest => if p.priority < q.priority then p :: q :: rest else q :: insertByPriority p rest

def inOrder (plugins : List Plugin) : List Plugin :=
  plugins.foldl (fun sorted p => insertByPriority p sorted) []

end Plugin

end MockGen
