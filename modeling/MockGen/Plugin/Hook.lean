import MockGen.Plugin.Body
import MockGen.Plugin.Interfaces

/-!
# Hooks

The places of a mock to which plugins add text, and the text of all plugins together.
-/

namespace MockGen

/-- A place of a mock to which plugins add text. -/
inductive Hook where
  | includes
  | callFields
  | functionFields
  | declarations
  | precheck
  | implementation
  | interfaces
  | verify
  | destroy
  | ignoreAll
  deriving Repr, DecidableEq

namespace Plugin

open Code

def includes : Plugin → String
  | exceptions => lines ["#include \"CException.h\""]
  | _ => ""

def verify : Plugin → Prototype → String
  | expect, p =>
    let f := p.name
    lines [
      "  if (CMOCK_GUTS_NONE != call_instance)",
      "  \x7b",
      s!"    UNITY_SET_DETAIL(CMockString_{f});",
      "    UNITY_TEST_FAIL(cmock_line, CMockStringCalledLess);",
      "  \x7d"]
  | ignore, p => forgetIgnored p
  | ignoreStateless, p => forgetIgnored p
  | callback, p =>
    let callback := mockField p.name "CallbackFunctionPointer"
    lines [
      s!"  if ({callback} != NULL)",
      "  \x7b",
      "    call_instance = CMOCK_GUTS_NONE;",
      "    (void)call_instance;",
      "  \x7d"]
  | _, _ => ""
where
  forgetIgnored (p : Prototype) : String :=
    let ignored := mockField p.name "IgnoreBool"
    lines [s!"  if ({ignored})", "    call_instance = CMOCK_GUTS_NONE;"]

def ignoreFromStart : Plugin → Prototype → String
  | ignore, p =>
    let ignored := mockField p.name "IgnoreBool"
    lines [s!"  {ignored} = (char) 1;"]
  | ignoreStateless, p =>
    let ignored := mockField p.name "IgnoreBool"
    lines [s!"  {ignored} = (char)1;"]
  | _, _ => ""

def answers : Hook → Plugin → Bool
  | .includes, p => p == exceptions
  | .callFields, p => !(p == ignore || p == ignoreStateless || p == callback)
  | .functionFields, p => p == ignore || p == ignoreStateless || p == callback
  | .declarations, _ => true
  | .precheck, p => p == ignore || p == ignoreStateless || p == callback
  | .implementation, p =>
    p == expect || p == callback || p == exceptions || p == returnThruPtr
  | .interfaces, _ => true
  | .verify, p => p == expect || p == ignore || p == ignoreStateless || p == callback
  | .destroy, _ => false
  | .ignoreAll, p => p == ignore || p == ignoreStateless

def text (s : Settings) (plugin : Plugin) (p : Prototype) : Hook → Except Fault String
  | .includes => .ok plugin.includes
  | .callFields => .ok (plugin.callFields s p)
  | .functionFields => .ok (plugin.functionFields p)
  | .declarations => .ok (plugin.declarations s p)
  | .precheck => .ok (plugin.precheck s p)
  | .implementation => plugin.implementation s p
  | .interfaces => .ok (plugin.interfaces s p)
  | .verify => .ok (plugin.verify p)
  | .destroy => .ok ""
  | .ignoreAll => .ok (plugin.ignoreFromStart p)

def checksOn (s : Settings) (d : Draft) : Except Fault String := do
  if s.anyArgs then
    d.require [.args]
    if d.argDrafts.isEmpty then return ""
  return guardCheck s d.fill (← d.verifyAll s)

def textOn (s : Settings) (plugin : Plugin) (d : Draft) : Hook → Except Fault String
  | .includes => .ok plugin.includes
  | .callFields => d.render (plugin.callFieldsNeeds s d.fill) (plugin.callFields s)
  | .functionFields => d.render (plugin.functionFieldsNeeds d.fill) plugin.functionFields
  | .declarations => d.render (plugin.declarationsNeeds s d.fill) (plugin.declarations s)
  | .precheck => d.render (plugin.precheckNeeds d.fill) (plugin.precheck s)
  | .implementation =>
    match plugin with
    | expect => checksOn s d
    | plugin => d.render (plugin.actionNeeds s d.fill) (plugin.action s)
  | .interfaces => d.render (plugin.interfacesNeeds s d.fill) (plugin.interfaces s)
  | .verify => d.render (if answers .verify plugin then [.shown .name] else []) plugin.verify
  | .destroy => .ok ""
  | .ignoreAll =>
    d.render (if answers .ignoreAll plugin then [.shown .name] else []) plugin.ignoreFromStart

theorem checksOn_of (s : Settings) (p : Prototype) :
    checksOn s (.of p) = implementation s expect p := by
  by_cases hany : s.anyArgs = true
  · by_cases hargs : p.args = []
    · simp [checksOn, implementation, hany, hargs, guardCheck, Expectation.verifyAll, bind,
        Except.bind, pure, Except.pure]
    · simp [checksOn, implementation, hany, hargs, Draft.verifyAll_of, bind, Except.bind]
  · simp [checksOn, implementation, hany, Draft.verifyAll_of]

theorem textOn_of (s : Settings) (plugin : Plugin) (p : Prototype) (hook : Hook) :
    plugin.textOn s (.of p) hook = plugin.text s p hook := by
  cases hook <;> simp [textOn, text]
  cases plugin <;> simp [implementation, checksOn_of, pure, Except.pure]

end Plugin

/-- The plugins of a mock in the order in which they are asked, with the settings they follow. -/
structure Plugins where
  settings : Settings
  loaded : List Plugin
  deriving Repr

namespace Plugins

def text (ps : Plugins) (hook : Hook) (p : Prototype) : Except Fault String := do
  return Code.concat (← ps.loaded.mapM fun plugin => plugin.text ps.settings p hook)

def textOn (ps : Plugins) (hook : Hook) (d : Draft) : Except Fault String := do
  return Code.concat (← ps.loaded.mapM fun plugin => plugin.textOn ps.settings d hook)

def includes (ps : Plugins) : String :=
  Code.concat (ps.loaded.map Plugin.includes)

def answers (ps : Plugins) (hook : Hook) : Bool :=
  ps.loaded.any (Plugin.answers hook)

end Plugins

end MockGen
