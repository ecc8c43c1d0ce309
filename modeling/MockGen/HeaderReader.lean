import MockGen.Options
import MockGen.Header.Reader

/-!
# Readers of headers

A reader of headers set up from options.  It remembers the type names that headers define as `void`,
and it may share the default list of things to strip.
-/

namespace MockGen

/-- What the options name where names are expected, and that is no text: nothing in a header is
equal to it. -/
structure Strays where
  attributes : List Value := []
  callingConventions : List Value := []
  voids : List Value := []
  standards : List Value := []
  arraySizeTypes : List Value := []
  deriving Repr

structure HeaderReader where
  rules : Header.Rules
  sharesStrippables : Bool
  voids : List String
  strays : Strays := {}
  deriving Repr

namespace HeaderReader

def namesIn (items : List Value) : Except Fault (List String × List Value) := do
  let items ← Value.keySet items
  return (items.filterMap Value.text?, items.filter (·.text?.isNone))

private def listItems : Value → Except Fault (List Value)
  | .list items => .ok items
  | _ => .error .wrongKind

private def arrayTypes : Value → Option (List (String × String))
  | .map entries => some (entries.filterMap fun (key, value) =>
      key.text?.map fun type => (type, if value.truthy then value.display else ""))
  | _ => none

def strip (word : String) (r : HeaderReader) : Job HeaderReader := do
  if r.sharesStrippables then
    modify fun w => { w with strippables := w.strippables ++ [.str word] }
    return r
  else
    match r.rules.strippables with
    | .list items =>
      return { r with rules := { r.rules with strippables := .list (items ++ [.str word]) } }
    | _ => throw .noOperation

/-- Sets up a reader.  Declarations marked `extern` or `inline` are read only when the options ask
for them, and then those words are stripped. -/
def ofOptions (o : Options) : Job HeaderReader := do
  let (attributes, strayAttributes) ← namesIn (← listItems (o.get ":attributes"))
  let (conventions, strayConventions) ← namesIn (← (o.get ":c_calling_conventions").items)
  let (voids, strayVoids) ← namesIn (.str "void" :: (← listItems (o.get ":treat_as_void")))
  let (standards, strayStandards) ← namesIn
    ((["int", "short", "char", "long", "unsigned", "signed"].map .str) ++ o.treatAs.map Prod.fst)
  let (sizeTypes, straySizeTypes) ← namesIn
    (.str "int" :: .str "size_t" :: (← listItems (o.get ":array_size_type")))
  let includeExterns := o.get ":treat_externs" == .str ":include"
  let includeInlines := o.get ":treat_inlines" == .str ":include"
  let r : HeaderReader := {
    rules := {
      strippables := o.get ":strippables"
      attributes := attributes.filter (· != "const")
      callingConventions := conventions
      arrayTypes := arrayTypes (o.get ":treat_as_array")
      standards := standards
      arraySizeName := o.get ":array_size_name"
      arraySizeTypes := sizeTypes
      whenNoPrototypes := o.get ":when_no_prototypes"
      verbosity := o.get ":verbosity"
      includeExterns := includeExterns
      includeInlines := includeInlines
      inlinePatterns := o.get ":inline_function_patterns" }
    sharesStrippables := o.sharesStrippables
    voids := voids
    strays := {
      attributes := strayAttributes
      callingConventions := strayConventions
      voids := strayVoids
      standards := strayStandards
      arraySizeTypes := straySizeTypes } }
  let r ← if includeExterns then strip "extern" r else pure r
  if includeInlines then strip "inline" r else pure r

def rulesIn (r : HeaderReader) (w : Workspace) : Header.Rules :=
  if r.sharesStrippables then { r.rules with strippables := .list w.strippables } else r.rules

/-- Reads with the rules of the reader, prints the notes, and gives the outcome together with the
reader and the project as they are left. -/
def run {α : Type} (r : HeaderReader) (project : Project) (read : Header.Rules → ReadM α) :
    StateM Workspace (Except Fault α × HeaderReader × Project) := do
  let (outcome, left) := (read (r.rulesIn (← get))).run { project := project, voids := r.voids }
  left.notes.forM fun note => modify fun w => { w with console := w.console ++ note ++ "\n" }
  return (outcome, { r with voids := left.voids }, left.project)

end HeaderReader

end MockGen
