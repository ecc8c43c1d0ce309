import MockGen.Value

/-!
# Why an operation failed

Faults that come from using a value in a way its kind does not allow, or from the file tree, have no
wording of their own; the others say what went wrong.
-/

namespace MockGen

inductive Fault where
  | wrongKind
  | noOperation
  | missingPart
  | outOfRange
  | wrongLength
  | malformedPattern
  | tooManyRepetitions
  | contradictoryFlags
  | tooDeep
  | malformedNumber
  | numberTooLarge
  | malformedFormat
  | fileNotFound
  | fileExists
  | notDirectory
  | isDirectory
  | malformedPath
  | pathTooLong
  | refused
  | notText
  | destinationTaken
  | sameFile
  | unknownPlugin
  | noPrototypes (header : String)
  | unreadableDeclaration (declaration : String)
  | incompletePrototype (declaration modifier returned function args : String)
  | untestableType (type : String)
  | arrayComparesPointers
  | treatAsKey (key : Value)
  | optionsKind
  | ignoreRequired
  | malformedYaml (file : String)
  | exceptionsNeedJumps
  | pluginFailed (plugin object file : String)
  | noSanitizer
  | unreadableVersion
  | notWritable
  deriving Repr

namespace Fault

def pluginDirectory : String :=
  "<lib>"

def message? : Fault → Option String
  | noPrototypes header => some s!"ERROR: No function prototypes found by CMock in {header}"
  | unreadableDeclaration declaration =>
    some s!"Failed parsing function declaration: '{declaration}'"
  | incompletePrototype declaration modifier returned function args =>
    some (s!"Failed Parsing Declaration Prototype!\n  declaration: '{declaration}'\n" ++
      s!"  modifier: '{modifier}'\n  return: {returned}\n  function: '{function}'\n" ++
      s!"  args: {args}\n")
  | untestableType type => some s!"Don't know how to test {type} and memory tests are disabled!"
  | arrayComparesPointers =>
    some ("ERROR: the array plugin doesn't enjoy working with :compare_ptr only. " ++
      "Disable one option.")
  | treatAsKey key =>
    some (s!":treat_as expects a list of identifier: identifier mappings, but got a symbol: " ++
      key.display ++ ". Check the indentation in your project.yml")
  | optionsKind => some "Options should be a filename (str) or a dictionary (dict)"
  | ignoreRequired => some "The 'ignore' plugin is required to disable 'fail_on_unexpected_calls'"
  | malformedYaml file => some s!"Error parsing YAML file {file}"
  | exceptionsNeedJumps => some "Error: cexception is not supported without setjmp support"
  | pluginFailed plugin object file =>
    some s!"ERROR: CMock unable to load plugin '{plugin}' '{object}' {pluginDirectory}/{file}"
  | noSanitizer => some "Failed to find an instance of Unity to pull in type_sanitizer module!"
  | unreadableVersion => some "Can't find or read the header file."
  | notWritable => some "A callable block must be provided to generate file contents."
  | _ => none

end Fault

end MockGen
