import MockGen.Fault

/-!
# The rules by which a header is read
-/

namespace MockGen.Header

/-- How declarations are picked and taken apart.  Regular expressions and values that are looked at
only when needed stay as they were given. -/
structure Rules where
  strippables : Value
  attributes : List String
  callingConventions : List String
  arrayTypes : Option (List (String × String))
  standards : List String
  arraySizeName : Value
  arraySizeTypes : List String
  whenNoPrototypes : Value
  verbosity : Value
  includeExterns : Bool
  includeInlines : Bool
  inlinePatterns : Value
  deriving Repr

end MockGen.Header
