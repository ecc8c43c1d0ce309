import MockGen.Pattern.Match
import MockGen.Text.Identifier
import MockGen.Text.Names

/-!
# Patterns written as regular expressions

`Pattern.ofText` reads the usual notation: classes, groups, greedy, lazy and possessive repetition,
assertions, references and inline flags.
-/

namespace MockGen

inductive PatternFault where
  | malformed
  | tooManyRepetitions
  | contradictoryFlags
  | tooDeep
  deriving Repr, DecidableEq

/-- How a part of a regular expression is to be understood. -/
structure PatternFlags where
  ignoreCase : Bool := false
  multiLine : Bool := false
  dotAll : Bool := false
  verbose : Bool := false
  ascii : Bool := false
  deriving Repr, DecidableEq

namespace PatternReader

/-- A unit of a regular expression: a character, or a character behind a backslash. -/
inductive Token where
  | plain (c : Char)
  | escaped (c : Char)
  | broken
  deriving Repr, DecidableEq

def tokens : List Char → List Token
  | [] => []
  | ['\\'] => [.broken]
  | '\\' :: c :: rest => .escaped c :: tokens rest
  | c :: rest => .plain c :: tokens rest

def Token.text : Token → List Char
  | plain c => [c]
  | escaped c => ['\\', c]
  | broken => ['\\']

/-- The number of characters that a match reads: at least, and at most if there is a bound. -/
structure Width where
  least : Nat
  most : Option Nat
  deriving Repr, DecidableEq

namespace Width

def zero : Width := ⟨0, some 0⟩

def one : Width := ⟨1, some 1⟩

def add (a b : Width) : Width where
  least := a.least + b.least
  most := do return (← a.most) + (← b.most)

def either (a b : Width) : Width where
  least := min a.least b.least
  most := do return max (← a.most) (← b.most)

def times (a : Width) (least : Nat) (most : Option Nat) : Width where
  least := a.least * least
  most := if a.most == some 0 then some 0 else do return (← a.most) * (← most)

def fixed? (a : Width) : Option Nat :=
  if a.most == some a.least && a.least ≤ 4294967295 then some a.least else none

end Width

def width (groups : List (Nat × Width)) : Pattern → Width
  | .empty => .zero
  | .never => .zero
  | .one _ => .one
  | .span _ least most _ => Width.one.times least most
  | .seq p q => (width groups p).add (width groups q)
  | .alt p q => (width groups p).either (width groups q)
  | .many p least most _ => (width groups p).times least most
  | .group _ p => width groups p
  | .same n _ => (groups.lookup n).getD .zero
  | .place _ => .zero
  | .ahead _ _ => .zero
  | .behind _ _ _ => .zero
  | .once p => width groups p
  | .possessive p least most => (width groups p).times least most
  | .given _ p q => (width groups p).either (width groups q)

/-- What is left to read, and what is known so far. -/
structure Source where
  rest : List Token
  depth : Nat := 0
  groups : Nat := 0
  widths : List (Nat × Width) := []
  names : List (List Char × Nat) := []
  outside : Option Nat := none
  conditions : List Nat := []
  flags : PatternFlags := {}
  asksAscii : Bool := false
  asksUnicode : Bool := false
  refusesRepetition : Bool := false
  hasRepetition : Bool := false
  hasLooseWidth : Bool := false

inductive Kind where
  | plain
  | anchor
  | repetition
  deriving DecidableEq

abbrev Reader := StateT Source (Except PatternFault)

def fail {α : Type} : Reader α :=
  throw .malformed

def peek : Reader (Option Token) := do
  return (← get).rest.head?

def skipTo (rest : List Token) : Reader Unit := do
  if rest.head? == some .broken then fail
  modify fun s => { s with rest := rest }

def next? : Reader (Option Token) := do
  match (← get).rest with
  | [] => return none
  | t :: rest =>
    skipTo rest
    return some t

def accept (c : Char) : Reader Bool := do
  match (← get).rest with
  | .plain d :: rest =>
    if c == d then
      skipTo rest
      return true
    else return false
  | _ => return false

private def plainWhile (p : Char → Bool) : (most : Nat) → List Token → List Char
  | most + 1, .plain c :: rest => if p c then c :: plainWhile p most rest else []
  | _, _ => []

def charsWhile (p : Char → Bool) (most : Nat) : Reader (List Char) := do
  let rest := (← get).rest
  let found := plainWhile p most rest
  skipTo (rest.drop found.length)
  return found

private def splitUntil (stop : Char) : List Token → Option (List Char × List Token)
  | [] => none
  | t :: rest =>
    if t == .plain stop then some ([], rest)
    else (splitUntil stop rest).map fun (found, rest) => (t.text ++ found, rest)

def textUntil (stop : Char) : Reader (List Char) := do
  match splitUntil stop (← get).rest with
  | some (found, rest) =>
    if found.isEmpty then fail
    skipTo rest
    return found
  | none => fail

private def isOctal (c : Char) : Bool :=
  '0' ≤ c && c ≤ '7'

private def isDecimal (c : Char) : Bool :=
  '0' ≤ c && c ≤ '9'

private def isAsciiLetter (c : Char) : Bool :=
  ('a' ≤ c && c ≤ 'z') || ('A' ≤ c && c ≤ 'Z')

private def isHex (c : Char) : Bool :=
  isDecimal c || ('a' ≤ c && c ≤ 'f') || ('A' ≤ c && c ≤ 'F')

private def hexDigit (c : Char) : Nat :=
  if isDecimal c then c.toNat - 48 else c.toLower.toNat - 87

private def number (base : Nat) (digits : List Char) : Nat :=
  digits.foldl (fun n c => n * base + hexDigit c) 0

private def isHalf (code : Nat) : Bool :=
  0xD800 ≤ code && code ≤ 0xDFFF

private def rangeOf (first last : Nat) : CharSet :=
  let low := if isHalf first then 0xE000 else first
  let high := if isHalf last then 0xD7FF else last
  if low ≤ high then .range (Char.ofNat low) (Char.ofNat high) else .none

private def setOf (code : Nat) : CharSet :=
  if isHalf code then .none else .single (Char.ofNat code)

def PatternFlags.folding (flags : PatternFlags) : Folding :=
  if flags.ignoreCase then if flags.ascii then .asciiLetters else .letters else .exact

variable (flags : PatternFlags)

private def folded (s : CharSet) : CharSet :=
  if flags.ignoreCase then .folded (PatternFlags.folding flags) s else s

inductive Member where
  | code (n : Nat)
  | range (first last : Nat)
  | set (s : CharSet)
  deriving DecidableEq

/-- The characters that a member brings into a class with others.  Among the code points of more
than four digits, letter case is looked at in one direction only: by the lower case of a single
character, and by the upper case of those in a range. -/
def Member.toSet : Member → CharSet
  | code n =>
    let isLower := Text.lowerLetter (Char.ofNat n) == Char.ofNat n
    if flags.ignoreCase && !flags.ascii && n > 0xFFFF && !isLower then .none else setOf n
  | range first last =>
    let s := rangeOf first last
    if flags.ignoreCase && last > 0xFFFF then s ∪ .raised s else s
  | set s => s

private def classSet : List Member → CharSet
  | [.code n] => folded flags (setOf n)
  | members => folded flags (members.foldl (fun s member => s ∪ member.toSet flags) .none)

inductive Part where
  | letter (members : List Member) (negated : Bool)
  | mark (sign : Char) (p : Pattern)
  | nested (p : Pattern)

namespace Part

def literal (code : Nat) : Part :=
  letter [.code code] false

def agrees : Part → Part → Bool
  | letter s negated, letter t negated' => s == t && negated == negated'
  | mark c p, mark d q => c == d && p == q
  | _, _ => false

def toPattern : Part → Pattern
  | letter members negated =>
    let s := classSet flags members
    .one (if negated then .compl s else s)
  | mark _ p => p
  | nested p => p

def members? : List Part → Option (List Member)
  | [letter members false] => some members
  | _ => none

end Part

private def joined (flags : PatternFlags) : List Part → Pattern
  | [] => .empty
  | [part] => part.toPattern flags
  | part :: next :: rest => .seq (part.toPattern flags) (joined flags (next :: rest))

private def sharedLead : (first : List Part) → (others : List (List Part)) →
    List Part × List (List Part)
  | [], others => ([], [] :: others)
  | part :: rest, others =>
    if others.all fun parts => parts.head?.any part.agrees then
      let (lead, left) := sharedLead rest (others.map (·.drop 1))
      (part :: lead, left)
    else ([], (part :: rest) :: others)

private def anyOf (flags : PatternFlags) : List (List Part) → Pattern
  | [] => .never
  | [parts] => joined flags parts
  | parts :: next :: rest => .alt (joined flags parts) (anyOf flags (next :: rest))

private def choice : List (List Part) → List Part
  | [] => []
  | [parts] => parts
  | first :: others =>
    let (lead, left) := sharedLead first others
    match left.mapM Part.members? with
    | some members => lead ++ [.letter (Text.distinct members.flatten) false]
    | none => lead ++ [.nested (anyOf flags left)]

private def asciiOnly (s : CharSet) : CharSet :=
  if flags.ascii then
    .compl (.union (.compl s) (.compl (.range (Char.ofNat 0) (Char.ofNat 127))))
  else s

private def classOf (c : Char) : Option CharSet :=
  match c with
  | 'd' => some (asciiOnly flags .digit)
  | 'D' => some (.compl (asciiOnly flags .digit))
  | 's' => some (asciiOnly flags .blank)
  | 'S' => some (.compl (asciiOnly flags .blank))
  | 'w' => some (asciiOnly flags .word)
  | 'W' => some (.compl (asciiOnly flags .word))
  | _ => none

private def anchorOf (c : Char) : Option Anchor :=
  match c with
  | 'A' => some .textStart
  | 'Z' => some .textEnd
  | 'b' => some (if flags.ascii then .asciiWordEdge else .wordEdge)
  | 'B' => some (if flags.ascii then .notAsciiWordEdge else .notWordEdge)
  | _ => none

private def controlOf (c : Char) : Option Nat :=
  match c with
  | 'a' => some 7
  | 'f' => some 12
  | 'n' => some 10
  | 'r' => some 13
  | 't' => some 9
  | 'v' => some 11
  | '\\' => some 92
  | _ => none

private def hexCode (digits : Nat) : Reader Nat := do
  let found ← charsWhile isHex digits
  if found.length < digits || number 16 found > 0x10FFFF then fail
  return number 16 found

private def escapedCode (c : Char) : Reader Nat := do
  match c with
  | 'x' => hexCode 2
  | 'u' => hexCode 4
  | 'U' => hexCode 8
  | 'N' =>
    if !(← accept '\x7b') then fail
    match Text.charNamed? (← textUntil '\x7d') with
    | some d => return d.toNat
    | none => fail
  | c => if isAsciiLetter c then fail else return c.toNat

private def checkOutside (n : Nat) : Reader Unit := do
  let s ← get
  match s.outside with
  | some bound => if (s.widths.lookup n).isNone || n > bound then fail
  | none => pure ()

private def reference (n : Nat) : Reader Part := do
  if ((← get).widths.lookup n).isNone then fail
  checkOutside n
  return .mark '=' (.same n (PatternFlags.folding flags))

private def escape (c : Char) : Reader (Part × Kind) := do
  match classOf flags c, anchorOf flags c, controlOf c with
  | some s, _, _ => return (.letter [.set s] false, .plain)
  | _, some a, _ => return (.mark c (.place a), .anchor)
  | _, _, some code => return (.literal code, .plain)
  | none, none, none =>
    if c == '0' then
      let digits ← charsWhile isOctal 2
      return (.literal (number 8 digits), .plain)
    else if isDecimal c then
      let second ← charsWhile isDecimal 1
      let third ← if isOctal c && second.all isOctal && !second.isEmpty then charsWhile isOctal 1
        else pure []
      if third.isEmpty then return (← reference flags (number 10 (c :: second)), .plain)
      else
        let code := number 8 (c :: second ++ third)
        if code > 255 then fail
        return (.literal code, .plain)
    else return (.literal (← escapedCode c), .plain)

private def classMember (t : Token) : Reader Member := do
  match t with
  | .plain c => return .code c.toNat
  | .broken => fail
  | .escaped c =>
    match classOf flags c, controlOf c with
    | some s, _ => return .set s
    | _, some code => return .code code
    | none, none =>
      if c == 'b' then return .code 8
      else if isOctal c then
        let digits ← charsWhile isOctal 2
        let code := number 8 (c :: digits)
        if code > 255 then fail
        return .code code
      else if isDecimal c then fail
      else return .code (← escapedCode c)

private def classMembers (flags : PatternFlags) : (fuel : Nat) → (soFar : List Member) →
    Reader (List Member)
  | 0, _ => fail
  | fuel + 1, soFar => do
    match ← next? with
    | none => fail
    | some t =>
      if t == .plain ']' && !soFar.isEmpty then return soFar.reverse
      let low ← classMember flags t
      if ← accept '-' then
        match ← next? with
        | none => fail
        | some last =>
          if last == .plain ']' then return (.code 45 :: low :: soFar).reverse
          match low, ← classMember flags last with
          | .code first, .code last =>
            if last < first then fail
            classMembers flags fuel (.range first last :: soFar)
          | _, _ => fail
      else classMembers flags fuel (low :: soFar)

private def charClass : Reader Part := do
  let negated ← accept '^'
  let members ← classMembers flags ((← get).rest.length + 1) []
  return .letter (Text.distinct members) negated

private def bound (digits : List Char) : Reader Nat := do
  if number 10 digits ≥ 4294967295 then throw .tooManyRepetitions
  return number 10 digits

private def bounds : Reader (Option (Nat × Option Nat)) := do
  let start := (← get).rest
  if start.head? == some (.plain '\x7d') then return none
  let low ← charsWhile isDecimal start.length
  let high ← if ← accept ',' then charsWhile isDecimal start.length else pure low
  if !(← accept '\x7d') then
    modify fun s => { s with rest := start }
    return none
  let least ← if low.isEmpty then pure 0 else bound low
  let most ← if high.isEmpty then pure none else some <$> bound high
  if most.any (· < least) then fail
  return some (least, most)

private def repeatOf (p : Pattern) (least : Nat) (most : Option Nat) (greedy : Bool) : Pattern :=
  match p with
  | .one s => .span s least most greedy
  | _ => .many p least most greedy

abbrev Items := List (List Part × Kind)

private def repeatLast (items : Items) (least : Nat) (most : Option Nat) :
    Reader Items := do
  match items with
  | (parts, .plain) :: earlier =>
    modify fun s => { s with hasRepetition := true }
    let p := joined flags parts
    let isLazy ← accept '?'
    let isPossessive ← if isLazy then pure false else accept '+'
    let repetition :=
      if isPossessive then .possessive p least most else repeatOf p least most !isLazy
    return ([.nested repetition], .repetition) :: earlier
  | _ => fail

structure FlagLetters where
  letters : List Char := []
  isGlobal : Bool := false
  removed : List Char := []

private def isFlag (c : Char) : Bool :=
  "iLmsxatu".toList.contains c

private def flagRun : (fuel : Nat) → Reader (List Char)
  | 0 => fail
  | fuel + 1 => do
    match ← peek with
    | some (.plain c) =>
      if isFlag c then
        let _ ← next?
        return c :: (← flagRun fuel)
      else return []
    | _ => return []

private def flagLetters : Reader FlagLetters := do
  let room := (← get).rest.length + 1
  let added ← flagRun room
  let type := added.filter fun c => c == 'a' || c == 'u' || c == 'L'
  if added.contains 'L' || (Text.distinct type).length > 1 then fail
  if !added.isEmpty && (← accept ')') then return { letters := added, isGlobal := true }
  if added.contains 't' then fail
  let removed ←
    if ← accept '-' then do
      let removed ← flagRun room
      if removed.isEmpty then fail
      pure removed
    else pure []
  if !(← accept ':') then fail
  if removed.any fun c => "aLut".toList.contains c || added.contains c then fail
  return { letters := added, removed := removed }

private def switch (value : Bool) (flags : PatternFlags) (c : Char) : PatternFlags :=
  match c with
  | 'i' => { flags with ignoreCase := value }
  | 'm' => { flags with multiLine := value }
  | 's' => { flags with dotAll := value }
  | 'x' => { flags with verbose := value }
  | 'a' => { flags with ascii := true }
  | 'u' => { flags with ascii := false }
  | _ => flags

private def switchGlobal (letters : List Char) : Reader PatternFlags := do
  modify fun s =>
    let asksAscii := s.asksAscii || letters.contains 'a'
    let flags := { letters.foldl (switch true) s.flags with ascii := asksAscii }
    { s with
      flags := flags, asksAscii := asksAscii
      asksUnicode := s.asksUnicode || letters.contains 'u'
      refusesRepetition := s.refusesRepetition || letters.contains 't' }
  return (← get).flags

private def groupedDigits : (afterDigit : Bool) → List Char → Option (List Nat)
  | afterDigit, [] => if afterDigit then some [] else none
  | afterDigit, c :: rest =>
    if Text.isDigit c then (groupedDigits true rest).map (Text.digitValue c :: ·)
    else if c == '_' && afterDigit then groupedDigits false rest
    else none

private def groupNumber? (name : List Char) : Option Nat :=
  let t := Text.strip name
  let unsigned := if t.head? == some '+' then t.drop 1 else t
  (groupedDigits false unsigned).map fun digits => digits.foldl (fun n d => n * 10 + d) 0

private def conditionGroup (name : List Char) : Reader Nat := do
  if Text.isIdentifier name then
    match (← get).names.lookup name with
    | some n => return n
    | none => fail
  else
    match groupNumber? name with
    | none => fail
    | some 0 => fail
    | some n =>
      modify fun s => { s with conditions := n :: s.conditions }
      return n

def mostOpen : Nat := 492

private def openBracket : Reader Unit := do
  if (← get).depth ≥ mostOpen then throw .tooDeep
  modify fun s => { s with depth := s.depth + 1 }

private def closeBracket : Reader Unit := do
  if !(← accept ')') then fail
  modify fun s => { s with depth := s.depth - 1 }

private def skipComment : Reader Unit := do
  let rest := (← get).rest
  let tail := rest.dropWhile (· != .plain '\n')
  if tail.isEmpty && rest.contains .broken then fail
  skipTo (tail.drop 1)

private def isLayout (c : Char) : Bool :=
  [' ', '\t', '\n', '\r', '\x0b', '\x0c'].contains c

private def openGroup : Reader Nat := do
  let n := (← get).groups + 1
  modify fun s => { s with groups := n }
  return n

private def closeGroup (n : Nat) (p : Pattern) : Reader Unit :=
  modify fun s => { s with widths := (n, width s.widths p) :: s.widths }

mutual

private def alternatives (isTop atStart : Bool) (flags : PatternFlags) :
    (fuel : Nat) → Reader (List (List Part))
  | 0 => fail
  | fuel + 1 => do
    let parts ← sequence atStart flags fuel []
    if ← accept '|' then
      let known := (← get).flags
      return parts :: (← alternatives isTop false (if isTop then known else flags) fuel)
    else return [parts]

private def enclosed (flags : PatternFlags) : (fuel : Nat) → Reader (List Part)
  | 0 => fail
  | fuel + 1 => do
    openBracket
    let found ← alternatives false false flags fuel
    closeBracket
    return choice flags found

private def sequence (atStart : Bool) (flags : PatternFlags) :
    (fuel : Nat) → (items : Items) → Reader (List Part)
  | 0, _ => fail
  | fuel + 1, items => do
    let following ← peek
    if following.all fun t => t == .plain '|' || t == .plain ')' then
      return items.reverse.flatMap Prod.fst
    match ← next? with
    | none => fail
    | some .broken => fail
    | some (.escaped c) =>
      let (part, kind) ← escape flags c
      sequence atStart flags fuel (([part], kind) :: items)
    | some (.plain c) =>
      if flags.verbose && isLayout c then sequence atStart flags fuel items
      else if flags.verbose && c == '#' then
        skipComment
        sequence atStart flags fuel items
      else
      match c with
      | '[' =>
        let part ← charClass flags
        sequence atStart flags fuel (([part], .plain) :: items)
      | '.' =>
        let p := .one (if flags.dotAll then .any else .line)
        sequence atStart flags fuel (([.mark c p], .plain) :: items)
      | '^' =>
        let p := .place (if flags.multiLine then .lineStart else .textStart)
        sequence atStart flags fuel (([.mark c p], .anchor) :: items)
      | '$' =>
        let p := .place (if flags.multiLine then .lineEnd else .lastEnd)
        sequence atStart flags fuel (([.mark c p], .anchor) :: items)
      | '*' => sequence atStart flags fuel (← repeatLast flags items 0 none)
      | '+' => sequence atStart flags fuel (← repeatLast flags items 1 none)
      | '?' => sequence atStart flags fuel (← repeatLast flags items 0 (some 1))
      | '\x7b' =>
        match ← bounds with
        | some (least, most) => sequence atStart flags fuel (← repeatLast flags items least most)
        | none => sequence atStart flags fuel (([.literal 0x7B], .plain) :: items)
      | '(' =>
        if ← accept '?' then special atStart flags fuel items
        else
          let n ← openGroup
          let p := joined flags (← enclosed flags fuel)
          closeGroup n p
          sequence atStart flags fuel (([.nested (.group n p)], .plain) :: items)
      | c => sequence atStart flags fuel (([.literal c.toNat], .plain) :: items)

private def special (atStart : Bool) (flags : PatternFlags) :
    (fuel : Nat) → (items : Items) → Reader (List Part)
  | 0, _ => fail
  | fuel + 1, items => do
    let following ← peek
    let mark : Char := match following with
      | some (.plain c) => c
      | _ => ' '
    if isFlag mark || mark == '-' then
      let letters ← flagLetters
      if letters.isGlobal then
        let flags ← switchGlobal letters.letters
        if !atStart || !items.isEmpty then fail
        sequence atStart flags fuel items
      else
        let within :=
          letters.removed.foldl (switch false) (letters.letters.foldl (switch true) flags)
        let p := joined within (← enclosed within fuel)
        sequence atStart flags fuel (([.nested p], .plain) :: items)
    else
      let _ ← next?
      match mark with
      | '#' =>
        skipTo (← commentEnd)
        sequence atStart flags fuel items
      | ':' =>
        let parts ← enclosed flags fuel
        sequence atStart flags fuel ((parts, .plain) :: items)
      | '>' =>
        let p := joined flags (← enclosed flags fuel)
        sequence atStart flags fuel (([.nested (.once p)], .plain) :: items)
      | '=' =>
        let p := joined flags (← enclosed flags fuel)
        sequence atStart flags fuel (([.nested (.ahead p true)], .plain) :: items)
      | '!' =>
        let p := joined flags (← enclosed flags fuel)
        sequence atStart flags fuel (([.nested (.ahead p false)], .plain) :: items)
      | '<' =>
        let wanted ← match ← next? with
          | some (.plain '=') => pure true
          | some (.plain '!') => pure false
          | _ => fail
        let outside := (← get).outside
        modify fun s => { s with outside := some (outside.getD s.groups) }
        let p := joined flags (← enclosed flags fuel)
        modify fun s => { s with outside := outside }
        let w := (width (← get).widths p).fixed?
        modify fun s => { s with hasLooseWidth := s.hasLooseWidth || w.isNone }
        sequence atStart flags fuel (([.nested (.behind (w.getD 0) p wanted)], .plain) :: items)
      | 'P' =>
        if ← accept '<' then
          let name ← textUntil '>'
          if !Text.isIdentifier name || ((← get).names.lookup name).isSome then fail
          let n ← openGroup
          modify fun s => { s with names := (name, n) :: s.names }
          let p := joined flags (← enclosed flags fuel)
          closeGroup n p
          sequence atStart flags fuel (([.nested (.group n p)], .plain) :: items)
        else if ← accept '=' then
          let name ← textUntil ')'
          match (← get).names.lookup name with
          | some n =>
            let part ← reference flags n
            sequence atStart flags fuel (([part], .plain) :: items)
          | none => fail
        else fail
      | '(' =>
        let n ← conditionGroup (← textUntil ')')
        checkOutside n
        let p := joined flags (← sequence false flags fuel [])
        let q ← if ← accept '|' then sequence false flags fuel [] else pure []
        if !(← accept ')') then fail
        sequence atStart flags fuel (([.nested (.given n p (joined flags q))], .plain) :: items)
      | _ => fail
where
  commentEnd : Reader (List Token) := do
    match splitUntil ')' (← get).rest with
    | some (_, rest) => return rest
    | none => fail

end

def read (t : List Char) : Except PatternFault Pattern := do
  let source := tokens t
  if source.head? == some .broken then throw .malformed
  let (found, s) ← (alternatives true true {} (3 * source.length + 4)).run { rest := source }
  if s.asksAscii && s.asksUnicode then throw .contradictoryFlags
  if !s.rest.isEmpty || s.conditions.any (· > s.groups) || s.hasLooseWidth ||
      (s.refusesRepetition && s.hasRepetition) then
    throw .malformed
  return joined s.flags (choice s.flags found)

end PatternReader

def Pattern.ofText (t : List Char) : Except PatternFault Pattern :=
  PatternReader.read t

end MockGen
