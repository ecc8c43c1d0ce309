import MockGen.Yaml.Cursor

/-!
# The texts of scalars

Plain, in single or double quotes, and as blocks of lines.
-/

namespace MockGen.Yaml

open MockGen.Yaml.Cursor

def hexValue? (c : Char) : Option Nat :=
  if '0' ≤ c && c ≤ '9' then some (c.toNat - 48)
  else if 'a' ≤ c && c ≤ 'f' then some (c.toNat - 87)
  else if 'A' ≤ c && c ≤ 'F' then some (c.toNat - 55)
  else none

def digits? (base : Nat) (digits : List Char) : Option Nat :=
  digits.foldlM
    (fun sum c => do
      let value ← hexValue? c
      if value < base then some (sum * base + value) else none)
    0

/-! ## Quotes -/

private def escaped? (c : Char) : Option Char :=
  match c with
  | '0' => some (Char.ofNat 0)
  | 'a' => some (Char.ofNat 7)
  | 'b' => some (Char.ofNat 8)
  | 't' => some '\t'
  | '\t' => some '\t'
  | 'n' => some '\n'
  | 'v' => some (Char.ofNat 11)
  | 'f' => some (Char.ofNat 12)
  | 'r' => some '\r'
  | 'e' => some (Char.ofNat 27)
  | ' ' => some ' '
  | '"' => some '"'
  | '\\' => some '\\'
  | '/' => some '/'
  | 'N' => some (Char.ofNat 0x85)
  | '_' => some (Char.ofNat 0xA0)
  | 'L' => some (Char.ofNat 0x2028)
  | 'P' => some (Char.ofNat 0x2029)
  | _ => none

private def codeLength? (c : Char) : Option Nat :=
  match c with
  | 'x' => some 2
  | 'u' => some 4
  | 'U' => some 8
  | _ => none

private def charOfCode (code : Nat) : Except Trouble Char :=
  if 0x7FFFFFFF < code then .error (.scalar .numberTooLarge)
  else if 0x10FFFF < code then .error (.scalar .malformedNumber)
  else .ok (Char.ofNat code)

private def emptyLines : (fuel : Nat) → Cursor → Except Trouble (List Char × Cursor)
  | 0, _ => .error .malformed
  | fuel + 1, c =>
    if c.atDocumentMark then .error .malformed
    else
      let c := c.skip fun d => d == ' ' || d == '\t'
      match c.lineBreak? with
      | none => .ok ([], c)
      | some (d, c) => do
        let (further, c) ← emptyLines fuel c
        return (d :: further, c)

private def quotedFrom (double : Bool) : (fuel : Nat) → Cursor →
    Except Trouble (List Char × Cursor)
  | 0, _ => .error .malformed
  | fuel + 1, c =>
    let andOn := fun (t : List Char) (c : Cursor) => do
      let (more, c) ← quotedFrom double fuel c
      return (t ++ more, c)
    match c.rest with
    | [] => .error .malformed
    | d :: more =>
      if d == (if double then '"' else '\'') then
        if !double && more.head? == some '\'' then andOn ['\''] (c.advance 2)
        else .ok ([], c.step)
      else if double && d == '\\' then
        match more with
        | [] => .error .malformed
        | e :: digits =>
          match escaped? e, codeLength? e with
          | some replaced, _ => andOn [replaced] (c.advance 2)
          | none, some width =>
            if digits.length < width then .error .malformed
            else
              match digits? 16 (digits.take width) with
              | none => .error .malformed
              | some code => do andOn [← charOfCode code] (c.advance (2 + width))
          | none, none =>
            if isBreak e then do
              let (breaks, c) ← emptyLines fuel (c.advance 2)
              andOn breaks c
            else .error .malformed
      else if d == ' ' || d == '\t' || isBreak d then
        let blanks := c.rest.takeWhile fun e => e == ' ' || e == '\t'
        let c := c.advance blanks.length
        match c.lineBreak? with
        | none => andOn blanks c
        | some (first, c) => do
          let (further, c) ← emptyLines fuel c
          andOn (folded first further) c
      else andOn [d] c.step

/-- The text of a scalar whose opening quote stands here, and what follows the closing one. -/
def quotedText (double : Bool) (c : Cursor) : Except Trouble (List Char × Cursor) :=
  quotedFrom double (c.rest.length + 1) c.step

/-! ## Plain scalars -/

def isFlowMark (c : Char) : Bool :=
  [',', '[', ']', '\x7b', '\x7d'].contains c

def startsPlain (inFlow : Bool) (c : Cursor) : Bool :=
  match c.next? with
  | none => false
  | some d =>
    (!isWideGap (some d) && !"-?:,[]\x7b\x7d#&*!|>'\"%@`".toList.contains d) ||
      (!isWideGap (c.ahead? 1) && (d == '-' || (!inFlow && (d == '?' || d == ':'))))

private def plainRun (inFlow : Bool) : List Char → List Char
  | [] => []
  | c :: rest =>
    let ends := isWideGap (some c) ||
      (c == ':' && (isWideGap rest.head? || (inFlow && rest.head?.any isFlowMark))) ||
      (inFlow && (c == '?' || isFlowMark c))
    if ends then [] else c :: plainRun inFlow rest

private def plainBreaks : (fuel : Nat) → Cursor → Option (List Char) × Cursor
  | 0, c => (none, c)
  | fuel + 1, c =>
    if c.atDocumentMark then (none, c)
    else
      let c := c.skipSpaces
      match c.lineBreak? with
      | none => (some [], c)
      | some (d, c) =>
        let (further, c) := plainBreaks fuel c
        (further.map (d :: ·), c)

structure PlainText where
  text : List Char
  after : Cursor
  crossed : Bool

private def plainFrom (inFlow : Bool) (indent : Nat) : (fuel : Nat) → (crossed : Bool) → Cursor →
    PlainText
  | 0, crossed, c => ⟨[], c, crossed⟩
  | fuel + 1, crossed, c =>
    let run := if c.next? == some '#' then [] else plainRun inFlow c.rest
    if run.isEmpty then ⟨[], c, crossed⟩
    else
      let c := c.advance run.length
      let spaces := c.rest.takeWhile (· == ' ')
      let after := c.advance spaces.length
      let goOn := fun (gap : List Char) (crossed : Bool) (c : Cursor) =>
        if c.next? == some '#' || (!inFlow && c.column < indent) then ⟨run, c, crossed⟩
        else
          let more := plainFrom inFlow indent fuel crossed c
          if more.text.isEmpty then { more with text := run }
          else { more with text := run ++ gap ++ more.text }
      match after.lineBreak? with
      | none => if spaces.isEmpty then ⟨run, after, false⟩ else goOn spaces false after
      | some (first, c) =>
        match plainBreaks (fuel + 1) c with
        | (none, c) => ⟨run, c, true⟩
        | (some further, c) => goOn (folded first further) true c

def plainText (inFlow : Bool) (indent : Nat) (c : Cursor) : PlainText :=
  plainFrom inFlow indent (c.rest.length + 1) false c

/-! ## Blocks -/

/-- What is kept of the line breaks at the end of a block. -/
inductive Chomping where
  | clip
  | strip
  | keep
  deriving DecidableEq

private def blockHeader? (c : Cursor) : Option (Chomping × Option Nat × Cursor) := do
  let chomping := fun (c : Cursor) => match c.next? with
    | some '+' => (Chomping.keep, c.step)
    | some '-' => (Chomping.strip, c.step)
    | _ => (Chomping.clip, c)
  let increment := fun (c : Cursor) => match c.next? with
    | some d => if '0' ≤ d && d ≤ '9' then (some (d.toNat - 48), c.step) else (none, c)
    | none => (none, c)
  let (kept, c₁) := chomping c
  let (size, c₂) := increment c₁
  let (kept, c₃) := if kept == .clip then chomping c₂ else (kept, c₂)
  if size == some 0 || !isGap c₃.next? then none else some (kept, size, c₃)

private def blockStart : (fuel : Nat) → Cursor → List Char × Nat × Cursor
  | 0, c => ([], 0, c)
  | fuel + 1, c =>
    let c := c.skipSpaces
    match c.lineBreak? with
    | none => ([], c.column, c)
    | some (d, next) =>
      let (further, widest, after) := blockStart fuel next
      (d :: further, max c.column widest, after)

private def skipIndent (indent : Nat) (c : Cursor) : Cursor :=
  c.advance (min (indent - c.column) (c.rest.takeWhile (· == ' ')).length)

private def blockBreaks (indent : Nat) : (fuel : Nat) → Cursor → List Char × Cursor
  | 0, c => ([], c)
  | fuel + 1, c =>
    let c := skipIndent indent c
    match c.lineBreak? with
    | none => ([], c)
    | some (d, c) =>
      let (further, c) := blockBreaks indent fuel c
      (d :: further, c)

/-- The lines of a block from the current one on, where `before` holds the breaks in front of it:
the text, the last line break and the breaks of the empty lines at the end. -/
private def blockLines (isFolded : Bool) (indent : Nat) : (fuel : Nat) → (before : List Char) →
    Cursor → List Char × List Char × List Char × Cursor
  | 0, before, c => ([], [], before, c)
  | fuel + 1, before, c =>
    let isBlank := fun (d : Option Char) => d == some ' ' || d == some '\t'
    let solid := !isBlank c.next?
    let line := c.rest.takeWhile (!isBreak ·)
    let c := c.advance line.length
    let (last, c) := match c.lineBreak? with
      | some (d, c) => ([d], c)
      | none => ([], c)
    let (breaks, c) := blockBreaks indent (fuel + 1) c
    if c.column == indent && c.next?.isSome then
      let joint :=
        if isFolded && last == ['\n'] && solid && !isBlank c.next? then
          if breaks.isEmpty then [' '] else []
        else last
      let (text, ending) := blockLines isFolded indent fuel breaks c
      (before ++ line ++ joint ++ text, ending)
    else (before ++ line, last, breaks, c)

def blockText (isFolded : Bool) (outer : Nat) (c : Cursor) : Except Trouble (List Char × Cursor) :=
  match blockHeader? c.step with
  | none => .error .malformed
  | some (chomping, size, c) =>
    match c.endLine? with
    | none => .error .malformed
    | some c =>
      let fuel := c.rest.length + 1
      let least := max outer 1
      let (before, indent, c) :=
        match size with
        | none =>
          let (before, widest, c) := blockStart fuel c
          (before, max least widest, c)
        | some size =>
          let indent := least + size - 1
          let (before, c) := blockBreaks indent fuel c
          (before, indent, c)
      let (text, last, breaks, c) :=
        if c.column == indent && c.next?.isSome then blockLines isFolded indent fuel before c
        else ([], [], before, c)
      let ending := match chomping with
        | .clip => last
        | .strip => []
        | .keep => last ++ breaks
      .ok (text ++ ending, c)

end MockGen.Yaml
