import MockGen.Yaml.Scalar

/-!
# The tokens of an option file

Blocks are opened and closed by their indentation.  Where a node turns out to be a key, the mark of
the key is put in front of it afterwards: the node has to start and end on one line, at most 1024
characters before its colon.
-/

namespace MockGen.Yaml

inductive Directive where
  | version (major : Nat)
  | tag (handle target : String)
  | other

inductive Token where
  | directive (d : Directive)
  | documentStart
  | documentEnd
  | blockList
  | blockMap
  | blockEnd
  | flowList
  | flowListEnd
  | flowMap
  | flowMapEnd
  | item
  | comma
  | key
  | value
  | alias (name : String)
  | anchor (name : String)
  | tag (handle : Option String) (suffix : String)
  | scalar (text : List Char) (plain : Bool)

/-- A token that may turn out to start a key. -/
structure KeyStart where
  depth : Nat
  position : Nat
  index : Nat
  line : Nat
  column : Nat
  required : Bool

structure Scan where
  at_ : Cursor
  tokens : Array Token := #[]
  depth : Nat := 0
  blocks : List Nat := []
  keyAllowed : Bool := true
  keyStarts : List KeyStart := []

namespace Scan

def inner (s : Scan) : Nat :=
  match s.blocks with
  | [] => 0
  | column :: _ => column + 1

def push (s : Scan) (t : Token) : Scan :=
  { s with tokens := s.tokens.push t }

private def toToken : (fuel : Nat) → Scan → Scan
  | 0, s => s
  | fuel + 1, s =>
    let c := s.at_.skipSpaces.skipComment
    match c.lineBreak? with
    | none => { s with at_ := c }
    | some (_, c) =>
      toToken fuel { s with at_ := c, keyAllowed := s.keyAllowed || s.depth == 0 }

private def dropStale (s : Scan) : Except Trouble Scan :=
  let fresh := s.keyStarts.filter fun k =>
    k.line == s.at_.line && s.at_.index - k.index ≤ 1024
  let stale := s.keyStarts.filter fun k =>
    !(k.line == s.at_.line && s.at_.index - k.index ≤ 1024)
  if stale.any KeyStart.required then .error .malformed
  else .ok { s with keyStarts := fresh }

private def dropKeyStart (s : Scan) : Except Trouble Scan :=
  if s.keyStarts.any fun k => k.depth == s.depth && k.required then .error .malformed
  else .ok { s with keyStarts := s.keyStarts.filter fun k => k.depth != s.depth }

private def noteKeyStart (s : Scan) : Except Trouble Scan := do
  if !s.keyAllowed then return s
  let required := s.depth == 0 && s.blocks.head? == some s.at_.column
  let s' ← s.dropKeyStart
  return { s' with
    keyStarts :=
      ⟨s.depth, s.tokens.size, s.at_.index, s.at_.line, s.at_.column, required⟩ :: s'.keyStarts }

private def closeBlocks (column : Option Nat) (s : Scan) : Scan :=
  if s.depth != 0 then s
  else
    let isOpen := fun (block : Nat) => column.any (block ≤ ·)
    let closed := (s.blocks.takeWhile (!isOpen ·)).length
    { s with
      blocks := s.blocks.drop closed
      tokens := s.tokens ++ (List.replicate closed Token.blockEnd).toArray }

private def openBlock (t : Token) (column position : Nat) (s : Scan) : Scan :=
  if s.blocks.all (· < column) then
    { s with
      blocks := column :: s.blocks
      tokens := s.tokens.insertIdxIfInBounds position t }
  else s

private def mark (t : Token) (s : Scan) : Scan :=
  { s.push t with at_ := s.at_.step }

private def flowStart (t : Token) (s : Scan) : Except Trouble Scan := do
  let s ← s.noteKeyStart
  return { s with depth := s.depth + 1, keyAllowed := true }.mark t

private def flowEnd (t : Token) (s : Scan) : Except Trouble Scan := do
  let s ← s.dropKeyStart
  return { s with depth := s.depth - 1, keyAllowed := false }.mark t

private def comma (s : Scan) : Except Trouble Scan := do
  let s ← s.dropKeyStart
  return { s with keyAllowed := true }.mark .comma

private def blockFor (t : Token) (s : Scan) : Except Trouble Scan :=
  if s.depth != 0 then .ok s
  else if !s.keyAllowed then .error .malformed
  else .ok (s.openBlock t s.at_.column s.tokens.size)

private def item (s : Scan) : Except Trouble Scan := do
  let s ← (← s.blockFor .blockList).dropKeyStart
  return { s with keyAllowed := true }.mark .item

private def explicitKey (s : Scan) : Except Trouble Scan := do
  let s ← (← s.blockFor .blockMap).dropKeyStart
  return { s with keyAllowed := s.depth == 0 }.mark .key

private def value (s : Scan) : Except Trouble Scan :=
  match s.keyStarts.find? fun k => k.depth == s.depth with
  | some k =>
    let s := { s with
      keyStarts := s.keyStarts.filter fun k => k.depth != s.depth
      tokens := s.tokens.insertIdxIfInBounds k.position .key }
    let s := if s.depth == 0 then s.openBlock .blockMap k.column k.position else s
    .ok ({ s with keyAllowed := false }.mark .value)
  | none => do
    let s ← (← s.blockFor .blockMap).dropKeyStart
    return { s with keyAllowed := s.depth == 0 }.mark .value

/-! ## Names, tags and directives -/

private def isNameChar (c : Char) : Bool :=
  ('0' ≤ c && c ≤ '9') || ('A' ≤ c && c ≤ 'Z') || ('a' ≤ c && c ≤ 'z') || c == '-' || c == '_'

private def name? (c : Cursor) : Option (String × Cursor) :=
  let name := c.rest.takeWhile isNameChar
  let after := c.advance name.length
  let ends := isWideGap after.next? || after.next?.any ("?:,]\x7d%@`".toList.contains ·)
  if name.isEmpty || !ends then none else some (String.ofList name, after)

private def isTagChar (c : Char) : Bool :=
  isNameChar c || ";/?:@&=+$,.!~*'()[]%".toList.contains c

private def tagChars : (fuel : Nat) → (held : List UInt8) → List Char → Option (List Char)
  | 0, _, _ => none
  | fuel + 1, held, t =>
    let flushed := fun (further : List Char) =>
      if held.isEmpty then some further
      else (String.fromUTF8? ⟨held.toArray⟩).map fun s => s.toList ++ further
    match t with
    | [] => flushed []
    | '%' :: a :: b :: rest => do tagChars fuel (held ++ [(← digits? 16 [a, b]).toUInt8]) rest
    | '%' :: _ => none
    | c :: rest => do flushed (c :: (← tagChars fuel [] rest))

private def tagText? (c : Cursor) : Option (String × Cursor) :=
  let text := c.rest.takeWhile isTagChar
  if text.isEmpty then none
  else
    (tagChars (text.length + 1) [] text).map fun t =>
      (String.ofList t, c.advance text.length)

private def handle? (c : Cursor) : Option (String × Cursor) :=
  match c.rest with
  | '!' :: rest =>
    if rest.head? == some ' ' then some ("!", c.step)
    else
      let name := rest.takeWhile isNameChar
      let after := c.advance (1 + name.length)
      if after.next? == some '!' then
        some (String.ofList ('!' :: name ++ ['!']), after.step)
      else none
  | _ => none

private def tag? (c : Cursor) : Option (Option String × String × Cursor) := do
  let (handle, suffix, after) ←
    if c.ahead? 1 == some '<' then do
      let (suffix, after) ← tagText? (c.advance 2)
      if after.next? == some '>' then some (none, suffix, after.step) else none
    else if isWideGap (c.ahead? 1) then some (none, "!", c.step)
    else do
      let word := (c.rest.drop 1).takeWhile fun d => !isGap (some d)
      let (handle, c) ← if word.contains '!' then handle? c else some ("!", c.step)
      let (suffix, after) ← tagText? c
      some (some handle, suffix, after)
  if isGap after.next? then some (handle, suffix, after) else none

private def number? (c : Cursor) : Option (Nat × Cursor) :=
  let digits := c.rest.takeWhile fun d => '0' ≤ d && d ≤ '9'
  if digits.isEmpty then none
  else (digits? 10 digits).map fun n => (n, c.advance digits.length)

private def directive? (c : Cursor) : Option (Directive × Cursor) := do
  let c := c.step
  let name := c.rest.takeWhile isNameChar
  let c := c.advance name.length
  if name.isEmpty || !isGap c.next? then none
  else
    let (d, c) ←
      if name == "YAML".toList then do
        let (major, c) ← number? c.skipSpaces
        if c.next? != some '.' then none
        else
          let (_, c) ← number? c.step
          if isGap c.next? then some (Directive.version major, c) else none
      else if name == "TAG".toList then do
        let (handle, c) ← handle? c.skipSpaces
        if c.next? != some ' ' then none
        else
          let (target, c) ← tagText? c.skipSpaces
          if isGap c.next? then some (Directive.tag handle target, c) else none
      else some (.other, c.skip (!isBreak ·))
    let c ← c.endLine?
    some (d, c)

private def orMalformed {α : Type} (found : Option α) : Except Trouble α :=
  match found with
  | some a => .ok a
  | none => .error .malformed

/-! ## Steps -/

private def leaveBlocks (s : Scan) : Except Trouble Scan := do
  let s ← (s.closeBlocks none).dropKeyStart
  return { s with keyAllowed := false }

private def documentMark (t : Token) (s : Scan) : Except Trouble Scan := do
  let s ← s.leaveBlocks
  return { s.push t with at_ := s.at_.advance 3 }

private def keyPart (s : Scan) (read : Scan → Except Trouble (Token × Cursor)) :
    Except Trouble Scan := do
  let s := { ← s.noteKeyStart with keyAllowed := false }
  let (t, after) ← read s
  return { s.push t with at_ := after }

private def quoted (double : Bool) (s : Scan) : Except Trouble Scan :=
  s.keyPart fun s => do
    let (text, after) ← quotedText double s.at_
    return (.scalar text false, after)

private def block (isFolded : Bool) (s : Scan) : Except Trouble Scan := do
  let s ← { s with keyAllowed := true }.dropKeyStart
  let (text, after) ← blockText isFolded s.inner s.at_
  return { s.push (.scalar text false) with at_ := after }

private def plain (s : Scan) : Except Trouble Scan := do
  let s ← s.noteKeyStart
  let found := plainText (s.depth != 0) s.inner s.at_
  return { s.push (.scalar found.text true) with
    at_ := found.after
    keyAllowed := found.crossed }

private def token (c : Char) (s : Scan) : Except Trouble Scan :=
  let inFlow := s.depth != 0
  let standsAlone := isWideGap (s.at_.ahead? 1)
  let atStart := s.at_.column == 0
  if c == '%' && atStart then do
    let s ← s.leaveBlocks
    let (d, after) ← orMalformed (directive? s.at_)
    return { s.push (.directive d) with at_ := after }
  else if c == '-' && atStart && s.at_.hasMark ['-', '-', '-'] then s.documentMark .documentStart
  else if c == '.' && atStart && s.at_.hasMark ['.', '.', '.'] then s.documentMark .documentEnd
  else if c == '[' then s.flowStart .flowList
  else if c == '\x7b' then s.flowStart .flowMap
  else if c == ']' then s.flowEnd .flowListEnd
  else if c == '\x7d' then s.flowEnd .flowMapEnd
  else if c == ',' then s.comma
  else if c == '-' && standsAlone then s.item
  else if c == '?' && (inFlow || standsAlone) then s.explicitKey
  else if c == ':' && (inFlow || standsAlone) then s.value
  else if c == '*' then
    s.keyPart fun s => do
      let (name, after) ← orMalformed (name? s.at_.step)
      return (.alias name, after)
  else if c == '&' then
    s.keyPart fun s => do
      let (name, after) ← orMalformed (name? s.at_.step)
      return (.anchor name, after)
  else if c == '!' then
    s.keyPart fun s => do
      let (handle, suffix, after) ← orMalformed (tag? s.at_)
      return (.tag handle suffix, after)
  else if c == '|' && !inFlow then s.block false
  else if c == '>' && !inFlow then s.block true
  else if c == '\'' then s.quoted false
  else if c == '"' then s.quoted true
  else if startsPlain inFlow s.at_ then s.plain
  else .error .malformed

private def all : (fuel : Nat) → Scan → Except Trouble (Array Token)
  | 0, _ => .error .malformed
  | fuel + 1, s => do
    let s ← (s.toToken (s.at_.rest.length + 1)).dropStale
    let s := s.closeBlocks (some s.at_.column)
    match s.at_.next? with
    | none => return (← (s.closeBlocks none).dropKeyStart).tokens
    | some c => all fuel (← s.token c)

end Scan

def tokens (t : List Char) : Except Trouble (List Token) := do
  let start : Cursor := ⟨t, 0, 0, 0⟩
  let start := if start.next?.any (·.toNat == 0xFEFF) then start.step else start
  return (← Scan.all (t.length + 1) { at_ := start }).toList

end MockGen.Yaml
