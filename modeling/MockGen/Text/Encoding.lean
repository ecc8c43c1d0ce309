/-!
# Bytes and characters

Keeping what one byte per character can hold, reading bytes as UTF-8 with everything malformed left
out, and line ends.
-/

namespace MockGen.Text

def byte? (c : Char) : Option UInt8 :=
  if c.toNat < 256 then some c.toNat.toUInt8 else none

private def isTail (b : UInt8) : Bool :=
  0x80 ≤ b && b ≤ 0xBF

private def tailBits (b : UInt8) : Nat :=
  b.toNat % 64

/-- The character that starts with the byte `b`, and how many of the following bytes belong to
it.  Overlong forms and surrogates are no characters. -/
def leadingChar? (b : UInt8) (rest : List UInt8) : Option (Char × Nat) :=
  if b < 0x80 then some (Char.ofNat b.toNat, 0)
  else if 0xC2 ≤ b && b ≤ 0xDF then
    match rest with
    | b₁ :: _ =>
      if isTail b₁ then some (Char.ofNat ((b.toNat - 0xC0) * 64 + tailBits b₁), 1) else none
    | [] => none
  else if 0xE0 ≤ b && b ≤ 0xEF then
    match rest with
    | b₁ :: b₂ :: _ =>
      let code := (b.toNat - 0xE0) * 4096 + tailBits b₁ * 64 + tailBits b₂
      if isTail b₁ && isTail b₂ && 0x800 ≤ code && !(0xD800 ≤ code && code ≤ 0xDFFF) then
        some (Char.ofNat code, 2)
      else none
    | _ => none
  else if 0xF0 ≤ b && b ≤ 0xF4 then
    match rest with
    | b₁ :: b₂ :: b₃ :: _ =>
      let code := (b.toNat - 0xF0) * 262144 + tailBits b₁ * 4096 + tailBits b₂ * 64 + tailBits b₃
      if isTail b₁ && isTail b₂ && isTail b₃ && 0x10000 ≤ code && code ≤ 0x10FFFF then
        some (Char.ofNat code, 3)
      else none
    | _ => none
  else none

def decodeFrom (skip : Nat) : List UInt8 → List Char
  | [] => []
  | b :: rest =>
    match skip with
    | skip + 1 => decodeFrom skip rest
    | 0 =>
      match leadingChar? b rest with
      | some (c, more) => c :: decodeFrom more rest
      | none => decodeFrom 0 rest

def decodeUtf8 (bytes : List UInt8) : List Char :=
  decodeFrom 0 bytes

/-- Characters beyond one byte are left out, and the bytes of the others are read as UTF-8. -/
def clean (t : List Char) : List Char :=
  decodeUtf8 (t.filterMap byte?)

/-- Line ends become line feeds; `returned` says that a carriage return was just read, so that a
line feed belongs to it. -/
def unifyFrom (returned : Bool) : List Char → List Char
  | [] => []
  | c :: rest =>
    if c == '\r' then '\n' :: unifyFrom true rest
    else if returned && c == '\n' then unifyFrom false rest
    else c :: unifyFrom false rest

def unifyLineEnds (t : List Char) : List Char :=
  unifyFrom false t

end MockGen.Text
