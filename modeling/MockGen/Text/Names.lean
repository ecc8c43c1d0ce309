import MockGen.Text.Basic
import MockGen.Text.Names.Packed

/-!
# The names of characters

Most are listed in runs; the names of Korean syllables are spelled from their letters, and those of
some other characters end in their code points.
-/

namespace MockGen.Text

/-- Names that begin alike.  The code points from `first` on have the names `stem ++ tail` for the
successive tails, where an empty tail passes over a code point. -/
structure NameRun where
  first : Nat
  stem : List Char
  tails : List (List Char)

private def upperHex? (c : Char) : Option Nat :=
  if '0' ≤ c && c ≤ '9' then some (c.toNat - 48)
  else if 'A' ≤ c && c ≤ 'F' then some (c.toNat - 55)
  else none

private def upperHexNumber? (digits : List Char) : Option Nat :=
  digits.foldlM (fun n c => (upperHex? c).map (n * 16 + ·)) 0

/-- The text behind a text in a numbering: the number at its end, read from its last digit on, is
one higher. -/
def nextNumber : List Char → List Char
  | [] => ['1']
  | '9' :: rest => '0' :: nextNumber rest
  | c :: rest => if c.isDigit then Char.ofNat (c.toNat + 1) :: rest else '1' :: c :: rest

namespace NameRun

/-- Puts a written tail in front of the tails that are read already.  An equals sign and a number
stand for as many tails that go on with the numbering. -/
def pushTail (tails : List (List Char)) : List Char → List (List Char)
  | '=' :: count =>
    Nat.repeat (fun tails => (nextNumber (tails.headD []).reverse).reverse :: tails)
      ((upperHexNumber? count).getD 0) tails
  | tail => tail :: tails

/-- Reads a run: the number of code points between it and the end of the run before, a blank, the
stem, a colon, and tails with commas between them. -/
def ofText (last : Nat) (t : List Char) : NameRun :=
  let (gap, rest) := t.span (· != ' ')
  let (stem, tails) := (rest.drop 1).span (· != ':')
  let first :=
    match gap with
    | '-' :: digits => last - (upperHexNumber? digits).getD 0
    | digits => last + (upperHexNumber? digits).getD 0
  ⟨first, stem, ((splitAt ',' (tails.drop 1)).foldl pushTail []).reverse⟩

def code? (run : NameRun) (name : List Char) : Option Nat :=
  if run.stem.isPrefixOf name then
    let tail := name.drop run.stem.length
    if tail.isEmpty then none else (run.tails.idxOf? tail).map (run.first + ·)
  else none

def last (run : NameRun) : Nat :=
  run.first + run.tails.length

end NameRun

def nameRuns : List NameRun :=
  let push (runs : List NameRun) (t : List Char) : List NameRun :=
    .ofText ((runs.head?.map NameRun.last).getD 0) t :: runs
  (splitAt ';' packedNames.unpack).foldl push []

/-- Stems of names that end in the code point, with the code points that have such a name. -/
def numberedNames : List (String × List (Nat × Nat)) := [
  ("CJK COMPATIBILITY IDEOGRAPH-", [(0xF900, 0xFA6D), (0xFA70, 0xFAD9), (0x2F800, 0x2FA1D)]),
  ("KHITAN SMALL SCRIPT CHARACTER-", [(0x18B00, 0x18CD5)]),
  ("NUSHU CHARACTER-", [(0x1B170, 0x1B2FB)])]

private def numbered? (name : List Char) : Option Nat :=
  numberedNames.findSome? fun (stem, ranges) =>
    let digits := name.drop stem.length
    if stem.toList.isPrefixOf name && digits.head? != some '0' then
      (upperHexNumber? digits).filter (inRanges ranges)
    else none

def ideographRanges : List (Nat × Nat) := [
  (0x3400, 0x4DBF), (0x4E00, 0x9FFF), (0x20000, 0x2A6DF), (0x2A700, 0x2B738), (0x2B740, 0x2B81D),
  (0x2B820, 0x2CEA1), (0x2CEB0, 0x2EBE0), (0x30000, 0x3134A)]

private def ideograph? (digits : List Char) : Option Nat :=
  if digits.length == 4 || digits.length == 5 then
    (upperHexNumber? digits).filter (inRanges ideographRanges)
  else none

def leadingLetters : List String := [
  "G", "GG", "N", "D", "DD", "R", "M", "B", "BB", "S", "SS", "", "J", "JJ", "C", "K", "T", "P", "H"]

def syllableVowels : List String := [
  "A", "AE", "YA", "YAE", "EO", "E", "YEO", "YE", "O", "WA", "WAE", "OE", "YO", "U", "WEO", "WE",
  "WI", "YU", "EU", "YI", "I"]

def trailingLetters : List String := [
  "", "G", "GG", "GS", "N", "NJ", "NH", "D", "L", "LG", "LM", "LB", "LS", "LT", "LP", "LH", "M",
  "B", "BS", "S", "SS", "NG", "J", "C", "K", "T", "P", "H"]

private def longest? (letters : List String) (t : List Char) : Option (Nat × List Char) :=
  let fitting := letters.zipIdx.filter fun (letter, _) => letter.toList.isPrefixOf t
  let longer (best : Option (String × Nat)) (entry : String × Nat) : Option (String × Nat) :=
    if best.any fun b => entry.1.length ≤ b.1.length then best else some entry
  (fitting.foldl longer none).map fun (letter, place) => (place, t.drop letter.length)

private def syllable? (t : List Char) : Option Nat := do
  let (lead, t) ← longest? leadingLetters t
  let (vowel, t) ← longest? syllableVowels t
  let (trail, t) ← longest? trailingLetters t
  if t.isEmpty then
    some (0xAC00 + (lead * syllableVowels.length + vowel) * trailingLetters.length + trail)
  else none

/-- The character with a name.  A name may be written in small or capital letters, but for those of
Korean syllables and of ideographs. -/
def charNamed? (name : List Char) : Option Char :=
  let syllable := "HANGUL SYLLABLE ".toList
  let ideograph := "CJK UNIFIED IDEOGRAPH-".toList
  let code :=
    if syllable.isPrefixOf name then syllable? (name.drop syllable.length)
    else if ideograph.isPrefixOf name then ideograph? (name.drop ideograph.length)
    else
      let name := name.map Char.toUpper
      (numbered? name).orElse fun _ => nameRuns.findSome? (·.code? name)
  code.map Char.ofNat

end MockGen.Text
