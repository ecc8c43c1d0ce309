import MockGen.Text.CaseRuns
import MockGen.Text.Class

/-!
# Upper and lower case

Upper, lower and word-initial forms of texts.  A character may have a form of several characters.
-/

namespace MockGen.Text

def shifted? (runs : List CaseRun) (n : Nat) : Option Nat :=
  (runs.find? fun run => run.first ≤ n && n ≤ run.last && (n - run.first) % run.step == 0).map
    fun run => ((n : Int) + run.shift).toNat

def form (forms : List (Nat × List Nat)) (runs : List CaseRun) (n : Nat) :
    Option (List Char) :=
  match forms.lookup n with
  | some codes => some (codes.map Char.ofNat)
  | none => (shifted? runs n).map fun code => [Char.ofNat code]

def upperForm (c : Char) : List Char :=
  if c.toNat < 128 then [c.toUpper]
  else (form upperForms upperRuns c.toNat).getD [c]

def lowerForm (c : Char) : List Char :=
  if c.toNat < 128 then [c.toLower]
  else (form lowerForms lowerRuns c.toNat).getD [c]

def titleForm (c : Char) : List Char :=
  if c.toNat < 128 then [c.toUpper]
  else (form titleForms titleRuns c.toNat).getD (upperForm c)

def upper (t : List Char) : List Char :=
  t.flatMap upperForm

def isCased (c : Char) : Bool :=
  if c.toNat < 128 then c.isAlpha
  else inRanges casedRanges c.toNat

/-- Marks inside a word that do not end it for the choice of a final sigma: quotes, stops, colons,
accents and modifiers. -/
def isCaseMark (c : Char) : Bool :=
  if c.toNat < 128 then [0x27, 0x2E, 0x3A, 0x5E, 0x60].contains c.toNat
  else inRanges caseMarkRanges c.toNat

private def startsCased (t : List Char) : Bool :=
  match t.dropWhile isCaseMark with
  | c :: _ => isCased c
  | [] => false

/-- Lower case, where a capital sigma that ends a word becomes the final sigma.  `before` is what
was read so far, nearest first. -/
def lowerAfter (before : List Char) : List Char → List Char
  | [] => []
  | c :: rest =>
    let here :=
      if c == 'Σ' && startsCased before && !startsCased rest then ['ς']
      else lowerForm c
    here ++ lowerAfter (c :: before) rest

def lower (t : List Char) : List Char :=
  lowerAfter [] t

def capitalize : List Char → List Char
  | [] => []
  | c :: rest => titleForm c ++ lowerAfter [c] rest

/-- The lower case letter by which `c` is compared: the first character of its lower case form. -/
def lowerLetter (c : Char) : Char :=
  (lowerForm c).headD c

def upperLetter (c : Char) : Char :=
  (upperForm c).headD c

def letterFamily (c : Char) : List Char :=
  match letterFamilies.find? (·.contains c.toNat) with
  | some family => family.map Char.ofNat
  | none => [c]

def lettersOf (c : Char) : List Char :=
  let code := c.toNat
  let shifted := lowerRuns.filterMap fun run =>
    let n := (code : Int) - run.shift
    if (run.first : Int) ≤ n && n ≤ run.last && (n - run.first) % run.step == 0 then
      some (Char.ofNat n.toNat)
    else none
  let longer := lowerForms.filterMap fun (n, form) =>
    if form.head? == some code then some (Char.ofNat n) else none
  [c, if code < 128 then c.toUpper else c] ++ shifted ++ longer

/-- The characters that are the same letter as the lower case letter `c`, letter case aside. -/
def letterVariants (c : Char) : List Char :=
  (letterFamily c).flatMap lettersOf

def isSameLetter (c d : Char) : Bool :=
  let c := lowerLetter c
  let d := lowerLetter d
  c == d || (letterFamily c).contains d

end MockGen.Text
