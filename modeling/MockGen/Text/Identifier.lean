import MockGen.Text.Class

/-!
# Identifiers of any script

A letter or an underscore, and then letters, marks, digits and connecting punctuation.
-/

namespace MockGen.Text

def numberRanges : List (Nat × Nat) :=
  rangesFrom 127 (numbers "
    W%*$'&oa$fh_)j^)f^&g**h>*6,g`$g$$f[-uZ7vX-lE$fi:$()+-h+3N$p;`f39n[AzN$iV$rG'g/-C+&2E-L2zlU)tkM)k
    ;%fY$&$&$&$&$&$&$&$iD%jLPf&'6%j:>I'yY+>*L,f0(;)gE%'3'Qf%,Y%C&f0(fM+=+N*j/)jEBgC-O'fU*g+7ja7z*%kS
    ,rL6r88ru+*qC:wj.7fQ<hx3,sF_&&&'f1P&2t'0")

def identifierSymbols : List Nat := [6277, 6278, 8472, 8494]

def isIdentifierStart (c : Char) : Bool :=
  if c.toNat < 128 then c.isAlpha || c == '_'
  else identifierSymbols.contains c.toNat || inRanges wordRanges c.toNat &&
    !inRanges digitRanges c.toNat && !inRanges numberRanges c.toNat

def isIdentifierPart (c : Char) : Bool :=
  if c.toNat < 128 then c.isAlphanum || c == '_'
  else isIdentifierStart c || inRanges digitRanges c.toNat || inRanges markRanges c.toNat

def isIdentifier : List Char → Bool
  | [] => false
  | c :: rest => isIdentifierStart c && rest.all isIdentifierPart

end MockGen.Text
