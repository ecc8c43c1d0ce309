import MockGen.Text.Basic

/-!
# Removing comments

Removing comments from a header, in three passes: line comments that would open a block comment,
block comments, and all other line comments.
-/

namespace MockGen.Header

def lineOf (t : List Char) : List Char :=
  t.takeWhile (· != '\n')

/-- Whether a line comment with this text after its two slashes starts a block comment: it holds
an opening mark beyond its first character, or its third character is a star that does not close
at once. -/
def opensBlock (comment : List Char) : Bool :=
  Text.hasPart ['/', '*'] (comment.drop 1) ||
    match comment with
    | '*' :: rest => rest.head? != some '/'
    | _ => false

/-- Removes line comments that start a block comment, unless a star stands right before them.
`inside` says that the rest of the line belongs to such a comment, `star` that the last character
was a star. -/
def dropOpeners (inside star : Bool) : List Char → List Char
  | [] => []
  | c :: rest =>
    if inside && c != '\n' then dropOpeners true false rest
    else if c == '/' && !star && rest.head? == some '/' && opensBlock (lineOf (rest.drop 1)) then
      dropOpeners true false rest
    else c :: dropOpeners false (c == '*') rest

/-- Removes block comments that are closed.  `skip` counts characters that belong to the opening
mark or to the closing mark of the comment being removed. -/
def dropBlocks (inside : Bool) (skip : Nat) : List Char → List Char
  | [] => []
  | c :: rest =>
    match skip with
    | skip + 1 => dropBlocks inside skip rest
    | 0 =>
      if inside then
        if c == '*' && rest.head? == some '/' then dropBlocks false 1 rest
        else dropBlocks true 0 rest
      else if c == '/' && rest.head? == some '*' && Text.hasPart ['*', '/'] (rest.drop 1) then
        dropBlocks true 1 rest
      else c :: dropBlocks false 0 rest

def dropLineComments (inside : Bool) : List Char → List Char
  | [] => []
  | c :: rest =>
    if inside && c != '\n' then dropLineComments true rest
    else if c == '/' && rest.head? == some '/' then dropLineComments true rest
    else c :: dropLineComments false rest

def removeComments (t : List Char) : List Char :=
  dropLineComments false (dropBlocks false 0 (dropOpeners false false t))

end MockGen.Header
