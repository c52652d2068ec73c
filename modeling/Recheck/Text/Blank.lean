import Recheck.Text

/-!
# Blank characters

The characters that trimming removes: the separators of the Unicode standard and the
control characters that its bidirectional rules treat as white space.
-/

namespace Recheck.Text

/-- The blank characters by code point. -/
def blankCodes : List Nat :=
  [0x09, 0x0A, 0x0B, 0x0C, 0x0D, 0x1C, 0x1D, 0x1E, 0x1F, 0x20, 0x85, 0xA0, 0x1680, 0x2000,
   0x2001, 0x2002, 0x2003, 0x2004, 0x2005, 0x2006, 0x2007, 0x2008, 0x2009, 0x200A, 0x2028,
   0x2029, 0x202F, 0x205F, 0x3000]

/-- Whether trimming removes the character. -/
def isBlank (c : Char) : Bool := blankCodes.contains c.toNat

/-- Whether the text holds no character that is not blank. -/
def allBlank (t : Text) : Bool := t.all isBlank

def trim (t : Text) : Text := trimBoth isBlank t

def trimEnd (t : Text) : Text := dropTrailing isBlank t

/-- Whether the character ends a line by itself: line and paragraph separators, the
vertical feeds and the information separators that act as such. -/
def isLineBreak (c : Char) : Bool :=
  [0x0A, 0x0B, 0x0C, 0x0D, 0x1C, 0x1D, 0x1E, 0x85, 0x2028, 0x2029].contains c.toNat

/-- The text up to its first line break of any kind, and the rest after it; a carriage
return and the line feed behind it are one break. -/
def cutLine : Text → Text × Option Text
  | [] => ([], none)
  | '\r' :: '\n' :: rest => ([], some rest)
  | c :: rest =>
    if isLineBreak c then ([], some rest)
    else ((c :: (cutLine rest).1), (cutLine rest).2)

/-- The first line of the text, where any kind of line break ends a line. -/
def firstLine (t : Text) : Text := (cutLine t).1

/-- The last line of a text that does not end in a line break. -/
def lastLine (t : Text) : Text := (t.reverse.takeWhile fun c => !isLineBreak c).reverse

end Recheck.Text
