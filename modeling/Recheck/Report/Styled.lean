import Recheck.Text.Blank

/-!
# Styled text

A text with spans that carry a style. Pieces are put one after the other, without the control
characters that would move the cursor or ring the bell; a span covers what is left of its piece.
-/

namespace Recheck

inductive Style
  | green
  | boldRed
  | underline
  | red
  | yellow
  | dim
  deriving DecidableEq, Repr

/-- A style from one offset up to another. -/
structure Span where
  start : Nat
  stop : Nat
  style : Style
  deriving DecidableEq, Repr

/-- A text with its spans, in the order of their pieces. -/
structure Styled where
  plain : Text := []
  spans : List Span := []
  deriving DecidableEq, Repr

/-- A piece of text, with a style or without. -/
structure Piece where
  text : Text
  style : Option Style := none
  deriving DecidableEq, Repr

namespace Styled

/-- Whether the character is dropped from every piece. -/
def isControl (c : Char) : Bool := [0x07, 0x08, 0x0B, 0x0C, 0x0D].contains c.toNat

def sanitize (t : Text) : Text := t.filter (!isControl ·)

/-- The span of a piece that starts at an offset; an empty piece has none. -/
def spanOf? (offset : Nat) (piece : Piece) : Option Span :=
  if piece.text.isEmpty then none
  else piece.style.map fun style => ⟨offset, offset + (sanitize piece.text).length, style⟩

/-- The spans of pieces, the first of which starts at an offset. -/
def spansFrom (offset : Nat) : List Piece → List Span
  | [] => []
  | piece :: rest =>
    (spanOf? offset piece).toList ++ spansFrom (offset + (sanitize piece.text).length) rest

def ofPieces (pieces : List Piece) : Styled where
  plain := pieces.flatMap fun piece => sanitize piece.text
  spans := spansFrom 0 pieces

/-- The text without blank characters at its end. Spans that start behind the new end are gone,
and spans that reach behind it stop there. -/
def trimEnd (t : Styled) : Styled :=
  let plain := Text.trimEnd t.plain
  if plain.length = t.plain.length then t
  else
    { plain
      spans := (t.spans.filter (·.start < plain.length)).map fun span =>
        { span with stop := min plain.length span.stop } }

end Styled

end Recheck
