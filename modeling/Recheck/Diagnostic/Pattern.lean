import Recheck.Diagnostic.Line
import Recheck.Text.Pattern

/-!
# The pattern of message lines

The parts of a message line, as the groups of a pattern.
-/

namespace Recheck.MessageLine

open Text (Pattern Match)

inductive Slot
  | file
  | line
  | column
  | severity
  | message
  | code
  deriving DecidableEq, Repr

def isInLine (c : Char) : Bool := c != '\n'

/-- A number in decimal digits; a minus sign belongs to it where `signed` allows one. -/
def numberPattern (signed : Bool) : Pattern Slot :=
  if signed then .seq (.maybe (.word ['-'])) (.oneOrMore Text.isDecimal)
  else .oneOrMore Text.isDecimal

/-- A colon with a number behind it, if they stand there. -/
def placePattern (part : Slot) (signed : Bool) : Pattern Slot :=
  .maybe (.seq (.word [':']) (.group part (numberPattern signed)))

def severityPattern : Pattern Slot :=
  .group .severity (.or (.word (severityWord .error))
    (.or (.word (severityWord .warning)) (.word (severityWord .message))))

def codePattern : Pattern Slot :=
  .maybe (.seq (.word [' ', ' ', '[']) (.seq (.group .code (.oneOrMore isCodeChar)) (.word [']'])))

def endPattern : Pattern Slot := .seq codePattern .ending

def messagePattern : Pattern Slot := .seq (.group .message (.few isInLine)) endPattern

/-- What stands behind the place: a severity, a message, and a code if there is one. -/
def noticePattern : Pattern Slot :=
  .seq (.word [':', ' ']) (.seq severityPattern (.seq (.word [':', ' ']) messagePattern))

def columnPattern : Pattern Slot := .seq (placePattern .column false) noticePattern

def linePattern : Pattern Slot := .seq (placePattern .line true) columnPattern

def filePattern : Pattern Slot := .group .file (.seq (.one isInLine) (.few isInLine))

def pattern : Pattern Slot := .seq filePattern linePattern

def category? (word : Text) : Option Category :=
  [Category.error, .warning, .message].find? (severityWord · = word)

/-- The parts that a match of the pattern found. -/
def ofMatch? (m : Match Slot) : Option MessageLine := do
  return {
    file := ← m.group? .file
    line := m.group? .line
    column := m.group? .column
    category := ← (m.group? .severity).bind category?
    message := ← m.group? .message
    code := m.group? .code }

end Recheck.MessageLine
