import Recheck.Text.Blank
import Recheck.Text.Lower

/-!
# INI documents

A reader of section files. A line is a section header, an option with `=` or `:`, a comment, or
the continuation of the option above it, which is indented deeper. No section and no option of
a section may come twice, apart from the section of defaults.
-/

namespace Recheck.Ini

structure Document where
  sections : List Text := []
  /-- The section that options go into. -/
  current : Option Text := none
  /-- The section and name of every option. -/
  options : List (Text × Text) := []
  /-- Whether an option may be continued. -/
  inOption : Bool := false
  /-- The indentation of the last line that was no continuation. -/
  indent : Nat := 0
  deriving DecidableEq, Repr

/-- The section whose options are defaults for the others; it is not a section itself. -/
def defaultSection : Text := "DEFAULT"

/-- The name between the first bracket of a line and its last one, if the line starts with one
and there is something between them. -/
def sectionName? : Text → Option Text
  | '[' :: t =>
    match t.reverse.dropWhile (· ≠ ']') with
    | _ :: [] | [] => none
    | _ :: name => some name.reverse
  | _ => none

/-- The name before the first delimiter of a line. -/
def optionName? (line : Text) : Option Text :=
  match line.span fun c => c ≠ '=' && c ≠ ':' with
  | (_, []) => none
  | (name, _ :: _) => some (Text.lower (Text.trimEnd name))

namespace Document

/-- The document with a section started. -/
def openSection (doc : Document) (name : Text) : Option Document :=
  if doc.sections.contains name then none
  else some { doc with
    sections := if name = defaultSection then doc.sections else doc.sections ++ [name]
    current := some name
    inOption := false }

/-- The document with an option added to a section. -/
def addOption (doc : Document) (in_ name : Text) : Option Document :=
  if name.isEmpty || doc.options.contains (in_, name) then none
  else some { doc with options := (in_, name) :: doc.options, inOption := true }

/-- The document with one more line, unless the line breaks the rules. -/
def addLine (doc : Document) (line : Text) : Option Document :=
  let content := Text.trim line
  let indent := (line.takeWhile Text.isBlank).length
  if content.isEmpty || content.head? = some '#' || content.head? = some ';' then some doc
  else if doc.inOption && doc.indent < indent then some doc
  else
    let doc := { doc with indent }
    match sectionName? content, doc.current with
    | some name, _ => doc.openSection name
    | none, none => none
    | none, some section_ => (optionName? content).bind (doc.addOption section_)

end Document

/-- The sections of a document, unless it breaks the rules. -/
def sections? (t : Text) : Option (List Text) :=
  ((Text.lines t).foldlM Document.addLine {}).map (·.sections)

end Recheck.Ini
