import Recheck.Text.Blank
import Recheck.Text.Utf8

/-!
# The version

The version that a project file names, on the first line that starts with the word and sets it
to a quoted text; the installed version where no file does.
-/

namespace Recheck.Cli

/-- The quoted text behind an equals sign, if that is what the text starts with. -/
def quotedSetting? (t : Text) : Option Text :=
  match t.dropWhile Text.isBlank with
  | '=' :: t =>
    match t.dropWhile Text.isBlank with
    | quote :: t =>
      if quote = '"' ∨ quote = '\'' then
        match t.span fun c => c ≠ '"' && c ≠ '\'' with
        | ([], _) | (_, []) => none
        | (value, _ :: _) => some value
      else none
    | [] => none
  | _ => none

/-- The version that a project file sets; `atStart` says whether a line starts here. -/
def fileVersion? (atStart : Bool) : Text → Option Text
  | [] => none
  | c :: rest =>
    let here :=
      if atStart then (Text.dropHead? "version" (c :: rest)).bind quotedSetting? else none
    here.or (fileVersion? (c = '\n') rest)

/-- The version: that of the project file, else the installed one, else zero. -/
def version (projectFile installed : Option Text) : Text :=
  let stated := projectFile.bind fun t => fileVersion? true (Text.unifyNewlines t)
  (stated.or installed).getD "0.0.0"

end Recheck.Cli
