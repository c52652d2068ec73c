import Recheck.Text.Utf8

/-!
# Commands of version control

A command is run to its end in text mode: what it writes is read as the text of a file is. So every
kind of line end counts as one line feed, also where it is part of a name, and what is not UTF-8 is
no answer.
-/

namespace Recheck

/-- What running a command comes to. -/
inductive CommandResult
  /-- It ended with a status; what it wrote, and what it wrote about errors. -/
  | ended (status : Int) (written complaints : ByteArray)
  /-- There is no such command, or no such directory to run it in. -/
  | notFound
  /-- It cannot be run for another reason. -/
  | notRun (reason : Text)

/-- What is learnt from a command. -/
inductive VersionControlReply
  /-- What the command prints. -/
  | output (text : Text)
  /-- The command ended with an error, and this is what it says about it. -/
  | failed (complaints : Text)
  | missing
  | notRun (reason : Text)
  /-- The command wrote what cannot be read as text. -/
  | garbled

/-- The reply of a command that was run in text mode. Both of what it wrote is read before its
status is looked at. -/
def CommandResult.reply : CommandResult → VersionControlReply
  | ended status written complaints =>
    match Text.ofBytes? written, Text.ofBytes? complaints with
    | some text, some complaints => if status = 0 then .output text else .failed complaints
    | _, _ => .garbled
  | notFound => .missing
  | notRun reason => .notRun reason

end Recheck
