import Recheck.Report.Format
import Recheck.Validation

/-!
# Values of options

How the words of a command line spell paths, numbers and formats. Numbers follow the rules for
data.
-/

namespace Recheck.Cli

/-- A path, which holds no NUL character. -/
def pathValue? (word : Text) : Option Text := if word.contains '\x00' then none else some word

/-- A whole number that is not negative. -/
def countValue? (word : Text) : Option Number :=
  ((Datum.text word).asIntFrom 0).value?.map .whole

/-- The shortest time between two looks at the files, in seconds. -/
def leastPollInterval : Float := 0.01

/-- A time between two looks at the files. -/
def pollValue? (word : Text) : Option Number :=
  ((Datum.text word).asReal.value?.filter (leastPollInterval ≤ ·)).map .real

/-- A letter without its case, as far as the name of a format tells: the long s and the Kelvin
sign are the only characters besides the capitals whose small form is a letter from a to z. -/
def foldCase (c : Char) : Char :=
  if c.toNat = 0x17F then 's' else if c.toNat = 0x212A then 'k' else c.toLower

def formatValue? (word : Text) : Option Format := Format.byName.lookup (word.map foldCase)

end Recheck.Cli
