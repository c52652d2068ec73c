import Recheck.Config

/-!
# Options of a run

What the command line says wins over the settings of the project.
-/

namespace Recheck.Cli

structure Flags where
  output : Option Format := none
  quiet : Bool := false
  metrics : Bool := false
  noCache : Bool := false
  debounceMillis : Option Number := none
  pollInterval : Option Number := none

structure RunOptions where
  output : Format
  quiet : Bool
  metrics : Bool
  noCache : Bool
  debounceMillis : Number
  pollInterval : Number

/-- The flags, and the settings where no flag says otherwise. -/
def Flags.over (flags : Flags) (settings : Settings) : RunOptions :=
  { output := flags.output.getD settings.output
    quiet := flags.quiet || settings.quiet
    metrics := flags.metrics || settings.metrics
    noCache := flags.noCache || settings.noCache
    debounceMillis := flags.debounceMillis.getD (.whole settings.debounceMillis)
    pollInterval := flags.pollInterval.getD (.real settings.pollInterval) }

end Recheck.Cli
