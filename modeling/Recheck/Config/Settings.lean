import Recheck.Report.Format

/-!
# Settings

The defaults of the command line that a project file may set. Every setting has a rule, all
problems are reported together, and names that are no setting are problems too.
-/

namespace Recheck

structure Settings where
  output : Format := .human
  quiet : Bool := false
  metrics : Bool := false
  noCache : Bool := false
  /-- How long files must be left alone before a watch cycle starts, in milliseconds. -/
  debounceMillis : Int := 50
  /-- The time between two looks at the files, in seconds. -/
  pollInterval : Float := 0.25
  /-- The ends of the names of source files. -/
  extensions : List Text := [".py", ".pyi"]

namespace Settings

def names : List Text :=
  ["output", "quiet", "metrics", "no_cache", "debounce_ms", "poll_interval", "extensions"]

def readFormat : Datum → Checked Format :=
  Datum.asWord Format.byName "Input should be 'json', 'human' or 'markdown'"

/-- The problems of items that are no texts, and the texts. -/
def readTexts (index : Nat) : List Datum → List Problem × List Text
  | [] => ([], [])
  | item :: items =>
    let (problems, texts) := readTexts (index + 1) items
    match item.asText.inside (Text.ofNat index) with
    | .valid t => (problems, t :: texts)
    | .problems p => (p ++ problems, texts)

/-- A list of texts with at least one text in it. -/
def readExtensions : Datum → Checked (List Text)
  | .list items =>
    match readTexts 0 items with
    | ([], t :: texts) => .valid (t :: texts)
    | (problems, []) =>
      .problems (problems ++ [⟨[], "Tuple should have at least 1 item after validation, not 0"⟩])
    | (problems, _) => .problems problems
  | _ => .wrong "Input should be a valid tuple"

/-- The names that are no setting, as problems. -/
def extras (fields : List (Text × Datum)) : Checked Unit :=
  match fields.filter fun field => !names.contains field.1 with
  | [] => .valid ()
  | unknown => .problems (unknown.map fun field => ⟨[field.1], "Extra inputs are not permitted"⟩)

def read (d : Datum) : Checked Settings :=
  match d.asTable "ToolSettings" with
  | .problems p => .problems p
  | .valid fields =>
    let absent : Settings := {}
    (fun output quiet metrics noCache debounceMillis pollInterval extensions (_ : Unit) =>
      { output, quiet, metrics, noCache, debounceMillis, pollInterval, extensions })
      <$> optionalField "output" readFormat absent.output fields
      <*> optionalField "quiet" Datum.asBool absent.quiet fields
      <*> optionalField "metrics" Datum.asBool absent.metrics fields
      <*> optionalField "no_cache" Datum.asBool absent.noCache fields
      <*> optionalField "debounce_ms" (Datum.asIntFrom 0) absent.debounceMillis fields
      <*> optionalField "poll_interval" Datum.asPositive absent.pollInterval fields
      <*> optionalField "extensions" readExtensions absent.extensions fields
      <*> extras fields

end Settings

end Recheck
