import Recheck.Json.Fields
import Recheck.Json.Reader
import Recheck.Rehearsal.Stage
import Recheck.Rehearsal.Watch
import Recheck.Rehearsal.World

/-!
# Scenarios

A scenario is a JSON document that sets a rehearsal up: the files, the scripts of the
collaborators, and the steps.
-/

namespace Recheck.Rehearsal.Scenario

/-- The bytes that pairs of hexadecimal digits spell. -/
def hexBytes : Text → List UInt8
  | a :: b :: rest =>
    (16 * (Json.hexValue? a).getD 0 + (Json.hexValue? b).getD 0).toUInt8 :: hexBytes rest
  | _ => []

/-- What a description puts at a path: a text, bytes, a link, or a directory. -/
def content (j : Json) : Content :=
  match j.text?, j.textAt? "hex", j.textAt? "link" with
  | some t, _, _ => .text t
  | _, some digits, _ => .bytes ⟨(hexBytes digits).toArray⟩
  | _, _, some target => .link target
  | _, _, _ => .directory

/-- The files of a scenario, below a root. -/
def stage (root : Text) (scenario : Json) : Stage :=
  Stage.build root ((scenario.entry "files").fields.map fun (path, j) => (path, content j))

def verb (step : Json) : Text := step.textAt "do"

def edit? (step : Json) : Option Edit :=
  let path := step.textAt "path"
  if verb step = "write" then
    some (.write path (content (step.entry "content")) (step.entry "mtime").whole?)
  else if verb step = "touch" then some (.touch path (step.wholeAt "mtime"))
  else if verb step = "delete" then some (.delete path)
  else if verb step = "rmtree" then some (.deleteTree path)
  else none

/-- What the compiler of a scenario says about its options. -/
def parsedOptions (scenario : Json) : ParsedOptions :=
  let script := scenario.entry "mypy"
  let absent : CompilerOptions := {}
  { options := { absent with
      cacheDir := (script.textAt? "cache_dir").getD absent.cacheDir
      files := (script.entry "files").texts? }
    complaints := script.textAt "stderr"
    exitStatus := (script.textAt? "exit").or ((script.entry "exit").whole?.map Text.ofInt) }

/-- The failing search of a compiler's script. -/
def failingSearch? (failing : Json) : Option (Nat × Text) :=
  (failing.entry "call").whole?.map fun call => (call.toNat, failing.textAt "message")

def compiler (scenario : Json) : CompilerScript :=
  let script := scenario.entry "mypy"
  { failingSearch := failingSearch? (script.entry "collect_error")
    hasPathless := script.flagAt "pathless" false
    messages := script.textsAt "messages"
    extraFiles := script.textsAt "extra_files" }

/-- The script of version control; without one, there is no repository. -/
def versionControl (scenario : Json) : VersionControlScript :=
  let absent : VersionControlScript := {}
  let executable := (scenario.textAt? "git_name").getD absent.executable
  match scenario.entry "git" with
  | .object fields =>
    let script := Json.object fields
    { executable
      missing := script.flagAt "missing" false
      failing := script.textAt? "fail"
      complaints := (script.field? "stderr").elim absent.complaints fun j => j.text?.getD []
      topLevel := script.textAt "toplevel"
      status := script.textAt "status" }
  | _ => { executable, failing := some "rev-parse".toList }

/-- What the collaborators of a scenario start from. -/
def world (scenario : Json) : World :=
  { readings := (scenario.entry "perf").items?.elim [.whole 0] fun items =>
      items.map fun j => j.number?.getD (.whole 0) }

def tools (scenario : Json) : Tools World :=
  Rehearsal.tools (compiler scenario) (versionControl scenario)

def clock (scenario : Json) : Number :=
  ((scenario.entry "clock").number?).getD (.real 1700000000.5)

def watchStep (step : Json) : WatchStep :=
  if let some e := edit? step then .edit e
  else if verb step = "start" then
    .start (((step.itemsAt "initial").head?.bind Json.bool?).getD true)
  else if verb step = "stop" then .stop
  else if verb step = "poll" then .poll
  else if verb step = "fire" then .fire
  else if verb step = "notify" then .notify (step.textAt "path")
  else .clock (step.numberAt "value")

def watchSteps (scenario : Json) : List WatchStep := (scenario.itemsAt "steps").map watchStep

end Recheck.Rehearsal.Scenario
