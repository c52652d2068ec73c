import Recheck.Text

/-!
# Arguments

The words of a command line. An option is a word that starts with a hyphen: by its long name,
with its value behind an equals sign or as the next word, or by short names in one word, the
last of which may be followed by its value. All other words are operands, and so are those
behind a word of two hyphens.
-/

namespace Recheck.Cli

/-- An option: what it stands for, its names, and whether it takes a value. -/
structure OptionSpec (κ : Type) where
  key : κ
  long : Text
  short : Option Char := none
  takesValue : Bool := false

/-- The options and operands of a command line, in order. -/
structure Arguments (κ : Type) where
  options : List (κ × Option Text) := []
  operands : List Text := []

/-- What a word of options says: the options that are complete, and the one whose value is the
next word. -/
structure OptionWord (κ : Type) where
  options : List (κ × Option Text) := []
  awaiting : Option κ := none

namespace Arguments

variable {κ : Type}

def isOptionWord : Text → Bool
  | '-' :: _ :: _ => true
  | _ => false

/-- A word that is the long name of an option, where a value may be attached to it; `none` where
it is no long name. An option that takes no value may not have one attached. -/
def longWord? (specs : List (OptionSpec κ)) (word : Text) : Option (Option (OptionWord κ)) :=
  let (name, value) := match word.span (· ≠ '=') with
    | (name, _ :: value) => (name, some value)
    | (name, []) => (name, none)
  (specs.find? fun spec => spec.long == name).map fun spec =>
    match spec.takesValue, value with
    | true, some value => some { options := [(spec.key, some value)] }
    | true, none => some { awaiting := some spec.key }
    | false, none => some { options := [(spec.key, none)] }
    | false, some _ => none

/-- The short names in a word; what follows the name of an option that takes a value is the
value. -/
def shortWord? (specs : List (OptionSpec κ)) : Text → Option (OptionWord κ)
  | [] => some {}
  | c :: rest => do
    let spec ← specs.find? fun spec => spec.short == some c
    if spec.takesValue then
      return if rest.isEmpty then { awaiting := some spec.key }
        else { options := [(spec.key, some rest)] }
    let others ← shortWord? specs rest
    return { others with options := (spec.key, none) :: others.options }

/-- The options in a word, unless one of them is unknown. -/
def optionWord? (specs : List (OptionSpec κ)) (word : Text) : Option (OptionWord κ) :=
  match longWord? specs word with
  | some found => found
  | none => if List.isPrefixOf ['-', '-'] word then none else shortWord? specs word.tail

/-- The words of a command line, where the option of the word before may still wait for its
value. When operands end the options, all words from the first operand on are operands. Unknown
options, and options without their value, make it unreadable. -/
def readFrom? (specs : List (OptionSpec κ)) (operandsEnd : Bool) :
    Option κ → List Text → Option (Arguments κ)
  | none, [] => some {}
  | some _, [] => none
  | some key, value :: words => do
    let rest ← readFrom? specs operandsEnd none words
    return { rest with options := (key, some value) :: rest.options }
  | none, word :: words =>
    if word = ['-', '-'] then some { operands := words }
    else if isOptionWord word then do
      let here ← optionWord? specs word
      let rest ← readFrom? specs operandsEnd here.awaiting words
      return { rest with options := here.options ++ rest.options }
    else if operandsEnd then some { operands := word :: words }
    else do
      let rest ← readFrom? specs operandsEnd none words
      return { rest with operands := word :: rest.operands }

/-- The words of a command line. -/
def read? (specs : List (OptionSpec κ)) (operandsEnd : Bool) (words : List Text) :
    Option (Arguments κ) :=
  readFrom? specs operandsEnd none words

variable [BEq κ]

def has (a : Arguments κ) (key : κ) : Bool := a.options.any fun given => given.1 == key

/-- The value of an option; of several, the last one counts. -/
def value? (a : Arguments κ) (key : κ) : Option Text :=
  (a.options.filterMap fun given => if given.1 == key then given.2 else none).getLast?

def first? (a : Arguments κ) (keys : List κ) : Option κ :=
  (a.options.find? fun given => keys.contains given.1).map (·.1)

def last? (a : Arguments κ) (keys : List κ) : Option κ :=
  ((a.options.filter fun given => keys.contains given.1).getLast?).map (·.1)

end Arguments

end Recheck.Cli
