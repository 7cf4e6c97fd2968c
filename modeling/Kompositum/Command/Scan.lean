import Kompositum.Text.Basic

/-!
# Words of a command line

A command line is a row of words: options, values and a command. Options have a long name after two
dashes and may have a letter after one; letters can be written together. The value of an option
follows it, or is joined to it.

* `scan`: the options and values up to the name of a command, and what follows.
-/

namespace Kompositum.Command

/-- An option. -/
structure OptionSpec where
  name : Text
  letter : Option Char
  takesValue : Bool
deriving DecidableEq, Repr

/-- An option as it occurs, with its value if it takes one. -/
structure Occurrence where
  name : Text
  value : Text
deriving DecidableEq, Repr

/-- What has been found on a command line, and the words from the name of a command on. -/
structure Scanned where
  options : List Occurrence
  values : List Text
  command : List Text
deriving DecidableEq, Repr

namespace Scanned

/-- Nothing found. -/
def empty : Scanned := ⟨[], [], []⟩

/-- One more option in front. -/
def withOption (o : Occurrence) (s : Scanned) : Scanned := { s with options := o :: s.options }

/-- More options in front. -/
def withOptions (os : List Occurrence) (s : Scanned) : Scanned :=
  { s with options := os ++ s.options }

/-- One more value in front. -/
def withValue (v : Text) (s : Scanned) : Scanned := { s with values := v :: s.values }

end Scanned

/-- Whether a word is an option rather than a value: it begins with a dash that is not all of it. -/
def isOption (word : Text) : Bool := Text.startsWith ['-'] word && word != ['-']

/-- The options in a word of letters, and the name of the last one if it still needs a value. -/
def letters? (specs : List OptionSpec) : Text → Option (List Occurrence × Option Text)
  | [] => some ([], none)
  | c :: rest => do
    let spec ← specs.find? fun s => s.letter == some c
    if spec.takesValue then
      match rest with
      | [] => return ([], some spec.name)
      | '=' :: value => return ([⟨spec.name, value⟩], none)
      | value => return ([⟨spec.name, value⟩], none)
    else
      let (os, pending) ← letters? specs rest
      return (⟨spec.name, []⟩ :: os, pending)

/-- The option in a word that begins with two dashes, and its name if it still needs a value. -/
def long? (specs : List OptionSpec) (word : Text) : Option (List Occurrence × Option Text) := do
  match Text.cutAt? '=' word with
  | some (name, value) =>
    let spec ← specs.find? fun s => s.name == name
    if spec.takesValue then some ([⟨name, value⟩], none) else none
  | none =>
    let spec ← specs.find? fun s => s.name == word
    if spec.takesValue then some ([], some word) else some ([⟨word, []⟩], none)

/-- The options in a word, and the name of the last one if it still needs a value. -/
def options? (specs : List OptionSpec) (word : Text) : Option (List Occurrence × Option Text) :=
  match Text.stripPrefix? ['-', '-'] word with
  | some name => long? specs name
  | none => letters? specs (word.drop 1)

/-- **The options and values up to the name of a command**, and what follows. Two dashes alone make
values of all words after them. -/
def scan (specs : List OptionSpec) (isCommand : Text → Bool) : List Text → Option Scanned
  | [] => some .empty
  | word :: rest =>
    if isCommand word then some ⟨[], [], word :: rest⟩
    else if word == ['-', '-'] then some ⟨[], rest, []⟩
    else if !isOption word then (scan specs isCommand rest).map (.withValue word)
    else do
      match ← options? specs word with
      | (os, none) => (scan specs isCommand rest).map (.withOptions os)
      | (os, some name) =>
        match rest with
        | [] => none
        | value :: rest =>
          if isOption value then none
          else (scan specs isCommand rest).map fun s =>
            (s.withOption ⟨name, value⟩).withOptions os

end Kompositum.Command
