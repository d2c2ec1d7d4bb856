/-!
# Options

A command line is read from left to right into a draft.  An option is written with its long name, as
`--name value` or `--name=value`, or with its letter, as `-n value`, `-nvalue` or `-n=value`;
letters of options without a value may share one dash.  Behind `--` everything is an argument.

A value that stands on its own must not start with a dash, and an option may come only once unless
it is counted.  The first fault ends the reading, and so does an option that asks for help or the
version.
-/

namespace HitMonitor

/-- Why a command line is not understood. -/
inductive UsageFault where
  | unknownOption (option : String)
  | unneededValue (option : String)
  | missingValue (option : String)
  | invalidValue (place value : String)
  | repeatedOption (option : String)
  | unexpectedArgument (argument : String)
  | missingArgument (name : String)
  | missingCommand
  | unknownCommand (name : String)
  deriving DecidableEq, Repr

def UsageFault.message : UsageFault → String
  | .unknownOption option => "unknown option " ++ option
  | .unneededValue option => "option " ++ option ++ " takes no value"
  | .missingValue option => "option " ++ option ++ " needs a value"
  | .invalidValue place value => "invalid value '" ++ value ++ "' for " ++ place
  | .repeatedOption option => "option " ++ option ++ " is given twice"
  | .unexpectedArgument argument => "unexpected argument '" ++ argument ++ "'"
  | .missingArgument name => "missing argument " ++ name
  | .missingCommand => "missing command"
  | .unknownCommand name => "unknown command '" ++ name ++ "'"

/-- Why reading a command line ends early. -/
inductive Stop where
  | help
  | version
  | misuse (fault : UsageFault)
  deriving DecidableEq, Repr

/-- What an option does to a draft. -/
inductive OptionEffect (Draft : Type) where
  /-- Take a value, if it is a valid one. -/
  | value (set : Draft → String → Option Draft)
  /-- Switch something on. -/
  | switch (set : Draft → Draft)
  /-- Count one more occurrence. -/
  | count (set : Draft → Draft)
  /-- Read no further. -/
  | stop (reason : Stop)

structure OptionSpec (Draft : Type) where
  letter : Option Char
  name : String
  effect : OptionEffect Draft

/-- An argument that has to be given, addressed by its place. -/
structure ArgumentSpec (Draft : Type) where
  name : String
  set : Draft → String → Option Draft

/-- The options and arguments of a command, and the commands that may follow it. -/
structure CommandSpec (Draft : Type) where
  options : List (OptionSpec Draft)
  arguments : List (ArgumentSpec Draft)
  commands : List String

/-- A command line that has been read so far. -/
structure Reading (Draft : Type) where
  draft : Draft
  /-- Names of the options given so far that may come only once. -/
  given : List String
  /-- The arguments still to be given. -/
  awaited : List (ArgumentSpec Draft)

namespace Reading

variable {Draft : Type}

/-- Give an option its value. -/
def setValue (reading : Reading Draft) (name value : String) (set : Draft → String → Option Draft) :
    Except Stop (Reading Draft) :=
  if name ∈ reading.given then .error (.misuse (.repeatedOption name))
  else
    match set reading.draft value with
    | some draft => .ok { reading with draft := draft, given := name :: reading.given }
    | none => .error (.misuse (.invalidValue name value))

/-- Apply an option that stands without a value. -/
def setOption (reading : Reading Draft) (option : OptionSpec Draft) :
    Except Stop (Reading Draft) :=
  match option.effect with
  | .value _ => .error (.misuse (.missingValue option.name))
  | .switch set =>
      if option.name ∈ reading.given then .error (.misuse (.repeatedOption option.name))
      else
        .ok
          { reading with
            draft := set reading.draft
            given := option.name :: reading.given }
  | .count set => .ok { reading with draft := set reading.draft }
  | .stop reason => .error reason

/-- Take the next argument. -/
def setArgument (reading : Reading Draft) (argument : String) : Except Stop (Reading Draft) :=
  match reading.awaited with
  | [] => .error (.misuse (.unexpectedArgument argument))
  | next :: rest =>
      match next.set reading.draft argument with
      | some draft => .ok { reading with draft := draft, awaited := rest }
      | none => .error (.misuse (.invalidValue next.name argument))

end Reading

/-- Whether a word is written like an option.  A dash on its own is not. -/
def looksLikeOption (word : String) : Bool := word.startsWith "-" && word ≠ "-"

/-- The text before the first equals sign and, if there is one, the text behind it. -/
def splitEquals (text : List Char) : List Char × Option (List Char) :=
  (text.takeWhile (· ≠ '='),
    match text.dropWhile (· ≠ '=') with
    | [] => none
    | _ :: value => some value)

namespace CommandSpec

variable {Draft : Type}

/-- An option that is waiting for the next word as its value. -/
abbrev Waiting (Draft : Type) := Option (String × (Draft → String → Option Draft))

/-- Read an option by its long name. -/
def readLong (spec : CommandSpec Draft) (reading : Reading Draft) (body : List Char) :
    Except Stop (Reading Draft × Waiting Draft) := do
  let (nameChars, value?) := splitEquals body
  let name := String.ofList nameChars
  match spec.options.find? (·.name == name) with
  | none => .error (.misuse (.unknownOption ("--" ++ name)))
  | some option =>
      match option.effect, value? with
      | .value set, some value =>
          return (← reading.setValue name (String.ofList value) set, none)
      | .value set, none => return (reading, some (name, set))
      | _, some _ => .error (.misuse (.unneededValue name))
      | _, none => return (← reading.setOption option, none)

/-- Read options by their letters.  Behind the letter of an option with a value, the rest is its
value. -/
def readLetters (spec : CommandSpec Draft) :
    Reading Draft → List Char → Except Stop (Reading Draft × Waiting Draft)
  | reading, [] => .ok (reading, none)
  | reading, letter :: rest =>
      match spec.options.find? (·.letter == some letter) with
      | none => .error (.misuse (.unknownOption ("-" ++ letter.toString)))
      | some option => do
          match option.effect, rest with
          | .value set, [] => return (reading, some (option.name, set))
          | .value set, '=' :: value =>
              return (← reading.setValue option.name (String.ofList value) set, none)
          | .value set, value =>
              return (← reading.setValue option.name (String.ofList value) set, none)
          | _, rest => spec.readLetters (← reading.setOption option) rest

/-- Read a word that is written like an option. -/
def readOption (spec : CommandSpec Draft) (reading : Reading Draft) (word : String) :
    Except Stop (Reading Draft × Waiting Draft) :=
  match word.toList with
  | '-' :: '-' :: body => spec.readLong reading body
  | _ :: letters => spec.readLetters reading letters
  | [] => .ok (reading, none)

/-- Read words up to the end or up to a further command, returned with the words behind it. -/
def readWords (spec : CommandSpec Draft) :
    Reading Draft → List String → Except Stop (Reading Draft × Option (String × List String))
  | reading, [] => .ok (reading, none)
  | reading, word :: rest =>
      if word ∈ spec.commands then .ok (reading, some (word, rest))
      else if word = "--" then do
        let reading ← rest.foldlM Reading.setArgument reading
        return (reading, none)
      else if looksLikeOption word then do
        match ← spec.readOption reading word with
        | (reading, none) => spec.readWords reading rest
        | (reading, some (name, set)) =>
            match rest with
            | [] => .error (.misuse (.missingValue name))
            | value :: rest =>
                if looksLikeOption value then .error (.misuse (.missingValue name))
                else spec.readWords (← reading.setValue name value set) rest
      else do
        spec.readWords (← reading.setArgument word) rest

/-- Read the words of a command into a draft.  All its arguments have to be given. -/
def read (spec : CommandSpec Draft) (start : Draft) (words : List String) :
    Except Stop (Draft × Option (String × List String)) := do
  let (reading, next?) ← spec.readWords ⟨start, [], spec.arguments⟩ words
  match reading.awaited with
  | [] => return (reading.draft, next?)
  | missing :: _ => .error (.misuse (.missingArgument missing.name))

end CommandSpec

end HitMonitor
