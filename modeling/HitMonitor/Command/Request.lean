import HitMonitor.Command.Options
import HitMonitor.Decimal.Read
import HitMonitor.Snapshot.Files
import HitMonitor.Synthetic.Message

/-!
# Requests

What a command line can ask for: to replay a capture through a monitor, to show what a capture
holds, or to record a synthetic one.  Each request starts from its standard values, which options
change.
-/

namespace HitMonitor

/-- What becomes of the snapshots of a replay. -/
inductive OutputForm where
  | picture
  | table
  /-- Only the totals are mentioned. -/
  | none
  deriving DecidableEq, Repr

namespace OutputForm

def name : OutputForm → String
  | .picture => "png"
  | .table => "csv"
  | .none => "none"

def all : List OutputForm := [.picture, .table, .none]

end OutputForm

structure ReplayRequest where
  capture : String := ""
  settings : Option String := none
  outputDirectory : String := "snapshots"
  form : OutputForm := .picture
  colormap : Colormap := .standard
  scale : Nat := SnapshotFormat.standardScale
  /-- Takes the place of the period in the settings. -/
  period : Option Nat := none
  /-- Takes the place of the records of a message in the settings; zero stands for any number. -/
  records : Option Nat := none
  /-- Milliseconds between two messages. -/
  pauseMs : Nat := 0
  /-- Seconds after which the replay is stopped. -/
  timeLimit : Option Float := none
  /-- Whether the last window is written although it is not complete. -/
  flushesPartial : Bool := false

structure InfoRequest where
  capture : String := ""
  settings : Option String := none
  /-- Whether the totals are printed as a document. -/
  asDocument : Bool := false
  deriving DecidableEq, Repr

structure RecordRequest where
  output : String := ""
  messages : Nat := 10
  records : Nat := RecordReader.standardRecords
  seed : Nat := 0
  /-- The share of records with a pixel index outside the grid. -/
  invalidShare : Float := 0
  settings : Option String := none

inductive Request where
  | replay (request : ReplayRequest)
  | info (request : InfoRequest)
  | record (request : RecordRequest)

/-- The paths that a request reads or writes at. -/
def Request.paths : Request → List String
  | .replay request => request.settings.toList ++ [request.capture, request.outputDirectory]
  | .info request => request.settings.toList ++ [request.capture]
  | .record request => request.settings.toList ++ [request.output]

/-- A request and how much detail its notices may have. -/
structure Invocation where
  detail : Nat
  request : Request

/-- A request that is being read. -/
structure Draft (Kind : Type) where
  detail : Nat
  request : Kind

namespace Draft

variable {Kind Value : Type}

/-- An option whose value is read by `read?` and put into the request. -/
def valueOption (letter : Option Char) (name : String) (read? : String → Option Value)
    (set : Kind → Value → Kind) : OptionSpec (Draft Kind) where
  letter := letter
  name := name
  effect := .value fun draft text =>
    (read? text).map fun value => { draft with request := set draft.request value }

/-- An option that switches something on. -/
def switchOption (name : String) (set : Kind → Kind) : OptionSpec (Draft Kind) where
  letter := none
  name := name
  effect := .switch fun draft => { draft with request := set draft.request }

/-- A path, which must not be empty. -/
def readPath? (text : String) : Option String := if text.isEmpty then none else some text

/-- An argument that is a path. -/
def pathArgument (name : String) (set : Kind → String → Kind) : ArgumentSpec (Draft Kind) where
  name := name
  set draft text :=
    (readPath? text).map fun path => { draft with request := set draft.request path }

/-- One of some values by its name. -/
def readNamed? (name : Value → String) (values : List Value) (text : String) : Option Value :=
  values.find? (name · == text)

/-- The options of every command: more detail, and help. -/
def sharedOptions : List (OptionSpec (Draft Kind)) :=
  [{ letter := some 'v'
     name := "verbose"
     effect := .count fun draft => { draft with detail := draft.detail + 1 } },
   { letter := some 'h', name := "help", effect := .stop .help }]

end Draft

open Draft

def ReplayRequest.spec : CommandSpec (Draft ReplayRequest) where
  arguments := [pathArgument "INPUT" fun request path => { request with capture := path }]
  commands := []
  options := sharedOptions ++ [
    valueOption (some 'c') "config" readPath? fun request path =>
      { request with settings := some path },
    valueOption (some 'o') "output-dir" readPath? fun request path =>
      { request with outputDirectory := path },
    valueOption (some 'f') "format" (readNamed? OutputForm.name OutputForm.all) fun request form =>
      { request with form := form },
    valueOption none "colormap" (readNamed? Colormap.name Colormap.all) fun request colormap =>
      { request with colormap := colormap },
    valueOption none "scale" (readWithin? 1 largestScale) fun request scale =>
      { request with scale := scale },
    valueOption none "period" (readWithin? 0 word32Max) fun request period =>
      { request with period := some period },
    valueOption none "records" (readNatural? word64Max) fun request records =>
      { request with records := some records },
    valueOption none "interval-ms" (readNatural? word64Max) fun request interval =>
      { request with pauseMs := interval },
    valueOption none "timeout" readFloat? fun request seconds =>
      { request with timeLimit := some seconds },
    switchOption "flush-partial" fun request => { request with flushesPartial := true }]

def InfoRequest.spec : CommandSpec (Draft InfoRequest) where
  arguments := [pathArgument "INPUT" fun request path => { request with capture := path }]
  commands := []
  options := sharedOptions ++ [
    valueOption (some 'c') "config" readPath? fun request path =>
      { request with settings := some path },
    switchOption "json" fun request => { request with asDocument := true }]

def RecordRequest.spec : CommandSpec (Draft RecordRequest) where
  arguments := [pathArgument "OUTPUT" fun request path => { request with output := path }]
  commands := []
  options := sharedOptions ++ [
    valueOption (some 'm') "messages" (readNatural? word64Max) fun request messages =>
      { request with messages := messages },
    valueOption (some 'r') "records" (readNatural? word64Max) fun request records =>
      { request with records := records },
    valueOption none "seed" (readNatural? word64Max) fun request seed =>
      { request with seed := seed },
    valueOption none "invalid-fraction" readFloat? fun request share =>
      { request with invalidShare := share },
    valueOption (some 'c') "config" readPath? fun request path =>
      { request with settings := some path }]

namespace Invocation

/-- What stands before the command. -/
def leadingSpec : CommandSpec (Draft Unit) where
  arguments := []
  commands := ["replay", "info", "record", "help"]
  options := sharedOptions ++ [{ letter := some 'V', name := "version", effect := .stop .version }]

/-- Read the words behind a command.  Detail asked for there counts more than detail asked for
before. -/
def readCommand {Kind : Type} (spec : CommandSpec (Draft Kind)) (start : Kind) (detail : Nat)
    (wrap : Kind → Request) (words : List String) : Except Stop Invocation := do
  let (draft, _) ← spec.read ⟨0, start⟩ words
  return ⟨if draft.detail = 0 then detail else draft.detail, wrap draft.request⟩

/-- Read the words behind `help`, which name at most one command. -/
def readHelp : List String → Stop
  | [] => .help
  | [name] =>
      if name ∈ leadingSpec.commands then .help else .misuse (.unknownCommand name)
  | _ :: name :: _ => .misuse (.unknownCommand name)

/-- Read a command line. -/
def ofWords (words : List String) : Except Stop Invocation := do
  let (leading, command?) ← leadingSpec.read ⟨0, ()⟩ words
  match command? with
  | none => .error (.misuse .missingCommand)
  | some (command, words) =>
      match command with
      | "replay" => readCommand ReplayRequest.spec {} leading.detail .replay words
      | "info" => readCommand InfoRequest.spec {} leading.detail .info words
      | "record" => readCommand RecordRequest.spec {} leading.detail .record words
      | _ => .error (readHelp words)

end Invocation

end HitMonitor
