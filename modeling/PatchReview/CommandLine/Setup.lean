import PatchReview.CommandLine.Command
import PatchReview.Config.Location
import PatchReview.Detector.Selection
import PatchReview.Intent.Change
import PatchReview.Rule.Location

/-! What commands have in common: how they end, and how they load their configuration, their
rules and their detectors. -/
namespace PatchReview.CommandLine

inductive CommandError where
  /-- The words of the command line are wrong. -/
  | usage
  /-- A value is wrong; the hint says which one. -/
  | badValue (hint : Option String) (why : String)
  /-- The title of a change names a type with a letter that has another lower case. -/
  | unknownType (e : ChangeIntent.UnknownTypeWord)
  /-- The machine refuses to look at a path. -/
  | unreachable (path : Path) (cause : String)
  /-- A directory stands in place of a file. -/
  | isDirectory (path : Path)
  /-- A file stands in place of the directory of a new file. -/
  | fileInTheWay (path : Path)
  /-- A file stands in place of a directory that holds another one. -/
  | notADirectory (path : Path)
  /-- The content of a file, or the output of another program, is no text. -/
  | notText
  /-- A path, or a word for another program, holds the character with the number zero. -/
  | nullInPath
  | numberTooLarge
  /-- Another program could not be started. -/
  | notStarted (cause : String)
  /-- The wait for the reviews was to last too long. -/
  | waitTooLong
  /-- A number that is to be shown has too many digits. -/
  | integerTooLong

namespace CommandError

/-- The text of the error; the wrong use of the command line is explained elsewhere. -/
def message? : CommandError → Option String
  | usage => none
  | badValue (some hint) why => some ("Invalid value for " ++ hint ++ ": " ++ why)
  | badValue none why => some ("Invalid value: " ++ why)
  | unknownType e => some e.word
  | unreachable path cause => some ((ReadError.unreachable cause).message path)
  | isDirectory path => some (ReadError.isDirectory.message path)
  | fileInTheWay path => some ("[Errno 17] File exists: " ++ Text.quoted path.toString)
  | notADirectory path => some (ReadError.notADirectory.message path)
  | notText => some (ReadError.notText.message ⟨"", []⟩)
  | nullInPath => some (ReadError.nullCharacter.message ⟨"", []⟩)
  | numberTooLarge => none
  | notStarted cause => some cause
  | waitTooLong => none
  | integerTooLong => some (Number.tooLongMessage none)

/-- The exit code: wrong words and wrong values have one of their own. -/
def exitCode : CommandError → Nat
  | usage | badValue .. => 2
  | unknownType _ | unreachable .. | isDirectory _ | fileInTheWay _ | notADirectory _ | notText
  | nullInPath | numberTooLarge | notStarted _ | waitTooLong | integerTooLong => 1

end CommandError

structure Answer where
  /-- The text on the output, without the last line end. -/
  output : String
  /-- The command ends with exit code 1, though it did what it was asked for. -/
  isFailing : Bool := false
  /-- A file to be written. -/
  written : Option (Path × String) := none

/-- The value among `all` that a name chooses in any letter case. -/
def choose {α : Type} (all : List α) (name : α → String) (field value : String) :
    Except CommandError α :=
  match all.find? fun x => name x == Text.lowered value with
  | some x => .ok x
  | none =>
    .error (.badValue (some field)
      (field ++ " must be one of: " ++ Text.join ", " (all.map name)))

/-- The first of two texts unless it is empty. -/
def orElse (s default : String) : String := if s.isEmpty then default else s

/-- Whether a listing is asked for as data. All listings are for people or for programs. -/
def wantsData (format : String) : Except CommandError Bool :=
  (choose [OutputFormat.human, .json] OutputFormat.name "--format" (orElse format "human")).map
    (· == .json)

/-- The error that a configuration which cannot be loaded leads to. -/
def configError : ConfigLoadError → CommandError
  | .notFound path => bad ("Config file does not exist: " ++ path.toString)
  | .malformed path => bad ("Invalid TOML in " ++ path.toString)
  | .integerTooLong digits => bad (Number.tooLongMessage (some digits))
  | .notText => bad (ReadError.notText.message ⟨"", []⟩)
  | .config e =>
    match e.message? with
    | some why => bad why
    | none => .numberTooLarge
  | .unreachable path cause => .unreachable path cause
  | .isDirectory path => .isDirectory path
where
  bad (why : String) : CommandError := .badValue (some "config") why

/-- The error that rules which cannot be loaded lead to. -/
def rulesError : RuleLoadError → CommandError
  | .unreachable path cause => .unreachable path cause
  | e => .badValue (some "--rules") e.message

/-- The error that detectors which cannot be set up lead to. The expressions of a configuration
have been read before. -/
def detectorError : DetectorError → CommandError
  | .unknownIds ids => .badValue (some "config.detectors") (DetectorError.unknownMessage ids)
  | .badPattern _ => .numberTooLarge

variable {m : Type → Type} [Monad m]

/-- Loads the configuration and sets the level of the log. -/
def loadConfig (host : Host m) (setting : Setting) : Task CommandError m Config := do
  match ← Task.ask (Config.load host setting.repository setting.config) with
  | .error e => throw (configError e)
  | .ok config =>
    Task.setLevel (LogLevel.resolve (host.environment LogLevel.environmentVariable)
      config.logLevel)
    return config

/-- Loads the rules: those of the option, else those of the configuration. -/
def loadRules (host : Host m) (setting : Setting) (given : Option Path) (config : Config) :
    Task CommandError m RuleSet :=
  let path := match given with
    | some path => some path
    | none => config.rulesFile.map Path.ofString
  (RuleSet.load host setting.repository path).adapt rulesError

/-- Sets up the detectors of a configuration. -/
def setUpDetectors (rules : RuleSet) (config : Config) : Except CommandError (List Detector) :=
  (config.detectors.detectors rules config.patterns).mapError detectorError

end PatchReview.CommandLine
