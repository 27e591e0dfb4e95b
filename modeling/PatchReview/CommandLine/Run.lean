import PatchReview.CommandLine.Review
import PatchReview.CommandLine.Show

/-! A run of the program from its words to its exit code. -/
namespace PatchReview.CommandLine

structure Outcome where
  /-- The text on the output, without colours. -/
  output : String
  log : List LogRecord
  error : Option CommandError
  exitCode : Nat
  /-- A file to be written. -/
  written : Option (Path × String)

def helpText : String :=
  Text.join "\n" [
    "Usage: diff-review [OPTIONS] COMMAND [ARGS]...",
    "",
    "Review diffs against team rules and report confidence-scored findings.",
    "",
    "Commands: review, rules, detectors, intent, config, config-init"]

variable {m : Type → Type} [Monad m]

/-- A command, carried out on a machine that gets the reviews of certain files done in time. -/
def perform (host : Host m) (inTime : ReviewFile → Bool) : Command → Task CommandError m Answer
  | .version => return { output := version }
  | .help => return { output := helpText }
  | .review o => review host o inTime
  | .rules setting given format => showRules host setting given format
  | .detectors setting format => showDetectors host setting format
  | .intent o => showIntent o
  | .config setting format => showConfig host setting format
  | .configInit out force => initConfig host out force

def usageError : UsageError → CommandError
  | .malformed => .usage
  | .nullInPath => .nullInPath

/-- The command that the words ask for, carried out. -/
def performWords (host : Host m) (words : List String) (inTime : ReviewFile → Bool) :
    Task CommandError m Answer := do
  perform host inTime (← (Command.ofWords words).mapError usageError)

/-- What comes of an answer or an error and a log. -/
def Outcome.ofAnswer (log : List LogRecord) : Except CommandError Answer → Outcome
  | .ok a =>
    ⟨String.ofList (TextStyle.strip (a.output ++ "\n").toList), log, none,
      if a.isFailing then 1 else 0, a.written⟩
  | .error e => ⟨"", log, some e, e.exitCode, none⟩

/-- A run of the program, on a machine that is fast enough for all reviews unless told otherwise. -/
def run (host : Host m) (words : List String) (inTime : ReviewFile → Bool := fun _ => true) :
    m Outcome := do
  let level := LogLevel.resolve (host.environment LogLevel.environmentVariable)
    LogLevel.warning.name
  let (answer, transcript) ← (performWords host words inTime).run.run { level }
  return Outcome.ofAnswer transcript.records answer

end PatchReview.CommandLine
