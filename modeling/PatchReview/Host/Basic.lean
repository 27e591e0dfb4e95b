import PatchReview.Log
import PatchReview.Path
import PatchReview.Text.Lines
import PatchReview.Text.Quoted

/-! What a program asks of the machine that it runs on: files, the environment, its input, the
version control and the time. -/
namespace PatchReview

inductive Entry where
  | missing
  /-- A file stands where the path needs a directory. -/
  | notADirectory
  /-- The machine refuses to look there, as it does where a name is too long. -/
  | unreachable (cause : String)
  | directory
  | file (content : ByteArray)

def Entry.isPresent : Entry → Bool
  | directory | file _ => true
  | missing | notADirectory | unreachable _ => false

inductive ReadError where
  | missing
  | notADirectory
  | unreachable (cause : String)
  | isDirectory
  /-- The content of the file is no text. -/
  | notText
  /-- No path holds the character with the number zero. -/
  | nullCharacter

def ReadError.message (path : Path) : ReadError → String
  | missing => "[Errno 2] No such file or directory: " ++ Text.quoted path.toString
  | notADirectory => "[Errno 20] Not a directory: " ++ Text.quoted path.toString
  | unreachable cause => cause ++ ": " ++ Text.quoted path.toString
  | isDirectory => "[Errno 21] Is a directory: " ++ Text.quoted path.toString
  | notText => "'utf-8' codec can't decode the content"
  | nullCharacter => "embedded null byte"

inductive GitAnswer where
  /-- The program does not exist, or the directory to start it in does not. -/
  | noProgram
  /-- The program could not be started for another reason, such as words that are too long. -/
  | notStarted (cause : String)
  /-- What the program wrote is no text. -/
  | notText
  | exited (output errors : String) (code : Int)

/-- A machine, in whose steps `m` the program runs. -/
structure Host (m : Type → Type) where
  workingDirectory : Path
  /-- The value of a variable of the environment. -/
  environment : String → Option String
  /-- What stands at an absolute path. -/
  entry : Path → m Entry
  /-- The whole input of the program. -/
  input : m String
  /-- Calls the version control with arguments that do not hold the character with the number
  zero. -/
  git : List String → m GitAnswer
  /-- The present time in a report. -/
  time : m String

/-- Whether the text holds the character with the number zero. -/
def Text.hasNull (s : String) : Bool := s.toList.contains '\x00'

def Path.hasNull (p : Path) : Bool := Text.hasNull p.toString

namespace Host

variable {m : Type → Type} [Monad m]

/-- What stands at a path as seen from the working directory. -/
def look (host : Host m) (path : Path) : m Entry :=
  host.entry (host.workingDirectory.append path)

/-- The text of a file; every line ends with a line feed alone. -/
def readText (host : Host m) (path : Path) : m (Except ReadError String) := do
  if path.hasNull then return .error .nullCharacter
  match ← host.look path with
  | .missing => return .error .missing
  | .notADirectory => return .error .notADirectory
  | .unreachable cause => return .error (.unreachable cause)
  | .directory => return .error .isDirectory
  | .file content =>
    match String.fromUTF8? content with
    | some s => return .ok (String.ofList (Text.normalizeNewlines s.toList))
    | none => return .error .notText

end Host

/-- The log of a program so far, and the level that sifts it. -/
structure Transcript where
  level : LogLevel
  records : List LogRecord := []

/-- Steps on a machine that write a log and may fail. -/
abbrev Task (ε : Type) (m : Type → Type) := ExceptT ε (StateT Transcript m)

namespace Task

variable {ε : Type} {m : Type → Type} [Monad m]

def ask {α : Type} (step : m α) : Task ε m α := ExceptT.lift (StateT.lift step)

/-- Writes a record, if the level of the log lets it pass. -/
def note (r : LogRecord) : Task ε m Unit :=
  modify fun t => if r.passes t.level then { t with records := t.records ++ [r] } else t

def setLevel (level : LogLevel) : Task ε m Unit := modify fun t => { t with level }

end Task
end PatchReview
