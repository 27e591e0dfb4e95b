import PatchReview.CommandLine.Run
import PatchReview.Report.Time
import Std.Time.DateTime.Timestamp

/-! The program on a real machine. It reads what a command asks for, and prints and writes what
comes of it. Nothing is decided here. -/
namespace PatchReview.CommandLine

/-- What stands at a path of the file system. -/
def readEntry (path : Path) : IO Entry := do
  try
    return .file (← IO.FS.readBinFile path.toString)
  catch e =>
    match e with
    | .noFileOrDirectory .. => return .missing
    | .inappropriateType _ code _ => return if code = 21 then .directory else .notADirectory
    | .invalidArgument _ 36 _ => return .unreachable "[Errno 36] File name too long"
    | e => throw e

/-- All bytes of a stream behind some that have been read. -/
partial def readBytes (stream : IO.FS.Stream) (done : ByteArray) : IO ByteArray := do
  let more ← stream.read 65536
  if more.isEmpty then return done else readBytes stream (done ++ more)

def readInput : IO String := do
  let content ← readBytes (← IO.getStdin) ByteArray.empty
  match String.fromUTF8? content with
  | some s => return s
  | none => throw (IO.userError (ReadError.notText.message ⟨"", []⟩))

/-- The machine that the program runs on. It calls no other program. -/
def machine : IO (Host IO) := do
  let directory ← IO.currentDir
  let level ← IO.getEnv LogLevel.environmentVariable
  return {
    workingDirectory := Path.ofString directory.toString
    environment := fun name => if name = LogLevel.environmentVariable then level else none
    entry := readEntry
    input := readInput
    git := fun _ => return .noProgram
    time := do
      let now ← Std.Time.Timestamp.now
      return timeText now.toSecondsSinceUnixEpoch.val.toNat }

/-- Writes a file and makes the directories above it. -/
def writeFile (path : Path) (text : String) : IO Unit := do
  IO.FS.createDirAll path.parent.toString
  IO.FS.writeFile path.toString text

end PatchReview.CommandLine

open PatchReview.CommandLine in
/-- Runs the program with the words of its command line. -/
def main (words : List String) : IO UInt32 := do
  let outcome ← run (← machine) words
  for record in outcome.log do
    IO.eprintln record.line
  if let some (path, text) := outcome.written then writeFile path text
  IO.print outcome.output
  if let some e := outcome.error then
    IO.eprintln ("Error: " ++ (e.message?.getD "the command line is wrong; try --help"))
  return outcome.exitCode.toUInt32
