import PatchReview.Host.Basic
import PatchReview.Text.Blank

/-! Differences and files from the version control. -/
namespace PatchReview.Git

variable {m : Type → Type} [Monad m]

/-- Why a call gives no output. -/
inductive CallError where
  /-- The call was refused; the text says why. -/
  | refused (why : String)
  | notStarted (cause : String)
  | notText
  /-- No program is called with the character with the number zero. -/
  | nullCharacter

/-- The text of the error after a call that failed. -/
def failureText (args : List String) (errors : String) (code : Int) : String :=
  match Text.trim errors.toList with
  | [] => "git " ++ Text.join " " args ++ " exited with " ++ toString code
  | words => String.ofList words

/-- The output of a call in a repository. -/
def call (host : Host m) (repository : Path) (args : List String) : Task CallError m String := do
  Task.note ⟨.debug, "Running git " ++ Text.join " " args ++ " in " ++ repository.toString⟩
  if args.any Text.hasNull then throw .nullCharacter
  match ← Task.ask (host.git args) with
  | .noProgram => throw (.refused "git executable not found")
  | .notStarted cause => throw (.notStarted cause)
  | .notText => throw .notText
  | .exited output errors code =>
    if code = 0 then return output else throw (.refused (failureText args errors code))

def workingTreeDiff (host : Host m) (repository : Path) : Task CallError m String :=
  call host repository ["diff", "--no-color", "HEAD"]

def diffBetween (host : Host m) (repository : Path) (base head : String) : Task CallError m String :=
  call host repository ["diff", "--no-color", base ++ "..." ++ head]

/-- The text of a file at a revision, if it is not refused. -/
def fileAt (host : Host m) (repository : Path) (revision path : String) :
    Task CallError m (Option String) := do
  match ← ExceptT.lift (call host repository ["show", revision ++ ":" ++ path]).run with
  | .ok text => return some text
  | .error (.refused why) =>
    Task.note ⟨.debug, "Could not read " ++ path ++ " at " ++ revision ++ ": " ++ why⟩
    return none
  | .error e => throw e

end PatchReview.Git
