import PatchReview.Host.Basic
import PatchReview.Rule.Document

/-! Where rules are found: in a file that is named, else in the first of the usual files, else
the default rules apply. -/
namespace PatchReview

inductive RuleLoadError where
  | notFound (path : Path)
  | unreachable (path : Path) (cause : String)
  | notReadable (path : Path)

def RuleLoadError.message : RuleLoadError → String
  | notFound path => "Rules file does not exist: " ++ path.toString
  | unreachable path cause => (ReadError.unreachable cause).message path
  | notReadable path => "Could not read rules file " ++ path.toString

namespace RuleSet

variable {m : Type → Type} [Monad m]

/-- The usual files, in the order in which they are looked for. -/
def fileNames : List String :=
  [".reviewrc.md", "review-instructions.md", ".mcp/instructions.md",
    ".github/review-instructions.md"]

def isFile (host : Host m) (path : Path) : Task RuleLoadError m Bool := do
  if path.hasNull then return false
  match ← Task.ask (host.look path) with
  | .unreachable cause => throw (.unreachable path cause)
  | .file _ => return true
  | .missing | .notADirectory | .directory => return false

/-- The first of the usual files below a directory. -/
def findFile (host : Host m) (directory : Path) : List String → Task RuleLoadError m (Option Path)
  | [] => return none
  | name :: names => do
    let path := directory.append (Path.ofString name)
    if ← isFile host path then return some path else findFile host directory names

def readFile (host : Host m) (path : Path) : Task RuleLoadError m RuleSet := do
  match ← Task.ask (host.readText path) with
  | .ok text => return ofDocument text (some path.toString)
  | .error _ => throw (.notReadable path)

def load (host : Host m) (repository : Path) (given : Option Path) :
    Task RuleLoadError m RuleSet := do
  let directory := Path.resolve host.workingDirectory repository
  match given with
  | some given =>
    let path := directory.append given
    if ← isFile host path then readFile host path else throw (.notFound path)
  | none =>
    match ← findFile host directory fileNames with
    | some path => readFile host path
    | none =>
      Task.note ⟨.debug,
        "No rule file found under " ++ directory.toString ++ "; using default rules"⟩
      return RuleSet.default

end RuleSet
end PatchReview
