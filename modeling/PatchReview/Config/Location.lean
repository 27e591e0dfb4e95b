import PatchReview.Config.Reader
import PatchReview.Host.Basic
import PatchReview.Toml.Reader

/-! Where configurations are found: in a file that is named, else in the first of the usual
files, else in the settings of a package, else the defaults apply. -/
namespace PatchReview

inductive ConfigLoadError where
  | notFound (path : Path)
  | unreachable (path : Path) (cause : String)
  | isDirectory (path : Path)
  | notText
  | malformed (path : Path)
  | integerTooLong (digits : Nat)
  | config (e : ConfigError)

namespace Config

variable {m : Type → Type} [Monad m]

/-- The usual files, in the order in which they are looked for. -/
def fileNames : List String := [".diff-review.toml", "diff-review.toml"]

def packageFileName : String := "pyproject.toml"

/-- The keys of the tool in the settings of a package. -/
def toolKeys : List String := ["diff_review", "diff-review"]

def tableFields? : Value → Option (List (String × Value))
  | .table fields => some fields
  | _ => none

/-- The settings of the tool among those of a package. -/
def toolSection? (fields : List (String × Value)) : Option (List (String × Value)) := do
  let tools ← tableFields? (← Value.field? "tool" fields)
  toolKeys.findSome? fun key => (Value.field? key tools).bind tableFields?

/-- The settings in a file. The tool's section counts wherever it is given; all fields count in a
file of the tool's own. -/
def settings (path : Path) (fields : List (String × Value)) : List (String × Value) :=
  match toolSection? fields with
  | some inner => inner
  | none => if path.name = packageFileName then [] else fields

/-- The settings in a file of a certain content. -/
def readContent (path : Path) (content : ByteArray) :
    Except ConfigLoadError (List (String × Value)) :=
  match String.fromUTF8? content with
  | none => .error .notText
  | some text =>
    match Toml.ofText text with
    | .ok fields => .ok (settings path fields)
    | .error .malformed => .error (.malformed path)
    | .error (.integerTooLong digits) => .error (.integerTooLong digits)

def readFile? (host : Host m) (path : Path) :
    m (Option (Except ConfigLoadError (List (String × Value)))) := do
  if path.hasNull then return none
  match ← host.look path with
  | .missing | .notADirectory => return none
  | .unreachable cause => return some (.error (.unreachable path cause))
  | .directory => return some (.error (.isDirectory path))
  | .file content => return some (readContent path content)

/-- The configuration in a file with certain settings. -/
def ofFile (path : Path) (fields : List (String × Value)) : Except ConfigLoadError Config :=
  (ofFields fields path.toString).mapError .config

/-- The configuration in the first of some files below a directory. -/
def loadFirst (host : Host m) (directory : Path) :
    List String → m (Option (Except ConfigLoadError Config))
  | [] => return none
  | name :: names => do
    let path := directory.append (Path.ofString name)
    match ← readFile? host path with
    | some settings => return some (settings.bind (ofFile path))
    | none => loadFirst host directory names

/-- The configuration in the settings of a package. Without settings for the tool the defaults
apply. -/
def loadPackage (host : Host m) (directory : Path) : m (Except ConfigLoadError Config) := do
  let path := directory.append (Path.ofString packageFileName)
  match ← readFile? host path with
  | none | some (.ok []) => return .ok {}
  | some settings => return settings.bind (ofFile path)

def load (host : Host m) (repository : Path) (given : Option Path) :
    m (Except ConfigLoadError Config) := do
  let directory := Path.resolve host.workingDirectory repository
  match given with
  | some given =>
    let path := directory.append given
    match ← readFile? host path with
    | some settings => return settings.bind (ofFile path)
    | none => return .error (.notFound path)
  | none =>
    match ← loadFirst host directory fileNames with
    | some config => return config
    | none => loadPackage host directory

end Config
end PatchReview
