import PatchReview.Config.Location
import PatchReview.Host.Git
import PatchReview.Proofs.Config.Soundness
import PatchReview.Proofs.Host.Task
import PatchReview.Rule.Location

/-! How configurations and rules are loaded. They come from the file that is named or from the first
of the usual files; what goes wrong is told from that file alone. -/
namespace PatchReview

/-- The files that settings may come from: the one that is named, else one of the usual names. -/
inductive IsSource (names : List String) (directory : Path) : Option Path → Path → Prop
  | named {path : Path} : IsSource names directory (some path) (directory.append path)
  | usual {name : String} : name ∈ names →
      IsSource names directory none (directory.append (Path.ofString name))

namespace Config

/-- The names that a configuration may have where none is named. -/
def sourceNames : List String := fileNames ++ [packageFileName]

variable {host : Host Id} {directory repository path : Path} {given : Option Path}

/-- The errors in a file, by what stands at its path. -/
inductive IsFault (host : Host Id) (path : Path) : ConfigLoadError → Prop
  | unreachable {cause : String} : host.look path = .unreachable cause →
      IsFault host path (.unreachable path cause)
  | directory : host.look path = .directory → IsFault host path (.isDirectory path)
  | content {content : ByteArray} {e : ConfigLoadError} : host.look path = .file content →
      readContent path content = .error e → IsFault host path e
  | fields {content : ByteArray} {fields : List (String × Value)} {e : ConfigError} :
      host.look path = .file content → readContent path content = .ok fields →
      ofFields fields path.toString = .error e → IsFault host path (.config e)

end Config

namespace RuleSet

/-- The errors on the way to rules. A file that is not there, or that is no text, is one of them. -/
inductive IsFault (host : Host Id) (directory : Path) (given : Option Path) : RuleLoadError → Prop
  | notFound {path : Path} : IsFault host directory given (.notFound path)
  | notReadable {path : Path} : IsFault host directory given (.notReadable path)
  | unreachable {path : Path} {cause : String} : IsSource fileNames directory given path →
      host.look path = .unreachable cause → IsFault host directory given (.unreachable path cause)

variable {host : Host Id} {directory repository path : Path} {given : Option Path}

end RuleSet

namespace Git

/-- The errors of a call, by what the version control makes of it. -/
inductive IsFault (host : Host Id) (args : List String) : CallError → Prop
  | refused (why : String) : IsFault host args (.refused why)
  | notStarted {cause : String} : host.git args = .notStarted cause →
      IsFault host args (.notStarted cause)
  | notText : host.git args = .notText → IsFault host args .notText
  | nullCharacter : args.any Text.hasNull = true → IsFault host args .nullCharacter

variable {host : Host Id} {repository : Path} {args : List String} {revision path : String}

end Git
end PatchReview
