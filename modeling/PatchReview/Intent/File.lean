import PatchReview.Intent.Strictness
import PatchReview.Path
import PatchReview.Text.Case
import PatchReview.Text.Digit

/-! The role of a file in a change, told from its path and from marker comments in its text. The
role decides which findings are accepted in the file and how strictly it is reviewed. -/
namespace PatchReview

/-- The role of a file. -/
inductive FileType where
  | production
  | test
  | mock
  | config
  | migration
  | script
  | types
  | build
deriving DecidableEq

/-- What a file says of itself. -/
inductive FilePurpose where
  | debug
  | experimental
deriving DecidableEq

/-- The review limits of a kind of file. -/
structure FileProfile where
  /-- Names of findings and rules that are accepted in the file. -/
  allowed : List String
  strictness : Strictness
  maxFunctionLength : Nat
  maxComplexity : Nat

/-- The role of one file. -/
structure FileIntent where
  path : String
  type : FileType
  purpose : Option FilePurpose
  profile : FileProfile

namespace FileType

def name : FileType → String
  | production => "production"
  | test => "test"
  | mock => "mock"
  | config => "config"
  | migration => "migration"
  | script => "script"
  | types => "types"
  | build => "build"

def profile : FileType → FileProfile
  | production => ⟨[], .strict, 50, 10⟩
  | test =>
    ⟨["console.log", "console.debug", "magic-numbers", "any-type", "mock-data",
      "hardcoded-values"], .lenient, 100, 15⟩
  | mock =>
    ⟨["console.log", "magic-numbers", "unused-variables", "hardcoded-values"], .lenient, 150, 20⟩
  | config => ⟨["magic-numbers", "no-validation", "hardcoded-values"], .moderate, 200, 5⟩
  | migration => ⟨["raw-sql", "no-rollback", "magic-numbers"], .moderate, 200, 15⟩
  | script => ⟨["console.log", "process.exit", "magic-numbers"], .lenient, 100, 12⟩
  | types => ⟨["no-implementation", "any-type"], .strict, 50, 5⟩
  | build => ⟨["magic-numbers", "require-calls"], .moderate, 150, 15⟩

end FileType

namespace FilePurpose

def name : FilePurpose → String
  | debug => "debug"
  | experimental => "experimental"

end FilePurpose

namespace FileIntent

/-- The path in lower case with slashes for backslashes. -/
def normalizedPath (path : String) : List Char :=
  Text.replace '\\' '/' (Text.lower path.toList)

/-- The text without one line feed at its end. -/
def dropFinalNewline (s : List Char) : List Char :=
  if s.getLast? = some '\n' then s.dropLast else s

/-- Whether a text ends with `"." ++ stem ++ "." ++ ending` for one of the stems and one of the
endings. One line feed at the end does not count. -/
def hasDoubleEnding (stems endings : List String) (s : List Char) : Bool :=
  stems.any fun stem => endings.any fun ending =>
    ('.' :: stem.toList ++ '.' :: ending.toList).isSuffixOf (dropFinalNewline s)

/-- Test suites: `x.test.js` and the like, files in a folder of tests, and the names that the
test runners of two languages look for. -/
def isTest (path : List Char) : Bool :=
  let name := (Path.ofString (String.ofList path)).name.toList
  hasDoubleEnding ["test", "spec"] ["js", "ts", "jsx", "tsx", "py", "java", "go", "rb"] path
    || Text.occursAny ["__tests__/", "/tests/"] path
    || "tests/".toList.isPrefixOf path
    || ("test_".toList.isPrefixOf name && ".py".toList.isSuffixOf name)
    || "_test.py".toList.isSuffixOf name
    || "_test.go".toList.isSuffixOf name

def isMock (path : List Char) : Bool := Text.occursAny ["__mocks__/", "__fixtures__/"] path

/-- Run-control files: small letters that end in `rc`, perhaps behind a dot, and an ending. -/
def isRunControl (path : List Char) : Bool :=
  let s := dropFinalNewline path
  ["js", "json", "yaml", "yml"].any fun ending =>
    let tail := "rc.".toList ++ ending.toList
    tail.isSuffixOf s &&
      match s.take (s.length - tail.length) with
      | '.' :: stem => stem.all Char.isLower
      | stem => stem.all Char.isLower

def isConfig (path : List Char) : Bool :=
  isRunControl path
    || hasDoubleEnding ["config", "conf"] ["js", "ts", "json"] path
    || Text.startsWithAny ["config/", "configuration/"] path
    || path == ".env".toList
    || ".env.example".toList.isSuffixOf path

/-- Whether the text starts with digits and underscores in the places where `shape` has digits
and underscores, and what follows. -/
def afterShape : List Char → List Char → Option (List Char)
  | [], s => some s
  | _ :: _, [] => none
  | p :: shape, c :: s =>
    if (if p = '_' then c = '_' else Text.isDigit c) then afterShape shape s else none

/-- Whether a date such as `2024_01_31_` stands somewhere in the text with one of the endings of
a migration behind it in its line. -/
def hasDatedMigration : List Char → Bool
  | [] => false
  | c :: rest =>
    (match afterShape "0000_00_00_".toList (c :: rest) with
      | some behind => Text.occursAny [".js", ".sql", ".py"] (behind.takeWhile (· != '\n'))
      | none => false)
    || hasDatedMigration rest

def isMigration (path : List Char) : Bool :=
  Text.occursAny ["/migrations/", "/migrate/"] path || hasDatedMigration path

def isScript (path : List Char) : Bool :=
  Text.startsWithAny ["script/", "scripts/"] path
    || [".sh", ".bash"].any fun e => e.toList.isSuffixOf (dropFinalNewline path)

def isTypes (path : List Char) : Bool :=
  ".d.ts".toList.isSuffixOf path || Text.occurs "/types/".toList path

def isBuild (path : List Char) : Bool :=
  Text.startsWithAny ["webpack.", "vite.", "rollup.", "babel."] path

/-- The tests for the roles, the most specific first. The first that succeeds decides. -/
def roleTests : List ((List Char → Bool) × FileType) := [
    (isTest, .test), (isMock, .mock), (isConfig, .config), (isMigration, .migration),
    (isScript, .script), (isTypes, .types), (isBuild, .build)]

def typeOf (path : String) : FileType :=
  match roleTests.find? fun t => t.1 (normalizedPath path) with
  | some t => t.2
  | none => .production

/-- What a file says of itself: a marker comment for debugging, else one for an experiment or a
path that speaks of one. A file without text says nothing. -/
def purposeOf (path content : String) : Option FilePurpose :=
  let s := content.toList
  if s.isEmpty then none
  else if Text.occursAny ["// DEBUG", "// TEMPORARY", "# DEBUG", "# TEMPORARY"] s then some .debug
  else if Text.occursAny ["// EXPERIMENTAL", "# EXPERIMENTAL"] s
      || Text.occurs "experiment".toList path.toList then some .experimental
  else none

/-- The role of a file with a path and a text. -/
def classify (path content : String) : FileIntent :=
  let type := typeOf path
  ⟨path, type, purposeOf path content, type.profile⟩

/-- Whether findings of this name are accepted in the file. -/
def allows (intent : FileIntent) (name : String) : Bool := intent.profile.allowed.contains name

end FileIntent
end PatchReview
