import PatchReview.Path
import PatchReview.Text.Case

/-! The language of a file, told from the ending of its name. -/
namespace PatchReview.Language

/-- The language of files with no known ending. -/
def unknown : String := "unknown"

/-- The language of each ending. -/
def ofEnding : List (String × String) := [
    ("js", "javascript"), ("jsx", "javascript"), ("mjs", "javascript"), ("cjs", "javascript"),
    ("ts", "typescript"), ("tsx", "typescript"), ("py", "python"), ("java", "java"),
    ("go", "go"), ("rb", "ruby"), ("php", "php"), ("cs", "csharp"), ("cpp", "cpp"), ("c", "c"),
    ("rs", "rust"), ("swift", "swift"), ("kt", "kotlin"), ("md", "markdown"), ("json", "json"),
    ("yaml", "yaml"), ("yml", "yaml"), ("xml", "xml"), ("html", "html"), ("css", "css"),
    ("scss", "scss"), ("sql", "sql"), ("sh", "shell"), ("bash", "shell")]

/-- JavaScript and its typed relative. -/
def isScriptFamily (language : String) : Bool :=
  language == "javascript" || language == "typescript"

/-- The language of the file at a path. Backslashes count as slashes, and letter case does not
count. -/
def ofPath (path : String) : String :=
  let slashed := String.ofList (Text.replace '\\' '/' path.toList)
  let ending := (Text.lower (Path.ofString slashed).ending).dropWhile (· == '.')
  (ofEnding.lookup (String.ofList ending)).getD unknown

end PatchReview.Language
