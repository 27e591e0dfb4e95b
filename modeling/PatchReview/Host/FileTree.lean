import PatchReview.Host.Basic

/-! Trees of files, held in memory. -/
namespace PatchReview

/-- A tree of files below a directory. All paths are absolute and without `..`. -/
structure FileTree where
  root : Path
  files : List (Path × ByteArray) := []
  /-- Directories beside those that hold files. -/
  directories : List Path := []

namespace FileTree

/-- Whether a directory stands at a path: one of the tree, or one that holds it. -/
def isDirectory (t : FileTree) (parts : List String) : Bool :=
  parts.isPrefixOf t.root.parts
    || t.directories.any (parts.isPrefixOf ·.parts)
    || t.files.any fun (p, _) => parts.isPrefixOf p.parts && parts.length < p.parts.length

def at? (t : FileTree) (parts : List String) : Entry :=
  match t.files.find? (·.1.parts == parts) with
  | some (_, content) => .file content
  | none => if t.isDirectory parts then .directory else .missing

/-- What comes of a path that is too long, or that has a part which is. -/
def nameTooLong : Entry := .unreachable "[Errno 36] File name too long"

/-- Follows the parts of a path from the directory `done`. -/
def walk (t : FileTree) (done : List String) : List String → Entry
  | [] => t.at? done
  | part :: rest =>
    match t.at? done with
    | .directory =>
      if 255 < part.utf8ByteSize then nameTooLong
      else t.walk (if part = ".." then done.dropLast else done ++ [part]) rest
    | .file _ => .notADirectory
    | entry => entry

def entry (t : FileTree) (path : Path) : Entry :=
  if 4096 ≤ path.toString.utf8ByteSize then nameTooLong else t.walk [] path.parts

end FileTree
end PatchReview
