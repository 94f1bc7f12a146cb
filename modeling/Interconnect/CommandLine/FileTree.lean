/-!
# Directories in memory

The files of a directory and the directories inside it, for runs that touch no disk. What lies
outside the directory is not there.
-/
namespace Interconnect.CommandLine

/-- The names that lead to a place from the tree's own directory. -/
abbrev Place := List String

structure FileEntry where
  place : Place
  bytes : List UInt8

/-- Files, last written first, and the directories that hold them. -/
structure FileTree where
  directories : List Place := [[]]
  files : List FileEntry := []

namespace FileTree

def step? (dir : Place) (name : String) : Option Place :=
  if name = "" ∨ name = "." then some dir
  else if name = ".." then if dir.isEmpty then none else some dir.dropLast
  else some (dir ++ [name])

def enter? (t : FileTree) (dir : Place) (name : String) : Option Place :=
  (step? dir name).filter (· ∈ t.directories)

/-- The directory that a name leads to from a directory, made where it is missing. -/
def make? : FileTree × Place → String → Option (FileTree × Place)
  | (t, dir), name => do
    let dir ← step? dir name
    return ({ t with directories := dir :: t.directories }, dir)

/-- The directory names of a path from the tree's own directory, and the name of its file. -/
def names? (path : String) : Option (List String × String) :=
  if path.toList.head? = some '/' then none
  else
    let names := path.splitOn "/"
    some (names.dropLast, names.getLastD "")

/-- The tree with a file written and the directories made that its path needs. -/
def write? (t : FileTree) (path : String) (bytes : List UInt8) : Option FileTree := do
  let (directories, name) ← names? path
  let (made, dir) ← directories.foldlM make? (t, [])
  return { made with files := ⟨dir ++ [name], bytes⟩ :: made.files }

def read? (t : FileTree) (path : String) : Option (List UInt8) := do
  let (directories, name) ← names? path
  let dir ← directories.foldlM t.enter? []
  let file ← t.files.find? fun f => f.place = dir ++ [name]
  return file.bytes

/-- The tree with a file written, unless its path leads out of the tree. -/
def write (t : FileTree) (path : String) (bytes : List UInt8) : FileTree :=
  (t.write? path bytes).getD t

def read (t : FileTree) (path : String) : Except String (List UInt8) :=
  match t.read? path with
  | some bytes => .ok bytes
  | none => .error "No such file or directory"

end FileTree
end Interconnect.CommandLine
