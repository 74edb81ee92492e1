import KeyRotation.Fault
import KeyRotation.Store

/-! The files and directories around a process, by their paths from the directory it
works in. -/
namespace KeyRotation

inductive Content where
  | bytes (content : List UInt8)
  | database (store : Store)
  deriving DecidableEq, Repr

/-- The names on the way to a file or directory, from the directory a process works in or,
if the first of them is a slash, from the root. Two points at the beginning lead to the
directories around, of which only the names from here are known. -/
abbrev FilePath := List String

namespace FilePath

def ofText (path : String) : FilePath :=
  (if path.startsWith "/" then ["/"] else [])
    ++ (path.splitOn "/").filter fun name => name ≠ "" && name ≠ "."

def start (path : String) : FilePath := if path.startsWith "/" then ["/"] else []

/-- A directory that the one a process works in lies in, or that directory itself. -/
def isAround (path : FilePath) : Bool := path.all (· == "..")

def parent (path : FilePath) : FilePath :=
  if path = ["/"] then path else if path.isAround then path ++ [".."] else path.dropLast

end FilePath

def longestName : Nat := 255

def pathLimit : Nat := 4096

/-- A file's directories are there with it. -/
structure Files where
  files : List (FilePath × Content) := []
  directories : List FilePath := []
  deriving DecidableEq, Repr

/-- What a path leads to. `vacant` is a name without a file, in a directory that is
there. -/
inductive Place where
  | file (path : FilePath) (content : Content)
  | directory
  | vacant (path : FilePath)

namespace Files

def isDirectory (files : Files) (path : FilePath) : Bool :=
  path.isAround || path == ["/"] || files.directories.any (path.isPrefixOf ·)
    || files.files.any fun (file, _) => path.isPrefixOf file && file != path

/-- Follow names from a directory. A step back leaves the directory that the names before
it lead to, so these have to be there. -/
def follow (files : Files) (directory : FilePath) : List String → Except FileFault Place
  | [] => .ok .directory
  | name :: names =>
    if name = "" ∨ name = "." then follow files directory names
    else if name = ".." then follow files directory.parent names
    else if longestName < name.utf8ByteSize then .error .nameTooLong
    else
      let path := directory ++ [name]
      if files.isDirectory path then follow files path names
      else
        match files.files.lookup path, names with
        | some content, [] => .ok (.file path content)
        | some _, _ :: _ => .error .notDirectory
        | none, [] => .ok (.vacant path)
        | none, _ :: _ => .error .notFound

def find (files : Files) (path : String) : Except FileFault Place :=
  if path.contains '\x00' then .error .nullInName
  else if path = "" then .error .notFound
  else if pathLimit ≤ path.utf8ByteSize then .error .nameTooLong
  else follow files (.start path) (path.splitOn "/")

def readText (files : Files) (path : String) : Except FileFault String :=
  match files.find path with
  | .ok (.file _ (.bytes bytes)) =>
    match String.fromUTF8? ⟨bytes.toArray⟩ with
    | some text => .ok text
    | none => .error .notText
  | .ok (.file _ (.database _)) => .error .notText
  | .ok .directory => .error .isDirectory
  | .ok (.vacant _) => .error .notFound
  | .error fault => .error fault

def put (files : Files) (path : FilePath) (content : Content) : Files :=
  { files with files := (path, content) :: files.files.filter (·.1 != path) }

def append (files : Files) (path : String) (bytes : List UInt8) : Except FileFault Files :=
  match files.find path with
  | .ok (.file path (.bytes before)) => .ok (files.put path (.bytes (before ++ bytes)))
  | .ok (.file _ (.database _)) => .ok files
  | .ok .directory => .error .isDirectory
  | .ok (.vacant path) => .ok (files.put path (.bytes bytes))
  | .error fault => .error fault

end Files
end KeyRotation
