import KeyRotation.Files
import KeyRotation.Text.Basic

/-! How a database is opened by its name. A name is a path, or an address that begins with
`file:` and may have options behind a question mark. -/
namespace KeyRotation

inductive Access where
  | readOnly
  | readWrite
  | create
  | memory
  deriving DecidableEq, Repr

namespace Access

def all : List Access := [.readOnly, .readWrite, .create, .memory]

def name : Access → String
  | .readOnly => "ro"
  | .readWrite => "rw"
  | .create => "rwc"
  | .memory => "memory"

def grants : Access → Nat
  | .readOnly => 1
  | .readWrite => 2
  | .create => 6
  | .memory => 128

def asks : Access → Nat
  | .memory => 0
  | access => access.grants

end Access

structure DatabaseName where
  path : String
  options : List (String × String) := []
  deriving DecidableEq, Repr

namespace DatabaseName

/-- The bytes of a part of an address. A percent sign and two digits stand for a byte; where
that byte is null, the rest of the part is dropped. -/
def bytesOf : List Char → List UInt8
  | [] => []
  | '%' :: a :: b :: cs =>
    match Text.hexDigit? a, Text.hexDigit? b with
    | some high, some low =>
      if high = 0 ∧ low = 0 then [] else UInt8.ofNat (16 * high + low) :: bytesOf cs
    | _, _ => 0x25 :: bytesOf (a :: b :: cs)
  | c :: cs => (String.singleton c).toUTF8.toList ++ bytesOf cs

def decoded (cs : List Char) : String := String.ofList (Text.Utf8.decode (bytesOf cs))

def split (separator : Char) : List Char → List (List Char)
  | [] => [[]]
  | c :: cs =>
    if c = separator then [] :: split separator cs
    else
      match split separator cs with
      | [] => [[c]]
      | part :: parts => (c :: part) :: parts

def optionOf (cs : List Char) : String × String :=
  let (name, value) := Text.run (· != '=') cs
  (decoded name, decoded (value.drop 1))

def afterHost? (cs : List Char) : Option (List Char) :=
  match Text.after? ['/', '/'] cs with
  | none => some cs
  | some cs =>
    let (host, cs) := Text.run (· != '/') cs
    if host = [] ∨ host = "localhost".toList then some cs else none

/-- A name that begins with `file:` is an address. What follows a number sign does not
count, nor does an option without a name. -/
def ofText? (text : String) : Option DatabaseName :=
  match Text.after? "file:".toList text.toList with
  | none => some { path := text }
  | some cs =>
    (afterHost? cs).map fun cs =>
      let (path, query) := Text.run (· != '?') (cs.takeWhile (· != '#'))
      { path := decoded path
        options := ((split '&' (query.drop 1)).map optionOf).filter (·.1 ≠ "") }

/-- The access after one option. None may ask for more than what was granted before it. -/
def afterOption? (access : Access) (option : String × String) : Option Access :=
  if option.1 = "mode" then
    match Access.all.find? (·.name == option.2) with
    | none => none
    | some asked => if asked.asks ≤ access.grants then some asked else none
  else if option.1 = "cache" then
    if option.2 = "shared" ∨ option.2 = "private" then some access else none
  else some access

def fileEngines : List String := ["unix", "unix-none", "unix-dotfile", "unix-excl"]

def memoryEngine : String := "memdb"

/-- The access that the options come to; the last engine named has to be one there is. -/
def access? (name : DatabaseName) : Option Access :=
  (name.options.foldlM afterOption? .readWrite).bind fun access =>
    match (name.options.filter (·.1 == "vfs")).getLast? with
    | none => some access
    | some (_, engine) =>
      if fileEngines.contains engine then some access
      else if engine = memoryEngine then some .memory
      else none

/-- The number that a value begins with, in hexadecimal behind `0x`. One that needs more than
31 bits is taken for zero. -/
def number (cs : List Char) : Nat :=
  let decimal := Text.positional (cs.takeWhile Char.isDigit)
  let n := match cs with
    | '0' :: x :: cs =>
      let digits := cs.takeWhile fun c => (Text.hexDigit? c).isSome
      if (x = 'x' ∨ x = 'X') ∧ !digits.isEmpty then Text.hexadecimal digits else decimal
    | _ => decimal
  if n < 1 <<< 31 then n else 0

def isYes (value : String) : Bool :=
  if value.toList.head?.any Char.isDigit then number value.toList % 256 != 0
  else ["on", "yes", "true"].contains (String.ofList (value.toList.map Char.toLower))

/-- Nobody changes the file while it is open, this process included. -/
def isImmutable (name : DatabaseName) : Bool :=
  (name.options.lookup "immutable").any isYes

def isUnnamed (name : DatabaseName) : Bool := name.path == "" || name.path == ":memory:"

end DatabaseName

structure Database where
  store : Store
  file : Option FilePath := none
  writable : Bool := true
  deriving DecidableEq, Repr

namespace Database

def unkept : Database := { store := .blank }

end Database

namespace Files

/-- Follow names by what is written alone: a step back takes the name before it away, whether
or not that leads anywhere. Only a name below a file, or too long a name in a directory that
is there, leads nowhere. -/
def trace? (files : Files) (directory : FilePath) : List String → Option FilePath
  | [] => some directory
  | name :: names =>
    if name = "" ∨ name = "." then trace? files directory names
    else if name = ".." then trace? files directory.parent names
    else if (files.files.lookup directory).isSome then none
    else if longestName < name.utf8ByteSize ∧ files.isDirectory directory then none
    else trace? files (directory ++ [name]) names

/-- Open the database in a file. A file that is no database opens as one without tables. -/
def openFile (files : Files) (path : String) (access : Access) (immutable : Bool) :
    Except Fault Database :=
  match trace? files (.start path) (path.splitOn "/") with
  | none => .error .sql
  | some path =>
    match files.files.lookup path with
    | some content =>
      let store := match content with
        | .database store => store
        | .bytes _ => .blank
      .ok { store, file := some path, writable := access != .readOnly && !immutable }
    | none =>
      if access = .create ∧ files.isDirectory path.parent ∧ !files.isDirectory path then
        .ok .unkept
      else .error .sql

def openDatabase (files : Files) (text : String) : Except Fault Database :=
  match (DatabaseName.ofText? text).bind fun name => name.access?.map (name, ·) with
  | none => .error .sql
  | some (name, access) =>
    if text.contains '\x00' then .error .sql
    else if name.isUnnamed ∨ access = .memory then .ok .unkept
    else openFile files name.path access name.isImmutable

def saveDatabase (files : Files) (database : Database) (store : Store) : Files :=
  match database.file with
  | some path => files.put path (.database store)
  | none => files

end Files
end KeyRotation
