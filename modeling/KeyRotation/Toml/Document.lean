import KeyRotation.Toml.Lexeme

/-! The lines of a TOML document and the table that they build up, into some of whose tables a
later line may still reach. A table with a header of its own is opened once; one that a longer
header implies may still get its own; one that a dotted key implies takes more dotted keys and no
header. An inline table is a value, which nothing is added to. -/
namespace KeyRotation.Toml

inductive Origin where
  | header
  | implied
  | dotted
  deriving DecidableEq, Repr

/-- `tables` holds the elements of an array of tables, the latest first. -/
inductive Item where
  | value (value : Value)
  | table (origin : Origin) (entries : List (String × Item))
  | tables (elements : List (List (String × Item)))

structure Tree where
  origin : Origin
  entries : List (String × Item)

namespace Tree

def empty : Tree := ⟨.header, []⟩

def put (key : String) (item : Item) (entries : List (String × Item)) : List (String × Item) :=
  (key, item) :: entries.filter (·.1 != key)

/-- Change the table that a path leads to. Tables that are not there yet are implied, by a
dotted key or by a header; a dotted key leads into implied tables only, and a header into
the latest element of an array of tables. -/
def within (byKey : Bool) (change : Tree → Option Tree) : List String → Tree → Option Tree
  | [], tree => change tree
  | key :: path, tree =>
    let inside (item : Tree → Item) (below : Tree) : Option Tree :=
      (within byKey change path below).map fun below =>
        { tree with entries := put key (item below) tree.entries }
    match tree.entries.lookup key with
    | none =>
      inside (fun below => .table below.origin below.entries)
        ⟨if byKey then .dotted else .implied, []⟩
    | some (.value _) | some (.tables []) => none
    | some (.table origin entries) =>
      if byKey ∧ origin = .header then none
      else inside (fun below => .table below.origin below.entries) ⟨origin, entries⟩
    | some (.tables (latest :: earlier)) =>
      inside (fun below => .tables (below.entries :: earlier)) ⟨.header, latest⟩

/-- A new key. Only a dotted key adds to a table that dotted keys imply, and it adds to no
other but the one it stands in. -/
def add? (dotted : Bool) (key : String) (value : Value) (tree : Tree) : Option Tree :=
  if dotted ≠ decide (tree.origin = .dotted) then none
  else
    match tree.entries.lookup key with
    | some _ => none
    | none => some { tree with entries := put key (.value value) tree.entries }

/-- Assign a value to a key, in the table that a header opened. -/
def assign? (header path : List String) (value : Value) (tree : Tree) : Option Tree :=
  match path.getLast? with
  | none => none
  | some key =>
    let parents := path.dropLast
    tree |> within false (within true (add? (!parents.isEmpty) key value) parents) header

def open? (path : List String) (tree : Tree) : Option Tree :=
  match path.getLast? with
  | none => none
  | some key =>
    tree |> within false (fun parent =>
      match parent.entries.lookup key with
      | none => some { parent with entries := put key (.table .header []) parent.entries }
      | some (.table .implied entries) =>
        some { parent with entries := put key (.table .header entries) parent.entries }
      | some _ => none) path.dropLast

def extend? (path : List String) (tree : Tree) : Option Tree :=
  match path.getLast? with
  | none => none
  | some key =>
    tree |> within false (fun parent =>
      match parent.entries.lookup key with
      | none => some { parent with entries := put key (.tables [[]]) parent.entries }
      | some (.tables elements) =>
        some { parent with entries := put key (.tables ([] :: elements)) parent.entries }
      | some _ => none) path.dropLast

mutual

def valueOf : Item → Value
  | .value value => value
  | .table _ entries => .table (valuesOf entries)
  | .tables elements => .array (arrayOf elements [])

def valuesOf : List (String × Item) → Entries
  | [] => []
  | (key, item) :: entries => (key, valueOf item) :: valuesOf entries

def arrayOf : List (List (String × Item)) → List Value → List Value
  | [], later => later
  | entries :: elements, later => arrayOf elements (.table (valuesOf entries) :: later)

end

def values (tree : Tree) : Entries := valuesOf tree.entries

end Tree

open Text (Scan after? many separated)

structure Pair where
  path : List String
  value : Value

inductive Line where
  | pair (pair : Pair)
  | table (path : List String)
  | element (path : List String)

def pair (value : Scan Value) : Scan Pair := fun cs => do
  let (path, cs) ← keyPath cs
  let cs ← after? ['='] cs
  let (value, cs) ← value (skipSpace cs)
  pure (⟨path, value⟩, cs)

def array (value : Scan Value) : Scan Value := fun cs => do
  let item : Scan Value := fun cs => do
    let (value, cs) ← value (skipBlank cs)
    pure (value, skipBlank cs)
  let (items, cs) := match separated [','] item cs with
    | some (items, cs) => (items, (after? [','] cs).getD cs)
    | none => ([], cs)
  let cs ← after? [']'] (skipBlank cs)
  pure (.array items, cs)

def inlineTable (value : Scan Value) : Scan Value := fun cs => do
  let entry : Scan Pair := fun cs => do
    let (entry, cs) ← pair value cs
    pure (entry, skipSpace cs)
  let (entries, cs) := (separated [','] entry cs).getD ([], cs)
  let cs ← after? ['\x7d'] (skipSpace cs)
  let table ← entries.foldlM (fun table entry => table.assign? [] entry.path entry.value) Tree.empty
  pure (.table table.values, cs)

/-- A value with so many levels of values below it. -/
def value : Nat → Scan Value
  | depth, cs =>
    match depth, cs with
    | 0, '[' :: _ | 0, '\x7b' :: _ => none
    | depth + 1, '[' :: cs => array (value depth) cs
    | depth + 1, '\x7b' :: cs => inlineTable (value depth) cs
    | _, cs@('"' :: _) | _, cs@('\'' :: _) =>
      ((longText cs).or (lineText cs)).map fun (text, rest) => (.text text, rest)
    | _, cs =>
      match after? "true".toList cs, after? "false".toList cs with
      | some rest, _ => some (.boolean true, rest)
      | _, some rest => some (.boolean false, rest)
      | none, none => number cs

def header (cs : List Char) : Option (Line × List Char) :=
  match cs with
  | '[' :: '[' :: cs => do
    let (path, cs) ← keyPath cs
    let cs ← after? "]]".toList cs
    pure (.element path, cs)
  | '[' :: cs => do
    let (path, cs) ← keyPath cs
    let cs ← after? [']'] cs
    pure (.table path, cs)
  | _ => none

/-- One line with what it says, if it says anything; comments and blank lines do not. -/
def line : Scan (Option Line) := fun cs =>
  match skipSpace cs with
  | [] => none
  | '#' :: cs => (closeLine? ('#' :: cs)).map (none, ·)
  | '\n' :: cs => some (none, cs)
  | '\r' :: cs => (lineEnd? ('\r' :: cs)).map (none, ·)
  | '[' :: cs => do
    let (line, cs) ← header ('[' :: cs)
    let cs ← closeLine? cs
    pure (some line, cs)
  | cs => do
    let (pair, cs) ← pair (value (depthLimit - 1)) cs
    let cs ← closeLine? cs
    pure (some (.pair pair), cs)

/-- All lines of a document, which may begin with a byte order mark. -/
def lines? (text : String) : Option (List Line) :=
  let cs := match text.toList with
    | '\ufeff' :: cs => cs
    | cs => cs
  let (lines, rest) := many line cs
  if (skipSpace rest).isEmpty then some (lines.filterMap id) else none

/-- What the lines read so far make: the table, and the path of the latest header. -/
structure Draft where
  tree : Tree := .empty
  header : List String := []

def Draft.next? (draft : Draft) : Line → Option Draft
  | .pair pair =>
    (draft.tree.assign? draft.header pair.path pair.value).map fun tree => { draft with tree }
  | .table path => (draft.tree.open? path).map fun tree => ⟨tree, path⟩
  | .element path => (draft.tree.extend? path).map fun tree => ⟨tree, path⟩

def read? (text : String) : Option Entries := do
  let lines ← lines? text
  let draft ← lines.foldlM Draft.next? {}
  pure draft.tree.values

end KeyRotation.Toml
