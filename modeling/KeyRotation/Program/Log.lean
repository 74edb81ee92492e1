import KeyRotation.Config
import KeyRotation.Decimal
import KeyRotation.Text.Basic
import KeyRotation.Text.Unicode

/-! The log of a process: where its lines go, and which of them. A filter is a list of directives
with commas between them; of the directives for an event the most specific one settles up to which
level it is let through. The words of a line are not modelled, only where it comes from and its
level, so a pattern for values is checked and never matched. -/
namespace KeyRotation

namespace Log.Pattern

/-- Where the reading stands: in so many groups and classes, and behind something that may
be repeated or not. -/
structure Place where
  groups : Nat := 0
  classes : Nat := 0
  repeatable : Bool := false
  deriving DecidableEq, Repr

def numbered? (digits : List Char) : Option Char :=
  let n := Text.hexadecimal digits
  if digits.all (fun c => (Text.hexDigit? c).isSome) ∧ n.isValidChar then some (Char.ofNat n)
  else none

/-- What follows a backslash: a character, which may be told by its number, or one of the
two ends of the text. The classes of letters, digits and spaces are not known, nor are the
ends of words. -/
def escape? : List Char → Option (Option Char × List Char)
  | 'x' :: a :: b :: cs => (numbered? [a, b]).map fun c => (some c, cs)
  | 'u' :: a :: b :: c :: d :: cs => (numbered? [a, b, c, d]).map fun c => (some c, cs)
  | 'U' :: a :: b :: c :: d :: e :: f :: g :: h :: cs =>
    (numbered? [a, b, c, d, e, f, g, h]).map fun c => (some c, cs)
  | 'a' :: cs => some (some '\x07', cs)
  | 'f' :: cs => some (some '\x0c', cs)
  | 'n' :: cs => some (some '\n', cs)
  | 'r' :: cs => some (some '\r', cs)
  | 't' :: cs => some (some '\t', cs)
  | 'v' :: cs => some (some '\x0b', cs)
  | 'A' :: cs | 'z' :: cs => some (none, cs)
  | c :: cs =>
    if 0x80 ≤ c.toNat ∨ c.isAlphanum ∨ c = '<' ∨ c = '>' then none else some (some c, cs)
  | [] => none

/-- Letters for ways of matching, each once; those after a hyphen are switched off. Letters
are never matched in both cases. -/
def areFlags (cs : List Char) : Bool :=
  cs.all "imsuxRU-".toList.contains && cs.eraseDups.length == cs.length
    && cs.getLast? != some '-' && !(cs.takeWhile (· != '-')).contains 'i'

def isGroupName : List Char → Bool
  | [] => false
  | c :: cs =>
    (c.isAlpha || c == '_') && cs.all fun c => c.isAlphanum || "_.[]".toList.contains c

def group? : List Char → Option (Bool × List Char)
  | '?' :: 'P' :: '<' :: cs | '?' :: '<' :: cs =>
    let (name, rest) := Text.run (· != '>') cs
    if !rest.isEmpty && isGroupName name then some (true, rest.drop 1) else none
  | '?' :: cs =>
    let (flags, rest) := Text.run (fun c => c != ':' && c != ')') cs
    match rest with
    | ':' :: rest => if areFlags flags then some (true, rest) else none
    | ')' :: rest => if areFlags flags ∧ !flags.isEmpty then some (false, rest) else none
    | _ => none
  | cs => some (true, cs)

/-- A bracket that closes a class is a plain character at its beginning, and so are hyphens. -/
def classStart (cs : List Char) : List Char :=
  let cs := match cs with
    | '^' :: cs => cs
    | cs => cs
  match cs with
  | ']' :: cs => cs
  | cs => cs.dropWhile (· == '-')

def member? : List Char → Option (Char × List Char)
  | '\\' :: cs => (escape? cs).bind fun (c, rest) => c.map (·, rest)
  | c :: cs => some (c, cs)
  | [] => none

def members? (cs : List Char) : Option (List Char) :=
  (member? cs).bind fun (first, rest) =>
    match rest with
    | '-' :: ']' :: _ | '-' :: '-' :: _ => some rest
    | '-' :: rest =>
      (member? rest).bind fun (last, rest) => if first ≤ last then some rest else none
    | rest => some rest

def step (place : Place) (cs : List Char) : Option (Place × List Char) :=
  if 0 < place.classes then
    match cs with
    | '[' :: cs => some ({ place with classes := place.classes + 1 }, classStart cs)
    | ']' :: cs =>
      some ({ place with classes := place.classes - 1, repeatable := true }, cs)
    | '&' :: '&' :: cs | '-' :: '-' :: cs | '~' :: '~' :: cs => some (place, cs)
    | cs => (members? cs).map (place, ·)
  else
    match cs with
    | '(' :: cs => (group? cs).map fun (begins, rest) =>
      ({ place with
          groups := if begins then place.groups + 1 else place.groups
          repeatable := false }, rest)
    | ')' :: cs =>
      if place.groups = 0 then none
      else some ({ place with groups := place.groups - 1, repeatable := true }, cs)
    | '|' :: cs => some ({ place with repeatable := false }, cs)
    | '*' :: cs | '+' :: cs | '?' :: cs => if place.repeatable then some (place, cs) else none
    | '\x7b' :: _ => none
    | '[' :: cs => some ({ place with classes := 1 }, classStart cs)
    | '\\' :: cs => (escape? cs).map fun (_, rest) => ({ place with repeatable := true }, rest)
    | _ :: cs => some ({ place with repeatable := true }, cs)
    | [] => none

/-- A text is a pattern if every group and class in it is closed. A number of repetitions
would need a closing brace, and no value has one. -/
def isPattern (text : String) : Bool :=
  (Text.steps step {} text.toList).any fun place => place.groups == 0 && place.classes == 0

end Log.Pattern

namespace Log

inductive Level where
  | off
  | error
  | warn
  | info
  | debug
  | trace
  deriving DecidableEq, Repr

namespace Level

def rank : Level → Nat
  | .off => 0
  | .error => 1
  | .warn => 2
  | .info => 3
  | .debug => 4
  | .trace => 5

def name : Level → String
  | .off => "off"
  | .error => "error"
  | .warn => "warn"
  | .info => "info"
  | .debug => "debug"
  | .trace => "trace"

def all : List Level := [.off, .error, .warn, .info, .debug, .trace]

def ofText? (text : String) : Option Level :=
  match Text.uint64? text with
  | some n => all.find? (·.rank == n.toNat)
  | none => all.find? (·.name == String.ofList (text.toList.map Char.toLower))

end Level

/-- One line for the log, without its words: the part of the program it comes from, its
level and the names of its fields. -/
structure Event where
  source : String
  level : Level
  fields : List String := ["message"]
  deriving DecidableEq, Repr

structure Field where
  name : String
  value : Option String
  deriving DecidableEq, Repr

/-- Events whose source begins with `scope` are let through up to a level. -/
structure Directive where
  scope : Option String := none
  span : Option String := none
  field : Option Field := none
  level : Level := .trace
  deriving DecidableEq, Repr

/-- Why a text is no directive: it has another form, or one of its parts would begin or end
inside a character. -/
inductive Flaw where
  | unsound
  | torn
  deriving DecidableEq, Repr

namespace Field

def ofText (text : String) : Field :=
  match text.splitOn "=" with
  | name :: value :: _ => ⟨name, some value⟩
  | _ => ⟨text, none⟩

def isNumeral (value : String) : Bool :=
  (Decimal.Binary64.ofText? value).isSome || String.ofList (value.toList.map Char.toLower) == "+nan"

def isSound (field : Field) : Bool :=
  field.value.all fun value => isNumeral value || Pattern.isPattern value

end Field

namespace Directive

def beginsScope (c : Char) : Bool :=
  Text.isAlphanumeric c || c == '-' || c == ':' || c == '_'

def levelOf (text : String) : Except Flaw Level :=
  if text = "" then .ok .trace
  else
    match Level.ofText? text with
    | some level => .ok level
    | none => .error .unsound

/-- A level, or a scope, a span in brackets with a field in braces, and a level after an
equals sign, each of which may be missing. The parts are found in the text without the
space around it, and what stands at their places in the whole text is taken, so that space
in front moves every part. Places are told in bytes. -/
def ofText (text : String) : Except Flaw Directive :=
  let whole := text.toList
  let cs := Text.trimChars whole
  let place (rest : List Char) : Nat := Text.byteSize cs - Text.byteSize rest
  let slice (start stop : Nat) : Except Flaw String :=
    match Text.between? start stop whole with
    | some part => .ok (String.ofList part)
    | none => .error .torn
  let upTo (stops rest : List Char) : List Char := rest.dropWhile fun c => !stops.contains c
  let closed (directive : Directive) (rest : List Char) : Except Flaw Directive :=
    match rest with
    | [] => .ok directive
    | '=' :: rest => do
      let level ← levelOf (← slice (place rest) (Text.byteSize whole))
      pure { directive with level }
    | _ => .error .unsound
  let bracketed (scope : Option String) (rest : List Char) : Except Flaw Directive :=
    match upTo [']', '\x7b'] rest with
    | ']' :: after => do
      let span ← slice (place rest) (place (']' :: after))
      closed { scope, span := some span } after
    | '\x7b' :: after => do
      let span ← slice (place rest) (place ('\x7b' :: after))
      let span := if span = "" then none else some span
      match upTo ['\x7d'] after with
      | '\x7d' :: behind =>
        let text ← slice (place after) (place ('\x7d' :: behind))
        let field := Field.ofText text
        if text = "" ∨ !field.isSound then .error .unsound
        else
          match behind with
          | ']' :: behind => closed { scope, span, field := some field } behind
          | _ => .error .unsound
      | _ => .error .unsound
    | _ => .error .unsound
  match cs with
  | [] => .error .unsound
  | '[' :: rest => bracketed none rest
  | c :: _ =>
    if !beginsScope c then .error .unsound
    else
      match upTo ['=', '['] cs with
      | [] =>
        match Level.ofText? text with
        | some level => .ok { level }
        | none => .ok { scope := some text }
      | '=' :: rest => do
        let scope ← slice 0 (place ('=' :: rest))
        closed { scope := some scope } ('=' :: rest)
      | _ :: rest => do
        let scope ← slice 0 (place ('[' :: rest))
        bracketed (some scope) rest

/-- A directive for spans, or for values, concerns no event by itself. -/
def concerns (directive : Directive) (event : Event) : Bool :=
  directive.span.isNone
    && directive.scope.all (fun scope => scope.toList.isPrefixOf event.source.toList)
    && directive.field.all (fun field => field.value.isNone && event.fields.contains field.name)

def reach (directive : Directive) : Nat := directive.scope.elim 0 (·.length + 1)

/-- A directive gives way to one that names more of the source, then to one that names a
field, the greater name before the lesser, and to a later one that is no less specific. -/
def givesWay (earlier later : Directive) : Bool :=
  earlier.reach < later.reach
    || (earlier.reach == later.reach
      && match earlier.field, later.field with
        | none, _ => true
        | some _, none => false
        | some a, some b => !decide (b.name < a.name))

end Directive

abbrev Filter := List Directive

namespace Filter

/-- Without a directive only errors are let through. -/
def orErrors (filter : Filter) : Filter := if filter.isEmpty then [{ level := .error }] else filter

def parts (text : String) : List String := (text.splitOn ",").filter (· ≠ "")

def strict (text : String) : Except Flaw Filter := do
  let filter ← (parts text).mapM Directive.ofText
  pure (orErrors filter)

def sound : List (Except Flaw Directive) → Except Flaw Filter
  | [] => .ok []
  | .ok directive :: rest => (sound rest).map (directive :: ·)
  | .error .unsound :: rest => sound rest
  | .error .torn :: _ => .error .torn

def lenient (text : String) : Except Flaw Filter :=
  (sound ((parts text).map Directive.ofText)).map orErrors

def settling? (filter : Filter) (event : Event) : Option Directive :=
  (filter.filter (·.concerns event)).foldl
    (fun best directive =>
      match best with
      | none => some directive
      | some best => some (if best.givesWay directive then directive else best))
    none

def admits (filter : Filter) (event : Event) : Bool :=
  (filter.settling? event).any fun directive => event.level.rank ≤ directive.level.rank

end Filter
end Log

structure Log where
  path : String
  filter : Log.Filter
  deriving DecidableEq, Repr

namespace Log

def storePart : String := "vault_rekey::store"

def authorityPart : String := "vault_rekey::authority"

def migrationPart : String := "vault_rekey::migrate"

def purging : Event := { source := storePart, level := .debug }

def purged : Event := { source := storePart, level := .info }

def connectionFields : List String :=
  ["message", "log.target", "log.module_path", "log.file", "log.line"]

def clientMade : List Event := [⟨"reqwest::blocking::client", .trace, connectionFields⟩]

def waiting : List Event := [⟨"reqwest::blocking::wait", .trace, connectionFields⟩]

def connecting : List Event := [
  { source := "hyper_util::client::legacy::pool", level := .trace },
  ⟨"reqwest::connect", .debug, connectionFields⟩,
  { source := "hyper_util::client::legacy::connect::http", level := .trace },
  { source := "hyper_util::client::legacy::connect::http", level := .debug }]

def isErrorOutput (target : String) : Bool :=
  target == "stderr" || target == "syslog" || target == ""

/-- A variable overrules the configured level, unless it is unsound. No process gets past a
directive that is torn. -/
def filterOf (environment : Config.Environment) (level : String) : Except Fault Filter :=
  match (environment.lookup "RUST_LOG").map Filter.strict with
  | some (.ok filter) => .ok filter
  | some (.error .torn) => .error .crashed
  | _ => (Filter.lenient level).mapError fun _ => .crashed

/-- Open the log. A log file is created even if nothing is let through. -/
def opened (files : Files) (environment : Config.Environment) (config : Config.Log) :
    Except Fault (Option Log × Files) :=
  match filterOf environment config.level with
  | .error fault => .error fault
  | .ok filter =>
    if isErrorOutput config.target then .ok (none, files)
    else
      match files.append config.target [] with
      | .error _ => .error .io
      | .ok files => .ok (some ⟨config.target, filter⟩, files)

def line (event : Event) : List UInt8 :=
  (event.level.name ++ " " ++ event.source ++ "\n").toUTF8.toList

def write (log : Log) (files : Files) (event : Event) : Files :=
  if log.filter.admits event then (files.append log.path (line event)).toOption.getD files
  else files

end Log
end KeyRotation
