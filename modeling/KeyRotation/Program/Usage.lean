import KeyRotation.Text.Basic

/-! Arguments of a command line, by the options a program declares. Arguments are taken from
the left: the first that is not understood refuses them all, and a call for help counts as
soon as it is read. -/
namespace KeyRotation.Usage

structure Switch where
  short : Option Char := none
  long : String
  value : Option String := none
  help : String
  deriving DecidableEq, Repr

inductive Parsed (α : Type) where
  | run (value : α)
  | shown (text : String)
  | refused

/-- An argument as it is understood. A word leaves it to the program how to go on. -/
inductive Event where
  | option (long : String) (value : Option String)
  | word (text : String) (rest : List String)
  | refused
  deriving DecidableEq, Repr

def helpSwitch : Switch := { short := some 'h', long := "help", help := "Print help" }

def versionSwitch : Switch := { short := some 'V', long := "version", help := "Print version" }

def isValue (argument : String) : Bool :=
  argument == "-" || !argument.toList.head?.any (· == '-')

/-- Options that were written together behind one dash, and the last of them if its value
is still to come. -/
def letters (switches : List Switch) : List Char → List Event × Option String
  | [] => ([], none)
  | c :: cs =>
    match switches.find? (·.short == some c) with
    | none => ([.refused], none)
    | some switch =>
      match switch.value, cs with
      | none, cs =>
        let (events, pending) := letters switches cs
        (.option switch.long none :: events, pending)
      | some _, [] => ([], some switch.long)
      | some _, '=' :: value => ([.option switch.long (some (String.ofList value))], none)
      | some _, value => ([.option switch.long (some (String.ofList value))], none)

def written (switches : List Switch) (text : List Char) : List Event × Option String :=
  let (name, value) := Text.run (· != '=') text
  match switches.find? (·.long.toList == name) with
  | none => ([.refused], none)
  | some switch =>
    match switch.value, value with
    | none, [] => ([.option switch.long none], none)
    | none, _ :: _ => ([.refused], none)
    | some _, _ :: value => ([.option switch.long (some (String.ofList value))], none)
    | some _, [] => ([], some switch.long)

/-- Arguments up to the first word. Two dashes end the options. -/
def events (switches : List Switch) (arguments : List String) : List Event :=
  match arguments with
  | [] => []
  | argument :: rest =>
    let after (read : List Event × Option String) : List Event :=
      match read.2, rest with
      | none, rest => read.1 ++ events switches rest
      | some long, value :: rest =>
        if isValue value then read.1 ++ .option long (some value) :: events switches rest
        else read.1 ++ [.refused]
      | some _, [] => read.1 ++ [.refused]
    match argument.toList with
    | ['-', '-'] => if rest.isEmpty then [] else [.refused]
    | '-' :: '-' :: text => after (written switches text)
    | '-' :: c :: cs => after (letters switches (c :: cs))
    | _ => [.word argument rest]
termination_by arguments.length
decreasing_by all_goals simp only [List.length_cons]; omega

/-- Take events from the left: `option` takes in an option, `word` a word with what follows
it, and `done` ends without a word. -/
def collect {σ α : Type} (option : σ → String → Option String → Parsed σ)
    (word : σ → String → List String → Parsed α) (done : σ → Parsed α) :
    σ → List Event → Parsed α
  | state, [] => done state
  | state, .option long value :: events =>
    match option state long value with
    | .run state => collect option word done state events
    | .shown text => .shown text
    | .refused => .refused
  | state, .word text rest :: _ => word state text rest
  | _, .refused :: _ => .refused

def lineWidth : Nat := 100

/-- A text that does not fit beside a wide left column moves all texts below their names. -/
def isCramped (width : Nat) (text : String) : Bool :=
  let taken := width + 12
  40 < taken && taken ≤ lineWidth && lineWidth - taken < text.length

def columns (heading : String) (rows : List (String × String)) : String :=
  let width := rows.foldl (fun width row => max width row.1.length) 0
  let gap (left : String) : String :=
    if rows.any fun row => isCramped width row.2 then "\n" ++ String.ofList (List.replicate 10 ' ')
    else String.ofList (List.replicate (width - left.length + 2) ' ')
  heading ++ ":\n" ++ String.join (rows.map fun (left, right) =>
    "  " ++ left ++ gap left ++ right ++ "\n")

def Switch.row (switch : Switch) : String × String :=
  ((match switch.short with
    | some c => "-" ++ c.toString ++ ", "
    | none => "    ")
    ++ "--" ++ switch.long ++ (switch.value.elim "" fun name => " <" ++ name ++ ">"),
    switch.help)

def page (about usage : String) (commands : List (String × String)) (switches : List Switch) :
    String :=
  about ++ "\n\nUsage: " ++ usage ++ "\n"
    ++ (if commands.isEmpty then "" else "\n" ++ columns "Commands" commands)
    ++ "\n" ++ columns "Options" (switches.map Switch.row)

end KeyRotation.Usage
