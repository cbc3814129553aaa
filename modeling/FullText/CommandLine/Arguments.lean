import FullText.CommandLine.Usage

/-!
# Arguments

`Arguments.collect` sorts the arguments of a command into options and the rest.  An option is given by a long name
(`--name value` or `--name=value`) or by a letter (`-n value` or `-nvalue`); letters that take no value may be joined.
`--` ends the options.  A single `-` is an argument like any other.
-/

namespace FullText.CommandLine

/-- What is given for an option. -/
inductive Given where
  | text (s : String)
  | flag (b : Bool)
  deriving DecidableEq, Repr, Inhabited

/-- One of the names of an option; it either stands for a truth value or is followed by a text. -/
structure OptionName (α : Type) where
  name : String
  option : α
  flag : Option Bool := none
  deriving Repr

/-- Whether a name is a dash and a letter. -/
def isLetterName (name : String) : Bool := name.length == 2

/-- An option that still waits for its value, with the name it was given by. -/
structure Pending (α : Type) where
  name : String
  option : α
  deriving Repr

/-- What one argument says: the options that it gives, and the one that it leaves waiting. -/
structure Reading (α : Type) where
  given : List (α × Given) := []
  pending : Option (Pending α) := none
  deriving Repr

/-- Cuts a text at the first occurrence of a character, which goes to neither side. -/
def cutAtFirst (x : Char) (s : String) : String × Option String :=
  let before := s.toList.takeWhile (· != x)
  match s.toList.dropWhile (· != x) with
  | [] => (String.ofList before, none)
  | _ :: after => (String.ofList before, some (String.ofList after))

section
variable {α : Type} (names : List (OptionName α))

/-- Reads the letters after a dash. -/
def readLetters : List Char → Except UsageError (Reading α)
  | [] => .ok {}
  | c :: rest =>
    let name := String.ofList ['-', c]
    match names.find? (·.name == name) with
    | none => .error (.unknownOption name)
    | some n =>
      match n.flag, rest with
      | some b, _ => do
        let r ← readLetters rest
        return { r with given := (n.option, .flag b) :: r.given }
      | none, [] => .ok { pending := some ⟨name, n.option⟩ }
      | none, _ => .ok { given := [(n.option, .text (String.ofList rest))] }

/-- Reads an argument that begins with a dash. -/
def readOption (arg : String) : Except UsageError (Reading α) :=
  let (name, value) := cutAtFirst '=' arg
  match names.find? fun n => !isLetterName n.name && n.name == name with
  | none => if arg.startsWith "--" then .error (.unknownOption name) else readLetters names (arg.toList.drop 1)
  | some n =>
    match n.flag, value with
    | none, none => .ok { pending := some ⟨name, n.option⟩ }
    | none, some v => .ok { given := [(n.option, .text v)] }
    | some b, none => .ok { given := [(n.option, .flag b)] }
    | some _, some _ => .error (.takesNoValue name)

end

/-- Arguments sorted into options, in the order in which they are given, and the rest. -/
structure Arguments (α : Type) where
  options : List (α × Given) := []
  rest : List String := []
  deriving Repr

namespace Arguments

variable {α : Type}

/-- Whether an argument is read as an option. -/
def isOption (arg : String) : Bool := arg.startsWith "-" && arg != "-"

/-- Sorts arguments.  Unless options may stand anywhere, the first argument that is none ends them.  `pending` is the
option whose value comes next. -/
def collectFrom (names : List (OptionName α)) (anywhere : Bool) :
    Option (Pending α) → List String → Except UsageError (Arguments α)
  | none, [] => .ok {}
  | some p, [] => .error (.needsValue p.name)
  | some p, value :: args => do
    let a ← collectFrom names anywhere none args
    return { a with options := (p.option, .text value) :: a.options }
  | none, arg :: args =>
    if arg = "--" then .ok { rest := args }
    else if isOption arg then do
      let r ← readOption names arg
      let a ← collectFrom names anywhere r.pending args
      return { a with options := r.given ++ a.options }
    else if anywhere then do
      let a ← collectFrom names anywhere none args
      return { a with rest := arg :: a.rest }
    else .ok { rest := arg :: args }

/-- Sorts the arguments of a command. -/
def collect (names : List (OptionName α)) (anywhere : Bool) (args : List String) : Except UsageError (Arguments α) :=
  collectFrom names anywhere none args

variable [DecidableEq α]

/-- All that is given for an option, in order. -/
def all (a : Arguments α) (option : α) : List Given := (a.options.filter (·.1 = option)).map (·.2)

/-- All texts that are given for an option, in order. -/
def texts (a : Arguments α) (option : α) : List String :=
  (a.all option).filterMap fun
    | .text s => some s
    | .flag _ => none

/-- The text that is given last for an option. -/
def text? (a : Arguments α) (option : α) : Option String := (a.texts option).getLast?

/-- The truth value that is given last for an option. -/
def flag? (a : Arguments α) (option : α) : Option Bool :=
  ((a.all option).filterMap fun
    | .text _ => none
    | .flag b => some b).getLast?

/-- The options that are given, by their first use. -/
def used (a : Arguments α) : List α := (a.options.map (·.1)).eraseDups

end Arguments

end FullText.CommandLine
