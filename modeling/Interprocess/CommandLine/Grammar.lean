/-!
# Grammar of command lines

A command line is the name of a command and its options. An option is named by a word behind two
dashes or by a letter behind one; one that takes a value finds it in the same argument or in the
next. Nothing but options may follow the name of a command.
-/

namespace Interprocess

/-! ## What commands take -/

/-- An option of a command. -/
structure OptionSpec where
  name : String
  letter : Option Char
  takesValue : Bool
  required : Bool
  /-- The value of an option that is left out or is given without a value. -/
  default : Option String
  /-- The values that the option may have; any value if none are listed. -/
  allowed : List String
  deriving DecidableEq, Repr

namespace OptionSpec

def needed (name : String) (letter : Option Char) : OptionSpec :=
  ⟨name, letter, true, true, none, []⟩

def optional (name : String) (letter : Option Char) : OptionSpec :=
  ⟨name, letter, true, false, none, []⟩

/-- An option with a value that is `value` unless another is given. -/
def defaulting (name : String) (letter : Option Char) (value : String) : OptionSpec :=
  ⟨name, letter, true, false, some value, []⟩

/-- An option that must be given with one of a list of values. -/
def choice (name : String) (letter : Option Char) (allowed : List String) : OptionSpec :=
  ⟨name, letter, true, true, none, allowed⟩

def flag (name : String) : OptionSpec :=
  ⟨name, none, false, false, none, []⟩

def allows (o : OptionSpec) (value : String) : Bool :=
  o.allowed.isEmpty || o.allowed.contains value

end OptionSpec

/-- A command and its options. -/
structure CommandSpec where
  name : String
  options : List OptionSpec
  deriving DecidableEq, Repr

/-! ## Reading options -/

/-- Why a command line asks for no command to be run. -/
inductive Stop where
  | help
  | misuse
  deriving DecidableEq, Repr

/-- The options read so far, the last one first. -/
structure Scan where
  uses : List (OptionSpec × Option String)
  /-- Whether the last option may find its value in the next argument. -/
  awaiting : Bool
  /-- Whether two dashes have ended the options. -/
  ended : Bool
  deriving DecidableEq, Repr

namespace Scan

def start : Scan := ⟨[], false, false⟩

def use (s : Scan) (o : OptionSpec) (value : Option String) : Scan :=
  if o.takesValue then { s with uses := (o, value) :: s.uses, awaiting := value.isNone }
  else { s with uses := (o, none) :: s.uses, awaiting := false }

/-- The scan after the value of the last option. -/
def giveValue (s : Scan) (value : String) : Scan :=
  match s.uses with
  | (o, _) :: rest => { s with uses := (o, some value) :: rest, awaiting := false }
  | [] => s

def dropEquals (cs : List Char) : String :=
  String.ofList (cs.dropWhile (· == '='))

/-- Reads an option named by a word; a value may follow an equals sign. -/
def readWord (options : List OptionSpec) (s : Scan) (cs : List Char) : Except Stop Scan :=
  let name := String.ofList (cs.takeWhile (· != '='))
  let value := match cs.dropWhile (· != '=') with
    | [] => none
    | _ :: rest => some (dropEquals rest)
  match options.find? (·.name == name) with
  | some o => .ok (s.use o value)
  | none => if name = "help" ∨ name = "version" then .error .help else .error .misuse

/-- Reads options named by letters. The first that takes a value has the rest of the argument as its
value, unless there is none. -/
def readLetters (options : List OptionSpec) (s : Scan) : List Char → Except Stop Scan
  | [] => .ok s
  | c :: rest =>
    match options.find? (·.letter == some c) with
    | some o =>
      if o.takesValue then
        .ok (s.use o (if rest.isEmpty then none else some (dropEquals rest)))
      else readLetters options (s.use o none) rest
    | none => if c = 'h' ∨ c = 'V' then .error .help else .error .misuse

/-- Reads an argument. One that starts with a dash and is longer than the dash is never a value. -/
def read (options : List OptionSpec) (s : Scan) (arg : String) : Except Stop Scan :=
  if s.ended then .error .misuse
  else match arg.toList with
    | ['-', '-'] => .ok { s with ended := true }
    | '-' :: '-' :: rest => s.readWord options (rest.dropWhile (· == '-'))
    | '-' :: c :: rest => s.readLetters options (c :: rest)
    | _ => if s.awaiting then .ok (s.giveValue arg) else .error .misuse

/-- The value of an option after all arguments are read: `none` if it is left out and has no
default. An option may be used once, and one that takes a value must have one. -/
def value (s : Scan) (o : OptionSpec) : Except Stop (Option String) :=
  match s.uses.filter (·.1 == o) with
  | [] =>
    match o.default with
    | some value => .ok (some value)
    | none => if o.required then .error .misuse else .ok none
  | [(_, some value)] => if o.allows value then .ok (some value) else .error .misuse
  | [(_, none)] =>
    if !o.takesValue then .ok (some "")
    else match o.default with
      | some value => .ok (some value)
      | none => .error .misuse
  | _ => .error .misuse

end Scan

/-- The options that a command line gives, each with its value. -/
structure Given where
  values : List (String × Option String)
  deriving DecidableEq, Repr

namespace Given

/-- The value of an option, if it is given or has a default. -/
def value? (g : Given) (name : String) : Option String :=
  (g.values.find? (·.1 == name)).bind (·.2)

def value (g : Given) (name : String) : String := (g.value? name).getD ""

def has (g : Given) (name : String) : Bool := (g.value? name).isSome

/-- The options that the arguments of a command give. -/
def ofArguments (options : List OptionSpec) (arguments : List String) : Except Stop Given := do
  let scan ← arguments.foldlM (Scan.read options) Scan.start
  let values ← options.mapM fun o => return (o.name, ← scan.value o)
  return ⟨values⟩

end Given

/-! ## Reading command lines -/

/-- Whether the arguments behind the word for help name commands to explain: at most one command, or
help itself. -/
def explains (commands : List CommandSpec) : List String → Bool
  | [] => true
  | [name] => name = "help" || commands.any (·.name == name)
  | _ => false

/-- The command that a command line names and the options that it gives; `none` if it names none. -/
def readCommandLine (commands : List CommandSpec) :
    List String → Except Stop (Option (String × Given))
  | [] => .ok none
  | arg :: rest =>
    match commands.find? (·.name == arg) with
    | some command => do
      return some (command.name, ← Given.ofArguments command.options rest)
    | none =>
      if arg = "help" then
        if explains commands rest then .error .help else .error .misuse
      else if arg = "--" then
        if rest.isEmpty then .ok none else .error .misuse
      else do
        -- only the options that every command line has can stand here
        let _ ← Scan.read [] Scan.start arg
        .error .misuse

end Interprocess
