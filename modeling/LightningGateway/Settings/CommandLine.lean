/-
  The command line.

  Two options take a value, which follows as the next argument,
  after an equals sign, or directly after the letter; two flags
  ask for help and for the version.  Each option may be given
  once.  An option is checked when the next one begins or the
  line ends, so an unknown argument is reported before a fault
  of the option in front of it.

  Key definitions include:
    * `CommandLine.Given`
    * `CommandLine.Refusal`
    * `CommandLine.parse`
-/

namespace LightningGateway.Settings

namespace CommandLine

------------------------------------------------------------
-- Options
------------------------------------------------------------

/- The options that take a value. -/
inductive Name where
  | config
  | level
  deriving DecidableEq, Repr

/- The flags that end the program. -/
inductive Flag where
  | help
  | version
  deriving DecidableEq, Repr

/- What a name on the command line means. -/
inductive Meaning where
  | name (n : Name)
  | flag (f : Flag)
  deriving DecidableEq, Repr

/- The meaning of a word after two hyphens. -/
def ofWord? (s : String) : Option Meaning :=
  match s with
  | "config" => some (.name .config)
  | "level" => some (.name .level)
  | "help" => some (.flag .help)
  | "version" => some (.flag .version)
  | _ => none

/- The meaning of a letter after one hyphen. -/
def ofLetter? (c : Char) : Option Meaning :=
  match c with
  | 'c' => some (.name .config)
  | 'l' => some (.name .level)
  | 'h' => some (.flag .help)
  | 'V' => some (.flag .version)
  | _ => none

/- The values that were given. -/
structure Given where
  config : Option String
  level : Option String
  deriving DecidableEq, Repr

/- Why the program does not start. -/
inductive Refusal where
  | missingValue
  | unknownArgument
  | repeatedOption
  | needlessValue
  | asked (f : Flag)
  deriving DecidableEq, Repr

/- With which code the program then ends. -/
def Refusal.exitCode : Refusal → Nat
  | .asked _ => 0
  | _ => 2

------------------------------------------------------------
-- Reading
------------------------------------------------------------

/- An option that was begun, and its value as far as read. -/
structure Pending where
  name : Name
  value : Option String
  deriving DecidableEq, Repr

/- What has been read. -/
structure State where
  given : Given
  pending : Option Pending
  -- After two hyphens alone, no argument is an option.
  onlyValues : Bool
  deriving DecidableEq, Repr

namespace State

/- Before any argument. -/
def start : State :=
  ⟨⟨none, none⟩, none, false⟩

/- The value that an option has. -/
def valueOf
    (s : State) : Name → Option String
  | .config => s.given.config
  | .level => s.given.level

/- Give an option its value. -/
def set
    (s : State)
    (n : Name)
    (v : String) : Except Refusal State :=
  if (s.valueOf n).isSome then .error .repeatedOption
  else
    match n with
    | .config =>
        .ok { s with given := { s.given with config := some v } }
    | .level =>
        .ok { s with given := { s.given with level := some v } }

/- Check the option that was begun. -/
def settle (s : State) : Except Refusal State :=
  match s.pending with
  | none => .ok s
  | some ⟨_, none⟩ => .error .missingValue
  | some ⟨n, some v⟩ => { s with pending := none }.set n v

/- Begin an option, with its value if that is attached. -/
def begin
    (s : State)
    (n : Name)
    (attached : Option String) : Except Refusal State := do
  let s ← s.settle
  match attached with
  | some v => s.set n v
  | none => return { s with pending := some ⟨n, none⟩ }

/- Meet a flag. -/
def meet
    (s : State)
    (f : Flag) : Except Refusal State := do
  let _ ← s.settle
  throw (.asked f)

/- Read an argument that starts with two hyphens. -/
def readWord
    (s : State)
    (cs : List Char) : Except Refusal State :=
  let word := String.ofList (cs.takeWhile (· != '='))
  let attached : Option String :=
    match cs.dropWhile (· != '=') with
    | _ :: value => some (String.ofList value)
    | [] => none
  match ofWord? word with
  | none => .error .unknownArgument
  | some (.name n) => s.begin n attached
  | some (.flag f) =>
      if attached.isSome then .error .needlessValue else s.meet f

/- The value directly after a letter. -/
def attachedTo : List Char → Option String
  | [] => none
  | '=' :: value => some (String.ofList value)
  | value => some (String.ofList value)

/- Read an argument that starts with one hyphen. -/
def readLetter
    (s : State)
    (c : Char)
    (rest : List Char) : Except Refusal State :=
  match ofLetter? c with
  | none => .error .unknownArgument
  | some (.name n) => s.begin n (attachedTo rest)
  | some (.flag f) => s.meet f

/- Read any other argument: the value that is waited for. -/
def readValue
    (s : State)
    (v : String) : Except Refusal State :=
  match s.pending with
  | some ⟨n, none⟩ =>
      if s.onlyValues then .error .unknownArgument
      else .ok { s with pending := some ⟨n, some v⟩ }
  | _ => .error .unknownArgument

/- Read one argument. -/
def read
    (s : State)
    (arg : String) : Except Refusal State :=
  if s.onlyValues then .error .unknownArgument
  else
    match arg.toList with
    | ['-', '-'] => .ok { s with onlyValues := true }
    | '-' :: '-' :: cs => s.readWord cs
    | '-' :: c :: rest => s.readLetter c rest
    | _ => s.readValue arg

end State

/- Read the arguments of the program. -/
def parse (args : List String) : Except Refusal Given := do
  let s ← args.foldlM State.read .start
  let s ← s.settle
  return s.given

end CommandLine

end LightningGateway.Settings
