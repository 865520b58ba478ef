import TabTools.Text.Digits

/-!
# Options of the debug adapter

The options of a command line are read from left to right. An option with a value takes it from
behind an equals sign or from the next argument, unless that starts with a dash; a lone dash is a
value.

**Which fault counts.** A value that is an argument of its own is looked at when the next option
comes, or at the end. So an argument that is not known at all is found first, even behind a value
that does not fit. Everything else is found in the order of the arguments, and asking for help or
for the version ends the reading.

The port of the tab server may also come from the environment, which counts when the command line
does not give it.
-/

namespace TabTools.Adapter

structure Options where
  listen : String := "127.0.0.1:4711"
  stdio : Bool := false
  oneshot : Bool := false
  logFile : Option String := none
  traceDap : Bool := false
  linkPort : Nat := 4712
deriving DecidableEq, Repr

/-- Why reading a command line ended without options. -/
inductive OptionStop where
  | unknownArgument
  | missingValue
  | badValue
  | repeated
  | unwantedValue
  | help
  | version
deriving DecidableEq, Repr

/-- Options that take a value. -/
inductive ValueOption where
  | listen
  | logFile
  | linkPort
deriving DecidableEq, Repr

/-- Options that are given or not. -/
inductive Switch where
  | stdio
  | oneshot
  | traceDap
deriving DecidableEq, Repr

/-- What the name of an option stands for. -/
inductive OptionKind where
  | takesValue (option : ValueOption)
  | isSwitch (option : Switch)
  | ends (stop : OptionStop)

def OptionKind.ofName? : String → Option OptionKind
  | "listen" => some (.takesValue .listen)
  | "log-file" => some (.takesValue .logFile)
  | "link-port" => some (.takesValue .linkPort)
  | "stdio" => some (.isSwitch .stdio)
  | "oneshot" => some (.isSwitch .oneshot)
  | "trace-dap" => some (.isSwitch .traceDap)
  | "help" => some (.ends .help)
  | "version" => some (.ends .version)
  | _ => none

/-! ## Values -/

def maxPort : Nat := 65535

/-- A port: digits behind a sign that may be there. -/
def port? (text : String) : Option Nat :=
  let (negative, digits) := match text.toList with
    | '+' :: rest => (false, rest)
    | '-' :: rest => (true, rest)
    | cs => (false, cs)
  let n := Text.natOfDigits digits
  if digits.isEmpty ∨ !digits.all Char.isDigit ∨ maxPort < n ∨ (negative ∧ 0 < n) then none
  else some n

/-- What has been given so far. -/
structure Given where
  listen : Option String := none
  logFile : Option String := none
  linkPort : Option Nat := none
  switches : List Switch := []

namespace Given

/-- Takes the value of an option. -/
def assign (given : Given) (option : ValueOption) (value : String) : Except OptionStop Given :=
  match option with
  | .listen =>
    if given.listen.isSome then .error .repeated else .ok { given with listen := some value }
  | .logFile =>
    if given.logFile.isSome then .error .repeated
    else if value.isEmpty then .error .missingValue
    else .ok { given with logFile := some value }
  | .linkPort =>
    if given.linkPort.isSome then .error .repeated
    else
      match port? value with
      | none => .error .badValue
      | some port => .ok { given with linkPort := some port }

def turnOn (given : Given) (option : Switch) : Except OptionStop Given :=
  if given.switches.contains option then .error .repeated
  else .ok { given with switches := given.switches ++ [option] }

/-- An option that waits to be dealt with, with its value if that has come. -/
abbrev Pending := Option (ValueOption × Option String)

/-- Deals with the option that waits. -/
def settle (given : Given) : Pending → Except OptionStop Given
  | none => .ok given
  | some (_, none) => .error .missingValue
  | some (option, some value) => given.assign option value

end Given

/-! ## Arguments -/

/-- How an argument reads. -/
inductive Argument where
  /-- The mark behind which no option stands. -/
  | mark
  | long (name : String) (value : Option String)
  /-- A dash and letters, of which the first is given. -/
  | short (letter : Char)
  | plain (text : String)
deriving DecidableEq, Repr

/-- The name of a long option, and the value behind an equals sign. -/
def splitLong (cs : List Char) : String × Option String :=
  let name := cs.takeWhile (· != '=')
  let value := match cs.dropWhile (· != '=') with
    | [] => none
    | _ :: value => some (String.ofList value)
  (String.ofList name, value)

def Argument.ofText (text : String) : Argument :=
  match text.toList with
  | ['-', '-'] => .mark
  | '-' :: '-' :: rest =>
    let (name, value) := splitLong rest
    .long name value
  | '-' :: letter :: _ => .short letter
  | _ => .plain text

/-- Reads arguments. Behind the mark no argument is known. -/
def scan (given : Given) (pending : Given.Pending) : List String → Except OptionStop Given
  | [] => given.settle pending
  | text :: rest =>
    match Argument.ofText text with
    | .mark => if rest.isEmpty then given.settle pending else .error .unknownArgument
    | .short letter => do
      if letter ≠ 'h' ∧ letter ≠ 'V' then throw .unknownArgument
      let _ ← given.settle pending
      throw (if letter = 'h' then .help else .version)
    | .plain text =>
      match pending with
      | some (option, none) => scan given (some (option, some text)) rest
      | _ => .error .unknownArgument
    | .long name value =>
      match OptionKind.ofName? name, value with
      | none, _ => .error .unknownArgument
      | some (.takesValue option), none => do
        scan (← given.settle pending) (some (option, none)) rest
      | some (.takesValue option), some value => do
        let given ← given.settle pending
        scan (← given.assign option value) none rest
      | some (.isSwitch option), none => do
        let given ← given.settle pending
        scan (← given.turnOn option) none rest
      | some (.ends stop), none => do
        let _ ← given.settle pending
        throw stop
      | some _, some _ => .error .unwantedValue

/-- The port of the tab server: from the command line, else from the environment. -/
def portInForce (given : Option Nat) (environment : Option String) : Except OptionStop Nat :=
  match given, environment with
  | some port, _ => .ok port
  | none, none => .ok ({} : Options).linkPort
  | none, some text =>
    match port? text with
    | none => .error .badValue
    | some port => .ok port

/-- Reads a command line, given the port in the environment. -/
def Options.parse (arguments : List String) (environment : Option String) :
    Except OptionStop Options := do
  let given ← scan {} none arguments
  let linkPort ← portInForce given.linkPort environment
  return {
    listen := given.listen.getD ({} : Options).listen
    stdio := given.switches.contains .stdio
    oneshot := given.switches.contains .oneshot
    logFile := given.logFile
    traceDap := given.switches.contains .traceDap
    linkPort }

end TabTools.Adapter
