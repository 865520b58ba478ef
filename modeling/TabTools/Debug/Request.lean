import TabTools.Json.Decode

/-!
# Requests to the debug adapter

A request is an envelope (`Request`) around the arguments of a command. Decoding has two stages: the
envelope, which needs a number, a type and a command name, and then the arguments that the command
wants (`Command.ofRequest`). A command whose arguments are absent gets its defaults, and a command
without arguments does not look at them.
-/

namespace TabTools.Debug

structure Request where
  seq : Int
  kind : String
  command : String
  arguments : Json

/-! ## Arguments -/

structure InitializeArguments where
  adapterId : Option String := none
  linesStartAtOne : Bool := true

structure LaunchArguments where
  program : Option String := none
  stopOnEntry : Bool := false
  trace : Bool := false

/-- The file that breakpoints are set in. -/
structure SourceArgument where
  name : Option String := none
  path : Option String := none

structure SetBreakpointsArguments where
  source : SourceArgument := {}
  /-- The lines of the wanted breakpoints. -/
  breakpoints : Option (List Int) := none
  /-- An older form of the same list, which counts when `breakpoints` is absent. -/
  lines : Option (List Int) := none

/-- The wanted lines, in the order of the request. -/
def SetBreakpointsArguments.clientLines (args : SetBreakpointsArguments) : List Int :=
  args.breakpoints.getD (args.lines.getD [])

structure StackTraceArguments where
  threadId : Int := 0
  startFrame : Option Nat := none
  levels : Option Nat := none

structure ScopesArguments where
  frameId : Int := 0

structure VariablesArguments where
  reference : Int := 0

structure EvaluateArguments where
  expression : String := ""
  frameId : Option Int := none
  context : Option String := none

/-- What a client can ask for. -/
inductive Command where
  | initializeAdapter (args : InitializeArguments)
  | launch (args : LaunchArguments)
  | setBreakpoints (args : SetBreakpointsArguments)
  | configurationDone
  | threads
  | stackTrace (args : StackTraceArguments)
  | scopes (args : ScopesArguments)
  | variables (args : VariablesArguments)
  | continueForward
  | continueBackward
  | stepForward
  | stepBackward
  | evaluate (args : EvaluateArguments)
  | terminate
  | disconnect

/-! ## Decoding -/

def InitializeArguments.shape : Shape InitializeArguments where
  name := "InitializeArguments"
  fields :=
    [("adapterID", fun v a => do return { a with adapterId := ← v.toOption Json.toPlain }),
     ("linesStartAt1", fun v a => do return { a with linesStartAtOne := ← v.toBool })]

def LaunchArguments.shape : Shape LaunchArguments where
  name := "LaunchArguments"
  fields :=
    [("program", fun v a => do return { a with program := ← v.toOption Json.toPath }),
     ("stopOnEntry", fun v a => do return { a with stopOnEntry := ← v.toBool }),
     ("trace", fun v a => do return { a with trace := ← v.toBool })]

def SourceArgument.shape : Shape SourceArgument where
  name := "SourceArgument"
  fields :=
    [("name", fun v a => do return { a with name := ← v.toOption Json.toPlain }),
     ("path", fun v a => do return { a with path := ← v.toOption Json.toPath })]

def breakpointShape : Shape (Option Int) where
  name := "SourceBreakpoint"
  fields := [("line", fun v _ => do return some (← v.toInt64))]

/-- One wanted breakpoint, which must give its line. -/
def breakpointLine (v : Json) : Except Mismatch Int := do
  match ← breakpointShape.read none v, v with
  | some line, _ => return line
  | none, .arr items =>
    .error (.length items.length "struct SourceBreakpoint with 1 element")
  | none, _ => .error (.missing "line")

def SetBreakpointsArguments.shape : Shape SetBreakpointsArguments where
  name := "SetBreakpointsArguments"
  fields :=
    [("source", fun v a => do return { a with source := ← SourceArgument.shape.read {} v }),
     ("breakpoints", fun v a => do
        return { a with breakpoints := ← v.toOption (Json.toList breakpointLine) }),
     ("lines", fun v a => do
        return { a with lines := ← v.toOption (Json.toList Json.toInt64) })]

def StackTraceArguments.shape : Shape StackTraceArguments where
  name := "StackTraceArguments"
  fields :=
    [("threadId", fun v a => do return { a with threadId := ← v.toInt64 }),
     ("startFrame", fun v a => do return { a with startFrame := ← v.toOption Json.toSize }),
     ("levels", fun v a => do return { a with levels := ← v.toOption Json.toSize })]

def ScopesArguments.shape : Shape ScopesArguments where
  name := "ScopesArguments"
  fields := [("frameId", fun v a => do return { a with frameId := ← v.toInt64 })]

def VariablesArguments.shape : Shape VariablesArguments where
  name := "VariablesArguments"
  fields := [("variablesReference", fun v a => do return { a with reference := ← v.toInt64 })]

def EvaluateArguments.shape : Shape EvaluateArguments where
  name := "EvaluateArguments"
  fields :=
    [("expression", fun v a => do return { a with expression := ← v.toPlain }),
     ("frameId", fun v a => do return { a with frameId := ← v.toOption Json.toInt64 }),
     ("context", fun v a => do return { a with context := ← v.toOption Json.toPlain })]

/-- An envelope in the making. -/
structure Envelope where
  seq : Option Int := none
  kind : Option String := none
  command : Option String := none
  arguments : Json := .null

def Envelope.shape : Shape Envelope where
  name := "DapRequest"
  fields :=
    [("seq", fun v e => do return { e with seq := some (← v.toInt64) }),
     ("type", fun v e => do return { e with kind := some (← v.toPlain) }),
     ("command", fun v e => do return { e with command := some (← v.toPlain) }),
     ("arguments", fun v e => .ok { e with arguments := v })]

/-- What is wrong with an envelope that lacks a field. -/
def Envelope.lack (v : Json) (field : String) : Mismatch :=
  match v with
  | .arr items => .length items.length "struct DapRequest with 4 elements"
  | _ => .missing field

/-- Decodes the envelope of a request. -/
def Request.ofJson (v : Json) : Except Mismatch Request := do
  let e ← Envelope.shape.read {} v
  match e.seq, e.kind, e.command with
  | some seq, some kind, some command => return ⟨seq, kind, command, e.arguments⟩
  | none, _, _ => .error (Envelope.lack v "seq")
  | _, none, _ => .error (Envelope.lack v "type")
  | _, _, none => .error (Envelope.lack v "command")

/-- Why a request names no command that can be carried out. -/
inductive CommandError where
  | arguments (mismatch : Mismatch)
  | unknown (command : String)

/-- Decodes the arguments of a command; absent arguments are all defaults. -/
def decodeArguments {σ : Type} (shape : Shape σ) (defaults : σ) (v : Json) :
    Except CommandError σ :=
  match v with
  | .null => .ok defaults
  | v => (shape.read defaults v).mapError .arguments

/-- The command of a request with its arguments. -/
def Command.ofRequest (req : Request) : Except CommandError Command :=
  let args := req.arguments
  match req.command with
  | "initialize" =>
    return .initializeAdapter (← decodeArguments InitializeArguments.shape {} args)
  | "launch" => return .launch (← decodeArguments LaunchArguments.shape {} args)
  | "setBreakpoints" =>
    return .setBreakpoints (← decodeArguments SetBreakpointsArguments.shape {} args)
  | "configurationDone" => .ok .configurationDone
  | "threads" => .ok .threads
  | "stackTrace" => return .stackTrace (← decodeArguments StackTraceArguments.shape {} args)
  | "scopes" => return .scopes (← decodeArguments ScopesArguments.shape {} args)
  | "variables" => return .variables (← decodeArguments VariablesArguments.shape {} args)
  | "continue" => .ok .continueForward
  | "reverseContinue" => .ok .continueBackward
  | "next" => .ok .stepForward
  | "stepBack" => .ok .stepBackward
  | "evaluate" => return .evaluate (← decodeArguments EvaluateArguments.shape {} args)
  | "terminate" => .ok .terminate
  | "disconnect" => .ok .disconnect
  | other => .error (.unknown other)

/-- The files that carrying out a request may look at. -/
def Request.paths (req : Request) : List String :=
  match Command.ofRequest req with
  | .ok (.launch args) => args.program.toList
  | .ok (.setBreakpoints args) => args.source.path.toList
  | _ => []

end TabTools.Debug
