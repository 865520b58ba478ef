import TabTools.Debug.Session

/-!
# What a request does

Carrying out a request never fails half-way for a reason of its own: either there is an `Obstacle`,
or there is a *plan*, a list of acts that are performed one after another. Writing a message is an
act, and so is switching on the tracing of traffic. Since a write can fail, every act of writing also
holds the session as it is from that moment on, whether or not the write succeeds; acts after a failed
write are not performed.

**Obstacles.** A request may be refused (`Refusal`), which leaves a session that goes on. Or carrying
it out crashes the program: a stack trace names the file of the program by a text, and there is none
for a path that is no encoding of one.

`Session.plan` gives the plan of a request.
-/

namespace TabTools.Debug

/-- Why a request is not carried out. -/
inductive Refusal where
  | notLaunched
  | terminated
  | missingArgument (command field : String)
  | unknownCommand (command : String)
  | unreadable (path : String) (cause : Files.FileError)
  | badArguments (mismatch : Mismatch)
deriving DecidableEq, Repr

/-- The text of a refusal without its causes. -/
def Refusal.headline : Refusal → String
  | .notLaunched => "no program launched"
  | .terminated => "program has terminated"
  | .missingArgument command field => s!"{command}: missing arguments.{field}"
  | .unknownCommand command => s!"Unsupported DAP command: {command}"
  | .unreadable path cause =>
    let why := cause.message
    s!"could not read source file {path}: {why}"
  | .badArguments mismatch => mismatch.message

/-- The text of a refusal with its causes. -/
def Refusal.message : Refusal → String
  | .unreadable path cause => (Refusal.unreadable path cause).headline ++ ": " ++ cause.message
  | refusal => refusal.headline

def CommandError.refusal : CommandError → Refusal
  | .arguments mismatch => .badArguments mismatch
  | .unknown command => .unknownCommand command

/-- What keeps a request from having a plan. -/
inductive Obstacle where
  /-- The request is refused; `after` is the session from then on. -/
  | refused (after : Session) (why : Refusal)
  /-- Carrying the request out crashes the program. -/
  | panic
deriving DecidableEq, Repr

/-- One act of a plan. -/
inductive Act where
  /-- Switches the tracing of traffic on. -/
  | traceOn
  /-- Writes a message; `after` is the session from then on. -/
  | write (after : Session) (message : Message)
deriving DecidableEq, Repr

/-- The session once all acts have been performed. -/
def finalSession (s : Session) : List Act → Session
  | [] => s
  | .traceOn :: rest => finalSession s rest
  | .write after _ :: rest => finalSession after rest

namespace Session

/-- Label of the handle that comes with every line of output. -/
def outputLabel : String := "args"

/-- Label of the handle behind a compound variable. -/
def objectLabel : String := "object_"

def refuse (s : Session) (why : Refusal) : Except Obstacle (List Act) := .error (.refused s why)

/-- Shows a line of text to the client. -/
def sayLine (s : Session) (text : String) : Session × Act :=
  let after := { s with handles := s.handles.add outputLabel }
  (after, .write after (.event (.output text s.handles.next)))

/-- Moves the cursor and shows where it is. -/
def moveTo (s : Session) (line : Nat) : Session × Act :=
  ({ s with cursor := .onLine line }).sayLine s!"line: {line}"

def succeed (s : Session) (req : Request) (body : Body) : Act :=
  .write s (.success req.answered body)

/-- Stops the program; a breakpoint that this verified is reported after the stop. -/
def stop (s : Session) (reason : StopReason) (hit : Option Nat) (verified : Option Breakpoint) :
    List Act :=
  let after := { s with phase := .stopped reason }
  .write after (.event (.stopped reason hit)) ::
    verified.toList.map fun bp => .write after (.event (.breakpointChanged bp))

def terminate (s : Session) : Act :=
  .write { s with phase := .terminated } (.event .terminated)

/-- The program comes to a line, answers the request and stops there. -/
def stopAt (s : Session) (req : Request) (line : Nat) (reason : StopReason) (hit : Option Nat)
    (verified : Option Breakpoint) : List Act :=
  let (moved, say) := s.moveTo line
  say :: moved.succeed req .nothing :: moved.stop reason hit verified

/-- Runs the program until it halts. Running off the end terminates it; running off the start
rewinds it to the first line. -/
def resume (s : Session) (req : Request) (direction : Direction) (p : Probe) : List Act :=
  let running := { s with phase := .running }
  match running.scan direction p with
  | some stop =>
    let reached := { running with breakpoints := stop.table }
    reached.stopAt req stop.line stop.halt.reason stop.halt.hitId stop.halt.verified
  | none =>
    match direction with
    | .forward => [running.succeed req .nothing, running.terminate]
    | .backward => running.stopAt req 0 .entry none none

/-- Runs the program if there is one under way. -/
def step (s : Session) (req : Request) (direction : Direction) (p : Probe) :
    Except Obstacle (List Act) :=
  if s.isLive then .ok (s.resume req direction p)
  else if s.phase = .terminated then s.refuse .terminated
  else s.refuse .notLaunched

/-- The source in a file. -/
def load (files : Files.View) (path : String) : Except Refusal Source :=
  match files.readText path with
  | .ok text => .ok (.ofText text)
  | .error cause => .error (.unreadable path cause)

def initializeAdapter (s : Session) (req : Request) (args : InitializeArguments) : List Act :=
  let after :=
    { s with
      base := ⟨args.linesStartAtOne⟩
      phase := if s.phase = .uninitialized then .initialized else s.phase }
  [.write after (.event .initialized), after.succeed req .capabilities]

def launch (s : Session) (files : Files.View) (req : Request) (args : LaunchArguments) :
    Except Obstacle (List Act) :=
  match args.program with
  | none => s.refuse (.missingArgument "launch" "program")
  | some path =>
    match load files path with
    | .error refusal => s.refuse refusal
    | .ok source =>
      let loaded :=
        { s with
          program := some (files.sourcePath path)
          source
          cursor := {}
          phase := .running }
      let run :=
        if args.stopOnEntry then loaded.stopAt req 0 .entry none none
        else loaded.resume req .forward .events
      .ok (if args.trace then .traceOn :: run else run)

def setBreakpoints (s : Session) (files : Files.View) (req : Request)
    (args : SetBreakpointsArguments) : Except Obstacle (List Act) :=
  match args.source.path with
  | none => s.refuse (.missingArgument "setBreakpoints" "source.path")
  | some path =>
    match load files path with
    | .error refusal => s.refuse refusal
    | .ok source =>
      let key := Files.components (files.sourcePath path)
      let (list, table) := s.breakpoints.set key source args.clientLines s.base
      .ok [({ s with breakpoints := table }).succeed req (.breakpoints list)]

/-- The line that a stack trace shows: the cursor's, or the first before anything ran. -/
def traceLine (s : Session) : Nat := s.cursor.line.getD 0

/-- The words of the traced line; each of them is a frame. -/
def traceWords (s : Session) : List (List Char) :=
  Text.blankWords ((s.source.get? s.traceLine).getD [])

/-- The frame of a word of the traced line, if there is such a word. -/
def frame? (s : Session) (program : Files.Path) (path : String) (i : Nat) : Option Frame :=
  s.traceWords[i]?.map fun word =>
    { id := i
      name := String.ofList word ++ "(" ++ toString i ++ ")"
      fileName := (Files.fileName? program).bind Files.Name.text?
      path
      line := s.base.toClient s.traceLine }

/-- Shows the frames of a window. The program crashes if its path has no text, or if the window goes
beyond the words. -/
def stackTrace (s : Session) (req : Request) (args : StackTraceArguments) :
    Except Obstacle (List Act) :=
  match s.program with
  | none => s.refuse .notLaunched
  | some program =>
    match program.text? with
    | none => .error .panic
    | some path =>
      let total := s.traceWords.length
      let (first, last) := frameWindow total args.startFrame args.levels
      match (List.range' first (last - first)).mapM (s.frame? program path) with
      | none => .error .panic
      | some frames => .ok [s.succeed req (.stackTrace frames total)]

/-- The scopes of every frame: name, label and whether reading it is expensive. -/
def scopeKinds : List (String × String × Bool) :=
  [("Local", "local", false), ("Closure", "closure", false), ("Global", "global", true)]

/-- Gives every scope of a frame a handle of its own. -/
def makeScopes (frameId : Int) : List (String × String × Bool) → Handles → List Scope × Handles
  | [], handles => ([], handles)
  | (name, label, expensive) :: rest, handles =>
    let (scopes, after) := makeScopes frameId rest (handles.add (label ++ "_" ++ toString frameId))
    (⟨name, handles.next, expensive⟩ :: scopes, after)

def scopes (s : Session) (req : Request) (args : ScopesArguments) : List Act :=
  let (list, handles) := makeScopes args.frameId scopeKinds s.handles
  [({ s with handles }).succeed req (.scopes list)]

/-- The label of a handle that has variables; compound variables have none. -/
def expandable (s : Session) (handle : Int) : Option String :=
  (s.handles.get? handle).filter fun label => !objectLabel.toList.isPrefixOf label.toList

/-- The variables behind a label, the last of them compound. -/
def variablesOf (label : String) (object : Nat) : List Variable :=
  [⟨label ++ "_i", "integer", "123", 0⟩, ⟨label ++ "_f", "float", "3.14", 0⟩,
   ⟨label ++ "_s", "string", "hello world", 0⟩, ⟨label ++ "_o", "object", "Object", object⟩]

def listVariables (s : Session) (req : Request) (args : VariablesArguments) : List Act :=
  match s.expandable args.reference with
  | none => [s.succeed req (.variables [])]
  | some label =>
    let after := { s with handles := s.handles.add objectLabel }
    [after.succeed req (.variables (variablesOf label s.handles.next))]

def evaluate (s : Session) (req : Request) (args : EvaluateArguments) : List Act :=
  let context := args.context.getD ""
  let expression := args.expression
  [s.succeed req (.evaluation s!"evaluate(context: '{context}', '{expression}')")]

/-- The plan of a request, or why there is none. -/
def plan (s : Session) (files : Files.View) (req : Request) : Except Obstacle (List Act) :=
  match Command.ofRequest req with
  | .error e => s.refuse e.refusal
  | .ok command =>
    match command with
    | .initializeAdapter args => .ok (s.initializeAdapter req args)
    | .launch args => s.launch files req args
    | .setBreakpoints args => s.setBreakpoints files req args
    | .configurationDone => .ok [s.succeed req .nothing]
    | .threads => .ok [s.succeed req .threads]
    | .stackTrace args => s.stackTrace req args
    | .scopes args => .ok (s.scopes req args)
    | .variables args => .ok (s.listVariables req args)
    | .continueForward => s.step req .forward .events
    | .continueBackward => s.step req .backward .events
    | .stepForward => s.step req .forward .steps
    | .stepBackward => s.step req .backward .steps
    | .evaluate args => .ok (s.evaluate req args)
    | .terminate => .ok (s.succeed req .nothing :: if s.isLive then [s.terminate] else [])
    | .disconnect =>
      let link := match s.link with
        | .absent => Link.absent
        | _ => .closed
      .ok [({ s with phase := .disconnected, link }).succeed req .nothing]

/-- All that is done about a request while no write fails; nothing when it crashes the program. -/
def reaction (s : Session) (files : Files.View) (req : Request) : List Act :=
  match s.plan files req with
  | .ok acts => acts
  | .error (.refused after why) => [.write after (.failure req.answered why.message)]
  | .error .panic => []

end Session

end TabTools.Debug
