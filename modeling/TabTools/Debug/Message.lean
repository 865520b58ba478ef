import TabTools.Debug.Request
import TabTools.Debug.Breakpoint

/-!
# Messages to the client

The adapter answers a request with one response and reports everything else as events. Both are
values of their own here; `Message.toJson` gives the object that is sent, which also carries the
number of the message.
-/

namespace TabTools.Debug

inductive StopReason where
  | entry
  | step
  | breakpoint
  | exception
deriving DecidableEq, Repr

def StopReason.name : StopReason → String
  | .entry => "entry"
  | .step => "step"
  | .breakpoint => "breakpoint"
  | .exception => "exception"

inductive Event where
  | initialized
  /-- A line of text for the console, with a handle to expand. -/
  | output (text : String) (handle : Nat)
  | stopped (reason : StopReason) (hit : Option Nat)
  | terminated
  /-- A breakpoint has become verified. -/
  | breakpointChanged (breakpoint : Breakpoint)
deriving DecidableEq, Repr

/-- One entry of a stack trace. -/
structure Frame where
  id : Nat
  name : String
  fileName : Option String
  path : String
  line : Int
deriving DecidableEq, Repr

/-- A group of variables behind a handle. -/
structure Scope where
  name : String
  handle : Nat
  expensive : Bool
deriving DecidableEq, Repr

structure Variable where
  name : String
  type : String
  value : String
  /-- The handle of a compound variable, zero for a plain one. -/
  handle : Nat
deriving DecidableEq, Repr

/-- What a successful response carries. -/
inductive Body where
  | nothing
  | capabilities
  | breakpoints (list : List Breakpoint)
  | threads
  | stackTrace (frames : List Frame) (total : Nat)
  | scopes (list : List Scope)
  | variables (list : List Variable)
  | evaluation (result : String)
deriving DecidableEq, Repr

/-- The request that a response answers. -/
structure Answered where
  seq : Int
  command : String
deriving DecidableEq, Repr

def Request.answered (req : Request) : Answered := ⟨req.seq, req.command⟩

inductive Message where
  | event (event : Event)
  | success (request : Answered) (body : Body)
  | failure (request : Answered) (reason : String)
deriving DecidableEq, Repr

/-- The only thread a program ever has. -/
def threadId : Nat := 1

/-! ## As JSON -/

def Breakpoint.toJson (bp : Breakpoint) : Json :=
  .object [("id", .nat bp.id), ("verified", .bool bp.verified), ("line", .int bp.line)]

def Frame.toJson (f : Frame) : Json :=
  .object
    [("id", .nat f.id), ("name", .str f.name),
     ("source", .object [("name", Json.ofOption .str f.fileName), ("path", .str f.path)]),
     ("line", .int f.line), ("column", .nat 0)]

def Scope.toJson (s : Scope) : Json :=
  .object
    [("name", .str s.name), ("variablesReference", .nat s.handle),
     ("expensive", .bool s.expensive)]

def Variable.toJson (v : Variable) : Json :=
  .object
    [("name", .str v.name), ("type", .str v.type), ("value", .str v.value),
     ("variablesReference", .nat v.handle)]

def Event.name : Event → String
  | .initialized => "initialized"
  | .output _ _ => "output"
  | .stopped _ _ => "stopped"
  | .terminated => "terminated"
  | .breakpointChanged _ => "breakpoint"

def Event.body : Event → Option Json
  | .initialized => none
  | .output text handle =>
    some <| .object
      [("category", .str "console"), ("output", .str (text ++ "\n")),
       ("variablesReference", .nat handle)]
  | .stopped reason hit =>
    let base :=
      [("reason", Json.str reason.name), ("threadId", .nat threadId),
       ("allThreadsStopped", .bool true)]
    some <| .object <| match hit with
      | none => base
      | some id => base ++ [("hitBreakpointIds", .arr [.nat id])]
  | .terminated => none
  | .breakpointChanged bp =>
    some <| .object [("reason", .str "changed"), ("breakpoint", bp.toJson)]

def Body.toJson : Body → Option Json
  | .nothing => none
  | .capabilities =>
    some <| .object
      [("supportsConfigurationDoneRequest", .bool true),
       ("supportsEvaluateForHovers", .bool true),
       ("supportsStepBack", .bool true),
       ("supportsTerminateRequest", .bool true)]
  | .breakpoints list => some <| .object [("breakpoints", .arr (list.map Breakpoint.toJson))]
  | .threads =>
    some <| .object
      [("threads", .arr [.object
        [("id", .nat threadId), ("name", .str ("thread " ++ toString threadId))]])]
  | .stackTrace frames total =>
    some <| .object [("stackFrames", .arr (frames.map Frame.toJson)), ("totalFrames", .nat total)]
  | .scopes list => some <| .object [("scopes", .arr (list.map Scope.toJson))]
  | .variables list => some <| .object [("variables", .arr (list.map Variable.toJson))]
  | .evaluation result =>
    some <| .object [("result", .str result), ("variablesReference", .nat 0)]

/-- A field that is left out when it has no value. -/
def optionalField (key : String) : Option Json → List (String × Json)
  | none => []
  | some v => [(key, v)]

def responseFields (seq : Nat) (request : Answered) (success : Bool) : List (String × Json) :=
  [("seq", .nat seq), ("type", .str "response"), ("request_seq", .int request.seq),
   ("success", .bool success), ("command", .str request.command)]

/-- The object sent as message number `seq`. -/
def Message.toJson (seq : Nat) : Message → Json
  | .event e =>
    .object <|
      [("seq", Json.nat seq), ("type", .str "event"), ("event", .str e.name)] ++
        optionalField "body" e.body
  | .success request body =>
    .object <| responseFields seq request true ++ optionalField "body" body.toJson
  | .failure request reason =>
    .object <| responseFields seq request false ++ [("message", .str reason)]

end TabTools.Debug
