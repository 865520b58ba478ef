import TabTools.Editor.Call
import TabTools.Editor.Method

/-!
# The language server

The server answers the requests of an editor and takes its notifications.

**Life of the server.** Only `initialize` is answered at first, and only once. After `shutdown`
every request is refused. Notifications that come at the wrong time are dropped. With `exit` the
server is gone.

**Methods.** A method that the protocol does not have is refused by name at any time, unless it
starts with `$/`: such methods may be passed over. A method of the protocol that this server does
not offer is refused without its name.
-/

namespace TabTools.Editor

/-- What the server says about itself. -/
def greeting : Json :=
  .object
    [("capabilities", .object
        [("textDocumentSync", .nat 1),
         ("completionProvider", .object [("resolveProvider", .bool true)]),
         ("definitionProvider", .bool true),
         ("hoverProvider", .bool true)]),
     ("serverInfo", .object [("name", .str "tabasm-lsp"), ("version", .str "0.2.3")])]

/-- Decodes the parameters of a method that has some. -/
def decodeParams {α : Type} (decode : Json → Except Mismatch α) (params : Option Json) :
    Except CallError α :=
  match params with
  | none => .error (.invalidParams "Missing params field")
  | some v => (decode v).mapError fun e => .invalidParams e.message

/-! ## The server -/

inductive Phase where
  | uninitialized
  | running
  | shutDown
  | exited
deriving DecidableEq, Repr

structure Server where
  phase : Phase := .uninitialized
  workspace : Workspace := {}

/-- What a call makes the server say. -/
structure Reply where
  response : Option Json := none
  notices : List Notice := []

namespace Server

/-- A server with the given settings. -/
def start (settings : Settings) : Server := { workspace := { settings } }

/-- Answers a request; a notification gets no answer. -/
def respond (call : Call) (result : Except CallError Json) : Reply :=
  { response := call.id.map fun id => answerJson id result }

/-- How a request is refused in a phase in which the server does not run. -/
def refusal : Phase → CallError
  | .uninitialized => .notInitialized
  | _ => .invalidRequest

/-! ### Life -/

/-- The first request. A client whose parameters do not fit may try again. -/
def initializeServer (server : Server) (call : Call) : Server × Reply :=
  match server.phase, call.id, decodeParams (Protocol.introduction.read false) call.params with
  | .uninitialized, some _, .ok _ =>
    ({ server with phase := .running }, respond call (.ok greeting))
  | .uninitialized, some _, .error e => (server, respond call (.error e))
  | .uninitialized, none, _ => (server, {})
  | _, _, _ => (server, respond call (.error .invalidRequest))

/-- The last request, which has no parameters. -/
def shutDown (server : Server) (call : Call) : Server × Reply :=
  match server.phase, call.params with
  | .running, none => ({ server with phase := .shutDown }, respond call (.ok .null))
  | .running, some v =>
    ({ server with phase := .shutDown },
      respond call (.error (.invalidParams ("Unexpected params: " ++ v.text))))
  | phase, _ => (server, respond call (.error (refusal phase)))

/-! ### Calls to a running server -/

/-- The client reports that it is ready. -/
def greet (params : Option Json) : Reply :=
  match decodeParams (Protocol.ready.read false) params with
  | .ok _ => { notices := [.log .info "tabasm language server initialized"] }
  | .error _ => {}

/-- The answer to a request that the server does not offer. -/
def decline (form : Form) (params : Option Json) : Except CallError Json := do
  let _ ← decodeParams (form.read false) params
  .error .notOffered

/-- Takes in a change. One whose parameters do not fit is dropped. -/
def change (server : Server) (decode : Json → Except Mismatch Change) (params : Option Json) :
    Server × Reply :=
  match decodeParams decode params with
  | .error _ => (server, {})
  | .ok change =>
    let (workspace, notices) := server.workspace.handle change
    ({ server with workspace }, { notices })

/-- A notification. -/
def notify (server : Server) (method : String) (params : Option Json) : Server × Reply :=
  if method = "initialized" then (server, greet params)
  else
    match Change.methods.lookup method with
    | none => (server, {})
    | some decode => server.change decode params

/-- A call to a method of the protocol while the server runs. A notification that carries an
identifier is refused. -/
def dispatch (server : Server) (call : Call) : Server × Reply :=
  match Query.methods.lookup call.method, requestsNotOffered.lookup call.method, call.id with
  | some decode, _, _ =>
    (server, respond call ((decodeParams decode call.params).map (Query.answer server.workspace)))
  | none, some form, _ => (server, respond call (decline form call.params))
  | none, none, some _ => (server, respond call (.error .invalidRequest))
  | none, none, none => server.notify call.method call.params

/-! ### All calls -/

/-- Whether a running server takes a method. -/
def isKnown (method : String) : Bool :=
  method == "initialized" || (Query.methods.lookup method).isSome ||
    (Change.methods.lookup method).isSome || (requestsNotOffered.lookup method).isSome ||
    idleNotifications.contains method

/-- Whether a method may be passed over when it is not known. -/
def mayPassOver (method : String) : Bool := ['$', '/'].isPrefixOf method.toList

/-- A call to any other method than those of the server's life. -/
def serve (server : Server) (call : Call) : Server × Reply :=
  if isKnown call.method then
    if server.phase = .running then server.dispatch call
    else (server, respond call (.error (refusal server.phase)))
  else if mayPassOver call.method then (server, {})
  else (server, respond call (.error (.unknownMethod call.method)))

/-- Takes a call. A server that has exited takes none. Nothing is left to cancel when a
cancellation comes, so it does nothing; as a request it is refused, and so is `exit`. -/
def take (server : Server) (call : Call) : Option (Server × Reply) :=
  match server.phase, call.method with
  | .exited, _ => none
  | _, "initialize" => some (server.initializeServer call)
  | _, "shutdown" => some (server.shutDown call)
  | _, "exit" =>
    some ({ server with phase := .exited }, respond call (.error .invalidRequest))
  | _, "$/cancelRequest" => some (server, respond call (.error .invalidRequest))
  | _, _ => some (server.serve call)

/-- Takes a message. -/
def receive (server : Server) : Incoming → Option (Server × Reply)
  | .call call => server.take call
  | .answer => some (server, {})
  | .refused cause => some (server, { response := some (answerJson .null (.error cause)) })

/-- All that a reply sends, the notices first. -/
def outgoing (reply : Reply) : List Json :=
  reply.notices.map (fun n => .object [("jsonrpc", .str "2.0"), ("method", .str n.method),
    ("params", n.params)]) ++ reply.response.toList

end Server

end TabTools.Editor
