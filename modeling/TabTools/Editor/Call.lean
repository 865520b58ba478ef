import TabTools.Json.Form
import TabTools.Json.Parser

/-!
# Calls and answers

A client makes calls. A call names a method and may carry parameters; one that is answered, a
request, also carries an identifier, which its one answer repeats. A call without an identifier is
a notification.

**Messages.** What comes from a client is a call or the answer to a call of the server. The server
makes no calls that are answered, so answers are passed over. Anything else is refused under the
identifier `null`.
-/

namespace TabTools.Editor

/-- A request, or a notification when it has no identifier. -/
structure Call where
  id : Option Json
  method : String
  /-- Parameters that are `null` are not the same as none. -/
  params : Option Json

namespace Call

/-- Identifiers are signed 64-bit integers, texts or `null`. -/
def isId : Json → Bool
  | .null => true
  | .str _ => true
  | .num (.int n) => -0x8000000000000000 ≤ n && n < 0x8000000000000000
  | _ => false

/-- Whether a record is one of the protocol's version. -/
def isCurrent (v : Json) : Bool := (v.get? "jsonrpc").bind Json.str? == some "2.0"

def form : Form :=
  .record "Request"
    [("jsonrpc", .text), ("method", .lenient .text), ("params", .lenient .any),
     ("id", .lenient .any)] []

/-- The call that a value makes, which is a record or an array of its fields. -/
def ofJson (v : Json) : Option Call := do
  let v ← (form.read false v).toOption
  guard (isCurrent v && (v.get? "id").all isId)
  return ⟨v.get? "id", ((v.get? "method").bind Json.str?).getD "", v.get? "params"⟩

end Call

/-! ## Errors -/

/-- Why a message is refused. -/
inductive CallError where
  /-- No JSON. -/
  | unreadable
  | notInitialized
  | invalidRequest
  /-- The protocol has no such method. -/
  | unknownMethod (method : String)
  /-- The server does not offer the method. -/
  | notOffered
  | invalidParams (reason : String)
deriving DecidableEq, Repr

namespace CallError

def code : CallError → Int
  | .unreadable => -32700
  | .notInitialized => -32002
  | .invalidRequest => -32600
  | .unknownMethod _ => -32601
  | .notOffered => -32601
  | .invalidParams _ => -32602

def message : CallError → String
  | .unreadable => "Parse error"
  | .notInitialized => "Server not initialized"
  | .invalidRequest => "Invalid request"
  | .unknownMethod _ => "Method not found"
  | .notOffered => "Method not found"
  | .invalidParams reason => reason

def toJson (e : CallError) : Json :=
  let named := match e with
    | .unknownMethod method => [("data", Json.str method)]
    | _ => []
  .object ([("code", .int e.code), ("message", .str e.message)] ++ named)

end CallError

/-- The answer to a request. -/
def answerJson (id : Json) : Except CallError Json → Json
  | .ok result => .object [("jsonrpc", .str "2.0"), ("id", id), ("result", result)]
  | .error e => .object [("jsonrpc", .str "2.0"), ("id", id), ("error", e.toJson)]

/-! ## Messages -/

/-- What comes from a client. -/
inductive Incoming where
  | call (call : Call)
  /-- An answer, which nothing waits for. -/
  | answer
  | refused (cause : CallError)

namespace Incoming

/-- The error of an answer, which has no fields of other names. -/
def isError (v : Json) : Bool :=
  let keys := ["code", "message", "data"]
  let form : Form := .record "Error"
    [("code", .int "i64" (-0x8000000000000000) 0x8000000000000000), ("message", .text),
     ("data", .option .any)] []
  (Form.fieldsOf v).all (fun f => keys.contains f.1) && (form.read true v).isOk

/-- Whether a value is the answer to a request. -/
def isAnswer (v : Json) : Bool :=
  Call.isCurrent v && (v.get? "id").any Call.isId &&
    ((v.get? "result").isSome || (v.get? "error").any isError)

def ofJson (v : Json) : Incoming :=
  if isAnswer v then .answer
  else (Call.ofJson v).elim (.refused .invalidRequest) .call

/-- The message with a given text. -/
def ofText (text : List Char) : Incoming :=
  (Json.parse? text).elim (.refused .unreadable) ofJson

end Incoming

end TabTools.Editor
