import TabTools.Editor.Document
import TabTools.Text.Quoted

/-!
# Open documents

A workspace is the settings in force and the documents that are open, by URI. Whenever one of them
changes, the findings of the documents concerned are published again, so that what a client has last
been told about a document is what holds for its text and the settings.

**Changes.** A document may be edited without having been opened, and opened again while it is open.
An edit carries whole texts, of which the last counts; an edit without a text changes nothing. A
document that is closed has no findings any more.

The client's log is told of every change to a text or to the settings, unless tracing is off.
-/

namespace TabTools.Editor

/-- The weight of a message in the client's log. -/
inductive LogKind where
  | info
  | log
deriving DecidableEq, Repr

def LogKind.code : LogKind → Nat
  | .info => 3
  | .log => 4

/-- What the server tells the client without being asked. -/
inductive Notice where
  | log (kind : LogKind) (message : String)
  /-- All findings of a document, with the version of the text they belong to. -/
  | publish (uri : String) (version : Option Int) (findings : List Finding)
deriving DecidableEq, Repr

def Notice.method : Notice → String
  | .log _ _ => "window/logMessage"
  | .publish _ _ _ => "textDocument/publishDiagnostics"

def Notice.params : Notice → Json
  | .log kind message => .object [("type", .nat kind.code), ("message", .str message)]
  | .publish uri version findings =>
    .object ([("uri", .str uri), ("diagnostics", .arr (findings.map Finding.toJson))] ++
      version.toList.map fun v => ("version", .int v))

/-- What a client reports. -/
inductive Change where
  | opened (uri : String) (version : Int) (text : String)
  | edited (uri : String) (version : Int) (texts : List String)
  | closed (uri : String)
  | configured (payload : Json)

structure Workspace where
  settings : Settings := {}
  /-- The open documents, in the order of their URIs. -/
  documents : List (String × Document) := []

namespace Workspace

def document? (w : Workspace) (uri : String) : Option Document := w.documents.lookup uri

/-- A message for the client's log, unless tracing is off. -/
def traced (w : Workspace) (message : String) : List Notice :=
  match w.settings.trace with
  | .off => []
  | _ => [.log .log message]

/-- Takes over the text of a document and publishes what was found in it. -/
def setText (w : Workspace) (uri : String) (version : Int) (text : String) :
    Workspace × List Notice :=
  let doc := Document.ofText text.toList
  let findings := doc.findings w.settings
  ({ w with documents := insertKey uri doc w.documents },
    w.traced (uri ++ ": " ++ toString findings.length ++ " diagnostics") ++
      [.publish uri (some version) findings])

/-- The findings of all open documents. -/
def publishAll (w : Workspace) : List Notice :=
  w.documents.map fun (uri, doc) => .publish uri none (doc.findings w.settings)

/-- The settings in words. -/
def settingsText (s : Settings) : String :=
  let classes := String.intercalate ", " (s.preferUppercase.map Text.quoted)
  "tabasm settings changed: preferUppercase=[" ++ classes ++ "] trace=" ++ s.trace.name

/-- What a change does, and what the client is told because of it. -/
def handle (w : Workspace) : Change → Workspace × List Notice
  | .opened uri version text => w.setText uri version text
  | .edited uri version texts =>
    match texts.getLast? with
    | none => (w, [])
    | some text => w.setText uri version text
  | .closed uri =>
    ({ w with documents := w.documents.filter fun d => d.1 != uri }, [.publish uri none []])
  | .configured payload =>
    let w := { w with settings := w.settings.applyClient payload }
    (w, w.traced (settingsText w.settings) ++ w.publishAll)

end Workspace

end TabTools.Editor
