import TabTools.Json.Form

/-!
# Forms shared by the methods of the protocol

Places in documents, texts, commands and edits, and the parts that parameters have in common.
-/

namespace TabTools.Editor.Protocol

/-- A field that may be lacking. -/
def optional (key : String) (form : Form) : String × Form := (key, .option form)

/-- Fields that say yes or no and may be lacking. -/
def flags (keys : List String) : List (String × Form) :=
  keys.map fun key => optional key .bool

/-- Fields that are texts and may be lacking. -/
def texts (keys : List String) : List (String × Form) :=
  keys.map fun key => optional key .text

/-- A record that has no parts. -/
def record (name : String) (fields : List (String × Form)) : Form := .record name fields []

def numberOrText : Form := .choice "NumberOrString" [.int32, .text]

/-! ## Places -/

def position : Form := record "Position" [("line", .nat32), ("character", .nat32)]

def range : Form := record "Range" [("start", position), ("end", position)]

def location : Form := record "Location" [("uri", .url), ("range", range)]

def documentId : Form := record "TextDocumentIdentifier" [("uri", .url)]

/-- A document, in a field of its own. -/
def inDocument : String × Form := ("textDocument", documentId)

/-- A document and a position in it. -/
def place : Form := record "TextDocumentPositionParams" [inDocument, ("position", position)]

/-! ## Parts of parameters -/

/-- Where the progress of a request is reported. -/
def progress : Form := record "WorkDoneProgressParams" [optional "workDoneToken" numberOrText]

/-- Where the first results of a request are reported. -/
def earlyResults : Form := record "PartialResultParams" [optional "partialResultToken" numberOrText]

/-- Parameters about a place in a document. -/
def atPlace (name : String) (fields : List (String × Form)) : Form :=
  .record name fields [place, progress, earlyResults]

/-- Parameters about a place in a document, answered at once. -/
def oncePlace (name : String) (fields : List (String × Form)) : Form :=
  .record name fields [place, progress]

/-- Parameters about something else than a place. -/
def about (name : String) (fields : List (String × Form)) : Form :=
  .record name fields [progress, earlyResults]

/-- Parameters about something else than a place, answered at once. -/
def onceAbout (name : String) (fields : List (String × Form)) : Form :=
  .record name fields [progress]

/-! ## Texts, commands and edits -/

def markupKind : Form := .word ["plaintext", "markdown"]

def markup : Form := record "MarkupContent" [("kind", markupKind), ("value", .text)]

def documentation : Form := .choice "Documentation" [.text, markup]

def command : Form :=
  record "Command"
    [("title", .text), ("command", .text), optional "arguments" (.list .any)]

def textEdit : Form := record "TextEdit" [("range", range), ("newText", .text)]

def textEdits : Form := .list textEdit

end TabTools.Editor.Protocol
