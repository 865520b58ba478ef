import TabTools.Editor.Protocol.Action

/-!
# Forms of requests

What the parameters of the requests look like that ask about documents and the workspace.
-/

namespace TabTools.Editor.Protocol

/-! ## Places in documents -/

def hover : Form := oncePlace "HoverParams" []

/-- The declaration, definition, type or implementation of what is at a place. -/
def jump : Form := atPlace "GotoDefinitionParams" []

def completion : Form :=
  atPlace "CompletionParams"
    [optional "context"
      (record "CompletionContext" ([("triggerKind", .int32)] ++ texts ["triggerCharacter"]))]

def references : Form :=
  atPlace "ReferenceParams"
    [("context", record "ReferenceContext" [("includeDeclaration", .bool)])]

def highlights : Form := atPlace "DocumentHighlightParams" []

def moniker : Form := atPlace "MonikerParams" []

def linkedEditing : Form := oncePlace "LinkedEditingRangeParams" []

def rename : Form := oncePlace "RenameParams" [("newName", .text)]

/-! ## Hierarchies -/

def prepareCalls : Form := oncePlace "CallHierarchyPrepareParams" []

def prepareTypes : Form := oncePlace "TypeHierarchyPrepareParams" []

/-- An item of a hierarchy, with the form of its tags. -/
def hierarchyItem (name : String) (tags : Form) : Form :=
  record name
    [("name", .text), ("kind", .int32), optional "tags" tags, optional "detail" .text,
     ("uri", .url), ("range", range), ("selectionRange", range), optional "data" .any]

/-- The calls from or to an item. -/
def calls (name : String) : Form :=
  about name [("item", hierarchyItem "CallHierarchyItem" (.list .int32))]

/-- The types above or below an item. -/
def types (name : String) : Form :=
  about name [("item", hierarchyItem "TypeHierarchyItem" .int32)]

/-! ## Whole documents and ranges -/

/-- Parameters that name a document. -/
def ofDocument (name : String) : Form := about name [inDocument]

def selection : Form :=
  about "SelectionRangeParams" [inDocument, ("positions", .list position)]

def tokensSince : Form :=
  about "SemanticTokensDeltaParams" [inDocument, ("previousResultId", .text)]

def tokensIn : Form := about "SemanticTokensRangeParams" [inDocument, ("range", range)]

def inlineValues : Form :=
  onceAbout "InlineValueParams"
    [inDocument, ("range", range),
     ("context", record "InlineValueContext" [("frameId", .int32), ("stoppedLocation", range)])]

def inlayHints : Form := onceAbout "InlayHintParams" [inDocument, ("range", range)]

def findings : Form :=
  about "DocumentDiagnosticParams" ([inDocument] ++ texts ["identifier", "previousResultId"])

def codeActions : Form :=
  about "CodeActionParams" [inDocument, ("range", range), ("context", codeActionContext)]

def color : Form :=
  record "Color"
    [("red", .number "f32"), ("green", .number "f32"), ("blue", .number "f32"),
     ("alpha", .number "f32")]

def colorTexts : Form :=
  about "ColorPresentationParams" [inDocument, ("color", color), ("range", range)]

/-- Parameters about saving a document. -/
def saving : Form := record "WillSaveTextDocumentParams" [inDocument, ("reason", .int32)]

/-! ## Layout -/

/-- How to lay out a text. Fields of other names hold a value of any simple kind. -/
def layout : Form :=
  .record "FormattingOptions"
    ([("tabSize", .nat32), ("insertSpaces", .bool)] ++
     flags ["trimTrailingWhitespace", "insertFinalNewline", "trimFinalNewlines"])
    [.dict (.choice "FormattingProperty" [.bool, .int32, .text])]

def format : Form := onceAbout "DocumentFormattingParams" [inDocument, ("options", layout)]

def formatRange : Form :=
  onceAbout "DocumentRangeFormattingParams" [inDocument, ("range", range), ("options", layout)]

def formatTyped : Form :=
  .record "DocumentOnTypeFormattingParams" [("ch", .text), ("options", layout)] [place]

/-! ## Signatures -/

def parameterInfo : Form :=
  record "ParameterInformation"
    [("label", .choice "ParameterLabel" [.text, .pair .nat32]),
     optional "documentation" documentation]

def signature : Form :=
  record "SignatureInformation"
    [("label", .text), optional "documentation" documentation,
     optional "parameters" (.list parameterInfo), optional "activeParameter" .nat32]

def signatureHelp : Form :=
  oncePlace "SignatureHelpParams"
    [optional "context"
      (record "SignatureHelpContext"
        [("triggerKind", .int32), optional "triggerCharacter" .text, ("isRetrigger", .bool),
         optional "activeSignatureHelp"
           (record "SignatureHelp"
             [("signatures", .list signature), optional "activeSignature" .nat32,
              optional "activeParameter" .nat32])])]

/-! ## Items sent back to be completed -/

def documentLink : Form :=
  record "DocumentLink"
    [("range", range), optional "target" .url, optional "tooltip" .text, optional "data" .any]

def codeLens : Form :=
  record "CodeLens" [("range", range), optional "command" command, optional "data" .any]

def inlayHintPart : Form :=
  record "InlayHintLabelPart"
    [("value", .text),
     optional "tooltip" (.choice "InlayHintLabelPartTooltip" [.text, markup]),
     optional "location" location, optional "command" command]

def inlayHint : Form :=
  record "InlayHint"
    ([("position", position),
      ("label", .choice "InlayHintLabel" [.text, .list inlayHintPart]),
      optional "kind" .int32,
      optional "textEdits" textEdits,
      optional "tooltip" (.choice "InlayHintTooltip" [.text, markup])] ++
     flags ["paddingLeft", "paddingRight"] ++
     [optional "data" .any])

def workspaceSymbol : Form :=
  record "WorkspaceSymbol"
    [("name", .text), ("kind", .int32), optional "tags" (.list .int32),
     optional "containerName" .text,
     ("location", .choice "OneOf" [location, record "WorkspaceLocation" [("uri", .url)]]),
     optional "data" .any]

/-! ## The workspace -/

def workspaceFindings : Form :=
  about "WorkspaceDiagnosticParams"
    [optional "identifier" .text,
     ("previousResultIds", .list (record "PreviousResultId" [("uri", .url), ("value", .text)]))]

def symbols : Form := .record "WorkspaceSymbolParams" [("query", .text)] [earlyResults, progress]

/-- Parameters that name files by URI. -/
def files (name item : String) (keys : List String) : Form :=
  record name [("files", .list (record item (keys.map fun key => (key, .text))))]

def execution : Form :=
  onceAbout "ExecuteCommandParams" [("command", .text), ("arguments", .lenient (.list .any))]

end TabTools.Editor.Protocol
