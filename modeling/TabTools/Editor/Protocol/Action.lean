import TabTools.Editor.Protocol.Basic

/-!
# Forms of findings, edits of a workspace and actions
-/

namespace TabTools.Editor.Protocol

def diagnostic : Form :=
  record "Diagnostic"
    [("range", range),
     optional "severity" .int32,
     optional "code" numberOrText,
     optional "codeDescription" (record "CodeDescription" [("href", .url)]),
     optional "source" .text,
     ("message", .text),
     optional "relatedInformation"
       (.list (record "DiagnosticRelatedInformation"
         [("location", location), ("message", .text)])),
     optional "tags" (.list .int32),
     optional "data" .any]

/-! ## Edits of a workspace -/

/-- Edits of one version of a document. An edit that carries the name of an annotation is an
edit. -/
def documentEdit : Form :=
  record "TextDocumentEdit"
    [("textDocument", record "OptionalVersionedTextDocumentIdentifier"
       [("uri", .url), optional "version" .int32]),
     ("edits", .list (.choice "OneOf" [textEdit]))]

def annotationId : String × Form := optional "annotationId" .text

/-- What becomes of a file. -/
def fileOperation : Form :=
  .tagged "kind"
    [("create", record "CreateFile"
       [("uri", .url),
        optional "options" (record "CreateFileOptions" (flags ["overwrite", "ignoreIfExists"])),
        annotationId]),
     ("rename", record "RenameFile"
       [("oldUri", .url), ("newUri", .url),
        optional "options" (record "RenameFileOptions" (flags ["overwrite", "ignoreIfExists"])),
        annotationId]),
     ("delete", record "DeleteFile"
       [("uri", .url),
        optional "options"
          (record "DeleteFileOptions"
            (flags ["recursive", "ignoreIfNotExists"] ++ [annotationId]))])]

def documentChanges : Form :=
  .choice "DocumentChanges"
    [.list documentEdit,
     .list (.choice "DocumentChangeOperation" [fileOperation, documentEdit])]

def workspaceEdit : Form :=
  record "WorkspaceEdit"
    [("changes", .lenient (.option (.urlDict textEdits))),
     optional "documentChanges" documentChanges,
     optional "changeAnnotations"
       (.dict (record "ChangeAnnotation"
         ([("label", .text)] ++ flags ["needsConfirmation"] ++ texts ["description"])))]

/-! ## Actions -/

def codeActionContext : Form :=
  record "CodeActionContext"
    [("diagnostics", .list diagnostic), optional "only" (.list .text),
     optional "triggerKind" .int32]

def codeAction : Form :=
  record "CodeAction"
    ([("title", .text),
      optional "kind" .text,
      optional "diagnostics" (.list diagnostic),
      optional "edit" workspaceEdit,
      optional "command" command] ++
     flags ["isPreferred"] ++
     [optional "disabled" (record "CodeActionDisabled" [("reason", .text)]),
      optional "data" .any])

end TabTools.Editor.Protocol
