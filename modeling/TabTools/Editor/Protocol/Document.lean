import TabTools.Editor.Protocol.Basic

/-!
# What a client says about its documents

The forms of the reports about documents and settings, and of a completion item.
-/

namespace TabTools.Editor.Protocol

/-- The client is ready. -/
def ready : Form := record "InitializedParams" []

def opened : Form :=
  record "DidOpenTextDocumentParams"
    [("textDocument", record "TextDocumentItem"
      [("uri", .url), ("languageId", .text), ("version", .int32), ("text", .text)])]

def edited : Form :=
  record "DidChangeTextDocumentParams"
    [("textDocument", record "VersionedTextDocumentIdentifier"
       [("uri", .url), ("version", .int32)]),
     ("contentChanges", .list (record "TextDocumentContentChangeEvent"
       [optional "range" range, optional "rangeLength" .nat32, ("text", .text)]))]

def closed : Form := record "DidCloseTextDocumentParams" [inDocument]

def configured : Form := record "DidChangeConfigurationParams" [("settings", .any)]

/-- An edit that replaces a longer or a shorter range. -/
def insertOrReplace : Form :=
  record "InsertReplaceEdit" [("newText", .text), ("insert", range), ("replace", range)]

def completionItem : Form :=
  record "CompletionItem"
    ([("label", .text),
      optional "labelDetails"
        (record "CompletionItemLabelDetails" (texts ["detail", "description"])),
      optional "kind" .int32,
      optional "detail" .text,
      optional "documentation" documentation] ++
     flags ["deprecated", "preselect"] ++
     texts ["sortText", "filterText", "insertText"] ++
     [optional "insertTextFormat" .int32,
      optional "insertTextMode" .int32,
      optional "textEdit" (.choice "CompletionTextEdit" [textEdit, insertOrReplace]),
      optional "additionalTextEdits" textEdits,
      optional "command" command,
      optional "commitCharacters" (.list .text),
      optional "data" .any,
      optional "tags" (.list .int32)])

end TabTools.Editor.Protocol
