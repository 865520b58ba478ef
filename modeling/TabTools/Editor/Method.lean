import TabTools.Editor.Completion
import TabTools.Editor.Protocol.Client
import TabTools.Editor.Protocol.Query
import TabTools.Editor.Workspace

/-!
# The methods of the protocol

Which methods there are, what form their parameters have, and what is taken from parameters that
fit. The methods of the server's own life (`initialize`, `shutdown`, `exit`) are not among them.

A query is a request that is answered from the workspace, and a change is a notification that the
workspace takes in. The protocol has more requests, which the server does not offer but whose
parameters it checks, and more notifications, which do nothing here.
-/

namespace TabTools.Editor

/-! ## Values in normal form -/

def textOf? (key : String) (v : Json) : Option String := (v.get? key).bind Json.str?

def intOf? (key : String) (v : Json) : Option Int := (v.get? key).bind Json.int?

def Position.ofNormal? (v : Json) : Option Position := do
  return ⟨(← intOf? "line" v).toNat, (← intOf? "character" v).toNat⟩

/-- The URI of the document that parameters name. -/
def documentOf? (v : Json) : Option String := (v.get? "textDocument").bind (textOf? "uri")

/-- The version of the document that parameters name. -/
def versionOf? (v : Json) : Option Int := (v.get? "textDocument").bind (intOf? "version")

/-! ## Queries -/

/-- The requests that are answered from the workspace. -/
inductive Query where
  | completion
  | resolve (item : CompletionItem)
  | hover (uri : String) (position : Position)
  | definition (uri : String) (position : Position)

namespace Query

def answer (w : Workspace) : Query → Json
  | .completion => .arr (CompletionItem.offered.map CompletionItem.toJson)
  | .resolve item => item.resolve.toJson
  | .hover uri position =>
    Json.ofOption Hover.toJson ((w.document? uri).bind fun doc => doc.hover position)
  | .definition uri position =>
    Json.ofOption (Range.locationJson uri)
      ((w.document? uri).bind fun doc => doc.definition position)

/-- A query about a place in a document. -/
def atPlace? (query : String → Position → Query) (v : Json) : Option Query := do
  return query (← documentOf? v) (← (v.get? "position").bind Position.ofNormal?)

/-- The queries, by method. -/
def methods : List (String × (Json → Except Mismatch Query)) :=
  [("textDocument/completion", Protocol.completion.decode fun _ => some .completion),
   ("completionItem/resolve", fun v => return .resolve (← CompletionItem.ofJson v)),
   ("textDocument/hover", Protocol.hover.decode (atPlace? .hover)),
   ("textDocument/definition", Protocol.jump.decode (atPlace? .definition))]

end Query

/-! ## Changes -/

namespace Change

def opened? (v : Json) : Option Change := do
  return .opened (← documentOf? v) (← versionOf? v)
    (← (v.get? "textDocument").bind (textOf? "text"))

def edited? (v : Json) : Option Change := do
  let edits ← v.get? "contentChanges"
  return .edited (← documentOf? v) (← versionOf? v) (edits.toItems.filterMap (textOf? "text"))

def closed? (v : Json) : Option Change := (documentOf? v).map .closed

def configured? (v : Json) : Option Change := (v.get? "settings").map .configured

/-- The changes, by method. -/
def methods : List (String × (Json → Except Mismatch Change)) :=
  [("textDocument/didOpen", Protocol.opened.decode opened?),
   ("textDocument/didChange", Protocol.edited.decode edited?),
   ("textDocument/didClose", Protocol.closed.decode closed?),
   ("workspace/didChangeConfiguration", Protocol.configured.decode configured?)]

end Change

/-! ## Other methods -/

/-- Notifications that do nothing here. -/
def idleNotifications : List String :=
  ["textDocument/willSave", "textDocument/didSave", "workspace/didChangeWorkspaceFolders",
   "workspace/didCreateFiles", "workspace/didRenameFiles", "workspace/didDeleteFiles",
   "workspace/didChangeWatchedFiles"]

/-- Requests that this server does not offer, with the form of their parameters. -/
def requestsNotOffered : List (String × Form) :=
  open Protocol in
  [("textDocument/willSaveWaitUntil", saving),
   ("textDocument/declaration", jump),
   ("textDocument/typeDefinition", jump),
   ("textDocument/implementation", jump),
   ("textDocument/references", references),
   ("textDocument/prepareCallHierarchy", prepareCalls),
   ("callHierarchy/incomingCalls", calls "CallHierarchyIncomingCallsParams"),
   ("callHierarchy/outgoingCalls", calls "CallHierarchyOutgoingCallsParams"),
   ("textDocument/prepareTypeHierarchy", prepareTypes),
   ("typeHierarchy/supertypes", types "TypeHierarchySupertypesParams"),
   ("typeHierarchy/subtypes", types "TypeHierarchySubtypesParams"),
   ("textDocument/documentHighlight", highlights),
   ("textDocument/documentLink", ofDocument "DocumentLinkParams"),
   ("documentLink/resolve", documentLink),
   ("textDocument/codeLens", ofDocument "CodeLensParams"),
   ("codeLens/resolve", codeLens),
   ("textDocument/foldingRange", ofDocument "FoldingRangeParams"),
   ("textDocument/selectionRange", selection),
   ("textDocument/documentSymbol", ofDocument "DocumentSymbolParams"),
   ("textDocument/semanticTokens/full", ofDocument "SemanticTokensParams"),
   ("textDocument/semanticTokens/full/delta", tokensSince),
   ("textDocument/semanticTokens/range", tokensIn),
   ("textDocument/inlineValue", inlineValues),
   ("textDocument/inlayHint", inlayHints),
   ("inlayHint/resolve", inlayHint),
   ("textDocument/moniker", moniker),
   ("textDocument/diagnostic", findings),
   ("workspace/diagnostic", workspaceFindings),
   ("textDocument/signatureHelp", signatureHelp),
   ("textDocument/codeAction", codeActions),
   ("codeAction/resolve", codeAction),
   ("textDocument/documentColor", ofDocument "DocumentColorParams"),
   ("textDocument/colorPresentation", colorTexts),
   ("textDocument/formatting", format),
   ("textDocument/rangeFormatting", formatRange),
   ("textDocument/onTypeFormatting", formatTyped),
   ("textDocument/rename", rename),
   ("textDocument/prepareRename", place),
   ("textDocument/linkedEditingRange", linkedEditing),
   ("workspace/symbol", symbols),
   ("workspaceSymbol/resolve", workspaceSymbol),
   ("workspace/willCreateFiles", files "CreateFilesParams" "FileCreate" ["uri"]),
   ("workspace/willRenameFiles", files "RenameFilesParams" "FileRename" ["oldUri", "newUri"]),
   ("workspace/willDeleteFiles", files "DeleteFilesParams" "FileDelete" ["uri"]),
   ("workspace/executeCommand", execution)]

end TabTools.Editor
