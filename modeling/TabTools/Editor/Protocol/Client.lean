import TabTools.Editor.Protocol.Basic

/-!
# What a client says about itself

The form of the parameters of the first request. The server does not adapt to any of it, but a
client whose description does not fit is refused.
-/

namespace TabTools.Editor.Protocol

/-- A record of fields that say yes or no. -/
def flagged (name : String) (keys : List String) : Form := record name (flags keys)

/-- Whether a feature may be switched on later. -/
def dynamic : Form := flagged "DynamicRegistrationClientCapabilities" ["dynamicRegistration"]

/-- Whether the server may ask for a feature's results to be fetched again. -/
def refreshed (name : String) : Form := flagged name ["refreshSupport"]

/-- Which properties may be sent late. -/
def resolved (name : String) : Form := record name [("properties", .list .text)]

def kindSet (name : String) : Form := record name [optional "valueSet" (.list .int32)]

def symbolKinds : Form := kindSet "SymbolKindCapability"

def markupKinds : Form := .list markupKind

/-- Tags that are understood; some clients only say that there are some. -/
def tagSupport : String × Form :=
  ("tagSupport",
    .lenient (.option (.orBool (record "TagSupport" [("valueSet", .list .int32)]))))

/-! ## The workspace -/

def workspaceEditing : Form :=
  record "WorkspaceEditClientCapabilities"
    (flags ["documentChanges"] ++
     [optional "resourceOperations" (.list (.word ["create", "rename", "delete"])),
      optional "failureHandling"
        (.word ["abort", "transactional", "textOnlyTransactional", "undo"])] ++
     flags ["normalizesLineEndings"] ++
     [optional "changeAnnotationSupport"
        (flagged "ChangeAnnotationWorkspaceEditClientCapabilities" ["groupsOnLabel"])])

def workspaceSymbols : Form :=
  record "WorkspaceSymbolClientCapabilities"
    (flags ["dynamicRegistration"] ++
     [optional "symbolKind" symbolKinds, tagSupport,
      optional "resolveSupport" (resolved "WorkspaceSymbolResolveSupportCapability")])

def fileOperations : Form :=
  flagged "WorkspaceFileOperationsClientCapabilities"
    ["dynamicRegistration", "didCreate", "willCreate", "didRename", "willRename", "didDelete",
     "willDelete"]

def workspaceFeatures : Form :=
  record "WorkspaceClientCapabilities"
    (flags ["applyEdit"] ++
     [optional "workspaceEdit" workspaceEditing,
      optional "didChangeConfiguration" dynamic,
      optional "didChangeWatchedFiles"
        (flagged "DidChangeWatchedFilesClientCapabilities"
          ["dynamicRegistration", "relativePatternSupport"]),
      optional "symbol" workspaceSymbols,
      optional "executeCommand" dynamic] ++
     flags ["workspaceFolders", "configuration"] ++
     [optional "semanticTokens" (refreshed "SemanticTokensWorkspaceClientCapabilities"),
      optional "codeLens" (refreshed "CodeLensWorkspaceClientCapabilities"),
      optional "fileOperations" fileOperations,
      optional "inlineValue" (refreshed "InlineValueWorkspaceClientCapabilities"),
      optional "inlayHint" (refreshed "InlayHintWorkspaceClientCapabilities"),
      optional "diagnostic" (refreshed "DiagnosticWorkspaceClientCapabilities")])

/-! ## Documents -/

def completionItemFeatures : Form :=
  record "CompletionItemCapability"
    (flags ["snippetSupport", "commitCharactersSupport"] ++
     [optional "documentationFormat" markupKinds] ++
     flags ["deprecatedSupport", "preselectSupport"] ++
     [tagSupport] ++
     flags ["insertReplaceSupport"] ++
     [optional "resolveSupport" (resolved "CompletionItemCapabilityResolveSupport"),
      optional "insertTextModeSupport"
        (record "InsertTextModeSupport" [("valueSet", .list .int32)])] ++
     flags ["labelDetailsSupport"])

def completionFeatures : Form :=
  record "CompletionClientCapabilities"
    (flags ["dynamicRegistration"] ++
     [optional "completionItem" completionItemFeatures,
      optional "completionItemKind" (kindSet "CompletionItemKindCapability")] ++
     flags ["contextSupport"] ++
     [optional "insertTextMode" .int32,
      optional "completionList"
        (record "CompletionListCapability" [optional "itemDefaults" (.list .text)])])

def signatureFeatures : Form :=
  record "SignatureHelpClientCapabilities"
    (flags ["dynamicRegistration"] ++
     [optional "signatureInformation"
        (record "SignatureInformationSettings"
          ([optional "documentationFormat" markupKinds,
            optional "parameterInformation"
              (flagged "ParameterInformationSettings" ["labelOffsetSupport"])] ++
           flags ["activeParameterSupport"]))] ++
     flags ["contextSupport"])

def documentSymbolFeatures : Form :=
  record "DocumentSymbolClientCapabilities"
    (flags ["dynamicRegistration"] ++ [optional "symbolKind" symbolKinds] ++
     flags ["hierarchicalDocumentSymbolSupport"] ++ [tagSupport])

def jumpFeatures : Form := flagged "GotoCapability" ["dynamicRegistration", "linkSupport"]

def codeActionFeatures : Form :=
  record "CodeActionClientCapabilities"
    (flags ["dynamicRegistration"] ++
     [optional "codeActionLiteralSupport"
        (record "CodeActionLiteralSupport"
          [("codeActionKind",
            record "CodeActionKindLiteralSupport" [("valueSet", .list .text)])])] ++
     flags ["isPreferredSupport", "disabledSupport", "dataSupport"] ++
     [optional "resolveSupport" (resolved "CodeActionCapabilityResolveSupport")] ++
     flags ["honorsChangeAnnotations"])

def renameFeatures : Form :=
  record "RenameClientCapabilities"
    (flags ["dynamicRegistration", "prepareSupport"] ++
     [optional "prepareSupportDefaultBehavior" .int32] ++
     flags ["honorsChangeAnnotations"])

def publishFeatures : Form :=
  record "PublishDiagnosticsClientCapabilities"
    (flags ["relatedInformation"] ++ [tagSupport] ++
     flags ["versionSupport", "codeDescriptionSupport", "dataSupport"])

def foldingFeatures : Form :=
  record "FoldingRangeClientCapabilities"
    (flags ["dynamicRegistration"] ++ [optional "rangeLimit" .nat32] ++
     flags ["lineFoldingOnly"] ++
     [optional "foldingRangeKind"
        (record "FoldingRangeKindCapability"
          [optional "valueSet" (.list (.word ["comment", "imports", "region"]))]),
      optional "foldingRange" (flagged "FoldingRangeCapability" ["collapsedText"])])

def tokenFeatures : Form :=
  record "SemanticTokensClientCapabilities"
    (flags ["dynamicRegistration"] ++
     [("requests",
        record "SemanticTokensClientCapabilitiesRequests"
          (flags ["range"] ++
           [optional "full"
              (.choice "SemanticTokensFullOptions"
                [.bool, flagged "SemanticTokensFullOptions" ["delta"]])])),
      ("tokenTypes", .list .text), ("tokenModifiers", .list .text), ("formats", .list .text)] ++
     flags ["overlappingTokenSupport", "multilineTokenSupport", "serverCancelSupport",
       "augmentsSyntaxTokens"])

def documentFeatures : Form :=
  record "TextDocumentClientCapabilities"
    [optional "synchronization"
       (flagged "TextDocumentSyncClientCapabilities"
         ["dynamicRegistration", "willSave", "willSaveWaitUntil", "didSave"]),
     optional "completion" completionFeatures,
     optional "hover"
       (record "HoverClientCapabilities"
         (flags ["dynamicRegistration"] ++ [optional "contentFormat" markupKinds])),
     optional "signatureHelp" signatureFeatures,
     optional "references" dynamic,
     optional "documentHighlight" dynamic,
     optional "documentSymbol" documentSymbolFeatures,
     optional "formatting" dynamic,
     optional "rangeFormatting" dynamic,
     optional "onTypeFormatting" dynamic,
     optional "declaration" jumpFeatures,
     optional "definition" jumpFeatures,
     optional "typeDefinition" jumpFeatures,
     optional "implementation" jumpFeatures,
     optional "codeAction" codeActionFeatures,
     optional "codeLens" dynamic,
     optional "documentLink"
       (flagged "DocumentLinkClientCapabilities" ["dynamicRegistration", "tooltipSupport"]),
     optional "colorProvider" dynamic,
     optional "rename" renameFeatures,
     optional "publishDiagnostics" publishFeatures,
     optional "foldingRange" foldingFeatures,
     optional "selectionRange"
       (flagged "SelectionRangeClientCapabilities" ["dynamicRegistration"]),
     optional "linkedEditingRange" dynamic,
     optional "callHierarchy" dynamic,
     optional "semanticTokens" tokenFeatures,
     optional "moniker" dynamic,
     optional "typeHierarchy" dynamic,
     optional "inlineValue" dynamic,
     optional "inlayHint"
       (record "InlayHintClientCapabilities"
         (flags ["dynamicRegistration"] ++
          [optional "resolveSupport" (resolved "InlayHintResolveClientCapabilities")])),
     optional "diagnostic"
       (flagged "DiagnosticClientCapabilities"
         ["dynamicRegistration", "relatedDocumentSupport"])]

/-! ## The client -/

def windowFeatures : Form :=
  record "WindowClientCapabilities"
    (flags ["workDoneProgress"] ++
     [optional "showMessage"
        (record "ShowMessageRequestClientCapabilities"
          [optional "messageActionItem"
            (flagged "MessageActionItemCapabilities" ["additionalPropertiesSupport"])]),
      optional "showDocument" (record "ShowDocumentClientCapabilities" [("support", .bool)])])

def generalFeatures : Form :=
  record "GeneralClientCapabilities"
    [optional "regularExpressions"
       (record "RegularExpressionsClientCapabilities"
         ([("engine", .text)] ++ texts ["version"])),
     optional "markdown"
       (record "MarkdownClientCapabilities"
         ([("parser", .text)] ++ texts ["version"] ++
          [optional "allowedTags" (.list .text)])),
     optional "staleRequestSupport"
       (record "StaleRequestSupportClientCapabilities"
         [("cancel", .bool), ("retryOnContentModified", .list .text)]),
     optional "positionEncodings" (.list .text)]

def clientFeatures : Form :=
  record "ClientCapabilities"
    [optional "workspace" workspaceFeatures, optional "textDocument" documentFeatures,
     optional "window" windowFeatures, optional "general" generalFeatures,
     optional "experimental" .any]

/-- The parameters of the first request. -/
def introduction : Form :=
  record "InitializeParams"
    [optional "processId" .nat32,
     optional "rootPath" .text,
     ("rootUri", .lenient (.option .url)),
     optional "initializationOptions" .any,
     ("capabilities", clientFeatures),
     ("trace", .lenient (.option (.word ["off", "messages", "verbose"]))),
     optional "workspaceFolders"
       (.list (record "WorkspaceFolder" [("uri", .url), ("name", .text)])),
     optional "clientInfo" (record "ClientInfo" ([("name", .text)] ++ texts ["version"])),
     optional "locale" .text]

end TabTools.Editor.Protocol
