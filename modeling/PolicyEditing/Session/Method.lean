import PolicyEditing.Wire.Params

/-!
# Methods

A call names its method.  Four methods move the session along; all others are requests or
notifications with a reader for their parameters.
-/

namespace PolicyEditing

/-- What a method name stands for. -/
inductive Method where
  /-- Begins the session. -/
  | connect
  /-- Ends the work of the server. -/
  | shutDown
  /-- Ends the server. -/
  | exit
  | request (read : Json → Option Request)
  | notification (read : Json → Option Notification)

namespace Method

variable [UriReading]

/-- The methods that move the session along. -/
def sessionMethods : List (String × Method) :=
  [("initialize", .connect), ("shutdown", .shutDown), ("exit", .exit)]

def requests : List (String × Method) :=
  [("textDocument/hover", .request Params.hover?),
    ("textDocument/completion", .request Params.complete?),
    ("completionItem/resolve", .request Params.resolve?),
    ("textDocument/formatting", .request Params.format?)]

def notifications : List (String × Method) :=
  [("initialized", .notification Params.initialized?),
    ("workspace/didChangeConfiguration", .notification Params.configurationChanged?),
    ("workspace/didChangeWorkspaceFolders", .notification Params.foldersChanged?),
    ("textDocument/didOpen", .notification Params.opened?),
    ("textDocument/didChange", .notification Params.edited?),
    ("textDocument/didClose", .notification Params.closed?)]

/-- Known requests about a place that the server does not offer. -/
def unsupportedAtPlace : List (String × Shape) :=
  [("textDocument/declaration", .placeParams),
    ("textDocument/definition", .placeParams),
    ("textDocument/typeDefinition", .placeParams),
    ("textDocument/implementation", .placeParams),
    ("textDocument/references", .referenceParams),
    ("textDocument/documentHighlight", .placeParams),
    ("textDocument/signatureHelp", .functionHelpParams),
    ("textDocument/moniker", .placeParams),
    ("textDocument/rename", .renameParams),
    ("textDocument/prepareRename", .record Shape.ofPlace),
    ("textDocument/linkedEditingRange", .hoverParams),
    ("textDocument/prepareCallHierarchy", .hoverParams),
    ("textDocument/prepareTypeHierarchy", .hoverParams),
    ("textDocument/onTypeFormatting", .typedLayoutParams)]

/-- Known requests about a document that the server does not offer. -/
def unsupportedForDocument : List (String × Shape) :=
  [("textDocument/documentLink", .documentParams),
    ("textDocument/codeLens", .documentParams),
    ("textDocument/foldingRange", .documentParams),
    ("textDocument/selectionRange", .selectionParams),
    ("textDocument/documentSymbol", .documentParams),
    ("textDocument/documentColor", .documentParams),
    ("textDocument/colorPresentation", .colourParams),
    ("textDocument/codeAction", .actionParams),
    ("textDocument/rangeFormatting", .rangeLayoutParams),
    ("textDocument/inlayHint", .hintParams),
    ("textDocument/inlineValue", .valueParams),
    ("textDocument/diagnostic", .problemParams),
    ("textDocument/semanticTokens/full", .documentParams),
    ("textDocument/semanticTokens/full/delta", .tokenChangeParams),
    ("textDocument/semanticTokens/range", .rangeParams),
    ("textDocument/willSaveWaitUntil", .savingParams)]

/-- Known requests about the workspace or an earlier answer that the server does not offer. -/
def unsupportedOtherwise : List (String × Shape) :=
  [("callHierarchy/incomingCalls", .callerParams),
    ("callHierarchy/outgoingCalls", .callerParams),
    ("typeHierarchy/supertypes", .typeParams),
    ("typeHierarchy/subtypes", .typeParams),
    ("documentLink/resolve", .link),
    ("codeLens/resolve", .lens),
    ("inlayHint/resolve", .hint),
    ("codeAction/resolve", .action),
    ("workspace/symbol", .symbolParams),
    ("workspaceSymbol/resolve", .symbol),
    ("workspace/diagnostic", .workspaceProblemParams),
    ("workspace/executeCommand", .commandParams),
    ("workspace/willCreateFiles", .fileParams),
    ("workspace/willRenameFiles", .fileRenameParams),
    ("workspace/willDeleteFiles", .fileParams)]

/-- Known requests that the server does not offer, each with the shape of its parameters. -/
def unsupported : List (String × Shape) :=
  unsupportedAtPlace ++ unsupportedForDocument ++ unsupportedOtherwise

/-- Known notifications that the server has no use for. -/
def ignoredNames : List String :=
  ["textDocument/willSave", "textDocument/didSave", "workspace/didChangeWatchedFiles",
    "workspace/didCreateFiles", "workspace/didRenameFiles", "workspace/didDeleteFiles"]

def table : List (String × Method) :=
  sessionMethods ++ requests ++ notifications ++
    unsupported.map (fun (name, shape) => (name, .request (Params.unsupported? shape))) ++
    ignoredNames.map (·, .notification Params.ignored?)

def ofName? (name : String) : Option Method :=
  table.lookup name

/-- Whether a request with this name may be passed over if no method has the name. -/
def isOptional (name : String) : Bool :=
  "$/".toList.isPrefixOf name.toList

end Method

end PolicyEditing
