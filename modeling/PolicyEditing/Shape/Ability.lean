import PolicyEditing.Shape.Item

/-!
# Shapes of what an editor can do

At the beginning of a session the editor says who it is and what it can do.  The server uses two of
these abilities; all of them must be well formed.
-/

namespace PolicyEditing.Shape

/-! ## Parts of abilities -/

/-- Whether something can be asked for in the middle of a session. -/
def dynamic : List (String × Shape) :=
  [("dynamicRegistration", flag)]

/-- Whether views can be asked to ask again. -/
def refreshing : Shape :=
  optional (record [("refreshSupport", flag)])

/-- Which properties can be filled in later. -/
def laterProperties : Shape :=
  optional (record [("properties", listOf string)])

/-- Which numbers are known. -/
def knownNumbers : Shape :=
  optional (record [("valueSet", optional (listOf signed32))])

/-- Which tags are known: a list of numbers, or just whether there are any. -/
def knownTags : Shape :=
  defaulted (optional (either boolean (record [("valueSet", listOf signed32)])))

/-- Which kinds of marked-up text can be shown. -/
def knownMarkup : Shape :=
  optional (listOf markupKind)

/-! ## The workspace -/

def editAbilities : Shape :=
  record
    [("documentChanges", flag),
      ("resourceOperations", optional (listOf (oneOf ["create", "rename", "delete"]))),
      ("failureHandling", optional <|
        oneOf ["abort", "transactional", "textOnlyTransactional", "undo"]),
      ("normalizesLineEndings", flag),
      ("changeAnnotationSupport", optional (record [("groupsOnLabel", flag)]))]

def workspaceFields : List (String × Shape) :=
  [("applyEdit", flag),
    ("workspaceEdit", optional editAbilities),
    ("didChangeConfiguration", optional (record dynamic)),
    ("didChangeWatchedFiles", optional (record (dynamic ++ [("relativePatternSupport", flag)]))),
    ("symbol", optional <|
      record
        (dynamic ++
          [("symbolKind", knownNumbers), ("tagSupport", knownTags),
            ("resolveSupport", laterProperties)])),
    ("executeCommand", optional (record dynamic)),
    ("workspaceFolders", flag),
    ("configuration", flag),
    ("semanticTokens", refreshing),
    ("codeLens", refreshing),
    ("fileOperations", optional <|
      record
        (dynamic ++
          [("didCreate", flag), ("willCreate", flag), ("didRename", flag), ("willRename", flag),
            ("didDelete", flag), ("willDelete", flag)])),
    ("inlineValue", refreshing),
    ("inlayHint", refreshing),
    ("diagnostic", refreshing)]

/-! ## Documents -/

def completionItemAbilities : Shape :=
  record
    [("snippetSupport", flag), ("commitCharactersSupport", flag),
      ("documentationFormat", knownMarkup), ("deprecatedSupport", flag),
      ("preselectSupport", flag), ("tagSupport", knownTags), ("insertReplaceSupport", flag),
      ("resolveSupport", laterProperties),
      ("insertTextModeSupport", optional (record [("valueSet", listOf signed32)])),
      ("labelDetailsSupport", flag)]

def completionAbilities : Shape :=
  record
    (dynamic ++
      [("completionItem", optional completionItemAbilities),
        ("completionItemKind", knownNumbers), ("contextSupport", flag),
        ("insertTextMode", optional signed32),
        ("completionList", optional (record [("itemDefaults", optional (listOf string))]))])

def functionHelpAbilities : Shape :=
  record
    (dynamic ++
      [("signatureInformation", optional <|
        record
          [("documentationFormat", knownMarkup),
            ("parameterInformation", optional (record [("labelOffsetSupport", flag)])),
            ("activeParameterSupport", flag)]),
        ("contextSupport", flag)])

def documentSymbolAbilities : Shape :=
  record
    (dynamic ++
      [("symbolKind", knownNumbers), ("hierarchicalDocumentSymbolSupport", flag),
        ("tagSupport", knownTags)])

def targetAbilities : Shape :=
  optional (record (dynamic ++ [("linkSupport", flag)]))

def actionAbilities : Shape :=
  record
    (dynamic ++
      [("codeActionLiteralSupport", optional <|
        record [("codeActionKind", record [("valueSet", listOf string)])]),
        ("isPreferredSupport", flag), ("disabledSupport", flag), ("dataSupport", flag),
        ("resolveSupport", laterProperties), ("honorsChangeAnnotations", flag)])

def foldingAbilities : Shape :=
  record
    (dynamic ++
      [("rangeLimit", optional unsigned32), ("lineFoldingOnly", flag),
        ("foldingRangeKind", optional <|
          record [("valueSet", optional (listOf (oneOf ["comment", "imports", "region"])))]),
        ("foldingRange", optional (record [("collapsedText", flag)]))])

def tokenAbilities : Shape :=
  record
    (dynamic ++
      [("requests",
        record
          [("range", flag), ("full", optional (either boolean (withFields [("delta", flag)])))]),
        ("tokenTypes", listOf string), ("tokenModifiers", listOf string),
        ("formats", listOf string), ("overlappingTokenSupport", flag),
        ("multilineTokenSupport", flag), ("serverCancelSupport", flag),
        ("augmentsSyntaxTokens", flag)])

def documentFields : List (String × Shape) :=
  [("synchronization", optional <|
      record
        (dynamic ++ [("willSave", flag), ("willSaveWaitUntil", flag), ("didSave", flag)])),
    ("completion", optional completionAbilities),
    ("hover", optional (record (dynamic ++ [("contentFormat", knownMarkup)]))),
    ("signatureHelp", optional functionHelpAbilities),
    ("references", optional (record dynamic)),
    ("documentHighlight", optional (record dynamic)),
    ("documentSymbol", optional documentSymbolAbilities),
    ("formatting", optional (record dynamic)),
    ("rangeFormatting", optional (record dynamic)),
    ("onTypeFormatting", optional (record dynamic)),
    ("declaration", targetAbilities),
    ("definition", targetAbilities),
    ("typeDefinition", targetAbilities),
    ("implementation", targetAbilities),
    ("codeAction", optional actionAbilities),
    ("codeLens", optional (record dynamic)),
    ("documentLink", optional (record (dynamic ++ [("tooltipSupport", flag)]))),
    ("colorProvider", optional (record dynamic)),
    ("rename", optional <|
      record
        (dynamic ++
          [("prepareSupport", flag), ("prepareSupportDefaultBehavior", optional signed32),
            ("honorsChangeAnnotations", flag)])),
    ("publishDiagnostics", optional <|
      record
        [("relatedInformation", flag), ("tagSupport", knownTags), ("versionSupport", flag),
          ("codeDescriptionSupport", flag), ("dataSupport", flag)]),
    ("foldingRange", optional foldingAbilities),
    ("selectionRange", optional (record dynamic)),
    ("linkedEditingRange", optional (record dynamic)),
    ("callHierarchy", optional (record dynamic)),
    ("semanticTokens", optional tokenAbilities),
    ("moniker", optional (record dynamic)),
    ("typeHierarchy", optional (record dynamic)),
    ("inlineValue", optional (record dynamic)),
    ("inlayHint", optional (record (dynamic ++ [("resolveSupport", laterProperties)]))),
    ("diagnostic", optional (record (dynamic ++ [("relatedDocumentSupport", flag)])))]

/-! ## The editor as a whole -/

def windowAbilities : Shape :=
  record
    [("workDoneProgress", flag),
      ("showMessage", optional <|
        record
          [("messageActionItem", optional (record [("additionalPropertiesSupport", flag)]))]),
      ("showDocument", optional (record [("support", boolean)]))]

/-- What an editor can do that is not about its workspace, documents or window. -/
def generalAbilities : Shape :=
  record
    [("regularExpressions", optional <|
        record [("engine", string), ("version", optionalString)]),
      ("markdown", optional <|
        record
          [("parser", string), ("version", optionalString),
            ("allowedTags", optional (listOf string))]),
      ("staleRequestSupport", optional <|
        record [("cancel", boolean), ("retryOnContentModified", listOf string)]),
      ("positionEncodings", optional (listOf string))]

def abilityFields : List (String × Shape) :=
  [("workspace", optional (record workspaceFields)),
    ("textDocument", optional (record documentFields)),
    ("window", optional windowAbilities),
    ("general", optional generalAbilities),
    ("experimental", optional anything)]

def folder : Shape :=
  record [("uri", uri), ("name", string)]

def connectFields : List (String × Shape) :=
  [("processId", optional unsigned32),
    ("rootPath", optionalString),
    ("rootUri", optional uri),
    ("initializationOptions", optional anything),
    ("capabilities", record abilityFields),
    ("trace", optional (oneOf ["off", "messages", "verbose"])),
    ("workspaceFolders", optional (listOf folder)),
    ("clientInfo", optional <|
      record [("name", string), ("version", optionalString)]),
    ("locale", optionalString)]

end PolicyEditing.Shape
