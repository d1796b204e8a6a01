import PolicyEditing.Shape.Ability

/-!
# Shapes of parameters

The parameters of each request that an editor can make.  Most requests name the document and the
place they are about, and can carry tokens by which the server may report how far it has come.
-/

namespace PolicyEditing.Shape

/-- The field for the token of reports on how far a request has come. -/
def reported : List (String × Shape) :=
  [("workDoneToken", optional token)]

/-- The fields for the tokens of reports on how far a request has come and of parts of its
result. -/
def reportedInParts : List (String × Shape) :=
  reported ++ [("partialResultToken", optional token)]

/-! ## Requests about a place -/

def hoverParams : Shape :=
  withFields (ofPlace ++ reported)

def completionParams : Shape :=
  withFields
    (ofPlace ++ reportedInParts ++
      [("context", optional <|
        record [("triggerKind", signed32), ("triggerCharacter", optionalString)])])

/-- A request about a place that can be answered in parts. -/
def placeParams : Shape :=
  withFields (ofPlace ++ reportedInParts)

def referenceParams : Shape :=
  withFields
    (ofPlace ++ reportedInParts ++ [("context", record [("includeDeclaration", boolean)])])

def functionHelpParams : Shape :=
  withFields
    (ofPlace ++ reported ++
      [("context", optional <|
        record
          [("triggerKind", signed32), ("triggerCharacter", optionalString),
            ("isRetrigger", boolean), ("activeSignatureHelp", optional functionHelp)])])

def renameParams : Shape :=
  withFields (ofPlace ++ reported ++ [("newName", string)])

/-- A request for layout around a character that was typed. -/
def typedLayoutParams : Shape :=
  withFields (ofPlace ++ [("ch", string), ("options", layoutOptions)])

/-! ## Requests about a document -/

/-- A request about a document that can be answered in parts. -/
def documentParams : Shape :=
  withFields (ofDocument ++ reportedInParts)

/-- A request about a range of a document that can be answered in parts. -/
def rangeParams : Shape :=
  withFields (ofDocument ++ reportedInParts ++ [("range", range)])

def layoutParams : Shape :=
  withFields (ofDocument ++ reported ++ [("options", layoutOptions)])

def rangeLayoutParams : Shape :=
  withFields (ofDocument ++ reported ++ [("range", range), ("options", layoutOptions)])

def actionParams : Shape :=
  withFields
    (ofDocument ++ reportedInParts ++
      [("range", range),
        ("context",
          record
            [("diagnostics", listOf problem), ("only", optional (listOf string)),
              ("triggerKind", optional signed32)])])

/-- A request for the ways to write a colour. -/
def colourParams : Shape :=
  withFields
    (ofDocument ++ reportedInParts ++
      [("color",
        record [("red", number), ("green", number), ("blue", number), ("alpha", number)]),
        ("range", range)])

def selectionParams : Shape :=
  withFields (ofDocument ++ reportedInParts ++ [("positions", listOf position)])

def hintParams : Shape :=
  withFields (ofDocument ++ reported ++ [("range", range)])

/-- A request for values in a range while a program is stopped. -/
def valueParams : Shape :=
  withFields
    (ofDocument ++ reported ++
      [("range", range),
        ("context", record [("frameId", signed32), ("stoppedLocation", range)])])

/-- A request for what has changed in the coloured tokens. -/
def tokenChangeParams : Shape :=
  withFields (ofDocument ++ reportedInParts ++ [("previousResultId", string)])

def problemParams : Shape :=
  withFields
    (ofDocument ++ reportedInParts ++
      [("identifier", optionalString), ("previousResultId", optionalString)])

def savingParams : Shape :=
  record (ofDocument ++ [("reason", signed32)])

/-! ## Requests about the workspace -/

def workspaceProblemParams : Shape :=
  withFields
    (reportedInParts ++
      [("identifier", optionalString),
        ("previousResultIds", listOf (record [("uri", uri), ("value", string)]))])

def symbolParams : Shape :=
  withFields (reportedInParts ++ [("query", string)])

def commandParams : Shape :=
  withFields
    (reported ++ [("command", string), ("arguments", defaulted (listOf anything))])

/-- A request about files that are created or deleted. -/
def fileParams : Shape :=
  record [("files", listOf (record [("uri", string)]))]

/-- A request about files that get other addresses. -/
def fileRenameParams : Shape :=
  record [("files", listOf (record [("oldUri", string), ("newUri", string)]))]

/-! ## Requests about an earlier answer -/

/-- A request about a symbol in a hierarchy of calls. -/
def callerParams : Shape :=
  withFields (reportedInParts ++ [("item", caller)])

/-- A request about a symbol in a hierarchy of types. -/
def typeParams : Shape :=
  withFields (reportedInParts ++ [("item", typeNode)])

end PolicyEditing.Shape
