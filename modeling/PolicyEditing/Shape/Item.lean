import PolicyEditing.Shape.Place

/-!
# Shapes of what editors show

Explanations, commands, problems and other things that editors show beside a text and give back to
the server.
-/

namespace PolicyEditing.Shape

def markupKind : Shape := oneOf ["plaintext", "markdown"]

/-- An explanation: a string, or marked-up text. -/
def explanation : Shape :=
  either string (record [("kind", markupKind), ("value", string)])

def command : Shape :=
  record [("title", string), ("command", string), ("arguments", optional (listOf anything))]

/-- A number or a string that tells things apart. -/
def token : Shape := either signed32 string

def problem : Shape :=
  record
    [("range", range), ("severity", optional signed32), ("code", optional token),
      ("codeDescription", optional (record [("href", uri)])), ("source", optionalString),
      ("message", string),
      ("relatedInformation", optional <|
        listOf (record [("location", location), ("message", string)])),
      ("tags", optional (listOf signed32)), ("data", optional anything)]

def link : Shape :=
  record
    [("range", range), ("target", optional uri), ("tooltip", optionalString),
      ("data", optional anything)]

/-- A command beside a range. -/
def lens : Shape :=
  record [("range", range), ("command", optional command), ("data", optional anything)]

def hintPart : Shape :=
  record
    [("value", string), ("tooltip", optional explanation), ("location", optional location),
      ("command", optional command)]

def hint : Shape :=
  record
    [("position", position), ("label", either string (listOf hintPart)),
      ("kind", optional signed32), ("textEdits", optional (listOf edit)),
      ("tooltip", optional explanation), ("paddingLeft", flag), ("paddingRight", flag),
      ("data", optional anything)]

def action : Shape :=
  record
    [("title", string), ("kind", optionalString), ("diagnostics", optional (listOf problem)),
      ("edit", optional workspaceEdit), ("command", optional command), ("isPreferred", flag),
      ("disabled", optional (record [("reason", string)])), ("data", optional anything)]

def symbol : Shape :=
  record
    [("name", string), ("kind", signed32), ("tags", optional (listOf signed32)),
      ("containerName", optionalString), ("location", either location (record [("uri", uri)])),
      ("data", optional anything)]

/-- A symbol in a hierarchy of calls. -/
def caller : Shape :=
  record
    [("name", string), ("kind", signed32), ("tags", optional (listOf signed32)),
      ("detail", optionalString), ("uri", uri), ("range", range), ("selectionRange", range),
      ("data", optional anything)]

/-- A symbol in a hierarchy of types, which has at most one tag. -/
def typeNode : Shape :=
  record
    [("name", string), ("kind", signed32), ("tags", optional signed32), ("detail", optionalString),
      ("uri", uri), ("range", range), ("selectionRange", range), ("data", optional anything)]

/-! ## Help with calls -/

/-- A parameter of a function: its name, or where in the function's label it stands. -/
def parameter : Shape :=
  record [("label", either string (twoOf unsigned32)), ("documentation", optional explanation)]

def function : Shape :=
  record
    [("label", string), ("documentation", optional explanation),
      ("parameters", optional (listOf parameter)), ("activeParameter", optional unsigned32)]

def functionHelp : Shape :=
  record
    [("signatures", listOf function), ("activeSignature", optional unsigned32),
      ("activeParameter", optional unsigned32)]

end PolicyEditing.Shape
