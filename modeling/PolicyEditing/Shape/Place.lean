import PolicyEditing.Shape.Basic

/-!
# Shapes of places and edits

How editors write down positions, ranges, documents and the changes made to them.
-/

namespace PolicyEditing.Shape

def position : Shape :=
  record [("line", unsigned32), ("character", unsigned32)]

def range : Shape :=
  record [("start", position), ("end", position)]

/-- A range of a document. -/
def location : Shape :=
  record [("uri", uri), ("range", range)]

/-! ## Documents -/

def document : Shape :=
  record [("uri", uri)]

/-- A document by its address, and which version of it if that is known. -/
def versionedDocument : Shape :=
  record [("uri", uri), ("version", optional signed32)]

/-- The field for the document that a call is about. -/
def ofDocument : List (String × Shape) :=
  [("textDocument", document)]

/-- The fields for the document and the position that a call is about. -/
def ofPlace : List (String × Shape) :=
  [("textDocument", document), ("position", position)]

/-! ## Edits -/

def edit : Shape :=
  record [("range", range), ("newText", string)]

/-- An edit with the name of a reason. -/
def explainedEdit : Shape :=
  withFields [("range", range), ("newText", string), ("annotationId", string)]

/-- Edits of one document. -/
def documentEdits : Shape :=
  record [("textDocument", versionedDocument), ("edits", listOf (either edit explainedEdit))]

/-- Whether what is there is overwritten, or left alone. -/
def overwriting : Shape :=
  record [("overwrite", flag), ("ignoreIfExists", flag)]

/-- A kind of change to files: its name, or its place among the kinds. -/
def fileChange (name : String) (place : Int) : Shape :=
  either (exactly name) (whole place (place + 1))

def fileCreation : Shape :=
  record
    [("kind", fileChange "create" 0), ("uri", uri), ("options", optional overwriting),
      ("annotationId", optionalString)]

def fileRenaming : Shape :=
  record
    [("kind", fileChange "rename" 1), ("oldUri", uri), ("newUri", uri),
      ("options", optional overwriting), ("annotationId", optionalString)]

def fileDeletion : Shape :=
  record
    [("kind", fileChange "delete" 2), ("uri", uri),
      ("options", optional <|
        record
          [("recursive", flag), ("ignoreIfNotExists", flag), ("annotationId", optionalString)])]

/-- A reason for edits. -/
def reason : Shape :=
  record [("label", string), ("needsConfirmation", flag), ("description", optionalString)]

def workspaceEdit : Shape :=
  record
    [("changes", optional (byUri (listOf edit))),
      ("documentChanges", optional <|
        either (listOf documentEdits)
          (listOf (either fileCreation (either fileRenaming (either fileDeletion documentEdits))))),
      ("changeAnnotations", optional (openRecord [] reason))]

/-! ## Layout -/

/-- How a document is to be laid out.  Besides the known options there can be others that are
booleans, whole numbers or strings. -/
def layoutOptions : Shape :=
  openRecord
    [("tabSize", unsigned32), ("insertSpaces", boolean), ("trimTrailingWhitespace", flag),
      ("insertFinalNewline", flag), ("trimFinalNewlines", flag)]
    (either boolean (either signed32 string))

end PolicyEditing.Shape
