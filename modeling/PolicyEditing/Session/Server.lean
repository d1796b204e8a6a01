import PolicyEditing.Document
import PolicyEditing.Settings.Store

/-!
# The state of a server

What a server knows, and the few ways in which that changes in the middle of a session.
-/

namespace PolicyEditing

/-- Where a server stands between its first and its last message. -/
inductive Phase where
  | uninitialized
  | ready
  | shutDown
  | exited
deriving DecidableEq, Repr

/-- What a server knows. -/
structure Server where
  phase : Phase
  /-- Whether the editor answers questions about settings. -/
  asksForSettings : Bool
  /-- Whether the editor has workspace folders. -/
  hasFolders : Bool
  documents : UriMap Document
  settings : SettingsStore

namespace Server

/-- A server before its first message. -/
def fresh : Server where
  phase := .uninitialized
  asksForSettings := false
  hasFolders := false
  documents := .empty
  settings := .empty

/-! ## Documents -/

/-- The server with a document as it is from now on. -/
def store (uri : Uri) (document : Document) (server : Server) : Server :=
  { server with documents := server.documents.insert uri document }

/-- The server with some changes made to a document, if the document is open. -/
def amend? (uri : Uri) (version : Int) (changes : List Change) (server : Server) :
    Option Server :=
  (server.documents.get? uri).map fun document =>
    server.store uri (document.edit version changes)

/-- The server without a document and its settings. -/
def forget (uri : Uri) (server : Server) : Server :=
  { server with
    documents := server.documents.erase uri
    settings := server.settings.forget uri }

/-! ## Settings -/

/-- The server with settings to be kept for a document. -/
def remember (uri : Uri) (settings : Settings) (server : Server) : Server :=
  { server with settings := server.settings.remember uri settings }

/-- The server without the settings of single documents. -/
def dropSettings (server : Server) : Server :=
  { server with settings := server.settings.clear }

/-- The server with settings for all documents. -/
def share (settings : Settings) (server : Server) : Server :=
  { server with settings := server.settings.share settings }

end Server

end PolicyEditing
