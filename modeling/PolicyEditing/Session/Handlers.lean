import PolicyEditing.Diagnostic.Scan
import PolicyEditing.Hover
import PolicyEditing.Session.Activity
import PolicyEditing.Settings.Reading

/-!
# Handling the editor's messages

Documents are stored as the editor opens, edits and closes them, and after every change their
diagnostics are sent anew.  The settings of a document are asked from the editor if it can answer,
and kept until the document is closed or the configuration changes; otherwise the editor pushes one
value for all documents.
-/

namespace PolicyEditing

/-- The settings in the editor's reply to a question about a document. -/
def Settings.ofReply (uri : Uri) : Reply → Except SettingsError Settings
  | .error error => .error (.request error)
  | .result (.array []) => .error (.missing uri)
  | .result (.array (value :: _)) => (readSection value).mapError .invalid
  | .result value => .error (.request (.ofFault (.wrongType (.ofJson value) .sequence)))

/-- The error in the editor's reply to a request that has no result. -/
def Reply.failure? : Reply → Option RequestError
  | .error reason => some reason
  | .result .null => none
  | .result value => some (.ofFault (.wrongType (.ofJson value) .nothing))

/-- The settings pushed with a changed configuration. -/
def Settings.ofConfiguration (configuration : Json) : Except SettingsError Settings :=
  (readSection ((configuration.field? sectionName).getD .null)).mapError .invalid

namespace Server

/-! ## Settings -/

/-- Takes the editor's reply to a question about the settings of a document.  Settings that cannot
be used are replaced by the defaults, and not kept. -/
def receiveSettings (uri : Uri) (reply : Reply) (server : Server) : Activity Settings :=
  match Settings.ofReply uri reply with
  | .ok settings => .done settings (server.remember uri settings) []
  | .error error =>
    .done .default server
      [.log .warn ("Using default settings for " ++ uri.text ++ ": " ++ error.message)]

def settingsFor (uri : Uri) (server : Server) : Activity Settings :=
  if server.asksForSettings then
    match server.settings.cached? uri with
    | some settings => .done settings server []
    | none => .asking (.settings uri) server [] (receiveSettings uri)
  else .done server.settings.shared server []

/-! ## Diagnostics -/

/-- The line of the log after a scan.  A scan that may not report anything is not logged. -/
def scanLog (found : List Diagnostic) (limit : Nat) : List Event :=
  if limit = 0 then []
  else
    [.log .debug ("Scan produced " ++ toString found.length ++ " diagnostic(s) (limit " ++
      toString limit ++ ")")]

/-- Sends the diagnostics of a document as it was when its settings were asked for. -/
def publish (uri : Uri) (document : Document) (settings : Settings) (server : Server) :
    Activity Unit :=
  let found := Diagnostic.scan document.text settings.maxProblems
  .done () server
    (scanLog found settings.maxProblems ++
      [.log .debug
          ("Publishing " ++ toString found.length ++ " diagnostic(s) for " ++ uri.text),
        .sent (.diagnostics uri found (some document.version))])

/-- Scans a document and sends what is found. -/
def validate (uri : Uri) (server : Server) : Activity Unit :=
  match server.documents.get? uri with
  | none => .done () server []
  | some document => (server.settingsFor uri).andThen (publish uri document)

def validateEach : List Uri → Server → Activity Unit
  | [], server => .done () server []
  | uri :: rest, server => (server.validate uri).andThen fun _ => validateEach rest

def validateAll (server : Server) : Activity Unit :=
  validateEach server.documents.uris server

/-! ## The beginning of a session -/

def connect (asksForSettings hasFolders : Bool) (server : Server) : Activity Unit :=
  let yesNo (flag : Bool) := if flag then "true" else "false"
  .done () { server with phase := .ready, asksForSettings, hasFolders }
    [.log .info "Received initialize request",
      .log .debug
        ("Client capabilities: configuration=" ++ yesNo asksForSettings ++
          ", workspace_folders=" ++ yesNo hasFolders)]

/-- Tells the user that the server is there. -/
def announce (server : Server) (events : List Event) : Activity Unit :=
  .done () server (events ++ [.sent (.notice .info "Guard LSP server ready")])

/-- Takes the editor's reply to the wish to be told about changes of the configuration, and
announces the server. -/
def announceAfter (reply : Reply) (server : Server) : Activity Unit :=
  server.announce <| match reply.failure? with
    | none => []
    | some error =>
      [.log .warn ("Failed to register for configuration changes: " ++ error.describe)]

/-- Asks to be told about changes of the configuration, if the editor can, and announces the
server. -/
def initialized (server : Server) : Activity Unit :=
  let begun := [Event.log .info "Server initialized - handshake complete"]
  if server.asksForSettings then .asking .watchConfiguration server begun announceAfter
  else server.announce begun

/-! ## Changes of the workspace -/

/-- Drops what is known about settings, or takes the settings that are pushed; and what the log
says about it. -/
def reconfigure (configuration : Json) (server : Server) : Server × List Event :=
  if server.asksForSettings then
    (server.dropSettings, [.log .debug "Configuration changed, dropping cached settings"])
  else
    let (settings, ignored) := match Settings.ofConfiguration configuration with
      | .ok settings => (settings, [])
      | .error error =>
        (.default, [Event.log .warn ("Ignoring pushed settings: " ++ error.message)])
    (server.share settings,
      ignored ++ [.log .debug ("Global settings updated: " ++ settings.describe)])

/-- Takes note of a changed configuration, and scans every document anew. -/
def configurationChanged (configuration : Json) (server : Server) : Activity Unit :=
  let (server, noted) := server.reconfigure configuration
  server.validateAll.after noted

def foldersChanged (added removed : Nat) (server : Server) : Activity Unit :=
  .done () server
    [.log .info
        ("Workspace folder change event received: " ++ toString added ++ " added, " ++
          toString removed ++ " removed"),
      .sent (.notice .log "Workspace folder change event received.")]

/-! ## Changes of documents -/

def opened (uri : Uri) (document : Document) (server : Server) : Activity Unit :=
  ((server.store uri document).validate uri).after
    [.log .debug ("Document opened: " ++ uri.text)]

def edited (uri : Uri) (version : Int) (changes : List Change) (server : Server) :
    Activity Unit :=
  let noted := Event.log .trace ("Document changed: " ++ uri.text)
  match server.amend? uri version changes with
  | none => .done () server [noted, .log .warn ("Change for unknown document: " ++ uri.text)]
  | some amended => (amended.validate uri).after [noted]

/-- Forgets a document, and its diagnostics in the editor. -/
def closed (uri : Uri) (server : Server) : Activity Unit :=
  .done () (server.forget uri)
    [.log .debug ("Document closed: " ++ uri.text), .sent (.diagnostics uri [] none)]

/-! ## Questions about documents -/

/-- The explanation of the word at a position of an open document. -/
def hover? (uri : Uri) (position : Position) (server : Server) : Option Hover := do
  let document ← server.documents.get? uri
  Hover.at? document.text (Text.offsetAt document.text position)

/-- The width of one level that a request for layout asks for, or the settings' if it is zero. -/
def effectiveWidth (settings : Settings) (tabSize : Nat) : Nat :=
  if tabSize = 0 then settings.indentWidth else min tabSize Layout.maxIndentWidth

/-- The edit that replaces a whole text by its layout. -/
def layoutEdit (text : Text) (width : Nat) : TextEdit where
  range := ⟨.origin, Text.positionAt text (Text.byteCount text)⟩
  newText := Layout.format text width

/-- Answers a request for layout, now that the settings are there. -/
def deliver (uri : Uri) (document : Document) (tabSize : Nat) (settings : Settings)
    (server : Server) : Activity (List TextEdit) :=
  if settings.formattingEnabled then
    .done [layoutEdit document.text (effectiveWidth settings tabSize)] server
      [.log .trace ("Formatted " ++ toString (Text.lines document.text).length ++ " line(s)"),
        .log .debug "Formatting complete"]
  else .done [] server [.log .debug ("Formatting disabled for: " ++ uri.text)]

/-- Lays out an open document as it is when its settings are asked for. -/
def format (uri : Uri) (tabSize : Nat) (server : Server) : Activity (List TextEdit) :=
  let requested := Event.log .debug ("Formatting requested for: " ++ uri.text)
  match server.documents.get? uri with
  | none => .done [] server [requested, .log .warn ("Document not found: " ++ uri.text)]
  | some document =>
    ((server.settingsFor uri).after [requested]).andThen (deliver uri document tabSize)

end Server

end PolicyEditing
