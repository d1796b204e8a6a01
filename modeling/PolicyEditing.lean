import PolicyEditing.Main
import PolicyEditing.Session.Run
import PolicyEditing.Proofs.Text.Lines
import PolicyEditing.Proofs.Text.Position
import PolicyEditing.Proofs.Text.Offset
import PolicyEditing.Proofs.Text.Order
import PolicyEditing.Proofs.Text.Part
import PolicyEditing.Proofs.Text.Trim
import PolicyEditing.Proofs.Document.Lines
import PolicyEditing.Proofs.Document.Editor
import PolicyEditing.Proofs.Document.Units
import PolicyEditing.Proofs.Document.Synchrony
import PolicyEditing.Proofs.Document.Whole
import PolicyEditing.Proofs.Document.Agreement
import PolicyEditing.Proofs.Document.Bounds
import PolicyEditing.Proofs.Document.Insertion
import PolicyEditing.Proofs.Diagnostic.Listing
import PolicyEditing.Proofs.Diagnostic.Scan
import PolicyEditing.Proofs.Diagnostic.Marks
import PolicyEditing.Proofs.Layout.Tidy
import PolicyEditing.Proofs.Layout.Reformat
import PolicyEditing.Proofs.Layout.Blanks
import PolicyEditing.Proofs.Layout.Depth
import PolicyEditing.Proofs.Layout.Canonical
import PolicyEditing.Proofs.Diagnostic.Report
import PolicyEditing.Proofs.Diagnostic.LaidOut
import PolicyEditing.Proofs.Diagnostic.Returns
import PolicyEditing.Proofs.Diagnostic.Concatenation
import PolicyEditing.Proofs.Diagnostic.OpenString
import PolicyEditing.Proofs.Word
import PolicyEditing.Proofs.Word.Longest
import PolicyEditing.Proofs.Settings.Reading
import PolicyEditing.Proofs.Json.Fields
import PolicyEditing.Proofs.Shape.Relevant
import PolicyEditing.Proofs.Shape.Prints
import PolicyEditing.Proofs.Completion.Exchange
import PolicyEditing.Proofs.Session.Calls
import PolicyEditing.Proofs.Session.Explanation
import PolicyEditing.Proofs.Session.Resolution
import PolicyEditing.Proofs.Session.Frame
import PolicyEditing.Proofs.Session.LayoutEdit
import PolicyEditing.Proofs.Session.View
import PolicyEditing.Proofs.Session.Sight
import PolicyEditing.Proofs.Session.Phases
import PolicyEditing.Proofs.Session.Steps
import PolicyEditing.Proofs.Session.Separation
import PolicyEditing.Proofs.Session.History
import PolicyEditing.Proofs.Session.Current
import PolicyEditing.Proofs.Session.Kept
import PolicyEditing.Proofs.Session.SettingsUse
import PolicyEditing.Proofs.Session.Beginning
import PolicyEditing.Proofs.Session.LastScan
import PolicyEditing.Proofs.Session.Remainder
import PolicyEditing.Proofs.Session.Lateness
import PolicyEditing.Proofs.Session.Overlap
import PolicyEditing.Proofs.Session.Rest
import PolicyEditing.Proofs.Session.Serial
