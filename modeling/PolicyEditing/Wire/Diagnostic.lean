import PolicyEditing.Diagnostic.Basic
import PolicyEditing.Wire.Position

/-!
# Diagnostics as JSON
-/

namespace PolicyEditing

def Severity.number : Severity → Nat
  | .error => 1
  | .warning => 2

def Diagnostic.toJson (diagnostic : Diagnostic) : Json :=
  .object
    [("message", .string diagnostic.problem.message), ("range", diagnostic.range.toJson),
      ("severity", .nat diagnostic.problem.severity.number), ("source", .string Diagnostic.source)]

end PolicyEditing
