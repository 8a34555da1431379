/-!
# Faults of reading

Why JSON text cannot be read: it ends too early, it is not JSON, or it is the wrong JSON.
-/

namespace EditorBridge

/-- The kinds of fault, as met from the left. -/
inductive Fault where
  /-- The text ends inside a value. -/
  | ended
  /-- The text is no JSON. -/
  | malformed
  /-- A value is not of the kind asked for, or a field is given twice. -/
  | mismatched
deriving DecidableEq, Repr, Inhabited

end EditorBridge
