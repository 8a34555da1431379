import EditorBridge.Json.Reader

/-!
# Recovering a value from noise

The JSON of a tool may stand between lines of a log. If a text as a whole cannot be read, its first
balanced span of braces is read instead. Braces directly after a backslash do not count.
-/

namespace EditorBridge.Recovery

/-- The span from an opening brace to the brace that balances it, given the character before the
rest of the text, the number of open braces and the span so far from the last character to the
first. -/
def balance (previous : Char) : (opened : Nat) → (span : List Char) → List Char → Option (List Char)
  | _, _, [] => none
  | opened, span, c :: cs =>
    if c = '{' ∧ previous ≠ '\\' then balance c (opened + 1) (c :: span) cs
    else if c = '}' ∧ previous ≠ '\\' then
      if opened ≤ 1 then some (c :: span).reverse else balance c (opened - 1) (c :: span) cs
    else balance c opened (c :: span) cs

/-- The first balanced span of braces in what follows the character `previous`. -/
def spanAfter (previous : Char) : List Char → Option (List Char)
  | [] => none
  | c :: cs => if c = '{' ∧ previous ≠ '\\' then balance c 1 [c] cs else spanAfter c cs

/-- The first balanced span of braces in a text. -/
def span? (cs : List Char) : Option (List Char) := spanAfter ' ' cs

/-- Reads a text as a whole, or else its first balanced span of braces; the fault is always that of
the whole. -/
def read {α : Type} (reader : Reader α) (cs : List Char) : Except Fault α :=
  match reader.text cs with
  | .ok value => .ok value
  | .error cause =>
    match span? cs with
    | none => .error cause
    | some span =>
      match reader.text span with
      | .ok value => .ok value
      | .error _ => .error cause

end EditorBridge.Recovery
