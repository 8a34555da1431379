import EditorBridge.Completion.Item
import EditorBridge.Proofs.Diagnostic.Collect
import EditorBridge.Proofs.Text.Utf8

/-!
# Output that was cut off

The output of a command is taken up to a limit. Where the limit lies inside of an object text, what
was taken is a proper beginning of it, with a replacement character in the place of a character that
is cut. Nothing is read from such output: the whole of it is not enclosed, and neither is anything
that the search for a balanced span finds in it, since that begins at the same brace. So there is no
record of a part of an object, or of an object inside of it.
-/

namespace EditorBridge

variable {object : List Char} {limit : UInt64}

/-- No thorough reader reads anything from output that is cut inside of an enclosed text. -/
theorem Reader.Thorough.exists_read_capture_error {α : Type} {reader : Reader α}
    (hr : reader.Thorough) (ho : Enclosed object)
    (hl : limit.toNat < (Text.Utf8.encode object).length) (bytes : List UInt8) :
    ∃ cause, Recovery.read reader (capture limit (Text.Utf8.encode object ++ bytes)) =
      .error cause := by
  obtain ⟨before, after, rfl, ha, hcut⟩ := capture_of_lt hl bytes
  rcases hcut with hcut | hcut
  · rw [hcut, ← List.append_nil before]
    exact Recovery.exists_read_eq_error hr ho ha (.inl rfl)
  · rw [hcut]
    exact Recovery.exists_read_eq_error hr ho ha (.inr rfl)

/-- Where output is cut inside of an object text, it is a proper beginning of that text, up to a
replacement character, from which no value of any kind is read: there are no completions, and the
diagnostics are those of a log. -/
theorem capture_truncated (ho : Grammar.Derives .object object)
    (hl : limit.toNat < (Text.Utf8.encode object).length) (bytes : List UInt8) (fs : FileSystem)
    (r : Resolver) (document : List Char) (related : Bool) {output : List Char}
    (hout : output = capture limit (Text.Utf8.encode object ++ bytes)) :
    (∃ before after, object = before ++ after ∧ after ≠ [] ∧
      (output = before ∨ output = before ++ [Text.Utf8.replacement])) ∧
    (∃ cause, Recovery.read Tree.toJson output = .error cause) ∧
    (∃ cause, Recovery.read CompilerOutput.reader output = .error cause) ∧
    (∃ cause, Recovery.read Cursor.RawReport.reader output = .error cause) ∧
    CompletionItem.collect? output = none ∧
    Diagnostic.collect fs r document related output =
      if Text.allBlank output then [] else Log.parse fs r document related output := by
  subst hout
  have hen : Enclosed object := ho.enclosed
  obtain ⟨cause, hread⟩ := CompilerOutput.thorough_reader.exists_read_capture_error hen hl bytes
  refine ⟨capture_of_lt hl bytes, ?_, ⟨cause, hread⟩, ?_, ?_, ?_⟩
  · exact Reader.thorough_toJson.exists_read_capture_error hen hl bytes
  · exact Cursor.RawReport.thorough_reader.exists_read_capture_error hen hl bytes
  · rw [CompletionItem.collect?, hread]
  · exact Diagnostic.collect_of_read_error hread

theorem capture_truncated_accent :
    ∃ object : List Char, object = "\x7b\"é\":\"\x7d\"\x7d".toList ∧
      (3 : UInt64).toNat < (Text.Utf8.encode object).length ∧
      (∃ cause, Recovery.read Tree.toJson (capture 3 (Text.Utf8.encode object ++ [0x7D, 0xFF])) =
        .error cause) ∧
      CompletionItem.collect? (capture 3 (Text.Utf8.encode object ++ [0x7D, 0xFF])) = none := by
  have hname : Grammar.Derives .literal _ :=
    @Grammar.Derives.literal "é".toList (.of_plain (by simp))
  have hvalue : Grammar.Derives .literal _ :=
    @Grammar.Derives.literal "\x7d".toList (.of_plain (by simp))
  have hobject : Grammar.Derives .object "\x7b\"é\":\"\x7d\"\x7d".toList :=
    .object (.oneMember (.of_name hname (.of_value (.string hvalue))))
  have hlimit :
      (3 : UInt64).toNat < (Text.Utf8.encode "\x7b\"é\":\"\x7d\"\x7d".toList).length := by
    decide
  obtain ⟨-, hjson, -, -, hitems, -⟩ :=
    capture_truncated hobject hlimit [0x7D, 0xFF] (.ofFiles [] []) ⟨[]⟩ "/a".toList true rfl
  exact ⟨_, rfl, hlimit, hjson, hitems⟩

end EditorBridge
