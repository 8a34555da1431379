import EditorBridge.Text.Utf8

/-!
# Captured output

What is taken of the bytes that a command writes.
-/

namespace EditorBridge

/-- The text of a command's output: its first `limit` bytes, with a replacement for what is no
character. One byte more is read, so as to know whether anything is left out. The number of bytes to
read has 64 bits, so that nothing is read under the largest limit. -/
def capture (limit : UInt64) (bytes : List UInt8) : List Char :=
  Text.Utf8.decodeLossy ((bytes.take (limit + 1).toNat).take limit.toNat)

end EditorBridge
