import EditorBridge.Text.Split

/-!
# Command lines

Commands made from a template of arguments, in which places are kept for a file and a position in
it.
-/

namespace EditorBridge

/-- A command with its arguments. No more than `maxOutput` bytes of its output are taken. -/
structure CommandLine where
  program : List Char
  arguments : List (List Char)
  maxOutput : UInt64
deriving DecidableEq, Repr, Inhabited

namespace CommandLine

/-- The place of a file in a template. -/
def filePlace : List Char := "$\x7bfile\x7d".toList

/-- The place of a line in a template. -/
def linePlace : List Char := "$\x7bline\x7d".toList

/-- The place of a character in a template. -/
def characterPlace : List Char := "$\x7bcharacter\x7d".toList

/-- How much output is taken if nothing else is said. -/
def defaultMaxOutput : UInt64 := 1024 * 1024

/-- The command for a file. If no argument has a place for it, the file becomes the last
argument. -/
def ofTemplate (program : List Char) (template : List (List Char)) (file : List Char) :
    CommandLine where
  program := program
  arguments :=
    template.map (Text.replace filePlace file) ++
      if template.any (Text.contains filePlace) then [] else [file]
  maxOutput := defaultMaxOutput

/-- Fills in a line, and then a character, in all arguments. -/
def atPosition (c : CommandLine) (line character : Nat) : CommandLine :=
  { c with
    arguments := c.arguments.map fun a =>
      Text.replace characterPlace (Nat.toDigits 10 character)
        (Text.replace linePlace (Nat.toDigits 10 line) a) }

/-- The text of a command line. -/
def text (c : CommandLine) : List Char := c.program ++ c.arguments.flatMap (' ' :: ·)

end CommandLine

end EditorBridge
