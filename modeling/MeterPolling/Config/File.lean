import MeterPolling.Setting
import MeterPolling.Toml.Document
import MeterPolling.Toml.Writer
/-!
The file of the configuration, and the format in which settings are written into it.
-/
namespace MeterPolling.Config

/-- What is found where the file is looked for. -/
inductive File where
  | missing
  | content (bytes : ByteArray)
  /-- Something that can be neither read nor written, such as a directory. -/
  | blocked

namespace File

def ofText (s : String) : File := .content s.toUTF8

/-- A text whose lines all end in the same way, whichever of the three usual ways they ended in. -/
def unifyLineEnds : List Char → List Char
  | '\r' :: '\n' :: rest => '\n' :: unifyLineEnds rest
  | '\r' :: rest => '\n' :: unifyLineEnds rest
  | c :: rest => c :: unifyLineEnds rest
  | [] => []

/-- The text in a file, when its bytes are one. -/
def decode? (bytes : ByteArray) : Option String :=
  (String.fromUTF8? bytes).map fun s => String.ofList (unifyLineEnds s.toList)

end File

/-- How settings are written as text and read back. -/
structure Format where
  read : String → Except Toml.Fault (List (String × Setting))
  write : List (String × Setting) → Except Failure String

def Format.toml : Format := ⟨Toml.read, Toml.write⟩

end MeterPolling.Config
