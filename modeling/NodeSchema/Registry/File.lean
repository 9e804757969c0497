import NodeSchema.Files.Tree
import NodeSchema.Json.Reader
import NodeSchema.Registry.Document
import NodeSchema.Text.Lines
/-!
# Registry files

A registry is loaded from a file with a JSON document in UTF-8, in which every kind of line end
counts as a line feed. What is wrong with the file, with the JSON text or with the document is told
to the user; a file that is no text, an integer with too many digits, a path that cannot be one, and
a list of names without items end a run as failures of the program.
-/

namespace NodeSchema.Registry

inductive LoadError where
  | unreadable (error : FileError)
  | notText
  -- The text is no JSON document; the place of the fault is given by the text before it.
  | notJson (path : Path) (text : List Char) (error : Json.Error)
  | document (error : DocumentError)
  deriving DecidableEq

namespace LoadError

/-- Whether an error is told to the user. Any other error is a failure of the program. -/
def isReported : LoadError → Bool
  | .unreadable e => e.cause ≠ .zeroInPath
  | .notText => false
  | .notJson _ _ ⟨.defect (.tooManyDigits _), _⟩ => false
  | .notJson _ _ _ => true
  | .document (.notNames _) => false
  | .document _ => true

def message : LoadError → String
  | .unreadable e =>
    if e.cause = .zeroInPath then e.message
    else e.path.text ++ ": cannot read registry: " ++ e.message
  | .notText => "the file is not encoded in UTF-8"
  | .notJson _ _ ⟨.defect (.tooManyDigits n), _⟩ => (Json.Cause.defect (.tooManyDigits n)).message
  | .notJson path text e => path.text ++ ": invalid JSON: " ++ e.message text
  | .document e => e.message

end LoadError

def textOf (bytes : ByteArray) : Except LoadError (List Char) :=
  match String.fromUTF8? bytes with
  | some s => .ok (Text.unifyNewlines s.toList)
  | none => .error .notText

def load (t : FileTree) (path : Path) : Except LoadError Registry := do
  let bytes ← (t.readFile path).mapError .unreadable
  let text ← textOf bytes
  let document ← (Json.read (some Json.digitLimit) text).mapError (.notJson path text)
  (ofDocument document).mapError .document

end NodeSchema.Registry
