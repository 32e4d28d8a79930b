import CompactSchema.Config.Toml
import CompactSchema.Failure

/-!
Contract: settings from a file.

Owns: what comes of a file that can not be read as text, and of one that can.

Does not own: opening files; the content is given by the caller.
-/

set_option autoImplicit false

namespace CompactSchema.Config

/-- The settings in a file, given by its content if it could be read as text. -/
def ofFile (content? : Option String) : Except Failure Config :=
  match content? with
  | none => .error (.file "file can not be read")
  | some content => (ofTomlText content).mapError Failure.configuration

end CompactSchema.Config
