import CardBrowser.Json.Printer
import CardBrowser.Preferences.Basic

/-!
# Preference files

The values can be kept in a file that holds one JSON object. A file that is missing or holds
anything else counts as empty and is replaced when the values are flushed.
-/

namespace CardBrowser

open CardBrowser.Json

/-- What is found at the path of a file. -/
inductive FileContent where
  /-- There is no such file, but one can be written. -/
  | missing
  | text (written : String)
  /-- Bytes that are not the encoding of a text. -/
  | binary
  | directory
  /-- The directory of the file does not exist. -/
  | unreachable
deriving DecidableEq, Repr

/-- The text of a file, if it can be read. -/
def FileContent.text? : FileContent → Option String
  | .text written => some written
  | _ => none

/-- The values of a preference file and what the file held when it was last looked at. -/
structure PreferenceFile where
  path : String
  content : FileContent
  values : Members := []
deriving Repr

namespace PreferenceFile

/-- The values of a text; there are none unless the text is a JSON object. -/
def valuesOf (text : String) : Members :=
  match Value.ofText? text with
  | some (.object members) => members
  | _ => []

/-- Opens a file. -/
def open? (path : String) (content : FileContent) : Except PreferenceError PreferenceFile :=
  match content with
  | .missing | .unreachable => .ok ⟨path, content, []⟩
  | .text written => .ok ⟨path, content, valuesOf written⟩
  | .binary => .error (.io path "stream did not contain valid UTF-8")
  | .directory => .error (.io path "Is a directory (os error 21)")

/-- Writes the values to the file. -/
def flush (file : PreferenceFile) : Except PreferenceError Unit × PreferenceFile :=
  match file.content with
  | .directory => (.error (.io file.path "Is a directory (os error 21)"), file)
  | .unreachable => (.error (.io file.path "No such file or directory (os error 2)"), file)
  | _ => (.ok (), { file with content := .text (Value.object file.values).pretty })

/-- Opens the file anew. -/
def reopen (file : PreferenceFile) : Except PreferenceError PreferenceFile :=
  open? file.path file.content

instance : PreferenceStore PreferenceFile where
  values := PreferenceFile.values
  withValues values file := { file with values }
  flush := flush

end PreferenceFile

end CardBrowser
