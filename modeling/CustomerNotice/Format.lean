import CustomerNotice.Directory
import CustomerNotice.Format.Hjson
import CustomerNotice.Format.Ini
import CustomerNotice.Format.Json
import CustomerNotice.Format.Toml
import CustomerNotice.Format.Yaml.Document

/-!
The formats of settings files. The extension of a file gives its format.
-/

namespace CustomerNotice

inductive Format
  | yaml
  | json
  | toml
  | hjson
  | ini
  deriving DecidableEq, Repr

namespace Format

def read (format : Format) (text : List Char) : Except FormatFailure Tree :=
  match format with
  | yaml => Yaml.read text
  | json => FormatFailure.require (Json.read? text)
  | toml => FormatFailure.require (Toml.read? text)
  | hjson => Hjson.read text
  | ini => FormatFailure.require (Ini.read? text)

def extensions : List (String × Format) :=
  [("yaml", yaml), ("yml", yaml), ("json", json), ("toml", toml), ("hjson", hjson), ("ini", ini)]

end Format

structure SettingsFile where
  name : String
  format : Format
  content : Bytes
  deriving DecidableEq, Repr

namespace Directory

/-- The file for a stem: the first of the known extensions for which there is one. A file named by
the stem alone hides them all, as its format is not known. -/
def find? (directory : Directory) (stem : String) : Option SettingsFile :=
  match directory.file? stem with
  | some _ => none
  | none =>
      Format.extensions.findSome? fun (extension, format) =>
        let name := stem ++ "." ++ extension
        (directory.file? name).map fun content => ⟨name, format, content⟩

end Directory
end CustomerNotice
