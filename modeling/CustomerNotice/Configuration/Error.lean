import CustomerNotice.Environment
import CustomerNotice.Failure
import CustomerNotice.IoError
import CustomerNotice.Number.Shortest
import CustomerNotice.Text.Integer
import CustomerNotice.Text.Quoted
import CustomerNotice.Tree

/-!
Why a configuration cannot be loaded.
-/

namespace CustomerNotice

inductive Found
  | scalar (value : Scalar)
  | list
  | table
  deriving DecidableEq, Repr

def Tree.found : Tree → Found
  | .scalar _ value => .scalar value
  | .list _ _ => .list
  | .table _ _ => .table

namespace Found

/-- A whole number keeps a point here. -/
def floatText (value : Binary64) : String :=
  match value with
  | .finite _ _ _ => if value.text.toList.contains '.' then value.text else value.text ++ ".0"
  | _ => value.text

def text : Found → String
  | scalar .null => "unit value"
  | scalar (.bool value) => "boolean `" ++ (if value then "true" else "false") ++ "`"
  | scalar (.int value) => "integer `" ++ Text.ofInt value ++ "`"
  | scalar (.float value) => "floating point `" ++ floatText value ++ "`"
  | scalar (.text value) => "string " ++ Text.quoted value
  | list => "sequence"
  | table => "map"

end Found

structure Section where
  key : String
  label : String
  fields : List String
  deriving DecidableEq, Repr

namespace Section

def application : Section := ⟨"application", "ApplicationSettings", ["name", "log_level"]⟩

def customer : Section :=
  ⟨"customer", "CustomerSettings", ["customer_id", "email", "customer_name", "api_key"]⟩

def output : Section := ⟨"output", "OutputSettings", ["reveal_api_key"]⟩

def sizeText (shape : Section) : String :=
  "struct " ++ shape.label ++ " with " ++ shape.fields.length.repr
    ++ (if shape.fields.length = 1 then " element" else " elements")

end Section

inductive SwitchError
  | integer
  | float
  | text (value : String)
  | kind
  deriving DecidableEq, Repr

namespace SwitchError

def message : SwitchError → String
  | integer => "The number is neither 1 nor 0"
  | float => "The number is neither 1.0 nor 0.0"
  | text value => "Could not parse boolean from a string: " ++ value
  | kind => "data did not match any variant of untagged enum AnythingOrBool"

end SwitchError

inductive LoadError
  | directoryUnknown
  | environmentUnknown (error : UnknownEnvironment)
  | unparsable (path : String) (error : FormatError)
  | notText (found : Found) (key : String) (origin : Option Origin)
  | notSection (found : Found) (shape : Section)
  | tooShort (length : Nat) (shape : Section)
  | missing (field : String)
  | notSwitch (error : SwitchError)
  deriving DecidableEq, Repr

namespace LoadError

def originText : Option Origin → String
  | some origin => " in " ++ origin.text
  | none => ""

def message : LoadError → String
  | directoryUnknown => "Failed to determine the current directory: " ++ OsError.noSuchFile.text
  | environmentUnknown error => "Invalid APP_ENVIRONMENT: " ++ error.text
  | unparsable path error => error.text ++ " in " ++ path
  | notText found key origin =>
      "invalid type: " ++ found.text ++ ", expected a string for key `" ++ key ++ "`"
        ++ originText origin
  | notSection found shape =>
      "invalid type: " ++ found.text ++ ", expected struct " ++ shape.label
  | tooShort length shape => "invalid length " ++ length.repr ++ ", expected " ++ shape.sizeText
  | missing field => "missing field `" ++ field ++ "`"
  | notSwitch error => error.message

end LoadError

inductive LoadFailure
  | rejected (error : LoadError)
  | crashed (crash : Crash)
  deriving DecidableEq, Repr

end CustomerNotice
