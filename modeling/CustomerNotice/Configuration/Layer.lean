import CustomerNotice.Configuration.Error
import CustomerNotice.Format
import CustomerNotice.Tree.Path

/-!
The layers that a configuration is made of: settings files and variables. Each is a list of
values under keys that are read as paths.
-/

namespace CustomerNotice

abbrev Layer := List (String × Tree)

namespace Layer

/-- The settings of a text in some format, each with the file as its origin. A text that is no
table has none. -/
def ofText (format : Format) (path text : String) : Except LoadFailure Layer :=
  match format.read text.toList with
  | .ok tree => .ok (tree.stamp (.file path)).entries
  | .error (.rejected error) => .error (.rejected (.unparsable path error))
  | .error (.crashed crash) => .error (.crashed crash)

/-- The settings of the file for a stem. A file that is missing or not a text has none. -/
def ofDirectory (directory : Directory) (stem : String) : Except LoadFailure Layer :=
  match directory.find? stem with
  | none => .ok []
  | some file =>
      match Bytes.toText? file.content with
      | none => .ok []
      | some text => ofText file.format (directory.shown file.name) text

def variableMark : List Char := ['a', 'p', 'p', '_']

def pointed : List Char → List Char
  | '_' :: '_' :: rest => '.' :: pointed rest
  | character :: rest => character :: pointed rest
  | [] => []

def variableKey? (name : String) : Option String :=
  let characters := name.toList
  if (characters.take 4).map Char.toLower = variableMark then
    some (Text.lowercase (String.ofList (pointed (characters.drop 4))))
  else none

/-- The variables as texts. One that is not a text breaks off. -/
def decodeVariables : Variables → Except Crash (List (String × String))
  | [] => .ok []
  | (name, value) :: rest =>
      match Bytes.toText? name, Bytes.toText? value with
      | some name, some value => do return (name, value) :: (← decodeVariables rest)
      | _, _ => .error .undecodableVariable

def ofVariable? (entry : String × String) : Option (String × Tree) :=
  (variableKey? entry.1).map fun key => (key, .scalar (some .environment) (.text entry.2))

/-- The settings among the variables. Of several with one key the last counts. -/
def ofVariables (exported : Variables) : Except Crash Layer := do
  return Entries.ofList ((← decodeVariables exported).filterMap ofVariable?)

end Layer
end CustomerNotice
