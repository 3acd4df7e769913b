import CustomerNotice.Text.Bytes
import CustomerNotice.Text.Lowercase

/-!
The environments that the program runs in, and the variables of a process, from which the
environment is detected.
-/

namespace CustomerNotice

inductive Environment
  | development
  | production
  deriving DecidableEq, Repr

/-- A name that stands for no environment, in lowercase. -/
structure UnknownEnvironment where
  name : String
  deriving DecidableEq, Repr

namespace UnknownEnvironment

def text (error : UnknownEnvironment) : String :=
  error.name ++ " is not a supported environment. Use either `local` or `production`."

end UnknownEnvironment

namespace Environment

def name : Environment → String
  | development => "local"
  | production => "production"

def label : Environment → String
  | development => "Local"
  | production => "Production"

def ofName (given : String) : Except UnknownEnvironment Environment :=
  let lowered := Text.lowercase given
  if lowered = development.name then .ok development
  else if lowered = production.name then .ok production
  else .error ⟨lowered⟩

end Environment

/-- The variables of a process: names and values in order, each name once. -/
abbrev Variables := List (Bytes × Bytes)

namespace Variables

def value? (exported : Variables) (name : String) : Option Bytes :=
  (exported.find? fun entry => entry.1 = Bytes.ofText name).map Prod.snd

/-- Gives a variable a value. A variable that is already set keeps its place. -/
def set (exported : Variables) (name value : Bytes) : Variables :=
  match exported with
  | [] => [(name, value)]
  | (other, old) :: rest =>
      if other = name then (name, value) :: rest else (other, old) :: set rest name value

def unset (exported : Variables) (name : Bytes) : Variables :=
  exported.filter fun entry => entry.1 != name

/-- The name and the value of an assignment. A name has at least one octet, so that an equals
sign at the very beginning belongs to it. -/
def readAssignment? : Bytes → Option (Bytes × Bytes)
  | [] => none
  | first :: rest =>
      match rest.dropWhile (· != 61) with
      | [] => none
      | _ :: value => some (first :: rest.takeWhile (· != 61), value)

def splitZeros (bytes : Bytes) : List Bytes :=
  bytes.foldr
    (fun byte parts =>
      match byte, parts with
      | 0, parts => [] :: parts
      | byte, part :: parts => (byte :: part) :: parts
      | byte, [] => [[byte]])
    [[]]

def ofBlock (block : Bytes) : Variables := (splitZeros block).filterMap readAssignment?

def ofList (assignments : List (Bytes × Bytes)) : Variables :=
  assignments.foldl (fun exported assignment => set exported assignment.1 assignment.2) []

end Variables

namespace Environment

def variableName : String := "APP_ENVIRONMENT"

/-- The environment that the variables name. A name that is missing or not a text stands for the
local one. -/
def detect (exported : Variables) : Except UnknownEnvironment Environment :=
  match (exported.value? variableName).bind Bytes.toText? with
  | some given => ofName given
  | none => ofName development.name

end Environment
end CustomerNotice
