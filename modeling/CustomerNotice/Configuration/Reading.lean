import CustomerNotice.Configuration
import CustomerNotice.Configuration.Error
import CustomerNotice.Number.Literal

/-!
Reading a configuration from a tree of settings. A section is a table with its fields, or a list
with their values in order.
-/

namespace CustomerNotice
namespace Reading

structure Field where
  key : String
  value : Tree

def field (shape : Section) (tree : Tree) (place : Nat) : Except LoadError Field :=
  match tree with
  | .table _ entries =>
      let name := shape.fields.getD place ""
      match Entries.get? name entries with
      | some value => .ok ⟨shape.key ++ "." ++ name, value⟩
      | none => .error (.missing name)
  | .list _ items =>
      match items[place]? with
      | some value => .ok ⟨shape.key ++ "[" ++ place.repr ++ "]", value⟩
      | none => .error (.tooShort items.length shape)
  | .scalar _ value => .error (.notSection (.scalar value) shape)

def boolText (value : Bool) : String := if value then "true" else "false"

/-- A field that is a text. Every scalar but null has a text. -/
def text (field : Field) : Except LoadError String :=
  match field.value with
  | .scalar _ (.text value) => .ok value
  | .scalar _ (.bool value) => .ok (boolText value)
  | .scalar _ (.int value) => .ok (Text.ofInt value)
  | .scalar _ (.float value) => .ok value.text
  | other => .error (.notText other.found field.key other.origin)

def switchOfInt (value : Int) : Except SwitchError Bool :=
  if value = 1 then .ok true
  else if value = 0 then .ok false
  else .error .integer

def switchOfFloat (value : Binary64) : Except SwitchError Bool :=
  if value.nearOne then .ok true
  else if value.isZero then .ok false
  else .error .float

def switchOfText (value : String) : Except SwitchError Bool :=
  if value = "true" then .ok true
  else if value = "false" then .ok false
  else
    match Text.readWord? 10 value.toList with
    | some integer => switchOfInt integer
    | none =>
        match Binary64.read? value.toList with
        | some number => switchOfFloat number
        | none => .error (.text value)

def switchOfTree : Tree → Except SwitchError Bool
  | .scalar _ (.text value) => switchOfText value
  | .scalar _ (.int value) => switchOfInt value
  | .scalar _ (.float value) => switchOfFloat value
  | .scalar _ (.bool value) => .ok value
  | _ => .error .kind

def switch (field : Field) : Except LoadError Bool :=
  (switchOfTree field.value).mapError .notSwitch

def textAt (shape : Section) (tree : Tree) (place : Nat) : Except LoadError String := do
  text (← field shape tree place)

def application (tree : Tree) : Except LoadError ApplicationSettings := do
  let name ← textAt .application tree 0
  let logLevel ← textAt .application tree 1
  return { name, logLevel }

def customer (tree : Tree) : Except LoadError CustomerSettings := do
  let id ← textAt .customer tree 0
  let email ← textAt .customer tree 1
  let name ← textAt .customer tree 2
  let apiKey ← textAt .customer tree 3
  return { id, email, name, apiKey }

def output (tree : Tree) : Except LoadError OutputSettings := do
  let revealApiKey ← switch (← field .output tree 0)
  return { revealApiKey }

def sectionOf (shape : Section) (tree : Tree) : Except LoadError Tree :=
  match tree.get? shape.key with
  | some found => .ok found
  | none => .error (.missing shape.key)

def configuration (tree : Tree) : Except LoadError Configuration := do
  let application ← application (← sectionOf .application tree)
  let customer ← customer (← sectionOf .customer tree)
  let output ← output (← sectionOf .output tree)
  return { application, customer, output }

end Reading
end CustomerNotice
