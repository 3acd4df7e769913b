import CustomerNotice.Failure
import CustomerNotice.Number.Literal
import CustomerNotice.Tree

/-!
Nodes of a YAML document. Of a mapping only the entries whose key is a text are kept, and of
several entries with one key the last.
-/

namespace CustomerNotice
namespace Yaml

/-- A `void` node has a tag that its text does not fit, or repeats a node that is not finished.
The text of a `real` is read only when the node is used. -/
inductive Node
  | void
  | scalar (value : Scalar)
  | real (text : String)
  | list (items : List Node)
  | table (entries : List (String × Node))

namespace Node

def null : Node := .scalar .null

def ofText (text : String) : Node := .scalar (.text text)

def positiveInfinities : List String := [".inf", ".Inf", ".INF", "+.inf", "+.Inf", "+.INF"]

def negativeInfinities : List String := ["-.inf", "-.Inf", "-.INF"]

def undefinedNumbers : List String := [".nan", "NaN", ".NAN"]

def looksReal (text : String) : Bool :=
  positiveInfinities.contains text || negativeInfinities.contains text
    || undefinedNumbers.contains text || (Binary64.read? text.toList).isSome

def integer? (text : List Char) : Option Int :=
  let prefixed? :=
    match text with
    | '0' :: 'x' :: digits => Text.readWord? 16 digits
    | '0' :: 'o' :: digits => Text.readWord? 8 digits
    | '+' :: digits => Text.readWord? 10 digits
    | _ => none
  prefixed? <|> Text.readWord? 10 text

def ofPlain (text : String) : Node :=
  if text = "~" || text = "null" then null
  else if text = "true" then .scalar (.bool true)
  else if text = "false" then .scalar (.bool false)
  else
    match integer? text.toList with
    | some value => .scalar (.int value)
    | none => if looksReal text then .real text else ofText text

def ofStandard (suffix text : String) : Node :=
  if suffix = "bool" then
    if text = "true" then .scalar (.bool true)
    else if text = "false" then .scalar (.bool false)
    else void
  else if suffix = "int" then
    match Text.readWord? 10 text.toList with
    | some value => .scalar (.int value)
    | none => void
  else if suffix = "float" then if looksReal text then .real text else void
  else if suffix = "null" then if text = "~" || text = "null" then null else void
  else ofText text

/-- A scalar with its tag, if it has one. Only plain scalars are anything but texts. -/
def ofScalar (plain : Bool) (tag? : Option (String × String)) (text : String) : Node :=
  if plain then
    match tag? with
    | none => ofPlain text
    | some (handle, suffix) => if handle = "!!" then ofStandard suffix text else ofText text
  else ofText text

/-- The entries of a mapping whose keys and values follow each other. A void node is no key: what
follows it is the key. -/
def pairs : List Node → List (Node × Node)
  | [] => []
  | .void :: rest => pairs rest
  | [_] => []
  | key :: value :: rest => (key, value) :: pairs rest

def named? : Node × Node → Option (String × Node)
  | (.scalar (.text name), value) => some (name, value)
  | _ => none

def ofMapping (nodes : List Node) : Node :=
  .table (Entries.ofList ((pairs nodes).filterMap named?))

mutual

def toTree : Node → Except Crash Tree
  | .void => .ok .null
  | .scalar value => .ok (.scalar none value)
  | .real text =>
      match Binary64.read? text.toList with
      | some value => .ok (.scalar none (.float value))
      | none => .error .unreadableNumber
  | .list items => do return .list none (← toTrees items)
  | .table entries => do return .table none (← toEntries entries)

def toTrees : List Node → Except Crash (List Tree)
  | [] => .ok []
  | node :: rest => do return (← node.toTree) :: (← toTrees rest)

def toEntries : List (String × Node) → Except Crash (List (String × Tree))
  | [] => .ok []
  | (name, node) :: rest => do return (name, ← node.toTree) :: (← toEntries rest)

end

end Node
end Yaml
end CustomerNotice
