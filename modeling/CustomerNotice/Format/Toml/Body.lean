import CustomerNotice.Tree

/-!
Documents of TOML as a sequence of lines, and the tables that the lines build. No key may be given
twice. Dotted keys extend only tables that dotted keys of the same section have made, and a table
is opened by at most one header.
-/

namespace CustomerNotice
namespace Toml

/-- A header opens a table; a `repeated` one opens the next table of a list. An assignment goes to
the table that was opened last. -/
inductive Line
  | header (path : List String) (repeated : Bool)
  | assignment (path : List String) (value : Tree)

/-- What stands under a key while a document is built: a value, a table made by dotted keys, a
table of headers with a mark once it was opened itself, or the tables of a list, of which only
the current one can still grow. -/
inductive Node
  | value (tree : Tree)
  | dotted (body : List (String × Node))
  | table (opened : Bool) (body : List (String × Node))
  | tables (earlier : List Tree) (current : List (String × Node))

abbrev Body := List (String × Node)

mutual

def Node.toTree : Node → Tree
  | .value tree => tree
  | .dotted body => .table none (bodyEntries body)
  | .table _ body => .table none (bodyEntries body)
  | .tables earlier current => .list none (earlier ++ [.table none (bodyEntries current)])

def bodyEntries : List (String × Node) → List (String × Tree)
  | [] => []
  | (key, node) :: rest => (key, node.toTree) :: bodyEntries rest

end

namespace Body

def toTree (body : Body) : Tree := .table none (bodyEntries body)

/-- Gives a value to a key that has none yet. -/
def assign? (value : Tree) : List String → Body → Option Body
  | [], _ => none
  | [key], body =>
      match Entries.get? key body with
      | none => some (Entries.put key (.value value) body)
      | some _ => none
  | key :: rest, body =>
      match Entries.get? key body with
      | none => (assign? value rest []).map fun inner => Entries.put key (.dotted inner) body
      | some (.dotted inner) =>
          (assign? value rest inner).map fun inner => Entries.put key (.dotted inner) body
      | some _ => none

/-- Changes the table at a path of headers. Tables on the way come to be as needed, and a list
stands for its current table. -/
def changeAt? (change : Body → Option Body) : List String → Body → Option Body
  | [], body => change body
  | key :: rest, body =>
      match Entries.get? key body with
      | none =>
          (changeAt? change rest []).map fun inner => Entries.put key (.table false inner) body
      | some (.table opened inner) =>
          (changeAt? change rest inner).map fun inner =>
            Entries.put key (.table opened inner) body
      | some (.tables earlier current) =>
          (changeAt? change rest current).map fun current =>
            Entries.put key (.tables earlier current) body
      | some _ => none

def openTable? (key : String) (body : Body) : Option Body :=
  match Entries.get? key body with
  | none => some (Entries.put key (.table true []) body)
  | some (.table false inner) => some (Entries.put key (.table true inner) body)
  | some _ => none

def openNext? (key : String) (body : Body) : Option Body :=
  match Entries.get? key body with
  | none => some (Entries.put key (.tables [] []) body)
  | some (.tables earlier current) =>
      some (Entries.put key (.tables (earlier ++ [toTree current]) []) body)
  | some _ => none

def openAt? (path : List String) (repeated : Bool) (body : Body) : Option Body :=
  match path.getLast? with
  | none => none
  | some key => changeAt? (if repeated then openNext? key else openTable? key) path.dropLast body

/-- Takes in lines below the header `current`. -/
def extend? (current : List String) (body : Body) : List Line → Option Body
  | [] => some body
  | .header path repeated :: lines => do extend? path (← openAt? path repeated body) lines
  | .assignment path value :: lines => do
      extend? current (← changeAt? (assign? value path) current body) lines

end Body

def Line.toTree? (lines : List Line) : Option Tree := (Body.extend? [] [] lines).map Body.toTree

end Toml
end CustomerNotice
