import CustomerNotice.Number.Binary64
import CustomerNotice.Tree.Entries

/-!
Trees of settings: scalars, lists and tables, each with the place it came from. Laying one tree
over another merges tables key by key; anything else replaces what was there.
-/

namespace CustomerNotice

inductive Origin
  | file (path : String)
  | environment
  deriving DecidableEq, Repr

def Origin.text : Origin → String
  | file path => path
  | environment => "the environment"

inductive Scalar
  | null
  | bool (value : Bool)
  | int (value : Int)
  | float (value : Binary64)
  | text (value : String)
  deriving DecidableEq, Repr

/-- A value made by merging has no origin. -/
inductive Tree
  | scalar (origin : Option Origin) (value : Scalar)
  | list (origin : Option Origin) (items : List Tree)
  | table (origin : Option Origin) (entries : List (String × Tree))

namespace Tree

def empty : Tree := .table none []

def null : Tree := .scalar none .null

def origin : Tree → Option Origin
  | scalar origin _ => origin
  | list origin _ => origin
  | table origin _ => origin

/-- The named values of a table; other trees have none. -/
def entries : Tree → Entries Tree
  | table _ entries => entries
  | _ => []

/-- The items of a list; other trees have none. -/
def items : Tree → List Tree
  | list _ items => items
  | _ => []

def get? (tree : Tree) (key : String) : Option Tree := Entries.get? key tree.entries

/-- Puts a value into a table. A tree of any other kind gives way to a new table. -/
def put (tree : Tree) (key : String) (value : Tree) : Tree :=
  match tree with
  | table origin entries => .table origin (Entries.put key value entries)
  | _ => .table none [(key, value)]

def asTable : Tree → Tree
  | table origin entries => .table origin entries
  | _ => empty

def asList : Tree → Tree
  | list origin items => .list origin items
  | _ => .list none []

mutual

/-- What is found after `new` is laid over `old?`: a table goes into what was there entry by
entry, anything else replaces it. -/
def laidOver (old? : Option Tree) : Tree → Tree
  | .table _ entries => merge (old?.getD empty) entries
  | .list origin items => .list origin items
  | .scalar origin value => .scalar origin value

def merge (target : Tree) : List (String × Tree) → Tree
  | [] => target
  | (key, value) :: rest => merge (target.put key (laidOver (target.get? key) value)) rest

end

mutual

def stamp (source : Origin) : Tree → Tree
  | .scalar _ value => .scalar (some source) value
  | .list _ items => .list (some source) (stampItems source items)
  | .table _ entries => .table (some source) (stampEntries source entries)

def stampItems (source : Origin) : List Tree → List Tree
  | [] => []
  | item :: rest => item.stamp source :: stampItems source rest

def stampEntries (source : Origin) : List (String × Tree) → List (String × Tree)
  | [] => []
  | (key, value) :: rest => (key, value.stamp source) :: stampEntries source rest

end

mutual

def decEq : (left right : Tree) → Decidable (left = right)
  | .scalar origin value, .scalar other given =>
      decidable_of_iff (origin = other ∧ value = given) (by rw [scalar.injEq])
  | .list origin items, .list other others =>
      let _ := decEqItems items others
      decidable_of_iff (origin = other ∧ items = others) (by rw [list.injEq])
  | .table origin entries, .table other others =>
      let _ := decEqEntries entries others
      decidable_of_iff (origin = other ∧ entries = others) (by rw [table.injEq])
  | .scalar _ _, .list _ _ | .scalar _ _, .table _ _ | .list _ _, .scalar _ _
  | .list _ _, .table _ _ | .table _ _, .scalar _ _ | .table _ _, .list _ _ =>
      isFalse (by intro same; cases same)

def decEqItems : (left right : List Tree) → Decidable (left = right)
  | [], [] => isTrue rfl
  | item :: rest, other :: others =>
      let _ := decEq item other
      let _ := decEqItems rest others
      decidable_of_iff (item = other ∧ rest = others) (by rw [List.cons.injEq])
  | [], _ :: _ | _ :: _, [] => isFalse (by intro same; cases same)

def decEqEntries : (left right : List (String × Tree)) → Decidable (left = right)
  | [], [] => isTrue rfl
  | (key, value) :: rest, (other, given) :: others =>
      let _ := decEq value given
      let _ := decEqEntries rest others
      decidable_of_iff ((key = other ∧ value = given) ∧ rest = others)
        (by rw [List.cons.injEq, Prod.mk.injEq])
  | [], _ :: _ | _ :: _, [] => isFalse (by intro same; cases same)

end

instance : DecidableEq Tree := decEq

end Tree
end CustomerNotice
