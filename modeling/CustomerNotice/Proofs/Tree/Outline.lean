import CustomerNotice.Proofs.Tree.Effects
import CustomerNotice.Proofs.Tree.Views

/-!
# Trees in outline

The outline of a tree says what stands at each place in it. It leaves out where
a value was given and in which order the names of a table came. What is laid
over a tree or assigned in it, and whether an assignment breaks off, depends on
nothing but the outline of what was there.
-/

namespace CustomerNotice

/-- The way from a place to one directly below it. -/
inductive Turn
  | under (name : String)
  | inside (place : Nat)
  deriving DecidableEq, Repr

/-- What stands at each place. -/
abbrev Outline := List Turn → Option Kind

namespace Tree

def kind : Tree → Kind
  | scalar _ value => .plain value
  | list _ items => .row items.length
  | table _ _ => .table

def child? (tree : Tree) : Turn → Option Tree
  | .under name => tree.get? name
  | .inside place => tree.items[place]?

def outline (tree? : Option Tree) : Outline
  | [] => tree?.map kind
  | turn :: spot => outline (tree?.bind fun tree => tree.child? turn) spot

theorem outline_none (spot : List Turn) : outline none spot = none := by
  induction spot with
  | nil => rfl
  | cons turn spot induction => exact induction

theorem outline_below (tree : Tree) (turn : Turn) (spot : List Turn) :
    outline (some tree) (turn :: spot) = outline (tree.child? turn) spot := rfl

theorem items_outline (old? : Option Tree) :
    Kind.items (outline old? []) = (old?.getD null).asList.items.length := by
  rcases old? with _ | _ | _ | _ <;> rfl

theorem items_asList (old? : Option Tree) (place : Nat) :
    (old?.getD null).asList.items[place]? = old?.bind fun tree => tree.child? (.inside place) := by
  rcases old? with _ | _ | _ | _ <;> rfl

end Tree

namespace Outline

open CustomerNotice.Tree (outline null)

def below (before : Outline) (turn : Turn) : Outline := fun spot => before (turn :: spot)

/-- A table in the place of anything else, with something under a name. -/
def withName (name : String) (child before : Outline) : Outline
  | [] => some .table
  | .under other :: spot => if name = other then child spot else before (.under other :: spot)
  | .inside _ :: _ => none

/-- What happens at and below a place of a list that has to be reached over. -/
def padding : List Turn → Effect
  | [] => .supply (.plain .null) rfl
  | _ :: _ => .keep

/-- A list in the place of anything else, with something at one of its places. -/
def withItem (place : Nat) (child before : Outline) : Outline
  | [] => some (.row (max (Kind.items (before [])) (place + 1)))
  | .under _ :: _ => none
  | .inside other :: spot =>
      if other = place then child spot
      else if other < place then (padding spot).apply (before (.inside other :: spot))
      else before (.inside other :: spot)

theorem outline_put (old? : Option Tree) (name : String) (child : Tree) :
    outline (some ((old?.getD null).asTable.put name child)) =
      withName name (outline (some child)) (outline old?) := by
  funext spot
  cases spot with
  | nil => rcases old? with _ | _ | _ | _ <;> rfl
  | cons turn spot =>
      rw [Tree.outline_below]
      cases turn with
      | under other =>
          rw [Tree.child?, Tree.get?_put, Tree.get?_asTable, withName]
          by_cases same : name = other
          · rw [if_pos same, if_pos same]
          · rw [if_neg same, if_neg same]
            rfl
      | inside place =>
          have itemless : ((old?.getD null).asTable.put name child).child? (.inside place) =
              none := by
            rcases old? with _ | _ | _ | _ <;> rfl
          rw [itemless, Tree.outline_none, withName]

theorem putAt_asList (tree : Tree) (place : Nat) (child : Tree) :
    ∃ origin, tree.asList.putAt place child =
      .list origin ((tree.asList.items ++
        List.replicate (place + 1 - tree.asList.items.length) null).set place child) := by
  cases tree with
  | scalar origin value => exact ⟨none, rfl⟩
  | list origin items => exact ⟨origin, rfl⟩
  | table origin entries => exact ⟨none, rfl⟩

/-- What stands at another place of a list after nulls were put behind its items. -/
theorem padded_item (items : List Tree) (place other : Nat) (different : other ≠ place)
    (child : Tree) :
    ((items ++ List.replicate (place + 1 - items.length) null).set place child)[other]? =
      if other < place then items[other]?.or (some null) else items[other]? := by
  rw [List.getElem?_set, if_neg (Ne.symm different), List.getElem?_append]
  by_cases inside : other < items.length
  · rw [if_pos inside, List.getElem?_eq_getElem inside]
    simp
  · have outside : items[other]? = none := List.getElem?_eq_none (by omega)
    rw [if_neg inside, outside, List.getElem?_replicate]
    by_cases early : other < place
    · rw [if_pos early, if_pos (by omega)]
      rfl
    · rw [if_neg early, if_neg (by omega)]

theorem outline_supplied (old? : Option Tree) (spot : List Turn) :
    outline (old?.or (some null)) spot = (padding spot).apply (outline old? spot) := by
  cases old? with
  | some old =>
      cases spot with
      | nil => rfl
      | cons turn spot => rfl
  | none =>
      cases spot with
      | nil => rfl
      | cons turn spot =>
          rw [Tree.outline_none]
          cases turn <;> exact Tree.outline_none spot

theorem outline_putAt (old? : Option Tree) (place : Nat) (child : Tree) :
    outline (some ((old?.getD null).asList.putAt place child)) =
      withItem place (outline (some child)) (outline old?) := by
  obtain ⟨origin, filled⟩ := putAt_asList (old?.getD null) place child
  funext spot
  rw [filled]
  cases spot with
  | nil =>
      rw [withItem, Tree.items_outline]
      simp only [outline, Option.map_some, Tree.kind, List.length_set, List.length_append,
        List.length_replicate]
      congr 2
      omega
  | cons turn spot =>
      rw [Tree.outline_below]
      cases turn with
      | under name =>
          rw [withItem]
          exact Tree.outline_none spot
      | inside other =>
          rw [withItem]
          by_cases same : other = place
          · rw [if_pos same, same, Tree.child?, Tree.items, List.getElem?_set_self]
            simp only [List.length_append, List.length_replicate]
            omega
          · rw [if_neg same, Tree.child?, Tree.items, padded_item _ place other same,
              Tree.items_asList]
            split
            · rw [outline_supplied]
              rfl
            · rfl

end Outline

namespace Tree

theorem kind_of_isTable {tree : Tree} (is_table : tree.isTable = true) : tree.kind = .table := by
  obtain ⟨origin, entries, rfl⟩ := exists_table_of_isTable is_table
  rfl

theorem item_of_isTable {tree : Tree} (is_table : tree.isTable = true) (place : Nat) :
    tree.child? (.inside place) = none := by
  obtain ⟨origin, entries, rfl⟩ := exists_table_of_isTable is_table
  rfl

/-- What laying a tree over another one does at each place. An empty table leaves
what it is laid over; otherwise entries under one name are laid over each other. -/
def laying (value : Tree) : List Turn → Effect
  | [] =>
      match value with
      | .table _ [] => .supply .table rfl
      | other => .become (some other.kind)
  | turn :: spot =>
      match value, turn with
      | .table _ [], _ => .keep
      | .table _ (entry :: rest), .under name =>
          (entry :: rest).foldr
            (fun entry later =>
              if entry.1 = name then (laying entry.2 spot).andThen later else later) .keep
      | .table _ (_ :: _), .inside _ => .become none
      | other, turn => .become (outline (other.child? turn) spot)

theorem laying_under (origin : Option Origin) (entries : List (String × Tree)) (name : String)
    (spot : List Turn) :
    laying (.table origin entries) (.under name :: spot) =
      entries.foldr
        (fun entry later =>
          if entry.1 = name then (laying entry.2 spot).andThen later else later) .keep := by
  cases entries <;> rfl

theorem outline_afterEntries {spot : List Turn}
    (lays : ∀ (old? : Option Tree) (value : Tree),
      outline (some (laidOver old? value)) spot = (laying value spot).apply (outline old? spot))
    (name : String) (old? : Option Tree) (entries : List (String × Tree)) :
    outline (afterEntries name old? entries) spot =
      (entries.foldr
        (fun entry later =>
          if entry.1 = name then (laying entry.2 spot).andThen later else later) .keep).apply
        (outline old? spot) := by
  induction entries generalizing old? with
  | nil => rfl
  | cons entry rest induction =>
      rw [afterEntries, induction, List.foldr_cons]
      by_cases same : entry.1 = name
      · rw [if_pos same, if_pos same, lays, Effect.apply_andThen]
      · rw [if_neg same, if_neg same]

theorem outline_laidOver (old? : Option Tree) (value : Tree) (spot : List Turn) :
    outline (some (laidOver old? value)) spot = (laying value spot).apply (outline old? spot) := by
  induction spot generalizing old? value with
  | nil =>
      cases value with
      | scalar origin value => rw [laidOver_of_not_table rfl]; rfl
      | list origin items => rw [laidOver_of_not_table rfl]; rfl
      | table origin entries =>
          rw [laidOver_table]
          cases entries with
          | nil =>
              rw [merge_nil]
              cases old? <;> rfl
          | cons entry rest =>
              have merged : ((old?.getD empty).merge (entry :: rest)).isTable = true :=
                isTable_merge (.inr (List.cons_ne_nil entry rest))
              exact congrArg some (kind_of_isTable merged)
  | cons turn spot induction =>
      cases value with
      | scalar origin value => rw [laidOver_of_not_table rfl]; cases turn <;> rfl
      | list origin items => rw [laidOver_of_not_table rfl]; cases turn <;> rfl
      | table origin entries =>
          rw [laidOver_table]
          cases entries with
          | nil =>
              rw [merge_nil]
              cases old? with
              | some old => rfl
              | none =>
                  rw [outline_none]
                  cases turn <;> exact outline_none spot
          | cons entry rest =>
              cases turn with
              | under name =>
                  have before : (old?.getD empty).get? name =
                      old?.bind fun tree => tree.child? (.under name) := by
                    cases old? <;> rfl
                  rw [outline_below, child?, get?_merge, outline_afterEntries induction, before]
                  rfl
              | inside place =>
                  have merged : ((old?.getD empty).merge (entry :: rest)).isTable = true :=
                    isTable_merge (.inr (List.cons_ne_nil entry rest))
                  rw [outline_below, item_of_isTable merged, outline_none]
                  rfl

end Tree

namespace Outline

open CustomerNotice.Tree (outline laying)

/-- Assigning a value at steps, as far as outlines show it. -/
def assigned (value : Tree) (before : Outline) : List Step → Except Crash Outline
  | [] => .ok fun spot => (laying value spot).apply (before spot)
  | .key name :: steps => do
      let child ← assigned value (before.below (.under name)) steps
      return withName name child before
  | [.index position] => do
      let place ← Tree.place? (Kind.items (before [])) position
      return withItem place (outline (some value)) before
  | .index position :: step :: steps => do
      let place ← Tree.place? (Kind.items (before [])) position
      let child ← assigned value (before.below (.inside place)) (step :: steps)
      return withItem place child before

theorem outline_assignAt (value : Tree) (old? : Option Tree) (steps : List Step) :
    (Tree.assignAt value old? steps).map (fun after => outline (some after)) =
      assigned value (outline old?) steps := by
  induction steps generalizing old? with
  | nil => exact congrArg Except.ok (funext (Tree.outline_laidOver old? value))
  | cons step steps induction =>
      cases step with
      | key name =>
          have child_before : outline ((old?.getD Tree.null).asTable.get? name) =
              (outline old?).below (.under name) := by
            rw [Tree.get?_asTable]
            rfl
          rw [Tree.assignAt, assigned, ← child_before, ← induction]
          cases Tree.assignAt value ((old?.getD Tree.null).asTable.get? name) steps with
          | error crash => rfl
          | ok child => exact congrArg Except.ok (outline_put old? name child)
      | index position =>
          have items := Tree.items_outline old?
          rw [Tree.assignAt]
          cases steps with
          | nil =>
              rw [assigned, items]
              cases Tree.place? (old?.getD Tree.null).asList.items.length position with
              | error crash => rfl
              | ok place => exact congrArg Except.ok (outline_putAt old? place value)
          | cons next steps =>
              rw [assigned, items]
              cases Tree.place? (old?.getD Tree.null).asList.items.length position with
              | error crash => rfl
              | ok place =>
                  have child_before : outline (old?.getD Tree.null).asList.items[place]? =
                      (outline old?).below (.inside place) := by
                    rw [Tree.items_asList]
                    rfl
                  dsimp only [Bind.bind, Except.bind]
                  rw [← child_before, ← induction]
                  cases Tree.assignAt value (old?.getD Tree.null).asList.items[place]?
                    (next :: steps) with
                  | error crash => rfl
                  | ok child => exact congrArg Except.ok (outline_putAt old? place child)

def stepsOf (key : String) : List Step := .key (Path.ofKey key).first :: (Path.ofKey key).rest

def assignedAll (before : Outline) : List (String × Tree) → Except Crash Outline
  | [] => .ok before
  | setting :: rest => do
      let after ← assigned setting.2 before (stepsOf setting.1)
      assignedAll after rest

theorem outline_assignAll (tree : Tree) (layer : List (String × Tree)) :
    (tree.assignAll layer).map (fun after => outline (some after)) =
      assignedAll (outline (some tree)) layer := by
  induction layer generalizing tree with
  | nil => rfl
  | cons setting rest induction =>
      have first := outline_assignAt setting.2 (some tree) (stepsOf setting.1)
      rw [Tree.assignAll, assignedAll, ← first]
      change ((Tree.assignAt setting.2 (some tree) (stepsOf setting.1)).bind
        fun after => after.assignAll rest).map _ = _
      cases Tree.assignAt setting.2 (some tree) (stepsOf setting.1) with
      | error crash => rfl
      | ok after => exact induction after

end Outline
end CustomerNotice
