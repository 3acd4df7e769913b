import CustomerNotice.Proofs.Tree.Assignment

/-!
# What is seen in a tree

A tree is seen through the names that lead into it. Of a table only that it is
one can be seen at its own place, so two trees that look alike may differ in the
order of their entries. A plain value that is assigned at names is seen there,
hides what was below, makes tables of what it passes and leaves the rest alone.
Assignments at places of which none lies below another can change places.
-/

namespace CustomerNotice

namespace Path

def names (path : Path) : List String :=
  path.first :: path.rest.filterMap fun step =>
    match step with
    | .key name => some name
    | .index _ => none

theorem rest_of_named {path : Path} (named : path.IsNamed) :
    path.rest = path.names.tail.map Step.key := by
  obtain ⟨first, rest⟩ := path
  unfold IsNamed at named
  simp only [names, List.tail_cons] at named ⊢
  induction rest with
  | nil => rfl
  | cons step rest induction =>
      obtain ⟨name, spelled⟩ := named step List.mem_cons_self
      have later := induction fun other member => named other (List.mem_cons_of_mem step member)
      simp only [spelled, List.filterMap_cons, List.map_cons]
      rw [← later]

end Path

namespace Tree

/-- A table without its entries, or anything else as it is. -/
def outside : Tree → Tree
  | table origin _ => .table origin []
  | other => other

/-- What can be seen under each list of names. -/
abbrev View := List String → Option Tree

def seen (tree? : Option Tree) : View
  | [] => tree?.map outside
  | name :: names => seen (tree?.bind fun tree => tree.get? name) names

/-- What is seen at a place that a name leads on from. -/
def tabled (seen? : Option Tree) : Tree := (seen?.getD null).asTable.outside

def afterwards (value : Tree) : List String → View → View
  | [], _, [] => some value
  | [], _, _ :: _ => none
  | _ :: _, view, [] => some (tabled (view []))
  | name :: names, view, other :: others =>
      if name = other then afterwards value names (fun further => view (name :: further)) others
      else view (other :: others)

theorem outside_of_not_table {tree : Tree} (plain : tree.isTable = false) :
    tree.outside = tree := by
  cases tree with
  | scalar origin value => rfl
  | list origin items => rfl
  | table origin entries => contradiction

theorem outside_put (tree : Tree) (name : String) (value : Tree) :
    (tree.asTable.put name value).outside = tree.asTable.outside := by
  cases tree <;> rfl

theorem get?_asTable (old? : Option Tree) (name : String) :
    (old?.getD null).asTable.get? name = old?.bind fun tree => tree.get? name := by
  cases old? with
  | none => rfl
  | some tree => cases tree <;> rfl

theorem tabled_outside (old? : Option Tree) :
    tabled (old?.map outside) = (old?.getD null).asTable.outside := by
  cases old? with
  | none => rfl
  | some tree => cases tree <;> rfl

theorem tabled_tabled (seen? : Option Tree) : tabled (some (tabled seen?)) = tabled seen? := by
  cases seen? with
  | none => rfl
  | some tree => cases tree <;> rfl

theorem seen_none (names : List String) : seen none names = none := by
  induction names with
  | nil => rfl
  | cons name names induction => exact induction

theorem seen_of_not_table {tree : Tree} (plain : tree.isTable = false) (name : String)
    (names : List String) : seen (some tree) (name :: names) = none := by
  rw [seen, Option.bind_some, get?_of_not_table plain, seen_none]

theorem seen_put (old? : Option Tree) (name : String) (value : Tree) (other : String)
    (others : List String) :
    seen (some ((old?.getD null).asTable.put name value)) (other :: others) =
      if name = other then seen (some value) others else seen old? (other :: others) := by
  rw [seen, Option.bind_some, get?_put, get?_asTable]
  by_cases same : name = other
  · simp only [if_pos same]
  · simp only [if_neg same]
    rfl

/-- What is seen depends on nothing but what was seen before. -/
theorem seen_laidOver {value : Tree} (plain : value.isTable = false) (names : List String)
    (old? : Option Tree) :
    seen (some (laidOver old? (nestedIn value (names.map Step.key)))) =
      afterwards value names (seen old?) := by
  funext sought
  induction names generalizing old? sought with
  | nil =>
      have replaced : laidOver old? (nestedIn value ([].map Step.key)) = value :=
        laidOver_of_not_table plain old?
      rw [replaced]
      cases sought with
      | nil => simp only [seen, afterwards, Option.map_some, outside_of_not_table plain]
      | cons other others => rw [seen_of_not_table plain, afterwards]
  | cons name names induction =>
      rw [List.map_cons, nestedIn, ← put_laidOver]
      cases sought with
      | nil =>
          rw [seen, afterwards, Option.map_some, outside_put, seen, tabled_outside]
      | cons other others =>
          rw [seen_put, afterwards, induction, get?_asTable]
          rfl

/-- Neither of two places lies below the other. -/
def Apart (left right : List String) : Prop := ¬left <+: right ∧ ¬right <+: left

theorem apart_cons (name : String) (left right : List String) :
    Apart (name :: left) (name :: right) ↔ Apart left right := by
  simp [Apart, List.cons_prefix_cons]

theorem afterwards_commute {left right : List String} (apart : Apart left right)
    (one other : Tree) (view : View) :
    afterwards one left (afterwards other right view) =
      afterwards other right (afterwards one left view) := by
  funext sought
  -- The two places are followed inwards together up to the name at which they part.
  induction left generalizing right view sought with
  | nil => exact absurd (List.nil_prefix) apart.1
  | cons name left induction =>
      cases right with
      | nil => exact absurd (List.nil_prefix) apart.2
      | cons also right =>
          cases sought with
          | nil => simp only [afterwards, tabled_tabled]
          | cons next sought =>
              by_cases same : name = also
              · subst same
                have further := induction ((apart_cons name left right).mp apart)
                by_cases here : name = next
                · simp only [afterwards, if_pos here, if_true]
                  exact further _ sought
                · simp only [afterwards, if_neg here]
              · by_cases here : name = next
                · subst here
                  have elsewhere : also ≠ name := Ne.symm same
                  simp only [afterwards, if_true, if_neg elsewhere]
                · simp only [afterwards, if_neg here, if_neg same]

def afterSetting (view : View) (setting : String × Tree) : View :=
  afterwards setting.2 (Path.ofKey setting.1).names view

theorem seen_merge_spread {layer : List (String × Tree)}
    (named : ∀ setting ∈ layer, (Path.ofKey setting.1).IsNamed)
    (plain : ∀ setting ∈ layer, setting.2.isTable = false) (tree : Tree) :
    seen (some (tree.merge (layer.map spread))) = layer.foldl afterSetting (seen (some tree)) := by
  induction layer generalizing tree with
  | nil => rw [List.map_nil, merge_nil, List.foldl_nil]
  | cons setting rest induction =>
      have named_rest := fun other member => named other (List.mem_cons_of_mem setting member)
      have plain_rest := fun other member => plain other (List.mem_cons_of_mem setting member)
      have here := Path.rest_of_named (named setting List.mem_cons_self)
      have one : tree.merge [spread setting] =
          laidOver (some tree)
            (nestedIn setting.2 ((Path.ofKey setting.1).names.map Step.key)) := by
        rw [spread, here, Path.names, List.map_cons, nestedIn, laidOver_table]
        rfl
      have split : setting :: rest = [setting] ++ rest := rfl
      rw [split, List.map_append, merge_append, induction named_rest plain_rest,
        List.foldl_append, List.map_singleton, one,
        seen_laidOver (plain setting List.mem_cons_self)]
      rfl

/-- Settings at places of which none lies below another can be put in in any order. -/
theorem settings_commute {layer others : List (String × Tree)} (perm : layer.Perm others)
    (apart : ∀ one ∈ layer, ∀ other ∈ layer, one ≠ other →
      Apart (Path.ofKey one.1).names (Path.ofKey other.1).names) (view : View) :
    layer.foldl afterSetting view = others.foldl afterSetting view := by
  apply perm.foldl_eq'
  intro one member other also view
  by_cases same : one = other
  · rw [same]
  · exact afterwards_commute (apart other also one member (Ne.symm same)) _ _ view

end Tree
end CustomerNotice
