import CustomerNotice.Proofs.Tree.Merging
import CustomerNotice.Tree.Path

/-!
# Assigning at dotted keys

A value assigned at names with points between them is laid over the tree inside tables of these
names, so that putting in the settings of a layer is one merge.
-/

namespace CustomerNotice

namespace Path

def IsName (text : String) : Prop :=
  text ≠ "" ∧ ∀ character ∈ text.toList, isNameCharacter character = true

instance (text : String) : Decidable (IsName text) :=
  decidable_of_iff (text ≠ "" ∧ text.toList.all isNameCharacter = true) (by simp [IsName])

/-- Only names follow the first one. -/
def IsNamed (path : Path) : Prop := ∀ step ∈ path.rest, ∃ name, step = .key name

theorem point_is_no_name_character : isNameCharacter '.' = false := by decide

theorem IsName.toList_ne_nil {text : String} (named : IsName text) : text.toList ≠ [] := by
  simpa using named.1

theorem takeWhile_name {text : String} (named : IsName text) (rest : List Char) :
    (text.toList ++ '.' :: rest).takeWhile isNameCharacter = text.toList := by
  rw [List.takeWhile_append_of_pos named.2, List.takeWhile_cons, point_is_no_name_character]
  simp

theorem dropWhile_name {text : String} (named : IsName text) (rest : List Char) :
    (text.toList ++ '.' :: rest).dropWhile isNameCharacter = '.' :: rest := by
  rw [List.dropWhile_append_of_pos named.2, List.dropWhile_cons, point_is_no_name_character]
  simp

theorem takeWhile_only_name {text : String} (named : IsName text) :
    text.toList.takeWhile isNameCharacter = text.toList := by
  have whole := @List.takeWhile_append_of_pos _ isNameCharacter text.toList [] named.2
  simpa using whole

theorem dropWhile_only_name {text : String} (named : IsName text) :
    text.toList.dropWhile isNameCharacter = [] := by
  have whole := @List.dropWhile_append_of_pos _ isNameCharacter text.toList [] named.2
  simpa using whole

theorem ofKey_name {text : String} (named : IsName text) : ofKey text = ⟨text, []⟩ := by
  have something : text.toList.isEmpty = false := by
    simpa using named.toList_ne_nil
  simp [ofKey, read?, takeWhile_only_name named, dropWhile_only_name named, something, readSteps?]

theorem readSteps_field {field : String} (named : IsName field) :
    readSteps? ('.' :: field.toList) = some [.key field] := by
  have something : field.toList.isEmpty = false := by
    simpa using named.toList_ne_nil
  simp [readSteps?, takeWhile_only_name named, dropWhile_only_name named, something]

theorem ofKey_field {name field : String} (named : IsName name) (field_named : IsName field) :
    ofKey (name ++ "." ++ field) = ⟨name, [.key field]⟩ := by
  have something : name.toList.isEmpty = false := by
    simpa using named.toList_ne_nil
  have spelled : (name ++ "." ++ field).toList = name.toList ++ '.' :: field.toList := by
    simp
  simp [ofKey, read?, spelled, takeWhile_name named, dropWhile_name named, something,
    readSteps_field field_named]

end Path

namespace Tree

/-- A value inside tables with the names of the steps. -/
def nestedIn (value : Tree) : List Step → Tree
  | .key name :: steps => .table none [(name, nestedIn value steps)]
  | _ => value

theorem put_laidOver (old? : Option Tree) (name : String) (value : Tree) :
    ((old?.getD null).asTable).put name (laidOver ((old?.getD null).asTable.get? name) value) =
      laidOver old? (.table none [(name, value)]) := by
  rw [laidOver_table, merge_cons, merge_nil]
  cases old? with
  | none => rfl
  | some old =>
      cases old with
      | table origin entries => rfl
      | scalar origin value => rfl
      | list origin items => rfl

theorem assignAt_names {steps : List Step} (named : ∀ step ∈ steps, ∃ name, step = .key name)
    (value : Tree) (old? : Option Tree) :
    assignAt value old? steps = .ok (laidOver old? (nestedIn value steps)) := by
  induction steps generalizing old? with
  | nil => rfl
  | cons step steps induction =>
      obtain ⟨name, spelled⟩ := named step List.mem_cons_self
      have later := fun other member => named other (List.mem_cons_of_mem step member)
      rw [spelled, nestedIn, ← put_laidOver, assignAt, induction later]
      rfl

/-- The setting as it is laid into the tree of all sources. -/
def spread (setting : String × Tree) : String × Tree :=
  ((Path.ofKey setting.1).first, nestedIn setting.2 (Path.ofKey setting.1).rest)

theorem assign_named {path : Path} (named : path.IsNamed) (tree value : Tree) :
    tree.assign path value = .ok (tree.merge [(path.first, nestedIn value path.rest)]) := by
  have all_named : ∀ step ∈ Step.key path.first :: path.rest, ∃ name, step = .key name := by
    intro step member
    rcases List.mem_cons.mp member with here | later
    · exact ⟨path.first, here⟩
    · exact named step later
  rw [assign, assignAt_names all_named, nestedIn, laidOver_table]
  rfl

theorem assignAll_named {layer : List (String × Tree)}
    (named : ∀ setting ∈ layer, (Path.ofKey setting.1).IsNamed) (tree : Tree) :
    tree.assignAll layer = .ok (tree.merge (layer.map spread)) := by
  induction layer generalizing tree with
  | nil => rw [assignAll, List.map_nil, merge_nil]
  | cons setting rest induction =>
      have here := named setting List.mem_cons_self
      have later := fun other member => named other (List.mem_cons_of_mem setting member)
      rw [assignAll, assign_named here]
      dsimp only [Bind.bind, Except.bind]
      rw [induction later, ← merge_append]
      rfl

end Tree
end CustomerNotice
