import CustomerNotice.Configuration.Loading
import CustomerNotice.Proofs.Format.DistinctKeys
import CustomerNotice.Proofs.Tree.Assignment

/-!
# What one layer gives a section

A settings file gives a section the value under its name, the variables give it a table of the
fields that have variables of their own. Putting a layer in lays what it gives over what was
there.
-/

namespace CustomerNotice

namespace Section

def all : List Section := [application, customer, output]

def names : List String := all.map Section.key

theorem mem_names {shape : Section} (known : shape ∈ all) : shape.key ∈ names :=
  List.mem_map_of_mem known

/-- The value of a field where nothing else is said. -/
def builtIn? (shape : Section) (field : String) : Option Tree :=
  (Configuration.default.toTree.get? shape.key).bind fun table => table.get? field

theorem builtIn_table {shape : Section} (known : shape ∈ all) :
    ∃ table, Configuration.default.toTree.get? shape.key = some table ∧ table.isTable = true := by
  simp only [all, List.mem_cons, List.not_mem_nil, or_false] at known
  rcases known with rfl | rfl | rfl
  · exact ⟨_, rfl, rfl⟩
  · exact ⟨_, rfl, rfl⟩
  · exact ⟨_, rfl, rfl⟩

theorem no_point {shape : Section} (known : shape ∈ all) : '.' ∉ shape.key.toList := by
  simp only [all, List.mem_cons, List.not_mem_nil, or_false] at known
  rcases known with rfl | rfl | rfl
  · decide
  · decide
  · decide

end Section

namespace Layer

/-- The field that a key stands for in a section: what comes after the name and a point. -/
def fieldIn? (name key : String) : Option String :=
  match key.toList.dropWhile Path.isNameCharacter with
  | '.' :: field =>
      if key.toList.takeWhile Path.isNameCharacter = name.toList then some (String.ofList field)
      else none
  | _ => none

def fieldsOf (name : String) (layer : Layer) : Entries Tree :=
  layer.filterMap fun setting => (fieldIn? name setting.1).map fun field => (field, setting.2)

def table? (fields : Entries Tree) : Option Tree :=
  if fields.isEmpty then none else some (.table none fields)

/-- What a layer gives a section: the value under its name, or else its fields that have keys of
their own. -/
def given? (name : String) (layer : Layer) : Option Tree :=
  (Entries.get? name layer).or (table? (fieldsOf name layer))

/-- Where a layer is put in, each section becomes what the layer gives it, laid over what was
there. -/
structure LaysGiven (layer : Layer) : Prop where
  named : ∀ setting ∈ layer, (Path.ofKey setting.1).IsNamed
  flat : ∀ shape ∈ Section.all, ∀ value, given? shape.key layer = some value → value.Flat
  lays : ∀ shape ∈ Section.all, ∀ old?,
    Tree.afterEntries shape.key old? (layer.map Tree.spread) =
      Tree.overlaid old? (given? shape.key layer)

/-- A settings file whose keys are names and whose sections hold no tables. -/
structure IsFile (layer : Layer) : Prop where
  named : ∀ setting ∈ layer, Path.IsName setting.1
  flat : ∀ setting ∈ layer, setting.1 ∈ Section.names → setting.2.Flat

/-- Settings of variables, each either a field or no section at all. -/
structure IsVariables (layer : Layer) : Prop where
  distinct : Entries.Distinct layer
  keyed : ∀ setting ∈ layer,
    (∃ name field, Path.IsName name ∧ Path.IsName field ∧ setting.1 = name ++ "." ++ field) ∨
      (Path.IsName setting.1 ∧ setting.1 ∉ Section.names)

theorem fieldIn_name {key : String} (named : Path.IsName key) (name : String) :
    fieldIn? name key = none := by
  rw [fieldIn?, Path.dropWhile_only_name named]

theorem fieldIn_field {name : String} (named : Path.IsName name) (shape_name field : String) :
    fieldIn? shape_name (name ++ "." ++ field) =
      if name = shape_name then some field else none := by
  have spelled : (name ++ "." ++ field).toList = name.toList ++ '.' :: field.toList := by
    simp
  rw [fieldIn?, spelled, Path.dropWhile_name named, Path.takeWhile_name named]
  simp [String.toList_inj]

theorem fieldsOf_names {layer : Layer} (named : ∀ setting ∈ layer, Path.IsName setting.1)
    (name : String) : fieldsOf name layer = [] := by
  rw [fieldsOf, List.filterMap_eq_nil_iff]
  intro setting member
  rw [fieldIn_name (named setting member) name]
  rfl

theorem map_spread_names {layer : Layer} (named : ∀ setting ∈ layer, Path.IsName setting.1) :
    layer.map Tree.spread = layer := by
  have same : ∀ setting ∈ layer, Tree.spread setting = id setting := by
    intro setting member
    rw [Tree.spread, Path.ofKey_name (named setting member)]
    rfl
  rw [List.map_congr_left same, List.map_id]

theorem given_of_names {layer : Layer} (named : ∀ setting ∈ layer, Path.IsName setting.1)
    (name : String) : given? name layer = Entries.get? name layer := by
  rw [given?, fieldsOf_names named]
  exact Option.or_none

theorem IsFile.lays_given {layer : Layer} (file : layer.IsFile)
    (distinct : Entries.Distinct layer) : layer.LaysGiven := by
  refine ⟨?_, ?_, ?_⟩
  · intro setting member
    rw [Path.ofKey_name (file.named setting member)]
    intro step absent
    contradiction
  · intro shape known value found
    rw [given_of_names file.named] at found
    exact file.flat _ (Entries.mem_of_get? found) (Section.mem_names known)
  · intro shape known old?
    rw [map_spread_names file.named, given_of_names file.named,
      Tree.afterEntries_of_distinct distinct]

theorem overlaid_table_cons (old? : Option Tree) (entry : String × Tree) (rest : Entries Tree) :
    Tree.overlaid old? (table? (entry :: rest)) =
      Tree.overlaid (some (Tree.laidOver old? (.table none [entry]))) (table? rest) := by
  cases rest with
  | nil => rfl
  | cons next rest =>
      simp only [table?, List.isEmpty_cons, Bool.false_eq_true, if_false, Tree.overlaid,
        Tree.laidOver_table, Option.getD_some]
      rw [← Tree.merge_append]
      rfl

/-- Fields that are laid into a section one by one are one table laid over it. -/
theorem afterEntries_fields {layer : Layer} {name : String}
    (keyed : ∀ setting ∈ layer,
      (∃ table field, Path.IsName table ∧ Path.IsName field ∧ setting.1 = table ++ "." ++ field) ∨
        (Path.IsName setting.1 ∧ setting.1 ≠ name))
    (old? : Option Tree) :
    Tree.afterEntries name old? (layer.map Tree.spread) =
      Tree.overlaid old? (table? (fieldsOf name layer)) := by
  induction layer generalizing old? with
  | nil => rfl
  | cons setting rest induction =>
      have later := fun other member => keyed other (List.mem_cons_of_mem setting member)
      obtain ⟨key, value⟩ := setting
      rw [List.map_cons, Tree.afterEntries, induction later, fieldsOf, fieldsOf,
        List.filterMap_cons]
      rcases keyed (key, value) List.mem_cons_self with
        ⟨table, field, table_named, field_named, spelled⟩ | ⟨named, different⟩
      · dsimp only at spelled
        subst spelled
        rw [fieldIn_field table_named, Tree.spread,
          Path.ofKey_field table_named field_named]
        by_cases same : table = name
        · rw [if_pos same, if_pos same]
          dsimp only [Option.map_some]
          rw [overlaid_table_cons]
          rfl
        · rw [if_neg same, if_neg same]
          rfl
      · rw [fieldIn_name named, Tree.spread, Path.ofKey_name named, if_neg different]
        rfl

theorem IsVariables.lays_given {layer : Layer} (settings : layer.IsVariables)
    (plain : ∀ setting ∈ layer, setting.2.isTable = false) : layer.LaysGiven := by
  have given_fields : ∀ shape ∈ Section.all,
      given? shape.key layer = table? (fieldsOf shape.key layer) := by
    intro shape known
    have absent : Entries.get? shape.key layer = none := by
      rw [Entries.get?_eq_none_iff]
      intro member
      obtain ⟨setting, member, same⟩ := List.mem_map.mp member
      rcases settings.keyed setting member with ⟨name, field, _, _, spelled⟩ | ⟨_, different⟩
      · apply Section.no_point known
        rw [← same, spelled]
        simp
      · apply different
        rw [same]
        exact Section.mem_names known
    rw [given?, absent, Option.none_or]
  refine ⟨?_, ?_, ?_⟩
  · intro setting member
    rcases settings.keyed setting member with
      ⟨name, field, named, field_named, spelled⟩ | ⟨named, _⟩
    · rw [spelled, Path.ofKey_field named field_named]
      intro step only
      exact ⟨field, List.mem_singleton.mp only⟩
    · rw [Path.ofKey_name named]
      intro step absent
      contradiction
  · intro shape known value found
    rw [given_fields shape known, table?] at found
    split at found
    · contradiction
    · cases found
      intro entry member
      obtain ⟨setting, member, same⟩ := List.mem_filterMap.mp member
      obtain ⟨field, _, same⟩ := Option.map_eq_some_iff.mp same
      rw [← same]
      exact plain setting member
  · intro shape known old?
    rw [given_fields shape known]
    apply afterEntries_fields
    intro setting member
    rcases settings.keyed setting member with field | ⟨named, different⟩
    · exact .inl field
    · refine .inr ⟨named, ?_⟩
      intro same
      apply different
      rw [same]
      exact Section.mem_names known

theorem ofVariable_plain {entry : String × String} {setting : String × Tree}
    (read : ofVariable? entry = some setting) : setting.2.isTable = false := by
  obtain ⟨key, _, same⟩ := Option.map_eq_some_iff.mp read
  rw [← same]
  rfl

end Layer

end CustomerNotice
