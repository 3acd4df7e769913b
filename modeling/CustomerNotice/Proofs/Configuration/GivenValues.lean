import CustomerNotice.Proofs.Configuration.EffectiveValue
import CustomerNotice.Proofs.Tree.Rewriting

/-!
# The values a field is given

Where keys are names with points between them, a layer lays the values that it gives a field over
the field, one after the other. So if the last of them is no table, the field is exactly this value
in the end, and the value still tells where it was given: everything in a file tells the file.
-/

namespace CustomerNotice
namespace Tree

/-- What is found after values are laid over `old?` in their order. -/
def afterValues (old? : Option Tree) (values : List Tree) : Option Tree :=
  values.foldl (fun old? value => some (laidOver old? value)) old?

theorem afterValues_append (old? : Option Tree) (first second : List Tree) :
    afterValues old? (first ++ second) = afterValues (afterValues old? first) second :=
  List.foldl_append

/-- If the last value is no table, it is what is found. -/
theorem afterValues_of_last {values : List Tree} {value : Tree}
    (last : values.getLast? = some value) (plain : value.isTable = false) (old? : Option Tree) :
    afterValues old? values = some value := by
  obtain ⟨earlier, rfl⟩ := List.getLast?_eq_some_iff.mp last
  rw [afterValues_append, afterValues, List.foldl_cons, laidOver_of_not_table plain, List.foldl_nil]

theorem afterEntries_eq_afterValues (field : String) (old? : Option Tree)
    (entries : List (String × Tree)) :
    afterEntries field old? entries = afterValues old? (under field entries) := by
  induction entries generalizing old? with
  | nil => rfl
  | cons entry rest induction =>
      rw [afterEntries, induction, under_cons]
      by_cases same : entry.1 = field
      · rw [if_pos same, if_pos same]
        rfl
      · rw [if_neg same, if_neg same]

theorem made_of_named {steps : List Step} (named : ∀ step ∈ steps, ∃ name, step = .key name)
    (value : Tree) : made value steps = nestedIn value steps := by
  induction steps with
  | nil => rfl
  | cons step steps induction =>
      obtain ⟨name, rfl⟩ := named step List.mem_cons_self
      have later := fun other member => named other (List.mem_cons_of_mem _ member)
      rw [made, nestedIn, induction later]

/-- Assigning at names lays what a field is given over what it was. -/
theorem field_assignAt {value : Tree} {old? : Option Tree} {steps : List Step} {after : Tree}
    (named : ∀ step ∈ steps, ∃ name, step = .key name) (keeps : value.KeepsTable steps)
    (assigned : assignAt value old? steps = .ok after) (field : String) :
    after.get? field =
      afterValues (old?.bind fun old => old.get? field) (givenTo field value steps) := by
  cases steps with
  | nil =>
      cases assigned
      obtain ⟨origin, entries, rfl⟩ := exists_table_of_isTable keeps
      rw [laidOver_table, get?_merge, afterEntries_eq_afterValues]
      cases old? <;> rfl
  | cons step steps =>
      obtain ⟨name, rfl⟩ := named step List.mem_cons_self
      have later := fun other member => named other (List.mem_cons_of_mem _ member)
      rw [assignAt, assignAt_names later] at assigned
      cases assigned
      rw [get?_put, get?_asTable, givenTo]
      by_cases same : name = field
      · rw [if_pos same, if_pos same, made_of_named later, same]
        rfl
      · rw [if_neg same, if_neg same, get?_asTable]
        rfl

def field? (name field : String) (tree : Tree) : Option Tree :=
  (tree.get? name).bind fun table => table.get? field

/-- Putting in a layer lays the values that it gives a field over the field in their order. -/
theorem field_assignAll {name : String} {layer : Layer} {tree after : Tree}
    (named : ∀ setting ∈ layer, (Path.ofKey setting.1).IsNamed) (keeps : layer.Keeps name)
    (assigned : tree.assignAll layer = .ok after) (field : String) :
    after.field? name field =
      afterValues (tree.field? name field) (layer.valuesFor name field) := by
  induction layer generalizing tree with
  | nil =>
      cases assigned
      rfl
  | cons setting rest induction =>
      rw [assignAll] at assigned
      obtain ⟨next, here, later⟩ := steps_of_bind_ok assigned
      obtain ⟨child, inner, found⟩ := assign_parts here
      have named_rest := fun other member => named other (List.mem_cons_of_mem setting member)
      have keeps_rest := fun other member => keeps other (List.mem_cons_of_mem setting member)
      have first : next.field? name field =
          afterValues (tree.field? name field) (Layer.valuesOf name field setting) := by
        rw [field?, field?, found, Layer.valuesOf]
        by_cases same : (Path.ofKey setting.1).first = name
        · have put := field_assignAt (named setting List.mem_cons_self)
            (keeps setting List.mem_cons_self same) inner field
          rw [if_pos same, if_pos same, Option.bind_some, put, same]
        · rw [if_neg same, if_neg same]
          rfl
      have split : Layer.valuesFor name field (setting :: rest) =
          Layer.valuesOf name field setting ++ Layer.valuesFor name field rest := rfl
      rw [induction named_rest keeps_rest later, first, split, afterValues_append]

theorem origin_stamp (source : Origin) (tree : Tree) :
    (tree.stamp source).origin = some source := by
  cases tree <;> rfl

theorem stamped_of_mem {source : Origin} {tree : Tree} {entry : String × Tree}
    (member : entry ∈ (tree.stamp source).entries) : ∃ given, entry.2 = stamp source given := by
  cases tree with
  | scalar origin value => contradiction
  | list origin items => contradiction
  | table origin entries =>
      rw [stamp, Tree.entries, stampEntries_eq] at member
      obtain ⟨given, _, same⟩ := List.mem_map.mp member
      exact ⟨given.2, by rw [← same]⟩

end Tree

namespace Layer

/-- The settings of a file in which every key is a name and every section a table. -/
structure HasTables (layer : Layer) : Prop where
  named : ∀ setting ∈ layer, Path.IsName setting.1
  tables : ∀ setting ∈ layer, setting.1 ∈ Section.names → setting.2.isTable = true

/-- Settings of variables, each of another field of some section or of no section at all. -/
def PassesOver (name field : String) (layer : Layer) : Prop :=
  ∀ setting ∈ layer,
    (∃ table other, Path.IsName table ∧ Path.IsName other ∧ setting.1 = table ++ "." ++ other ∧
        (table, other) ≠ (name, field)) ∨
      (Path.IsName setting.1 ∧ setting.1 ∉ Section.names)

variable {layer : Layer} {name field : String}

theorem HasTables.isNamed (file : layer.HasTables) :
    ∀ setting ∈ layer, (Path.ofKey setting.1).IsNamed := by
  intro setting member
  rw [Path.ofKey_name (file.named setting member)]
  exact nofun

theorem HasTables.keeps (file : layer.HasTables) (known : name ∈ Section.names) :
    layer.Keeps name := by
  intro setting member first
  rw [Path.ofKey_name (file.named setting member)] at first ⊢
  dsimp only at first
  exact file.tables setting member (by rwa [first])

/-- Where the key of such a setting leads. -/
theorem PassesOver.path (settings : layer.PassesOver name field) {setting : String × Tree}
    (member : setting ∈ layer) :
    (∃ table other, Path.ofKey setting.1 = ⟨table, [.key other]⟩ ∧
        (table, other) ≠ (name, field)) ∨
      ∃ key, Path.ofKey setting.1 = ⟨key, []⟩ ∧ key ∉ Section.names := by
  rcases settings setting member with
    ⟨table, other, named, other_named, spelled, different⟩ | ⟨named, elsewhere⟩
  · exact .inl ⟨table, other, by rw [spelled, Path.ofKey_field named other_named], different⟩
  · exact .inr ⟨setting.1, Path.ofKey_name named, elsewhere⟩

theorem PassesOver.isNamed (settings : layer.PassesOver name field) :
    ∀ setting ∈ layer, (Path.ofKey setting.1).IsNamed := by
  intro setting member
  rcases settings.path member with ⟨table, other, leads, _⟩ | ⟨key, leads, _⟩
  · rw [leads]
    intro step only
    exact ⟨other, List.mem_singleton.mp only⟩
  · rw [leads]
    exact nofun

theorem PassesOver.keeps (settings : layer.PassesOver name field) {known : String}
    (listed : known ∈ Section.names) : layer.Keeps known := by
  intro setting member first
  rcases settings.path member with ⟨table, other, leads, _⟩ | ⟨key, leads, elsewhere⟩
  · rw [leads]
    exact True.intro
  · rw [leads] at first
    exact absurd listed (first ▸ elsewhere)

theorem PassesOver.valuesFor (settings : layer.PassesOver name field)
    (known : name ∈ Section.names) : layer.valuesFor name field = [] := by
  rw [Layer.valuesFor, List.flatMap_eq_nil_iff]
  intro setting member
  rcases settings.path member with ⟨table, other, leads, different⟩ | ⟨key, leads, elsewhere⟩
  · rw [valuesOf, leads]
    split
    · next same =>
        rw [Tree.givenTo]
        apply if_neg
        intro also
        exact different (Prod.ext same also)
    · rfl
  · rw [valuesOf, leads]
    apply if_neg
    intro same
    exact absurd known (same ▸ elsewhere)

theorem Keeps.append {first second : Layer} (keeps : first.Keeps name)
    (also : second.Keeps name) : (first ++ second).Keeps name := by
  intro setting member
  rcases List.mem_append.mp member with here | later
  · exact keeps setting here
  · exact also setting later

theorem named_together {base specific settings : Layer} (base_file : base.HasTables)
    (specific_file : specific.HasTables) (passes : settings.PassesOver name field) :
    ∀ setting ∈ base ++ specific ++ settings, (Path.ofKey setting.1).IsNamed := by
  intro setting member
  rcases List.mem_append.mp member with filed | exported
  · rcases List.mem_append.mp filed with first | second
    · exact base_file.isNamed setting first
    · exact specific_file.isNamed setting second
  · exact passes.isNamed setting exported

theorem valuesFor_append (first second : Layer) :
    valuesFor name field (first ++ second) =
      valuesFor name field first ++ valuesFor name field second :=
  List.flatMap_append

theorem file_of_read {directory : Directory} {stem : String}
    (read : ofDirectory directory stem = .ok layer) (something : layer ≠ []) :
    ∃ file tree, directory.find? stem = some file ∧
      layer = (Tree.stamp (.file (directory.shown file.name)) tree).entries := by
  unfold ofDirectory at read
  split at read
  · cases read
    contradiction
  · next file found =>
      split at read
      · cases read
        contradiction
      · unfold ofText at read
        split at read
        · next tree _ =>
            cases read
            exact ⟨file, tree, found, rfl⟩
        · contradiction
        · contradiction

/-- A value that a file gives a field says that it is from this file. -/
theorem origin_of_given {directory : Directory} {stem : String}
    (read : ofDirectory directory stem = .ok layer) (tables : layer.HasTables) {value : Tree}
    (given : value ∈ layer.valuesFor name field) :
    ∃ file, directory.find? stem = some file ∧
      value.origin = some (.file (directory.shown file.name)) := by
  obtain ⟨setting, member, here⟩ := List.mem_flatMap.mp given
  obtain ⟨file, tree, found, whole⟩ := file_of_read read (List.ne_nil_of_mem member)
  rw [valuesOf, Path.ofKey_name (tables.named setting member)] at here
  split at here
  · obtain ⟨entry, listed, rfl⟩ := List.mem_map.mp here
    rw [whole] at member
    obtain ⟨table, stamped⟩ := Tree.stamped_of_mem member
    rw [stamped] at listed
    obtain ⟨inner, also_stamped⟩ := Tree.stamped_of_mem (List.mem_filter.mp listed).1
    exact ⟨file, found, by rw [also_stamped, Tree.origin_stamp]⟩
  · contradiction

end Layer

end CustomerNotice
