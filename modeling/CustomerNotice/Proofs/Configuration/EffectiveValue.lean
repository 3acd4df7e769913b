import CustomerNotice.Proofs.Configuration.Settings
import CustomerNotice.Proofs.Results

/-!
# The effective value of a field

Settings give a field of a section values: in a table under the name of the
section, at the path of the field, or further below it. An empty table tells
nothing. As long as the section stays a table, the last value that tells something
is what the field is read as, and without one the default.
-/

namespace CustomerNotice
namespace Tree

def isVoid : Tree → Bool
  | .table _ [] => true
  | _ => false

/-- What a tree tells where it is laid over something. -/
def told? (tree : Tree) : Option Found := if tree.isVoid then none else some tree.found

/-- The last of some values that is no empty table. -/
def lastGiven? (values : List Tree) : Option Tree :=
  (values.filter fun value => !value.isVoid).getLast?

/-- What a value becomes at steps where nothing was before. -/
def made (value : Tree) : List Step → Tree
  | [] => value
  | .key name :: steps => .table none [(name, made value steps)]
  | .index _ :: steps => .list none [made value steps]

/-- The values under a name. -/
def under (name : String) (entries : List (String × Tree)) : List Tree :=
  (entries.filter fun entry => entry.1 = name).map Prod.snd

/-- The values that a value at steps from a section gives a field. -/
def givenTo (field : String) (value : Tree) : List Step → List Tree
  | [] => under field value.entries
  | .key name :: steps => if name = field then [made value steps] else []
  | .index _ :: _ => []

/-- A value at steps from a section leaves the section a table. -/
def KeepsTable (value : Tree) : List Step → Prop
  | [] => value.isTable = true
  | .key _ :: _ => True
  | .index _ :: _ => False

theorem found_of_told {tree : Tree} {found : Found} (told : tree.told? = some found) :
    tree.found = found := by
  unfold told? at told
  split at told
  · contradiction
  · exact Option.some.inj told

theorem told_of_not_table {tree : Tree} (plain : tree.isTable = false) :
    tree.told? = some tree.found := by
  cases tree with
  | scalar origin value => rfl
  | list origin items => rfl
  | table origin entries => contradiction

theorem told_put (tree : Tree) (name : String) (value : Tree) :
    (tree.put name value).told? = some .table := by
  cases tree with
  | scalar origin old => rfl
  | list origin items => rfl
  | table origin entries =>
      cases entries with
      | nil => rfl
      | cons entry rest =>
          rw [put, told?, Entries.put]
          split <;> rfl

theorem told_merge (tree : Tree) (entry : String × Tree) (rest : List (String × Tree)) :
    (tree.merge (entry :: rest)).told? = some .table := by
  rw [merge_cons]
  induction rest generalizing tree entry with
  | nil =>
      rw [merge_nil]
      exact told_put _ _ _
  | cons next rest induction =>
      rw [merge_cons]
      exact induction _ next

/-- Laid over something, a tree tells what it told, or leaves what was told. -/
theorem told_laidOver (old? : Option Tree) (new : Tree) :
    (laidOver old? new).told? = new.told?.or (old?.bind told?) := by
  cases new with
  | scalar origin value => rw [laidOver]; rfl
  | list origin items => rw [laidOver]; rfl
  | table origin entries =>
      rw [laidOver_table]
      cases entries with
      | nil => cases old? <;> rfl
      | cons entry rest => rw [told_merge]; rfl

theorem lastGiven_append (first second : List Tree) :
    (lastGiven? (first ++ second)).map found =
      ((lastGiven? second).map found).or ((lastGiven? first).map found) := by
  rw [lastGiven?, List.filter_append, List.getLast?_append, ← lastGiven?, ← lastGiven?]
  cases lastGiven? second <;> rfl

theorem lastGiven_single (value : Tree) : (lastGiven? [value]).map found = value.told? := by
  unfold lastGiven? told?
  by_cases void : value.isVoid = true
  · simp [void]
  · simp [void]

theorem lastGiven_cons (value : Tree) (rest : List Tree) :
    (lastGiven? (value :: rest)).map found = ((lastGiven? rest).map found).or value.told? := by
  have split := lastGiven_append [value] rest
  rwa [List.singleton_append, lastGiven_single] at split

theorem under_cons (field : String) (entry : String × Tree) (rest : List (String × Tree)) :
    under field (entry :: rest) =
      if entry.1 = field then entry.2 :: under field rest else under field rest := by
  by_cases same : entry.1 = field
  · simp [under, same]
  · simp [under, same]

/-- Of the entries that are laid over a field the last that tells something counts. -/
theorem told_afterEntries (field : String) (old? : Option Tree)
    (entries : List (String × Tree)) :
    (afterEntries field old? entries).bind told? =
      ((lastGiven? (under field entries)).map found).or (old?.bind told?) := by
  induction entries generalizing old? with
  | nil => rfl
  | cons entry rest induction =>
      rw [afterEntries, induction, under_cons]
      by_cases same : entry.1 = field
      · rw [if_pos same, if_pos same, lastGiven_cons, Option.bind_some, told_laidOver,
          Option.or_assoc]
      · rw [if_neg same, if_neg same]

/-- What is assigned tells what it makes, or leaves what was there. -/
theorem told_assignAt {value : Tree} {old? : Option Tree} {steps : List Step} {after : Tree}
    (assigned : assignAt value old? steps = .ok after) :
    after.told? = (made value steps).told?.or (old?.bind told?) := by
  cases steps with
  | nil =>
      cases assigned
      exact told_laidOver old? value
  | cons step steps =>
      cases step with
      | key name =>
          rw [assignAt] at assigned
          obtain ⟨child, _, put⟩ := steps_of_bind_ok assigned
          cases put
          exact told_put _ name child
      | index position =>
          rw [assignAt] at assigned
          obtain ⟨place, _, assigned⟩ := steps_of_bind_ok assigned
          have list : ∀ child, ((old?.getD null).asList.putAt place child).told? = some .list := by
            intro child
            rw [told_of_not_table (isTable_putAt _ place child)]
            cases (old?.getD null).asList <;> rfl
          cases steps with
          | nil =>
              cases assigned
              exact list value
          | cons next steps =>
              obtain ⟨child, _, put⟩ := steps_of_bind_ok assigned
              cases put
              exact list child

theorem told_field_assignAt {value : Tree} {old? : Option Tree} {steps : List Step} {after : Tree}
    (keeps : value.KeepsTable steps) (assigned : assignAt value old? steps = .ok after)
    (field : String) :
    (after.get? field).bind told? =
      ((lastGiven? (givenTo field value steps)).map found).or
        ((old?.bind fun old => old.get? field).bind told?) := by
  cases steps with
  | nil =>
      cases assigned
      obtain ⟨origin, entries, rfl⟩ := exists_table_of_isTable keeps
      rw [laidOver_table, get?_merge, told_afterEntries]
      cases old? <;> rfl
  | cons step steps =>
      cases step with
      | index position => contradiction
      | key name =>
          rw [assignAt] at assigned
          obtain ⟨child, inner, put⟩ := steps_of_bind_ok assigned
          cases put
          rw [get?_put, givenTo]
          by_cases same : name = field
          · rw [if_pos same, if_pos same, Option.bind_some, told_assignAt inner, get?_asTable, same,
              lastGiven_cons]
            rfl
          · rw [if_neg same, if_neg same, get?_asTable]
            rfl

theorem table_of_assignAt {value : Tree} {old? : Option Tree} {steps : List Step} {after : Tree}
    (keeps : value.KeepsTable steps) (tables : ∀ old, old? = some old → old.isTable = true)
    (assigned : assignAt value old? steps = .ok after) : after.isTable = true := by
  cases steps with
  | nil =>
      cases assigned
      obtain ⟨origin, entries, rfl⟩ := exists_table_of_isTable keeps
      rw [laidOver_table]
      apply isTable_merge
      cases old? with
      | none => exact .inl rfl
      | some old => exact .inl (tables old rfl)
  | cons step steps =>
      cases step with
      | index position => contradiction
      | key name =>
          rw [assignAt] at assigned
          obtain ⟨child, _, put⟩ := steps_of_bind_ok assigned
          cases put
          exact isTable_put _ name child

end Tree

namespace Layer

/-- A layer leaves a section a table wherever it puts something there. -/
def Keeps (name : String) (layer : Layer) : Prop :=
  ∀ setting ∈ layer, (Path.ofKey setting.1).first = name →
    setting.2.KeepsTable (Path.ofKey setting.1).rest

def valuesOf (name field : String) (setting : String × Tree) : List Tree :=
  if (Path.ofKey setting.1).first = name then
    Tree.givenTo field setting.2 (Path.ofKey setting.1).rest
  else []

/-- The values that a layer gives a field of a section, in their order. -/
def valuesFor (name field : String) (layer : Layer) : List Tree :=
  layer.flatMap (valuesOf name field)

end Layer

namespace Tree

/-- What a tree tells of a field of a section. -/
def fieldTold? (name field : String) (tree : Tree) : Option Found :=
  ((tree.get? name).bind fun table => table.get? field).bind told?

/-- A section is a table if it is there. -/
def HasTable (name : String) (tree : Tree) : Prop :=
  ∀ table, tree.get? name = some table → table.isTable = true

variable {name : String} {layer : Layer} {tree after : Tree}

theorem assign_parts {path : Path} {value : Tree} (assigned : tree.assign path value = .ok after) :
    ∃ child, assignAt value (tree.get? path.first) path.rest = .ok child ∧
      ∀ other, after.get? other = if path.first = other then some child else tree.get? other := by
  rw [assign, assignAt] at assigned
  obtain ⟨child, inner, put⟩ := steps_of_bind_ok assigned
  cases put
  rw [get?_asTable, Option.bind_some] at inner
  refine ⟨child, inner, ?_⟩
  intro other
  rw [get?_put, get?_asTable, Option.bind_some]

theorem assignAll_keeps (keeps : layer.Keeps name) (table : tree.HasTable name)
    (assigned : tree.assignAll layer = .ok after) : after.HasTable name := by
  induction layer generalizing tree with
  | nil =>
      cases assigned
      exact table
  | cons setting rest induction =>
      rw [assignAll] at assigned
      obtain ⟨next, here, later⟩ := steps_of_bind_ok assigned
      obtain ⟨child, inner, found⟩ := assign_parts here
      apply induction (fun other member => keeps other (List.mem_cons_of_mem _ member)) _ later
      intro reached under_name
      rw [found] at under_name
      split at under_name
      · next same =>
          cases under_name
          apply table_of_assignAt (keeps setting List.mem_cons_self same) _ inner
          rw [same]
          exact table
      · exact table reached under_name

/-- The last value that a layer gives a field is what is said of it. -/
theorem fieldTold_assignAll (keeps : layer.Keeps name) (field : String)
    (assigned : tree.assignAll layer = .ok after) :
    after.fieldTold? name field =
      ((lastGiven? (layer.valuesFor name field)).map found).or (tree.fieldTold? name field) := by
  -- What the first setting tells is what the rest of the layer is put over.
  induction layer generalizing tree with
  | nil =>
      cases assigned
      rfl
  | cons setting rest induction =>
      rw [assignAll] at assigned
      obtain ⟨next, here, later⟩ := steps_of_bind_ok assigned
      obtain ⟨child, inner, found_after⟩ := assign_parts here
      have keeps_rest := fun other member => keeps other (List.mem_cons_of_mem setting member)
      have said : next.fieldTold? name field =
          ((lastGiven? (Layer.valuesOf name field setting)).map found).or
            (tree.fieldTold? name field) := by
        rw [fieldTold?, fieldTold?, found_after, Layer.valuesOf]
        by_cases same : (Path.ofKey setting.1).first = name
        · have put := told_field_assignAt (keeps setting List.mem_cons_self same) inner field
          rw [if_pos same, if_pos same, Option.bind_some, put, same]
        · rw [if_neg same, if_neg same]
          rfl
      have split : Layer.valuesFor name field (setting :: rest) =
          Layer.valuesOf name field setting ++ Layer.valuesFor name field rest := rfl
      rw [induction keeps_rest later, said, split, lastGiven_append, Option.or_assoc]

theorem assignAll_append (first second : Layer) :
    tree.assignAll (first ++ second) = tree.assignAll first >>= fun next => next.assignAll second := by
  induction first generalizing tree with
  | nil => rfl
  | cons setting rest induction =>
      simp only [List.cons_append, assignAll, bind_assoc, induction]

end Tree

namespace Loading

open CustomerNotice.Tree

variable {directory : Directory} {environment : Environment} {exported : Variables}
  {base specific settings : Layer} {tree : Tree}

/-- The sources are what the three layers make when they are put in one after the other. -/
theorem sources_of_read (base_read : Layer.ofDirectory directory baseStem = .ok base)
    (specific_read : Layer.ofDirectory directory environment.name = .ok specific)
    (settings_read : Layer.ofVariables exported = .ok settings) :
    sources directory environment exported =
      (Tree.empty.assignAll (base ++ specific ++ settings)).mapError .crashed := by
  have given : (Layer.ofVariables exported).mapError LoadFailure.crashed = .ok settings := by
    rw [settings_read]
    rfl
  rw [sources, base_read, specific_read, given, assignAll_append, assignAll_append, mapError_bind,
    mapError_bind, bind_assoc]
  rfl

/-- A section of the sources over the defaults is a table if it is one in the
sources, and its fields are laid over the defaults one by one. -/
theorem field_settled (tidy : tree.Tidy) {shape : Section} (known : shape ∈ Section.all)
    (table : tree.HasTable shape.key) :
    ∃ found, Reading.sectionOf shape (settled tree) = .ok found ∧ found.isTable = true ∧
      ∀ field, found.get? field =
        overlaid (shape.builtIn? field) ((tree.get? shape.key).bind fun given => given.get? field) := by
  obtain ⟨builtIn, holds, default_table, found⟩ := section_settled tidy known
  have builtIn_field : ∀ field, shape.builtIn? field = builtIn.get? field := by
    intro field
    rw [Section.builtIn?, default_table]
    rfl
  cases under_key : tree.get? shape.key with
  | none =>
      rw [under_key] at found
      refine ⟨builtIn, found, holds, ?_⟩
      intro field
      rw [builtIn_field]
      rfl
  | some given =>
      rw [under_key] at found
      have given_table := table given under_key
      refine ⟨laidOver (some builtIn) given, found, ?_, ?_⟩
      · obtain ⟨origin, entries, rfl⟩ := exists_table_of_isTable given_table
        rw [laidOver_table]
        exact isTable_merge (.inl holds)
      · intro field
        rw [get?_laidOver builtIn (tidy.found under_key) given_table, builtIn_field]
        rfl

/-- The last of some values that tells something, or else the default. -/
def effective (values : List Tree) (builtIn : Tree) : Tree := (lastGiven? values).getD builtIn

/-- A field reads as the effective value of it looks. -/
theorem field_effective {shape : Section} (known : shape ∈ Section.all)
    {field : String} {builtIn : Tree} (built_in : shape.builtIn? field = some builtIn)
    (something : builtIn.isVoid = false) {layer : Layer} (keeps : layer.Keeps shape.key)
    (assigned : Tree.empty.assignAll layer = .ok tree) :
    ∃ section_tree value, Reading.sectionOf shape (settled tree) = .ok section_tree ∧
      section_tree.isTable = true ∧ section_tree.get? field = some value ∧
      value.found = (effective (layer.valuesFor shape.key field) builtIn).found := by
  have nothing : Tree.empty.HasTable shape.key := nofun
  obtain ⟨section_tree, read, holds, fields⟩ := field_settled (tidy_empty.assignAll assigned) known
    (assignAll_keeps keeps nothing assigned)
  have said : (section_tree.get? field).bind told? =
      some (effective (layer.valuesFor shape.key field) builtIn).found := by
    have last := fieldTold_assignAll keeps field assigned
    have unsaid : Tree.empty.fieldTold? shape.key field = none := rfl
    have default_told : builtIn.told? = some builtIn.found := by
      rw [told?, something]
      rfl
    rw [fieldTold?, unsaid, Option.or_none] at last
    -- An empty table in the sources leaves the default as it is.
    have laid : ∀ given? : Option Tree, (overlaid (some builtIn) given?).bind told? =
        (given?.bind told?).or (some builtIn.found) := by
      intro given?
      cases given? with
      | none => exact default_told
      | some given =>
          rw [overlaid, Option.bind_some, told_laidOver, Option.bind_some, Option.bind_some,
            default_told]
    rw [fields, built_in, laid, last, effective]
    cases lastGiven? (layer.valuesFor shape.key field) <;> rfl
  obtain ⟨value, found, told⟩ := Option.bind_eq_some_iff.mp said
  exact ⟨section_tree, value, read, holds, found, found_of_told told⟩

end Loading
end CustomerNotice
