import CustomerNotice.Proofs.Configuration.RepeatedFile
import CustomerNotice.Proofs.Tree.Collecting
import CustomerNotice.Proofs.Tree.Commuting

/-!
# Fields under keys of their own

A settings file may give the fields of a section in a table, or each of them under a key in which
the name of the section and a point come before its own. Either way the same is loaded, or
nothing, whatever the other file and the variables say. The keys may stand in any order and
anywhere among the others.
-/

namespace CustomerNotice

namespace Outline

theorem stepsOf_name {name : String} (named : Path.IsName name) : stepsOf name = [.key name] := by
  rw [stepsOf, Path.ofKey_name named]

theorem stepsOf_field {name field : String} (named : Path.IsName name)
    (field_named : Path.IsName field) :
    stepsOf (name ++ "." ++ field) = [.key name, .key field] := by
  rw [stepsOf, Path.ofKey_field named field_named]

/-- An entry under a key in which a name comes before its own. -/
def dottedKey (name : String) (entry : String × Tree) : String × Tree :=
  (name ++ "." ++ entry.1, entry.2)

variable {name : String}

theorem putIn_name (named : Path.IsName name) (value : Tree) (before : Outline) :
    putIn (some before) (name, value) =
      some (withName name (laid value (before.below (.under name))) before) := by
  rw [putIn, Option.bind_some, stepsOf_name named]
  rfl

theorem putIn_dotted (named : Path.IsName name) {entry : String × Tree}
    (entry_named : Path.IsName entry.1) (before : Outline) :
    putIn (some before) (dottedKey name entry) =
      some (withName name (withEntry (before.below (.under name)) entry) before) := by
  rw [putIn, Option.bind_some, dottedKey, stepsOf_field named entry_named]
  rfl

/-- Once there is something under a name, entries go into it one by one. -/
theorem putIn_more_dotted (named : Path.IsName name) {entries : Entries Tree}
    (entries_named : ∀ entry ∈ entries, Path.IsName entry.1) (child before : Outline) :
    (entries.map (dottedKey name)).foldl putIn (some (withName name child before)) =
      some (withName name (entries.foldl withEntry child) before) := by
  induction entries generalizing child with
  | nil => rfl
  | cons entry rest induction =>
      have here := putIn_dotted named (entries_named entry List.mem_cons_self)
        (withName name child before)
      have later := fun other member => entries_named other (List.mem_cons_of_mem entry member)
      rw [below_withName, withName_again] at here
      rw [List.map_cons, List.foldl_cons, here, induction later, List.foldl_cons]

/-- A table does the same as its entries under keys of their own. -/
theorem putIn_table (named : Path.IsName name) (origin : Option Origin) {entries : Entries Tree}
    (some_entry : entries ≠ []) (entries_named : ∀ entry ∈ entries, Path.IsName entry.1)
    (before? : Option Outline) :
    putIn before? (name, .table origin entries) =
      (entries.map (dottedKey name)).foldl putIn before? := by
  cases before? with
  | none => exact (putIn_all_none _).symm
  | some before =>
      rw [putIn_name named, laid_table origin some_entry]
      obtain ⟨entry, rest, rfl⟩ := List.exists_cons_of_ne_nil some_entry
      have here := putIn_dotted named (entries_named entry List.mem_cons_self) before
      have later := fun other member => entries_named other (List.mem_cons_of_mem entry member)
      rw [List.map_cons, List.foldl_cons, List.foldl_cons, here, putIn_more_dotted named later]

end Outline

namespace Layer

open CustomerNotice.Outline (dottedKey leadsTo putIn assignedAll)

/-- Two layers that differ in the spelling of what stands under a name: in the first it is a
table, in the second each of its fields has a key of its own. No other key in either leads there,
and all else is the same. -/
structure Unfolds (name : String) (fields : Entries Tree) (nested dotted : Layer) : Prop where
  named : Path.IsName name
  some_field : fields ≠ []
  fields_named : ∀ field ∈ fields, Path.IsName field.1
  table : ∃ origin, nested.filter (leadsTo name) = [(name, .table origin fields)]
  keys : (dotted.filter (leadsTo name)).Perm (fields.map (dottedKey name))
  others : nested.filter (fun setting => !leadsTo name setting) =
    dotted.filter fun setting => !leadsTo name setting

theorem Unfolds.keys_parted {name : String} {fields : Entries Tree} {nested dotted : Layer}
    (unfolds : Unfolds name fields nested dotted) (distinct : Entries.Distinct dotted) :
    ∀ one ∈ dotted.filter (leadsTo name), ∀ other ∈ dotted.filter (leadsTo name), one ≠ other →
      Outline.Parted (Outline.stepsOf one.1) (Outline.stepsOf other.1) := by
  intro one member other also different
  obtain ⟨field, listed, same⟩ := List.mem_map.mp (unfolds.keys.subset member)
  obtain ⟨other_field, also_listed, also_same⟩ := List.mem_map.mp (unfolds.keys.subset also)
  have one_steps := Outline.stepsOf_field unfolds.named (unfolds.fields_named field listed)
  have other_steps :=
    Outline.stepsOf_field unfolds.named (unfolds.fields_named other_field also_listed)
  rw [← same, ← also_same, dottedKey, dottedKey, one_steps, other_steps]
  apply Outline.Parted.within
  apply Outline.Parted.here
  intro same_name
  apply different
  apply Entries.entry_of_name distinct (List.mem_filter.mp member).1 (List.mem_filter.mp also).1
  rw [← same, ← also_same, dottedKey, dottedKey, same_name]

/-- Both spellings are put in alike. -/
theorem Unfolds.assigned {name : String} {fields : Entries Tree} {nested dotted : Layer}
    (unfolds : Unfolds name fields nested dotted) (distinct : Entries.Distinct dotted)
    (before : Outline) :
    (assignedAll before nested).toOption = (assignedAll before dotted).toOption := by
  obtain ⟨origin, table⟩ := unfolds.table
  have keys := Outline.putIn_perm unfolds.keys (unfolds.keys_parted distinct) (some before)
  rw [Outline.assignedAll_eq_foldl, Outline.assignedAll_eq_foldl,
    Outline.putIn_gathered name nested, Outline.putIn_gathered name dotted, unfolds.others, table,
    List.foldl_cons, List.foldl_nil, keys,
    Outline.putIn_table unfolds.named origin unfolds.some_field unfolds.fields_named]

end Layer

namespace Loading

open CustomerNotice.Tree (outline)

/-- The tree that the content of a file spells in its format. -/
def Spells (offered : Format × Bytes) (tree : Tree) : Prop :=
  ∃ text, Bytes.toText? offered.2 = some text ∧ offered.1.read text.toList = .ok tree

theorem written_of_spelled {offered : Format × Bytes} {tree : Tree} (spells : Spells offered tree)
    (before : Outline) :
    written (some offered) before = (Outline.assignedAll before tree.entries).toOption := by
  obtain ⟨format, content⟩ := offered
  obtain ⟨text, decoded, read⟩ := spells
  dsimp only at decoded read
  simp only [written, decoded, read]
  rfl

theorem distinct_of_spelled {offered : Format × Bytes} {tree : Tree}
    (spells : Spells offered tree) : Entries.Distinct tree.entries := by
  obtain ⟨text, _, read⟩ := spells
  exact Format.read_distinct read

/-- A file in which the fields of a section stand in a table and one in which they have keys of
their own give the same configuration, or none, whatever else is loaded with them. -/
theorem dotted_and_nested_fields_agree {left right : Directory} {environment : Environment}
    {stem : String} (asked : stem = baseStem ∨ stem = environment.name)
    {one other : Format × Bytes} (left_offers : left.offers stem = some one)
    (right_offers : right.offers stem = some other)
    (elsewhere : ∀ another, another = baseStem ∨ another = environment.name → another ≠ stem →
      left.offers another = right.offers another)
    {nested dotted : Tree} (nested_spelled : Spells one nested)
    (dotted_spelled : Spells other dotted) {name : String} {fields : Entries Tree}
    (unfolds : Layer.Unfolds name fields nested.entries dotted.entries) (exported : Variables) :
    (fromDirectory left environment exported).toOption =
      (fromDirectory right environment exported).toOption := by
  have alike : written (left.offers stem) = written (right.offers stem) := by
    funext before
    rw [left_offers, right_offers, written_of_spelled nested_spelled,
      written_of_spelled dotted_spelled, unfolds.assigned (distinct_of_spelled dotted_spelled)]
  have different := base_is_no_environment environment
  apply fromDirectory_of_outline
  rw [filed_outline, filed_outline]
  rcases asked with rfl | rfl
  · rw [alike, elsewhere environment.name (.inr rfl) different.symm]
  · rw [alike, elsewhere baseStem (.inl rfl) different]

def nestedSettings : String :=
  "[output]\nreveal_api_key = 0\n[customer]\nemail = ada@example.com\ncustomer_name = Ada\n"

def dottedSettings : String :=
  "customer.customer_name = Ada\ncustomer.email = ada@example.com\n[output]\nreveal_api_key = 0\n"

def customerFields : Entries Tree :=
  [("email", .scalar none (.text "ada@example.com")), ("customer_name", .scalar none (.text "Ada"))]

def outputSetting : String × Tree :=
  ("output", .table none [("reveal_api_key", .scalar none (.text "0"))])

def nestedTree : Tree := .table none [outputSetting, ("customer", .table none customerFields)]

def dottedTree : Tree :=
  .table none
    [ ("customer.customer_name", .scalar none (.text "Ada"))
    , ("customer.email", .scalar none (.text "ada@example.com"))
    , outputSetting ]

def directoryWith (settings : String) : Directory where
  path := [Files.settingsFolder]
  entries :=
    [ ("base.ini", .file (Bytes.ofText "customer = 5\n"))
    , ("production.ini", .file (Bytes.ofText settings)) ]

/-- Whatever the settings for the environment are, the base file is the same. -/
theorem offered_base (settings : String) :
    (directoryWith settings).offers baseStem = some (.ini, Bytes.ofText "customer = 5\n") := rfl

theorem offered_settings (settings : String) :
    (directoryWith settings).offers Environment.production.name =
      some (.ini, Bytes.ofText settings) := rfl

theorem nested_spelled : Spells (.ini, Bytes.ofText nestedSettings) nestedTree := by
  refine ⟨nestedSettings, Bytes.toText?_ofText _, ?_⟩
  simp only [nestedSettings, String.reduceToList]
  rfl

theorem dotted_spelled : Spells (.ini, Bytes.ofText dottedSettings) dottedTree := by
  refine ⟨dottedSettings, Bytes.toText?_ofText _, ?_⟩
  simp only [dottedSettings, String.reduceToList]
  rfl

theorem customer_unfolds :
    Layer.Unfolds "customer" customerFields nestedTree.entries dottedTree.entries := by
  have customer : Path.ofKey "customer" = ⟨"customer", []⟩ := Path.ofKey_name (by decide)
  have output : Path.ofKey "output" = ⟨"output", []⟩ := Path.ofKey_name (by decide)
  have name : Path.ofKey "customer.customer_name" = ⟨"customer", [.key "customer_name"]⟩ :=
    Path.ofKey_of_parts (by decide)
  have email : Path.ofKey "customer.email" = ⟨"customer", [.key "email"]⟩ :=
    Path.ofKey_of_parts (by decide)
  refine ⟨by decide, nofun, by decide, ⟨none, ?table⟩, ?keys, ?others⟩
  case table => simp [nestedTree, Tree.entries, Outline.leadsTo, customer, output, outputSetting]
  case keys =>
    have swapped := List.Perm.swap ("customer.email", Tree.scalar none (.text "ada@example.com"))
      ("customer.customer_name", .scalar none (.text "Ada")) []
    simpa [dottedTree, Tree.entries, Outline.leadsTo, name, email, output, outputSetting,
      customerFields, Outline.dottedKey] using swapped
  case others =>
    simp [nestedTree, dottedTree, Tree.entries, Outline.leadsTo, customer, name, email, output,
      outputSetting]

theorem dotted_customer_replaces_a_text :
    Layer.Unfolds "customer" customerFields nestedTree.entries dottedTree.entries ∧
      (fromDirectory (directoryWith nestedSettings) .production []).toOption =
        (fromDirectory (directoryWith dottedSettings) .production []).toOption ∧
      (fromDirectory (directoryWith dottedSettings) .production []).toOption =
        some
          { Configuration.default with
            customer :=
              { Configuration.default.customer with
                email := "ada@example.com"
                name := "Ada" }
            output := { revealApiKey := false } } := by
  have elsewhere : ∀ another, another = baseStem ∨ another = Environment.production.name →
      another ≠ Environment.production.name →
      (directoryWith nestedSettings).offers another =
        (directoryWith dottedSettings).offers another := by
    intro another asked different
    rw [asked.resolve_right different, offered_base, offered_base]
  refine ⟨customer_unfolds, ?_, by decide +kernel⟩
  exact dotted_and_nested_fields_agree (.inr rfl) (offered_settings _) (offered_settings _)
    elsewhere nested_spelled dotted_spelled customer_unfolds []

end Loading
end CustomerNotice
