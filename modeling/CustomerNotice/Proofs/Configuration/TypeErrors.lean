import CustomerNotice.Proofs.Configuration.FirstFailure
import CustomerNotice.Proofs.Configuration.GivenValues
import CustomerNotice.Proofs.Configuration.Irrelevance
import Mathlib.Data.List.GetD

/-!
# A value that is no text

Where a field has to be a text and the value in force is a null or a list, loading is refused. The
message names the field and the file that gives it this value, whatever the other file gives it,
and the two files are never shown under one path.
-/

namespace CustomerNotice

namespace Directory

variable {directory : Directory}

theorem name_of_found {stem : String} {file : SettingsFile}
    (found : directory.find? stem = some file) :
    ∃ entry ∈ knownExtensions, file.name = stem ++ "." ++ entry.1 := by
  rw [find_eq] at found
  split at found
  · contradiction
  · obtain ⟨entry, listed, found⟩ := List.exists_of_findSome?_eq_some found
    obtain ⟨content, _, same⟩ := Option.map_eq_some_iff.mp found
    exact ⟨entry, listed, by rw [← same]⟩

theorem shown_inj {left right : String} (same : directory.shown left = directory.shown right) :
    left = right := by
  unfold shown at same
  cases path : directory.path with
  | nil =>
      rw [path] at same
      exact same
  | cons folder rest =>
      rw [path, String.intercalate_append_of_ne_nil (by simp) (by simp),
        String.intercalate_append_of_ne_nil (by simp) (by simp)] at same
      exact String.append_right_inj _ |>.mp same

/-- The files of the two stems are shown under different paths. -/
theorem shown_apart {environment : Environment} {stem other : String}
    (asked : stem = Loading.baseStem ∨ stem = environment.name)
    (also_asked : other = Loading.baseStem ∨ other = environment.name) (different : other ≠ stem)
    {file another : SettingsFile} (found : directory.find? stem = some file)
    (also_found : directory.find? other = some another) :
    directory.shown another.name ≠ directory.shown file.name := by
  intro same
  obtain ⟨entry, listed, name⟩ := name_of_found found
  obtain ⟨other_entry, also_listed, other_name⟩ := name_of_found also_found
  have apart := names_of_stems_apart environment
  have named : ∀ stem : String, ∀ entry ∈ knownExtensions,
      stem ++ "." ++ entry.1 ∈ namesFor stem := by
    intro stem entry listed
    exact List.mem_cons_of_mem _ (List.mem_map_of_mem listed)
  have names := shown_inj same
  rw [name, other_name] at names
  rcases asked with rfl | rfl <;> rcases also_asked with rfl | rfl
  · exact different rfl
  · exact apart.2 _ also_listed (names ▸ named _ _ listed)
  · exact apart.1 _ also_listed (names ▸ named _ _ listed)
  · exact different rfl

end Directory

namespace Reading

theorem plain_of_refused {value : Tree}
    (refused : value.found = .scalar .null ∨ value.found = .list) : value.isTable = false := by
  cases value with
  | scalar origin value => rfl
  | list origin items => rfl
  | table origin entries => rcases refused with null | list <;> contradiction

/-- The field of a section can be read. -/
def Accepts (shape : Section) (field : Field) : Prop :=
  if shape = .output then (switch field).isOk = true else (text field).isOk = true

instance (shape : Section) (field : Field) : Decidable (Accepts shape field) :=
  inferInstanceAs (Decidable (if shape = .output then _ else _))

theorem text_of_found {left right : Field} (same : left.value.found = right.value.found) :
    (text left).isOk = (text right).isOk := by
  obtain ⟨key, value⟩ := left
  obtain ⟨other_key, other⟩ := right
  cases value with
  | scalar origin value =>
      cases other <;> cases same
      cases value <;> rfl
  | list origin items =>
      cases other <;> cases same
      rfl
  | table origin entries =>
      cases other <;> cases same
      rfl

/-- A null and a list are no texts. -/
theorem text_refuses {field : Field}
    (refused : field.value.found = .scalar .null ∨ field.value.found = .list) :
    text field = .error (.notText field.value.found field.key field.value.origin) := by
  obtain ⟨key, value⟩ := field
  cases value with
  | scalar origin value =>
      rcases refused with null | list
      · cases null
        rfl
      · contradiction
  | list origin items => rfl
  | table origin entries => rcases refused with null | list <;> contradiction

def textOf (shape : Section) (tree : Tree) (place : Nat) : Except LoadError String := do
  textAt shape (← sectionOf shape tree) place

theorem goes_on {Value Result : Type} {first : Except LoadError Value}
    {next : Value → Except LoadError Result} {result : Except LoadError Result}
    (read : first.isOk = true) (after : ∀ value, next value = result) :
    first >>= next = result := by
  cases first with
  | error error => contradiction
  | ok value => exact after value

variable {tree : Tree} {place : Nat} {error : LoadError}

theorem application_refuses (inside : place < 2)
    (before : ∀ earlier < place, (textAt .application tree earlier).isOk = true)
    (refused : textAt .application tree place = .error error) :
    application tree = .error error := by
  unfold application
  match place, inside with
  | 0, _ => rw [refused]; rfl
  | 1, _ =>
      apply goes_on (before 0 (by decide))
      intro name
      rw [refused]
      rfl

theorem customer_refuses (inside : place < 4)
    (before : ∀ earlier < place, (textAt .customer tree earlier).isOk = true)
    (refused : textAt .customer tree place = .error error) :
    customer tree = .error error := by
  unfold customer
  match place, inside with
  | 0, _ => rw [refused]; rfl
  | 1, _ =>
      apply goes_on (before 0 (by decide))
      intro id
      rw [refused]
      rfl
  | 2, _ =>
      apply goes_on (before 0 (by decide))
      intro id
      apply goes_on (before 1 (by decide))
      intro email
      rw [refused]
      rfl
  | 3, _ =>
      apply goes_on (before 0 (by decide))
      intro id
      apply goes_on (before 1 (by decide))
      intro email
      apply goes_on (before 2 (by decide))
      intro name
      rw [refused]
      rfl

theorem application_reads (name : (textAt .application tree 0).isOk = true)
    (level : (textAt .application tree 1).isOk = true) :
    ∃ settings, application tree = .ok settings := by
  unfold application
  cases first : textAt .application tree 0 with
  | error error =>
      rw [first] at name
      contradiction
  | ok name =>
      cases second : textAt .application tree 1 with
      | error error =>
          rw [second] at level
          contradiction
      | ok level => exact ⟨_, rfl⟩

theorem textOf_section {shape : Section} {table : Tree}
    (found : sectionOf shape tree = .ok table) (place : Nat) :
    textOf shape tree place = textAt shape table place := by
  rw [textOf, found]
  rfl

/-- Where one text is refused and all others can be read, a configuration is refused alike. -/
theorem configuration_refuses {shape : Section} (known : shape ∈ Section.all)
    (of_texts : shape ≠ .output) (inside : place < shape.fields.length)
    (sections : ∀ other ∈ Section.all, ∃ table, sectionOf other tree = .ok table)
    (others : ∀ other ∈ Section.all, other ≠ .output → ∀ elsewhere < other.fields.length,
      (other, elsewhere) ≠ (shape, place) → (textOf other tree elsewhere).isOk = true)
    (refused : textOf shape tree place = .error error) :
    configuration tree = .error error := by
  have before : ∀ earlier < place, (textOf shape tree earlier).isOk = true := by
    intro earlier less
    apply others shape known of_texts earlier (Nat.lt_trans less inside)
    intro same
    exact Nat.ne_of_lt less (congrArg Prod.snd same)
  obtain ⟨application_tree, application_found⟩ := sections .application (by decide)
  obtain ⟨customer_tree, customer_found⟩ := sections .customer (by decide)
  unfold configuration
  rw [application_found, customer_found]
  dsimp only [Bind.bind, Except.bind]
  simp only [Section.all, List.mem_cons, List.not_mem_nil, or_false] at known
  rcases known with rfl | rfl | rfl
  · simp only [textOf_section application_found] at before refused
    rw [application_refuses inside before refused]
  · simp only [textOf_section customer_found] at before refused
    have first : ∀ elsewhere < 2, (textAt .application application_tree elsewhere).isOk = true := by
      intro elsewhere less
      rw [← textOf_section application_found]
      apply others .application (by decide) (by decide) elsewhere less
      intro same
      have sections_same : Section.application = Section.customer := congrArg Prod.fst same
      contradiction
    obtain ⟨settings, read⟩ := application_reads (first 0 (by decide)) (first 1 (by decide))
    rw [read, customer_refuses inside before refused]
  · contradiction

end Reading

namespace Loading

open CustomerNotice.Tree

/-- The last of the two files that gives a field a value, with the last value in it. -/
inductive LastGiven (base specific : Layer) (environment : Environment) (name field : String) :
    String → Tree → Prop
  | specific {value : Tree} (last : (specific.valuesFor name field).getLast? = some value) :
      LastGiven base specific environment name field environment.name value
  | base {value : Tree} (silent : specific.valuesFor name field = [])
      (last : (base.valuesFor name field).getLast? = some value) :
      LastGiven base specific environment name field baseStem value

section

variable {directory : Directory} {environment : Environment} {exported : Variables}
  {base specific settings : Layer} {name field stem : String} {value : Tree}

theorem LastGiven.last (given : LastGiven base specific environment name field stem value)
    (unset : settings.valuesFor name field = []) :
    ((base ++ specific ++ settings).valuesFor name field).getLast? = some value := by
  rw [Layer.valuesFor_append, Layer.valuesFor_append, unset, List.append_nil,
    List.getLast?_append]
  cases given with
  | specific last => rw [last]; rfl
  | base silent last => rw [silent, last]; rfl

theorem LastGiven.asked (given : LastGiven base specific environment name field stem value) :
    stem = baseStem ∨ stem = environment.name := by
  cases given with
  | specific last => exact .inr rfl
  | base silent last => exact .inl rfl

theorem LastGiven.origin (given : LastGiven base specific environment name field stem value)
    (base_read : Layer.ofDirectory directory baseStem = .ok base)
    (specific_read : Layer.ofDirectory directory environment.name = .ok specific)
    (base_file : base.HasTables) (specific_file : specific.HasTables) :
    ∃ file, directory.find? stem = some file ∧
      value.origin = some (.file (directory.shown file.name)) := by
  cases given with
  | specific last =>
      exact Layer.origin_of_given specific_read specific_file (List.mem_of_getLast? last)
  | base silent last =>
      exact Layer.origin_of_given base_read base_file (List.mem_of_getLast? last)

end

section

variable {layer : Layer} {tree : Tree} {shape : Section} {place : Nat}

theorem built_in_fields : ∀ shape ∈ Section.all, ∀ place < shape.fields.length,
    (shape.builtIn? (shape.fields.getD place "")).map isVoid = some false := by decide

theorem defaults_are_read : ∀ shape ∈ Section.all, ∀ name ∈ shape.fields, ∀ builtIn,
    shape.builtIn? name = some builtIn →
      Reading.Accepts shape ⟨shape.key ++ "." ++ name, builtIn⟩ := by
  have all : ∀ shape ∈ Section.all, ∀ name ∈ shape.fields,
      (shape.builtIn? name).all
        (fun builtIn => Reading.Accepts shape ⟨shape.key ++ "." ++ name, builtIn⟩) = true := by
    decide
  intro shape known name listed builtIn built_in
  have accepted := all shape known name listed
  rw [built_in, Option.all_some, decide_eq_true_eq] at accepted
  exact accepted

theorem place_of_field {field : String} (listed : field ∈ shape.fields) :
    ∃ place, place < shape.fields.length ∧ shape.fields.getD place "" = field := by
  obtain ⟨place, inside, found⟩ := List.getElem_of_mem listed
  exact ⟨place, inside, by rw [List.getD_eq_getElem _ _ inside, found]⟩

theorem field_at (inside : place < shape.fields.length) :
    shape.fields.getD place "" ∈ shape.fields := by
  rw [List.getD_eq_getElem _ _ inside]
  exact List.getElem_mem inside

theorem fields_distinct : ∀ shape ∈ Section.all, ∀ place < shape.fields.length,
    ∀ other < shape.fields.length,
      shape.fields.getD place "" = shape.fields.getD other "" → place = other := by decide

/-- A field is read as the value that is found for it. -/
theorem textOf_found {section_tree value : Tree}
    (read : Reading.sectionOf shape (settled tree) = .ok section_tree)
    (holds : section_tree.isTable = true)
    (found : section_tree.get? (shape.fields.getD place "") = some value) :
    Reading.textOf shape (settled tree) place =
      Reading.text ⟨shape.key ++ "." ++ shape.fields.getD place "", value⟩ := by
  rw [Reading.textOf_section read, Reading.textAt, Layering.field_of_table shape holds, found]
  rfl

/-- Where the effective value of a field can be read, reading the field succeeds. -/
theorem textOf_accepted (known : shape ∈ Section.all) (inside : place < shape.fields.length)
    (keeps : layer.Keeps shape.key) (assigned : Tree.empty.assignAll layer = .ok tree)
    (accepted : ∀ builtIn, shape.builtIn? (shape.fields.getD place "") = some builtIn →
      (Reading.text ⟨shape.key ++ "." ++ shape.fields.getD place "",
        effective (layer.valuesFor shape.key (shape.fields.getD place "")) builtIn⟩).isOk = true) :
    (Reading.textOf shape (settled tree) place).isOk = true := by
  obtain ⟨builtIn, built_in, something⟩ :=
    Option.map_eq_some_iff.mp (built_in_fields shape known place inside)
  obtain ⟨section_tree, value, read, holds, found, same⟩ :=
    field_effective known built_in something keeps assigned
  rw [textOf_found read holds found, ← accepted builtIn built_in]
  exact Reading.text_of_found same

theorem section_found (known : shape ∈ Section.all) (keeps : layer.Keeps shape.key)
    (assigned : Tree.empty.assignAll layer = .ok tree) :
    ∃ section_tree, Reading.sectionOf shape (settled tree) = .ok section_tree := by
  have nothing : Tree.empty.HasTable shape.key := nofun
  obtain ⟨section_tree, read, _⟩ := field_settled (tidy_empty.assignAll assigned) known
    (assignAll_keeps keeps nothing assigned)
  exact ⟨section_tree, read⟩

/-- A last value that is no table is what reading a field comes to. -/
theorem textOf_last (known : shape ∈ Section.all) {value : Tree}
    (named : ∀ setting ∈ layer, (Path.ofKey setting.1).IsNamed)
    (keeps : layer.Keeps shape.key) (assigned : Tree.empty.assignAll layer = .ok tree)
    (last : (layer.valuesFor shape.key (shape.fields.getD place "")).getLast? = some value)
    (plain : value.isTable = false) :
    Reading.textOf shape (settled tree) place =
      Reading.text ⟨shape.key ++ "." ++ shape.fields.getD place "", value⟩ := by
  have nothing : Tree.empty.HasTable shape.key := nofun
  obtain ⟨section_tree, read, holds, fields⟩ := field_settled (tidy_empty.assignAll assigned) known
    (assignAll_keeps keeps nothing assigned)
  have given := field_assignAll named keeps assigned (shape.fields.getD place "")
  rw [afterValues_of_last last plain, field?] at given
  have found := fields (shape.fields.getD place "")
  rw [given, overlaid, laidOver_of_not_table plain] at found
  exact textOf_found read holds found

end

/-- Every field but one can be read from its effective value. -/
def OthersRead (layer : Layer) (shape : Section) (field : String) : Prop :=
  ∀ other ∈ Section.all, ∀ name ∈ other.fields, (other, name) ≠ (shape, field) →
    ∀ builtIn, other.builtIn? name = some builtIn →
      Reading.Accepts other
        ⟨other.key ++ "." ++ name, effective (layer.valuesFor other.key name) builtIn⟩

/-- Where the last value of one text is a null or a list and all else can be read, the
configuration is refused for this value. -/
theorem configuration_of_last {layer : Layer} {tree : Tree} {shape : Section}
    (known : shape ∈ Section.all) (of_texts : shape ≠ .output) {field : String}
    (listed : field ∈ shape.fields) (named : ∀ setting ∈ layer, (Path.ofKey setting.1).IsNamed)
    (keeps : ∀ name ∈ Section.names, layer.Keeps name)
    (assigned : Tree.empty.assignAll layer = .ok tree) (others : OthersRead layer shape field)
    {value : Tree} (last : (layer.valuesFor shape.key field).getLast? = some value)
    (refused : value.found = .scalar .null ∨ value.found = .list) :
    Reading.configuration (settled tree) =
      .error (.notText value.found (shape.key ++ "." ++ field) value.origin) := by
  obtain ⟨place, inside, rfl⟩ := place_of_field listed
  -- The value in force is read as it was given, and the others are read as they look.
  have refusal := textOf_last known named (keeps _ (Section.mem_names known)) assigned last
    (Reading.plain_of_refused refused)
  rw [Reading.text_refuses refused] at refusal
  apply Reading.configuration_refuses known of_texts inside _ _ refusal
  · intro other also_known
    exact section_found also_known (keeps _ (Section.mem_names also_known)) assigned
  · intro other also_known also_texts another also_inside different
    have other_field : (other, other.fields.getD another "") ≠
        (shape, shape.fields.getD place "") := by
      intro same
      obtain ⟨rfl, names⟩ := Prod.mk.inj same
      exact different (by rw [fields_distinct other known another also_inside place inside names])
    apply textOf_accepted also_known also_inside (keeps _ (Section.mem_names also_known)) assigned
    intro builtIn built_in
    have accepted := others other also_known _ (field_at also_inside) other_field builtIn built_in
    rwa [Reading.Accepts, if_neg also_texts] at accepted

/-- Where one text alone cannot be read, because the last file that gives it a value gives it a
null or a list, the message names it and this file, and not the file whose value this one takes
the place of. -/
theorem type_error_names_the_file_in_force {directory : Directory} {environment : Environment}
    {exported : Variables} {base specific settings : Layer}
    (base_read : Layer.ofDirectory directory baseStem = .ok base)
    (specific_read : Layer.ofDirectory directory environment.name = .ok specific)
    (settings_read : Layer.ofVariables exported = .ok settings)
    (base_file : base.HasTables) (specific_file : specific.HasTables)
    {shape : Section} (known : shape ∈ Section.all) (of_texts : shape ≠ .output)
    {field : String} (listed : field ∈ shape.fields)
    (elsewhere : settings.PassesOver shape.key field)
    (others : OthersRead (base ++ specific ++ settings) shape field)
    {stem : String} {value : Tree}
    (given : LastGiven base specific environment shape.key field stem value)
    (refused : value.found = .scalar .null ∨ value.found = .list) :
    ∃ file, directory.find? stem = some file ∧
      Rejects (fromDirectory directory environment exported)
        (.notText value.found (shape.key ++ "." ++ field)
          (some (.file (directory.shown file.name))))
        ("invalid type: " ++ value.found.text ++ ", expected a string for key `" ++
          (shape.key ++ "." ++ field) ++ "`" ++ (" in " ++ directory.shown file.name)) ∧
      ∀ other, other = baseStem ∨ other = environment.name → other ≠ stem →
        ∀ overridden, directory.find? other = some overridden →
          directory.shown overridden.name ≠ directory.shown file.name := by
  have named := Layer.named_together base_file specific_file elsewhere
  have keeps : ∀ name ∈ Section.names, (base ++ specific ++ settings).Keeps name := by
    intro name also_known
    have files := (base_file.keeps also_known).append (specific_file.keeps also_known)
    exact files.append (elsewhere.keeps also_known)
  have assigned := Tree.assignAll_named named Tree.empty
  have sources := sources_of_read base_read specific_read settings_read
  have last := given.last (elsewhere.valuesFor (Section.mem_names known))
  have unread :=
    configuration_of_last known of_texts listed named keeps assigned others last refused
  obtain ⟨file, found, origin⟩ := given.origin base_read specific_read base_file specific_file
  rw [origin] at unread
  refine ⟨file, found, ⟨?rejected, rfl⟩, ?apart⟩
  case rejected =>
    rw [fromDirectory, sources, assigned]
    simp only [mapError_ok, Bind.bind, Except.bind]
    rw [unread, mapError_error]
  case apart =>
    intro other asked different overridden also_found
    exact Directory.shown_apart given.asked asked different found also_found

/-- Settings that give an address a table, and in production nothing. -/
def addressDirectory : Directory where
  path := [Files.settingsFolder]
  entries :=
    [ ("base.json", .file (Bytes.ofText "\x7b\"customer\":\x7b\"email\":\x7b\"a\":1\x7d\x7d\x7d"))
    , ("production.json", .file (Bytes.ofText "\x7b\"customer\":\x7b\"email\":null\x7d\x7d")) ]

def addressBase : Layer :=
  let origin : Option Origin := some (.file "configuration/base.json")
  [("customer", .table origin [("email", .table origin [("a", .scalar origin (.int 1))])])]

def addressProduction : Layer :=
  let origin : Option Origin := some (.file "configuration/production.json")
  [("customer", .table origin [("email", .scalar origin .null)])]

def nameSettings : Layer := [("customer.customer_name", .scalar (some .environment) (.text "Ada"))]

theorem address_base_read : Layer.ofDirectory addressDirectory baseStem = .ok addressBase := by
  have found : addressDirectory.find? baseStem =
      some ⟨"base.json", .json,
        Bytes.ofText "\x7b\"customer\":\x7b\"email\":\x7b\"a\":1\x7d\x7d\x7d"⟩ := by decide
  simp only [Layer.ofDirectory, found, Bytes.toText?_ofText]
  exact value_of_toOption.mp (by decide +kernel)

theorem address_production_read :
    Layer.ofDirectory addressDirectory Environment.production.name = .ok addressProduction := by
  have found : addressDirectory.find? Environment.production.name =
      some ⟨"production.json", .json,
        Bytes.ofText "\x7b\"customer\":\x7b\"email\":null\x7d\x7d"⟩ := by decide
  simp only [Layer.ofDirectory, found, Bytes.toText?_ofText]
  exact value_of_toOption.mp (by decide +kernel)

theorem name_settings_read :
    Layer.ofVariables (Layer.ofTexts [("APP_CUSTOMER__CUSTOMER_NAME", "Ada")]) =
      .ok nameSettings := by
  have key : Layer.variableKey? "APP_CUSTOMER__CUSTOMER_NAME" = some "customer.customer_name" := by
    decide +kernel
  have decoded := Layer.decode_ofTexts [("APP_CUSTOMER__CUSTOMER_NAME", "Ada")]
  rw [Layer.ofVariables_decoded decoded, Layer.settingsOf]
  simp only [List.filterMap_cons, List.filterMap_nil, Layer.ofVariable?, key, Option.map_some]
  rfl

theorem customer_key : Path.ofKey "customer" = ⟨"customer", []⟩ := Path.ofKey_name (by decide)

theorem customer_name_key :
    Path.ofKey "customer.customer_name" = ⟨"customer", [.key "customer_name"]⟩ :=
  Path.ofKey_of_parts (by decide)

/-- Besides the address only one name is given. -/
theorem address_values {shape : Section} (known : shape ∈ Section.all) {name : String}
    (different : (shape, name) ≠ (.customer, "email")) :
    (addressBase ++ addressProduction ++ nameSettings).valuesFor shape.key name =
      if shape = .customer ∧ name = "customer_name" then
        [.scalar (some .environment) (.text "Ada")]
      else [] := by
  simp only [Section.all, List.mem_cons, List.not_mem_nil, or_false] at known
  rcases known with rfl | rfl | rfl
  · simp [Layer.valuesFor, Layer.valuesOf, addressBase, addressProduction, nameSettings,
      customer_key, customer_name_key, Section.application, Section.customer]
  · have not_email : "email" ≠ name := fun same => different (by rw [same])
    by_cases same : "customer_name" = name
    · simp [Layer.valuesFor, Layer.valuesOf, addressBase, addressProduction, nameSettings,
        customer_key, customer_name_key, Section.customer, Tree.givenTo, Tree.under, Tree.entries,
        Tree.made, ← same]
    · simp [Layer.valuesFor, Layer.valuesOf, addressBase, addressProduction, nameSettings,
        customer_key, customer_name_key, Section.customer, Tree.givenTo, Tree.under, Tree.entries,
        not_email, same, Ne.symm same]
  · simp [Layer.valuesFor, Layer.valuesOf, addressBase, addressProduction, nameSettings,
      customer_key, customer_name_key, Section.output, Section.customer]

theorem null_over_a_table_is_traced :
    Rejects (fromDirectory addressDirectory .production
        (Layer.ofTexts [("APP_CUSTOMER__CUSTOMER_NAME", "Ada")]))
      (.notText (.scalar .null) "customer.email"
        (some (.file "configuration/production.json")))
      ("invalid type: unit value, expected a string for key `customer.email`" ++
        " in configuration/production.json") := by
  have base_file : addressBase.HasTables := ⟨by decide, by decide⟩
  have production_file : addressProduction.HasTables := ⟨by decide, by decide⟩
  have elsewhere : nameSettings.PassesOver "customer" "email" := by
    intro setting member
    obtain rfl := List.mem_singleton.mp member
    exact .inl ⟨"customer", "customer_name", by decide, by decide, rfl, by decide⟩
  have others :
      OthersRead (addressBase ++ addressProduction ++ nameSettings) .customer "email" := by
    intro other known name listed different builtIn built_in
    rw [address_values known different]
    split
    · next by_variable =>
        obtain ⟨rfl, rfl⟩ := by_variable
        rw [Reading.Accepts, if_neg (by decide)]
        rfl
    · exact defaults_are_read other known name listed builtIn built_in
  have given : LastGiven addressBase addressProduction .production "customer" "email"
      Environment.production.name
      (.scalar (some (.file "configuration/production.json")) .null) := by
    apply LastGiven.specific
    simp [Layer.valuesFor, Layer.valuesOf, addressProduction, customer_key, Tree.givenTo,
      Tree.under, Tree.entries]
  have found : addressDirectory.find? Environment.production.name =
      some ⟨"production.json", .json,
        Bytes.ofText "\x7b\"customer\":\x7b\"email\":null\x7d\x7d"⟩ := by decide
  obtain ⟨file, file_found, rejects, _⟩ := type_error_names_the_file_in_force address_base_read
    address_production_read name_settings_read base_file production_file (by decide) (by decide)
    (by decide) elsewhere others given (.inl rfl)
  rw [found, Option.some.injEq] at file_found
  rw [← file_found] at rejects
  exact rejects

end Loading
end CustomerNotice
