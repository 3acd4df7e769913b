import CustomerNotice.Proofs.Configuration.Layers

/-!
# What a configuration takes from its layers

The settings files and the variables are put together before they meet the defaults. A section
that some layer gives as anything but a table therefore forgets the layers before, and the layers
after it are live: each of its fields is what the last live layer says of it, or the default. Only
if the live layers say nothing does the value that is no table stand for the whole section.
-/

namespace CustomerNotice

namespace Layering

def given (shape : Section) (layers : List Layer) : List Tree :=
  layers.reverse.filterMap (Layer.given? shape.key)

/-- What comes after the last value that is no table. -/
def live (given : List Tree) : List Tree := given.takeWhile Tree.isTable

def plain? (given : List Tree) : Option Tree := given.find? fun value => !value.isTable

def mentioned? (given : List Tree) (field : String) : Option Tree :=
  (live given).findSome? fun table => Entries.latest? field table.entries

/-- The value that stands for a whole section, where no live layer says anything. -/
def whole? (given : List Tree) : Option Tree :=
  if (live given).all fun table => table.entries.isEmpty then plain? given else none

/-- The field at a place of a section: what is mentioned or built in, unless one value stands for
the section. Of a list it is the item at that place, and no other value has any. -/
def field (shape : Section) (layers : List Layer) (place : Nat) :
    Except LoadError Reading.Field :=
  let given := given shape layers
  let name := shape.fields.getD place ""
  match whole? given with
  | none =>
      match (mentioned? given name).or (shape.builtIn? name) with
      | some value => .ok ⟨shape.key ++ "." ++ name, value⟩
      | none => .error (.missing name)
  | some (.list _ items) =>
      match items[place]? with
      | some value => .ok ⟨shape.key ++ "[" ++ place.repr ++ "]", value⟩
      | none => .error (.tooShort items.length shape)
  | some value => .error (.notSection value.found shape)

def text (shape : Section) (layers : List Layer) (place : Nat) : Except LoadError String := do
  Reading.text (← field shape layers place)

def application (layers : List Layer) : Except LoadError ApplicationSettings := do
  let name ← text .application layers 0
  let logLevel ← text .application layers 1
  return { name, logLevel }

def customer (layers : List Layer) : Except LoadError CustomerSettings := do
  let id ← text .customer layers 0
  let email ← text .customer layers 1
  let name ← text .customer layers 2
  let apiKey ← text .customer layers 3
  return { id, email, name, apiKey }

def output (layers : List Layer) : Except LoadError OutputSettings := do
  let revealApiKey ← Reading.switch (← field .output layers 0)
  return { revealApiKey }

def configuration (layers : List Layer) : Except LoadError Configuration := do
  let application ← application layers
  let customer ← customer layers
  let output ← output layers
  return { application, customer, output }

/-- What is found in the end when values are laid over each other, the first one last. -/
def stacked (given : List Tree) : Option Tree :=
  given.foldr (fun value old? => some (Tree.laidOver old? value)) none

theorem stacked_cons (value : Tree) (older : List Tree) :
    stacked (value :: older) = some (Tree.laidOver (stacked older) value) := rfl

theorem live_cons_table {value : Tree} (table : value.isTable = true) (older : List Tree) :
    live (value :: older) = value :: live older := by
  rw [live, List.takeWhile_cons, if_pos table]
  rfl

theorem live_cons_plain {value : Tree} (plain : value.isTable = false) (older : List Tree) :
    live (value :: older) = [] := by
  rw [live, List.takeWhile_cons, plain]
  rfl

/-- What holds of the values that are no tables, and still holds after a table is merged in,
holds of what is found in the end. -/
theorem stacked_induction {Holds : Tree → Prop} {given : List Tree} (empty : Holds .empty)
    (plain : ∀ value ∈ given, value.isTable = false → Holds value)
    (merged : ∀ value ∈ given, ∀ old, Holds old → Holds (old.merge value.entries))
    {found : Tree} (last : stacked given = some found) : Holds found := by
  induction given generalizing found with
  | nil => contradiction
  | cons value older induction =>
      rw [stacked_cons, Option.some.injEq] at last
      subst last
      by_cases table : value.isTable = true
      · have onto := merged value List.mem_cons_self
        obtain ⟨origin, entries, rfl⟩ := Tree.exists_table_of_isTable table
        rw [Tree.laidOver_table]
        apply onto
        cases below : stacked older with
        | none => exact empty
        | some old =>
            have plain_below := fun other member => plain other (List.mem_cons_of_mem _ member)
            have merged_below := fun other member => merged other (List.mem_cons_of_mem _ member)
            exact induction plain_below merged_below below
      · rw [Bool.not_eq_true] at table
        rw [Tree.laidOver_of_not_table table]
        exact plain value List.mem_cons_self table

theorem stacked_distinct {given : List Tree} {found : Tree} (last : stacked given = some found) :
    found.Distinct := by
  apply stacked_induction _ _ _ last
  · exact List.nodup_nil
  · intro value member not_table
    exact Tree.distinct_of_not_table not_table
  · intro value member old distinct
    exact Tree.distinct_merge distinct value.entries

theorem stacked_flat {given : List Tree} (flat : ∀ value ∈ given, value.Flat) {found : Tree}
    (last : stacked given = some found) : found.Flat := by
  apply stacked_induction _ _ _ last
  · intro entry absent
    contradiction
  · intro value member not_table
    exact flat value member
  · intro value member old old_flat
    exact Tree.flat_merge old_flat (flat value member)

/-- A field that is found in the end is the one that the last live layer mentions. -/
theorem stacked_get {given : List Tree} (flat : ∀ value ∈ given, value.Flat) (field : String) :
    ((stacked given).bind fun found => found.get? field) = mentioned? given field := by
  induction given with
  | nil => rfl
  | cons value older induction =>
      have here := flat value List.mem_cons_self
      have later := fun other member => flat other (List.mem_cons_of_mem value member)
      rw [stacked_cons, Option.bind_some]
      by_cases table : value.isTable = true
      · rw [mentioned?, live_cons_table table, List.findSome?_cons]
        obtain ⟨origin, entries, rfl⟩ := Tree.exists_table_of_isTable table
        have below : ((stacked older).getD .empty).get? field = mentioned? older field := by
          rw [← induction later]
          cases stacked older with
          | none => rfl
          | some old => rfl
        have plain : ∀ entry ∈ entries, entry.2.isTable = false := here
        rw [Tree.laidOver_table, Tree.get?_merge, Tree.afterEntries_of_flat plain, below,
          Tree.entries]
        cases Entries.latest? field entries with
        | none => rfl
        | some found => rfl
      · rw [Bool.not_eq_true] at table
        rw [Tree.laidOver_of_not_table table, Tree.get?_of_not_table table, mentioned?,
          live_cons_plain table]
        rfl

/-- What is found in the end is no table exactly where one value stands for the section. -/
theorem whole_eq_stacked (given : List Tree) :
    whole? given = (stacked given).filter fun found => !found.isTable := by
  induction given with
  | nil => rfl
  | cons value older induction =>
      rw [stacked_cons]
      by_cases table : value.isTable = true
      · obtain ⟨origin, entries, rfl⟩ := Tree.exists_table_of_isTable table
        rw [Tree.laidOver_table]
        cases entries with
        | nil =>
            -- An empty table leaves what was there, and the search passes over it.
            have same : whole? (.table origin [] :: older) = whole? older := rfl
            rw [same, induction, Tree.merge_nil]
            cases stacked older with
            | none => rfl
            | some old => rfl
        | cons entry rest =>
            have still : (((stacked older).getD .empty).merge (entry :: rest)).isTable = true :=
              Tree.isTable_merge (.inr (List.cons_ne_nil entry rest))
            rw [whole?, live_cons_table table, List.all_cons]
            simp [Tree.entries, Option.filter, still]
      · rw [Bool.not_eq_true] at table
        rw [whole?, live_cons_plain table, Tree.laidOver_of_not_table table]
        simp [plain?, table, Option.filter]

/-- Laying in the settings of all layers leaves, under the name of a section, what they give it. -/
theorem stacked_given {shape : Section} (known : shape ∈ Section.all) {layers : List Layer}
    (lay : ∀ layer ∈ layers, layer.LaysGiven) :
    stacked (given shape layers) =
      Tree.afterEntries shape.key none (layers.flatten.map Tree.spread) := by
  -- The induction starts at the first layer, so what was there before has to be arbitrary.
  have onto : ∀ old? : Option Tree,
      (layers.filterMap (Layer.given? shape.key)).foldl
          (fun old? value => some (Tree.laidOver old? value)) old? =
        Tree.afterEntries shape.key old? (layers.flatten.map Tree.spread) := by
    induction layers with
    | nil => intro old?; rfl
    | cons layer rest induction =>
        intro old?
        have here := (lay layer List.mem_cons_self).lays shape known old?
        have later := fun other member => lay other (List.mem_cons_of_mem layer member)
        rw [List.flatten_cons, List.map_append, Tree.afterEntries_append, here,
          ← induction later]
        cases given : Layer.given? shape.key layer with
        | none => rw [List.filterMap_cons_none given]; rfl
        | some value => rw [List.filterMap_cons_some given]; rfl
  rw [stacked, given, List.filterMap_reverse, List.foldr_reverse]
  exact onto none

theorem given_flat {shape : Section} (known : shape ∈ Section.all) {layers : List Layer}
    (lay : ∀ layer ∈ layers, layer.LaysGiven) : ∀ value ∈ given shape layers, value.Flat := by
  intro value member
  obtain ⟨layer, member, found⟩ := List.mem_filterMap.mp member
  exact (lay layer (List.mem_reverse.mp member)).flat shape known value found

theorem field_of_table (shape : Section) {table : Tree} (holds : table.isTable = true)
    (place : Nat) :
    Reading.field shape table place =
      match table.get? (shape.fields.getD place "") with
      | some value => .ok ⟨shape.key ++ "." ++ shape.fields.getD place "", value⟩
      | none => .error (.missing (shape.fields.getD place "")) := by
  obtain ⟨origin, entries, rfl⟩ := Tree.exists_table_of_isTable holds
  rfl

theorem settled_get {sources table : Tree} {key : String} (distinct : sources.Distinct)
    (default_table : Configuration.default.toTree.get? key = some table) :
    (Loading.settled sources).get? key = Tree.overlaid (some table) (sources.get? key) := by
  rw [Loading.settled, Tree.get?_merge, default_table, Tree.afterEntries_of_distinct distinct]
  rfl

/-- Whatever is laid over the defaults of a section, its fields are read as the layers say. -/
theorem field_of_layers {shape : Section} (known : shape ∈ Section.all) {layers : List Layer}
    (lay : ∀ layer ∈ layers, layer.LaysGiven) {sources : Tree} (distinct : sources.Distinct)
    (found : sources.get? shape.key = stacked (given shape layers)) :
    ∃ tree, Reading.sectionOf shape (Loading.settled sources) = .ok tree ∧
      ∀ place, Reading.field shape tree place = field shape layers place := by
  obtain ⟨table, default_table, holds⟩ := Section.builtIn_table known
  have flat := given_flat known lay
  have settled := settled_get distinct default_table
  rw [found] at settled
  have built_in : ∀ name, shape.builtIn? name = table.get? name := by
    intro name
    rw [Section.builtIn?, default_table]
    rfl
  have mentioned := fun name => stacked_get flat name
  have whole := whole_eq_stacked (given shape layers)
  cases last : stacked (given shape layers) with
  | none =>
      rw [last] at settled mentioned whole
      refine ⟨table, by rw [Reading.sectionOf, settled]; rfl, ?_⟩
      intro place
      rw [field_of_table shape holds, field, whole, ← mentioned, built_in]
      rfl
  | some value =>
      rw [last] at settled mentioned whole
      refine ⟨Tree.laidOver (some table) value, by rw [Reading.sectionOf, settled]; rfl, ?_⟩
      intro place
      by_cases is_table : value.isTable = true
      · obtain ⟨origin, entries, rfl⟩ := Tree.exists_table_of_isTable is_table
        have unique : Entries.Distinct entries := stacked_distinct last
        have plain : ∀ entry ∈ entries, entry.2.isTable = false := stacked_flat flat last
        have still : (table.merge entries).isTable = true := Tree.isTable_merge (.inl holds)
        rw [Tree.laidOver_table, Option.getD_some, field_of_table shape still, Tree.get?_merge,
          Tree.afterEntries_of_flat plain, Entries.latest?_of_distinct unique, field, whole,
          ← mentioned, built_in]
        rfl
      · rw [Bool.not_eq_true] at is_table
        rw [Tree.laidOver_of_not_table is_table, field, whole]
        cases value with
        | scalar origin value => rfl
        | list origin items => rfl
        | table origin entries => contradiction

theorem reading_of_layers {layers : List Layer} (lay : ∀ layer ∈ layers, layer.LaysGiven)
    {sources : Tree} (distinct : sources.Distinct)
    (found : ∀ shape ∈ Section.all,
      sources.get? shape.key = stacked (given shape layers)) :
    Reading.configuration (Loading.settled sources) = configuration layers := by
  have known : Section.application ∈ Section.all ∧ Section.customer ∈ Section.all ∧
      Section.output ∈ Section.all := by decide
  obtain ⟨application_tree, application_found, application_fields⟩ :=
    field_of_layers known.1 lay distinct (found _ known.1)
  obtain ⟨customer_tree, customer_found, customer_fields⟩ :=
    field_of_layers known.2.1 lay distinct (found _ known.2.1)
  obtain ⟨output_tree, output_found, output_fields⟩ :=
    field_of_layers known.2.2 lay distinct (found _ known.2.2)
  have application_read : Reading.application application_tree = application layers := by
    simp only [Reading.application, Reading.textAt, application_fields, application, text]
  have customer_read : Reading.customer customer_tree = customer layers := by
    simp only [Reading.customer, Reading.textAt, customer_fields, customer, text]
  have output_read : Reading.output output_tree = output layers := by
    simp only [Reading.output, output_fields, output]
  rw [Reading.configuration, application_found, customer_found, output_found]
  dsimp only [Bind.bind, Except.bind]
  rw [application_read, customer_read, output_read]
  rfl

end Layering

namespace Loading

theorem apply_named {layer : Layer} (lays : layer.LaysGiven) (tree : Tree) :
    apply tree layer = .ok (tree.merge (layer.map Tree.spread)) := by
  rw [apply, Tree.assignAll_named lays.named]
  rfl

theorem sources_of_layers {directory : Directory} {environment : Environment}
    {exported : Variables} {base specific settings : Layer}
    (base_read : Layer.ofDirectory directory baseStem = .ok base)
    (specific_read : Layer.ofDirectory directory environment.name = .ok specific)
    (settings_read : Layer.ofVariables exported = .ok settings)
    (lay : ∀ layer ∈ [base, specific, settings], layer.LaysGiven) :
    sources directory environment exported =
      .ok (Tree.empty.merge ([base, specific, settings].flatten.map Tree.spread)) := by
  have base_lays := lay base (by simp)
  have specific_lays := lay specific (by simp)
  have settings_lay := lay settings (by simp)
  have settings_given : (Layer.ofVariables exported).mapError LoadFailure.crashed =
      .ok settings := by
    rw [settings_read]
    rfl
  rw [sources, base_read, specific_read, settings_given]
  dsimp only [Bind.bind, Except.bind]
  rw [apply_named base_lays]
  dsimp only
  rw [apply_named specific_lays]
  dsimp only
  rw [apply_named settings_lay, ← Tree.merge_append, ← Tree.merge_append]
  simp

/-- Any two settings files and any variables, of the kinds described, give the configuration that
their layers say. -/
theorem configuration_is_layered {directory : Directory} {environment : Environment}
    {exported : Variables} {base specific : Layer} {texts : List (String × String)}
    (base_read : Layer.ofDirectory directory baseStem = .ok base)
    (specific_read : Layer.ofDirectory directory environment.name = .ok specific)
    (base_file : base.IsFile) (specific_file : specific.IsFile)
    (decoded : Layer.decodeVariables exported = .ok texts)
    (keyed : Layer.IsVariables (texts.filterMap Layer.ofVariable?)) :
    fromDirectory directory environment exported =
      (Layering.configuration
        [base, specific, texts.filterMap Layer.ofVariable?]).mapError .rejected := by
  have plain : ∀ setting ∈ texts.filterMap Layer.ofVariable?, setting.2.isTable = false := by
    intro setting member
    obtain ⟨entry, _, read⟩ := List.mem_filterMap.mp member
    exact Layer.ofVariable_plain read
  have lay : ∀ layer ∈ [base, specific, texts.filterMap Layer.ofVariable?],
      layer.LaysGiven := by
    intro layer member
    simp only [List.mem_cons, List.not_mem_nil, or_false] at member
    rcases member with rfl | rfl | rfl
    · exact base_file.lays_given (Layer.ofDirectory_distinct base_read)
    · exact specific_file.lays_given (Layer.ofDirectory_distinct specific_read)
    · exact keyed.lays_given plain
  have settings_read : Layer.ofVariables exported = .ok (texts.filterMap Layer.ofVariable?) := by
    rw [Layer.ofVariables, decoded, ← Entries.ofList_of_distinct keyed.distinct]
    rfl
  have sources := sources_of_layers base_read specific_read settings_read lay
  rw [fromDirectory, sources]
  dsimp only [Bind.bind, Except.bind]
  congr 1
  apply Layering.reading_of_layers lay
  · have empty : Tree.empty.Distinct := List.nodup_nil
    exact Tree.distinct_merge empty _
  · intro shape known
    rw [Layering.stacked_given known lay, Tree.get?_merge]
    rfl

def sampleDirectory : Directory where
  path := [Files.settingsFolder]
  entries :=
    [ ("base.ini", .file (Bytes.ofText "customer = 5\n[output]\nreveal_api_key = true\n"))
    , ("local.ini", .file (Bytes.ofText "[customer]\nemail = ada@example.com\n")) ]

def sampleVariables : Variables :=
  [ (Bytes.ofText "APP_OUTPUT__REVEAL_API_KEY", Bytes.ofText "false")
  , (Bytes.ofText "app_customer__api_key", Bytes.ofText "secret")
  , (Bytes.ofText "HOME", Bytes.ofText "/") ]

def sampleBase : Layer :=
  [ ("customer", .scalar (some (.file "configuration/base.ini")) (.text "5"))
  , ("output", .table (some (.file "configuration/base.ini"))
      [("reveal_api_key", .scalar (some (.file "configuration/base.ini")) (.text "true"))]) ]

def sampleLocal : Layer :=
  [ ("customer", .table (some (.file "configuration/local.ini"))
      [("email", .scalar (some (.file "configuration/local.ini")) (.text "ada@example.com"))]) ]

def sampleSettings : Layer :=
  [ ("output.reveal_api_key", .scalar (some .environment) (.text "false"))
  , ("customer.api_key", .scalar (some .environment) (.text "secret")) ]

theorem sample_is_layered :
    fromDirectory sampleDirectory .development sampleVariables =
      .ok
        { Configuration.default with
          customer :=
            { Configuration.default.customer with
              email := "ada@example.com"
              apiKey := "secret" }
          output := { revealApiKey := false } } := by
  have base_found : sampleDirectory.find? baseStem =
      some ⟨"base.ini", .ini,
        Bytes.ofText "customer = 5\n[output]\nreveal_api_key = true\n"⟩ := by decide
  have local_found : sampleDirectory.find? Environment.development.name =
      some ⟨"local.ini", .ini, Bytes.ofText "[customer]\nemail = ada@example.com\n"⟩ := by decide
  have base_read : Layer.ofDirectory sampleDirectory baseStem = .ok sampleBase := by
    rw [Layer.ofDirectory, base_found]
    dsimp only
    rw [Bytes.toText?_ofText]
    simp only [Layer.ofText, String.reduceToList]
    rfl
  have local_read : Layer.ofDirectory sampleDirectory Environment.development.name =
      .ok sampleLocal := by
    rw [Layer.ofDirectory, local_found]
    dsimp only
    rw [Bytes.toText?_ofText]
    simp only [Layer.ofText, String.reduceToList]
    rfl
  have decoded : Layer.decodeVariables sampleVariables =
      .ok [("APP_OUTPUT__REVEAL_API_KEY", "false"), ("app_customer__api_key", "secret"),
        ("HOME", "/")] := by
    simp only [sampleVariables, Layer.decodeVariables, Bytes.toText?_ofText]
    rfl
  have output_key : Layer.variableKey? "APP_OUTPUT__REVEAL_API_KEY" =
      some "output.reveal_api_key" := by decide +kernel
  have customer_key : Layer.variableKey? "app_customer__api_key" = some "customer.api_key" := by
    decide +kernel
  have home_key : Layer.variableKey? "HOME" = none := by decide +kernel
  have settings : [("APP_OUTPUT__REVEAL_API_KEY", "false"), ("app_customer__api_key", "secret"),
      ("HOME", "/")].filterMap Layer.ofVariable? = sampleSettings := by
    simp [Layer.ofVariable?, output_key, customer_key, home_key, sampleSettings]
  have base_file : sampleBase.IsFile := ⟨by decide, by decide⟩
  have local_file : sampleLocal.IsFile := ⟨by decide, by decide⟩
  have settings_keyed : sampleSettings.IsVariables := by
    refine ⟨by decide, ?_⟩
    intro setting member
    simp only [sampleSettings, List.mem_cons, List.not_mem_nil, or_false] at member
    rcases member with rfl | rfl
    · exact .inl ⟨"output", "reveal_api_key", by decide, by decide, rfl⟩
    · exact .inl ⟨"customer", "api_key", by decide, by decide, rfl⟩
  rw [configuration_is_layered base_read local_read base_file local_file decoded
    (settings ▸ settings_keyed), settings]
  rfl

end Loading
end CustomerNotice
