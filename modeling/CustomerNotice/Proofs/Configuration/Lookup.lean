import CustomerNotice.Proofs.Configuration.Layering

/-!
# Which settings file is taken

A stem stands for the first of its files, in the order of the known
extensions. That file is taken if it is a text and no file is named by the stem
alone. Where one of the two fails, loading goes on as if the stem had no file:
a stray file or an octet that is no text is enough to lose settings unnoticed.
-/

namespace CustomerNotice
namespace Directory

def knownExtensions : List (String × Format) :=
  [("yaml", .yaml), ("yml", .yaml), ("json", .json), ("toml", .toml), ("hjson", .hjson),
    ("ini", .ini)]

/-- A file of a stem such that there is none with an earlier extension. -/
inductive IsFirst (directory : Directory) (stem : String) : SettingsFile → Prop
  | found {earlier later : List (String × Format)} {extension : String} {format : Format}
      {content : Bytes}
      (order : knownExtensions = earlier ++ (extension, format) :: later)
      (absent : ∀ other ∈ earlier, directory.file? (stem ++ "." ++ other.1) = none)
      (present : directory.file? (stem ++ "." ++ extension) = some content) :
      IsFirst directory stem ⟨stem ++ "." ++ extension, format, content⟩

/-- Where there is a file with some known extension, there is a first one. -/
theorem exists_first {directory : Directory} {stem : String}
    (some_file : ∃ entry ∈ knownExtensions,
      (directory.file? (stem ++ "." ++ entry.1)).isSome = true) :
    ∃ file, directory.IsFirst stem file := by
  obtain ⟨entry, found⟩ := List.find?_isSome.mpr some_file |> Option.isSome_iff_exists.mp
  obtain ⟨present, earlier, later, order, absent⟩ := List.find?_eq_some_iff_append.mp found
  obtain ⟨content, present⟩ := Option.isSome_iff_exists.mp present
  refine ⟨_, .found order ?_ present⟩
  intro other member
  simpa using absent other member

/-- The first file is found unless a file has the bare name of the stem. -/
theorem find_of_first {directory : Directory} {stem : String} {file : SettingsFile}
    (first : directory.IsFirst stem file) :
    directory.find? stem = if (directory.file? stem).isSome then none else some file := by
  cases first with
  | @found earlier later extension format content order absent present =>
      have extensions : Format.extensions = earlier ++ (extension, format) :: later := order
      have none_earlier : earlier.findSome? (fun entry =>
          (directory.file? (stem ++ "." ++ entry.1)).map fun content =>
            SettingsFile.mk (stem ++ "." ++ entry.1) entry.2 content) = none := by
        rw [List.findSome?_eq_none_iff]
        intro other member
        rw [absent other member]
        rfl
      rw [find?]
      cases directory.file? stem with
      | some bare => rfl
      | none =>
          dsimp only
          rw [extensions, List.findSome?_append, none_earlier, List.findSome?_cons, present]
          rfl

end Directory

namespace Layer

/-- Settings are lost where the first file is hidden or no text. -/
theorem ofDirectory_of_first {directory : Directory} {stem : String} {file : SettingsFile}
    (first : directory.IsFirst stem file) :
    ofDirectory directory stem =
      if (directory.file? stem).isSome then .ok []
      else
        match Bytes.toText? file.content with
        | none => .ok []
        | some text => ofText file.format (directory.shown file.name) text := by
  rw [ofDirectory, directory.find_of_first first]
  cases directory.file? stem <;> rfl

end Layer

namespace Loading

/-- Loading with what was read for the two stems. -/
def fromFiles (base specific : Except LoadFailure Layer) (exported : Variables) :
    Except LoadFailure Configuration := do
  let tree ← apply .empty (← base)
  let tree ← apply tree (← specific)
  let sources ← apply tree (← (Layer.ofVariables exported).mapError .crashed)
  (Reading.configuration (settled sources)).mapError .rejected

theorem fromDirectory_eq (directory : Directory) (environment : Environment)
    (exported : Variables) :
    fromDirectory directory environment exported =
      fromFiles (Layer.ofDirectory directory baseStem)
        (Layer.ofDirectory directory environment.name) exported := by
  simp only [fromDirectory, sources, fromFiles, bind_assoc]

/-- What is loaded was read from both stems. -/
theorem layers_of_loaded {base specific : Except LoadFailure Layer} {exported : Variables}
    {configuration : Configuration}
    (loaded : fromFiles base specific exported = .ok configuration) :
    (∃ layer, base = .ok layer) ∧ ∃ layer, specific = .ok layer := by
  obtain ⟨first, base_read, loaded⟩ := steps_of_bind_ok loaded
  obtain ⟨tree, _, loaded⟩ := steps_of_bind_ok loaded
  obtain ⟨second, specific_read, _⟩ := steps_of_bind_ok loaded
  exact ⟨⟨first, base_read⟩, second, specific_read⟩

/-- Loading where a stem stands for the given layer and not for what the
directory has for it. -/
def withLayer (directory : Directory) (environment : Environment) (exported : Variables)
    (stem : String) (layer : Except LoadFailure Layer) : Except LoadFailure Configuration :=
  fromFiles (if stem = baseStem then layer else Layer.ofDirectory directory baseStem)
    (if stem = environment.name then layer else Layer.ofDirectory directory environment.name)
    exported

theorem base_is_no_environment (environment : Environment) : baseStem ≠ environment.name := by
  cases environment <;> decide

variable {directory : Directory} {environment : Environment} {exported : Variables}
  {stem : String}

theorem fromDirectory_withLayer (named : stem = baseStem ∨ stem = environment.name) :
    fromDirectory directory environment exported =
      withLayer directory environment exported stem (Layer.ofDirectory directory stem) := by
  have different := base_is_no_environment environment
  rw [fromDirectory_eq, withLayer]
  rcases named with rfl | rfl
  · rw [if_pos rfl, if_neg different]
  · rw [if_pos rfl, if_neg different.symm]

theorem layer_of_loaded (named : stem = baseStem ∨ stem = environment.name)
    {layer : Except LoadFailure Layer} {configuration : Configuration}
    (loaded : withLayer directory environment exported stem layer = .ok configuration) :
    ∃ taken, layer = .ok taken := by
  obtain ⟨base, specific⟩ := layers_of_loaded loaded
  rcases named with rfl | rfl
  · rwa [if_pos rfl] at base
  · rwa [if_pos rfl] at specific

/-- Of the files for a stem the first is taken or nothing is loaded, as long as
it is a text and no file has the bare name of the stem; otherwise loading goes on
as if there were no file for the stem. -/
theorem first_file_is_taken_unless_hidden (directory : Directory) (environment : Environment)
    (exported : Variables) (named : stem = baseStem ∨ stem = environment.name)
    (some_file : ∃ entry ∈ Directory.knownExtensions,
      (directory.file? (stem ++ "." ++ entry.1)).isSome = true) :
    ∃ file, directory.IsFirst stem file ∧
      (directory.file? stem = none → ∀ text, Bytes.toText? file.content = some text →
        ∀ configuration, fromDirectory directory environment exported = .ok configuration →
          ∃ taken, Layer.ofText file.format (directory.shown file.name) text = .ok taken ∧
            withLayer directory environment exported stem (.ok taken) = .ok configuration) ∧
      (directory.file? stem ≠ none ∨ Bytes.toText? file.content = none →
        fromDirectory directory environment exported =
          withLayer directory environment exported stem (.ok [])) := by
  obtain ⟨file, first⟩ := Directory.exists_first some_file
  have read := Layer.ofDirectory_of_first first
  refine ⟨file, first, ?taken, ?ignored⟩
  case taken =>
    intro unhidden text spelled configuration loaded
    rw [unhidden, spelled] at read
    rw [fromDirectory_withLayer named] at loaded
    obtain ⟨taken, found⟩ := layer_of_loaded named loaded
    rw [found] at loaded
    exact ⟨taken, read.symm.trans found, loaded⟩
  case ignored =>
    intro reason
    have nothing : Layer.ofDirectory directory stem = .ok [] := by
      rw [read]
      split
      · rfl
      · next visible =>
          have unspelled := reason.resolve_left (by simpa using visible)
          rw [unspelled]
    rw [fromDirectory_withLayer named, nothing]

def concealing : String := "[output]\nreveal_api_key = false\n"

def concealingDirectory : Directory where
  path := [Files.settingsFolder]
  entries := [("production.ini", .file (Bytes.ofText concealing))]

def concealingLayer : Layer :=
  [ ("output", .table (some (.file "configuration/production.ini"))
      [("reveal_api_key",
        .scalar (some (.file "configuration/production.ini")) (.text "false"))]) ]

theorem concealing_read :
    Layer.ofText .ini "configuration/production.ini" concealing = .ok concealingLayer := by
  simp only [Layer.ofText, concealing, String.reduceToList]
  rfl

def concealed : Configuration := { Configuration.default with output := ⟨false⟩ }

theorem concealing_loaded (directory : Directory)
    (no_base : Layer.ofDirectory directory baseStem = .ok []) :
    withLayer directory .production [] Environment.production.name (.ok concealingLayer) =
      .ok concealed := by
  have different : Environment.production.name ≠ baseStem := by decide
  have file : concealingLayer.IsFile := ⟨by decide, by decide⟩
  have applied : apply .empty concealingLayer = .ok (Tree.empty.merge concealingLayer) := by
    rw [apply_named (file.lays_given (by decide)), Layer.map_spread_names file.named]
  rw [withLayer, if_pos rfl, if_neg different, no_base, fromFiles]
  change (do
    let tree ← apply .empty concealingLayer
    let sources ← apply tree []
    (Reading.configuration (settled sources)).mapError .rejected) = Except.ok concealed
  rw [applied]
  rfl

theorem lone_file_conceals_the_key :
    fromDirectory concealingDirectory .production [] = .ok concealed ∧
      withLayer concealingDirectory .production [] Environment.production.name
        (.ok concealingLayer) = .ok concealed := by
  let file : SettingsFile := ⟨"production.ini", .ini, Bytes.ofText concealing⟩
  have found : concealingDirectory.find? Environment.production.name = some file := by decide
  have unhidden : concealingDirectory.file? Environment.production.name = none := by decide
  have some_file : ∃ entry ∈ Directory.knownExtensions,
      (concealingDirectory.file? (Environment.production.name ++ "." ++ entry.1)).isSome = true :=
    ⟨("ini", .ini), by decide, by decide⟩
  obtain ⟨first_file, first, taken, _⟩ := first_file_is_taken_unless_hidden concealingDirectory
    .production [] (.inr rfl) some_file
  obtain rfl : file = first_file := by
    have same := concealingDirectory.find_of_first first
    rw [found, unhidden] at same
    exact Option.some.inj same
  have read : Layer.ofDirectory concealingDirectory Environment.production.name =
      .ok concealingLayer := by
    rw [Layer.ofDirectory_of_first first, unhidden, Bytes.toText?_ofText]
    exact concealing_read
  have loaded : fromDirectory concealingDirectory .production [] = .ok concealed := by
    have no_base : Layer.ofDirectory concealingDirectory baseStem = .ok [] := rfl
    rw [fromDirectory_withLayer (.inr rfl), read]
    exact concealing_loaded concealingDirectory no_base
  obtain ⟨layer, spelled, same⟩ := taken unhidden concealing (Bytes.toText?_ofText _) _ loaded
  obtain rfl : concealingLayer = layer := by
    have both := concealing_read.symm.trans spelled
    exact Except.ok.inj both
  exact ⟨loaded, same⟩

def strayDirectory : Directory where
  path := [Files.settingsFolder]
  entries :=
    [("production", .file []), ("production.ini", .file (Bytes.ofText concealing))]

def undecodableDirectory : Directory where
  path := [Files.settingsFolder]
  entries := [("production.ini", .file [255])]

/-- A stray file makes the key visible again, and a file that is no text is no
reason to stop. -/
theorem stray_file_reveals_the_key :
    strayDirectory.IsFirst Environment.production.name
        ⟨"production.ini", .ini, Bytes.ofText concealing⟩ ∧
      withLayer strayDirectory .production [] Environment.production.name
        (Layer.ofText .ini "configuration/production.ini" concealing) = .ok concealed ∧
      fromDirectory strayDirectory .production [] = .ok .default ∧
      undecodableDirectory.IsFirst Environment.production.name
        ⟨"production.ini", .ini, [255]⟩ ∧
      Bytes.toText? [255] = none ∧
      fromDirectory undecodableDirectory .production [] = .ok .default ∧
      concealed ≠ .default := by
  have order : Directory.knownExtensions =
      [("yaml", .yaml), ("yml", .yaml), ("json", .json), ("toml", .toml), ("hjson", .hjson)] ++
        ("ini", .ini) :: [] := rfl
  refine ⟨?strayFirst, ?wanted, ?stray, ?undecodableFirst, ?undecodable, ?loaded, by decide⟩
  case strayFirst => exact .found order (by decide) (by decide)
  case wanted =>
    rw [concealing_read]
    exact concealing_loaded strayDirectory rfl
  case stray => rfl
  case undecodableFirst => exact .found order (by decide) (by decide)
  case undecodable => decide
  case loaded => rfl

end Loading
end CustomerNotice
