import CustomerNotice.Proofs.Configuration.BreakingOff
import CustomerNotice.Proofs.Configuration.Settings

/-!
# The first failure is the one that is reported

Loading looks at the working directory, the name of the environment, the file for
all environments, the file of the environment and the variables, and reads the
sections at the end. What comes first decides: a failure is reported if and only
if everything before it went well, whatever comes after it.
-/

namespace CustomerNotice

namespace Environment

def given? (exported : Variables) : Option String :=
  (exported.value? variableName).bind Bytes.toText?

/-- A name that is in no case that of an environment. -/
def Unsupported (given : String) : Prop :=
  ∀ environment : Environment, Text.lowercase given ≠ environment.name

theorem ofName_fails_iff {given : String} {error : UnknownEnvironment} :
    ofName given = .error error ↔ Unsupported given ∧ error = ⟨Text.lowercase given⟩ := by
  have both : Unsupported given ↔
      Text.lowercase given ≠ development.name ∧ Text.lowercase given ≠ production.name := by
    constructor
    · intro unsupported
      exact ⟨unsupported development, unsupported production⟩
    · intro unequal environment
      cases environment with
      | development => exact unequal.1
      | production => exact unequal.2
  rw [both, ofName]
  by_cases first : Text.lowercase given = development.name
  · simp [first]
  · by_cases second : Text.lowercase given = production.name
    · have apart : production.name ≠ development.name := by decide
      simp [second, apart]
    · simp [first, second, eq_comm]

theorem detect_eq (exported : Variables) :
    detect exported = ofName ((given? exported).getD development.name) := by
  unfold detect given?
  cases (exported.value? variableName).bind Bytes.toText? <;> rfl

theorem detect_fails_iff {exported : Variables} {error : UnknownEnvironment} :
    detect exported = .error error ↔
      ∃ given, given? exported = some given ∧ Unsupported given ∧
        error = ⟨Text.lowercase given⟩ := by
  have small : Text.lowercase development.name = development.name := by decide +kernel
  have known : ofName development.name = .ok development := by rw [ofName, if_pos small]
  rw [detect_eq]
  cases given? exported with
  | none => simp [known]
  | some given => simp [ofName_fails_iff]

end Environment

namespace Layer

variable {directory : Directory} {stem : String}

/-- The file that is found for a stem is a text that its format refuses. -/
structure Refused (directory : Directory) (stem : String) (file : SettingsFile)
    (error : FormatError) : Prop where
  found : directory.find? stem = some file
  read : ∃ text, Bytes.toText? file.content = some text ∧
    file.format.read text.toList = .error (.rejected error)

/-- What is wrong with the file for a stem: its format refuses the text, or reading
breaks off. -/
inductive Unread (directory : Directory) (stem : String) : LoadFailure → Prop
  | refused {file : SettingsFile} {error : FormatError}
      (refused : Refused directory stem file error) :
      Unread directory stem (.rejected (.unparsable (directory.shown file.name) error))
  | broken {file : SettingsFile} {text : String} {crash : Crash}
      (found : directory.find? stem = some file)
      (decoded : Bytes.toText? file.content = some text)
      (read : file.format.read text.toList = .error (.crashed crash)) :
      Unread directory stem (.crashed crash)

theorem ofDirectory_fails_iff {failure : LoadFailure} :
    ofDirectory directory stem = .error failure ↔ Unread directory stem failure := by
  constructor
  · intro failed
    unfold ofDirectory at failed
    split at failed
    · contradiction
    · next file found =>
        split at failed
        · contradiction
        · next text decoded =>
            unfold ofText at failed
            split at failed
            · contradiction
            · next error read =>
                cases failed
                exact .refused ⟨found, text, decoded, read⟩
            · next crash read =>
                cases failed
                exact .broken found decoded read
  · intro unread
    cases unread with
    | refused refused =>
        obtain ⟨text, decoded, read⟩ := refused.read
        simp only [ofDirectory, refused.found, decoded, ofText, read]
    | broken found decoded read => simp only [ofDirectory, found, decoded, ofText, read]

/-- There is no file for a stem, or it is a table with no position in a key. -/
inductive Unindexed (directory : Directory) (stem : String) : Prop
  | absent (missing : directory.find? stem = none)
  | table {file : SettingsFile} {text : String} {origin : Option Origin}
      {entries : List (String × Tree)}
      (found : directory.find? stem = some file)
      (decoded : Bytes.toText? file.content = some text)
      (read : file.format.read text.toList = .ok (.table origin entries))
      (named : ∀ name ∈ Entries.names entries, (Path.ofKey name).IsNamed)

theorem Unindexed.layer (unindexed : Unindexed directory stem) :
    ∃ layer, ofDirectory directory stem = .ok layer ∧
      ∀ setting ∈ layer, (Path.ofKey setting.1).IsNamed := by
  cases unindexed with
  | absent missing => exact ⟨[], by simp only [ofDirectory, missing], nofun⟩
  | @table file text origin entries found decoded read named =>
      refine ⟨Tree.stampEntries (.file (directory.shown file.name)) entries, ?_, ?_⟩
      · simp only [ofDirectory, found, decoded, ofText, read, Tree.stamp, Tree.entries]
      · intro setting member
        have name := List.mem_map_of_mem (f := Prod.fst) member
        rw [← Entries.names, Tree.names_stampEntries] at name
        exact named setting.1 name

end Layer

namespace Loading

variable {directory : Directory} {environment : Environment} {exported : Variables}

/-- The first step of loading from a directory that fails, after all before it went
well. -/
inductive Stops (directory : Directory) (environment : Environment) (exported : Variables) :
    LoadFailure → Prop
  | base {failure : LoadFailure} (unread : Layer.Unread directory baseStem failure) :
      Stops directory environment exported failure
  | baseKeys {base : Layer} {crash : Crash}
      (read : Layer.ofDirectory directory baseStem = .ok base)
      (astray : Tree.empty.assignAll base = .error crash) :
      Stops directory environment exported (.crashed crash)
  | specific {base : Layer} {tree : Tree} {failure : LoadFailure}
      (read : Layer.ofDirectory directory baseStem = .ok base)
      (put : Tree.empty.assignAll base = .ok tree)
      (unread : Layer.Unread directory environment.name failure) :
      Stops directory environment exported failure
  | specificKeys {base specific : Layer} {tree : Tree} {crash : Crash}
      (read : Layer.ofDirectory directory baseStem = .ok base)
      (put : Tree.empty.assignAll base = .ok tree)
      (also_read : Layer.ofDirectory directory environment.name = .ok specific)
      (astray : tree.assignAll specific = .error crash) :
      Stops directory environment exported (.crashed crash)
  | undecodable {tree : Tree} (files : filed directory environment = .ok tree)
      (unspelled : exported.Undecodable) :
      Stops directory environment exported (.crashed .undecodableVariable)
  | variableKeys {tree : Tree} {settings : Layer} {crash : Crash}
      (files : filed directory environment = .ok tree)
      (read : Layer.ofVariables exported = .ok settings)
      (astray : tree.assignAll settings = .error crash) :
      Stops directory environment exported (.crashed crash)
  | sections {tree : Tree} {error : LoadError}
      (settings : sources directory environment exported = .ok tree)
      (unread : Reading.configuration (settled tree) = .error error) :
      Stops directory environment exported (.rejected error)

theorem apply_fails_iff {tree : Tree} {layer : Layer} {failure : LoadFailure} :
    apply tree layer = .error failure ↔
      ∃ crash, tree.assignAll layer = .error crash ∧ .crashed crash = failure :=
  failure_of_mapError

theorem apply_gives_iff {tree after : Tree} {layer : Layer} :
    apply tree layer = .ok after ↔ tree.assignAll layer = .ok after :=
  value_of_mapError

theorem filed_stops {failure : LoadFailure} (failed : filed directory environment = .error failure) :
    Stops directory environment exported failure := by
  unfold filed at failed
  rcases failure_of_bind.mp failed with unread | ⟨base, read, failed⟩
  · exact .base (Layer.ofDirectory_fails_iff.mp unread)
  · rcases failure_of_bind.mp failed with stray | ⟨tree, put, failed⟩
    · obtain ⟨crash, astray, rfl⟩ := apply_fails_iff.mp stray
      exact .baseKeys read astray
    · have put := apply_gives_iff.mp put
      rcases failure_of_bind.mp failed with unread | ⟨specific, also_read, stray⟩
      · exact .specific read put (Layer.ofDirectory_fails_iff.mp unread)
      · obtain ⟨crash, astray, rfl⟩ := apply_fails_iff.mp stray
        exact .specificKeys read put also_read astray

theorem undecodable_of_unread {crash : Crash} (unread : Layer.ofVariables exported = .error crash) :
    crash = .undecodableVariable ∧ exported.Undecodable := by
  have breaks := Layer.ofVariables_breaks exported
  rw [unread] at breaks
  exact breaks

theorem sources_stops {failure : LoadFailure}
    (failed : sources directory environment exported = .error failure) :
    Stops directory environment exported failure := by
  rw [sources_eq] at failed
  rcases failure_of_bind.mp failed with files | ⟨tree, files, failed⟩
  · exact filed_stops files
  · rcases failure_of_bind.mp failed with unread | ⟨settings, read, stray⟩
    · obtain ⟨crash, undecoded, rfl⟩ := failure_of_mapError.mp unread
      obtain ⟨rfl, unspelled⟩ := undecodable_of_unread undecoded
      exact .undecodable files unspelled
    · obtain ⟨crash, astray, rfl⟩ := apply_fails_iff.mp stray
      exact .variableKeys files (value_of_mapError.mp read) astray

theorem Stops.fails {failure : LoadFailure} (stops : Stops directory environment exported failure) :
    fromDirectory directory environment exported = .error failure := by
  unfold fromDirectory
  -- Each case says what all steps up to the failing one come to.
  cases stops with
  | base unread =>
      have failed := Layer.ofDirectory_fails_iff.mpr unread
      simp only [sources, failed, bind, Except.bind]
  | baseKeys read astray =>
      have failed := apply_fails_iff.mpr ⟨_, astray, rfl⟩
      simp only [sources, read, failed, bind, Except.bind]
  | specific read put unread =>
      have failed := Layer.ofDirectory_fails_iff.mpr unread
      simp only [sources, read, apply_gives_iff.mpr put, failed, bind, Except.bind]
  | specificKeys read put also_read astray =>
      have failed := apply_fails_iff.mpr ⟨_, astray, rfl⟩
      simp only [sources, read, apply_gives_iff.mpr put, also_read, failed, bind, Except.bind]
  | undecodable files unspelled =>
      have failed := Layer.ofVariables_of_undecodable unspelled
      simp only [sources_eq, files, failed, mapError_error, bind, Except.bind]
  | variableKeys files read astray =>
      have failed := apply_fails_iff.mpr ⟨_, astray, rfl⟩
      simp only [sources_eq, files, read, failed, mapError_ok, bind, Except.bind]
  | sections settings unread => simp only [settings, unread, mapError_error, bind, Except.bind]

theorem fromDirectory_fails_iff {failure : LoadFailure} :
    fromDirectory directory environment exported = .error failure ↔
      Stops directory environment exported failure := by
  constructor
  · intro failed
    unfold fromDirectory at failed
    rcases failure_of_bind.mp failed with stopped | ⟨tree, settings, unread⟩
    · exact sources_stops stopped
    · obtain ⟨error, missing, rfl⟩ := failure_of_mapError.mp unread
      exact .sections settings missing
  · exact Stops.fails

theorem unindexed_specific {failure : LoadFailure}
    (unindexed : Layer.Unindexed directory baseStem)
    (unread : Layer.Unread directory environment.name failure) :
    Stops directory environment exported failure := by
  obtain ⟨base, read, named⟩ := unindexed.layer
  exact .specific read (Tree.assignAll_named named Tree.empty) unread

/-- The first thing that is wrong around the program. -/
inductive FirstFailure (files : Files) (exported : Variables) : LoadFailure → Prop
  | directory (absent : files.present = false) :
      FirstFailure files exported (.rejected .directoryUnknown)
  | environment {given : String} (present : files.present = true)
      (named : Environment.given? exported = some given)
      (unsupported : Environment.Unsupported given) :
      FirstFailure files exported (.rejected (.environmentUnknown ⟨Text.lowercase given⟩))
  | settings {environment : Environment} {failure : LoadFailure} (present : files.present = true)
      (detected : Environment.detect exported = .ok environment)
      (stops : Stops (files.directory Files.settingsFolder) environment exported failure) :
      FirstFailure files exported failure

theorem fromSurroundings_fails_iff {files : Files} {failure : LoadFailure} :
    fromSurroundings files exported = .error failure ↔ FirstFailure files exported failure := by
  constructor
  · intro failed
    unfold fromSurroundings at failed
    split at failed
    · next present =>
        split at failed
        · next environment detected =>
            exact .settings present detected (fromDirectory_fails_iff.mp failed)
        · next error unknown =>
            obtain ⟨given, named, unsupported, rfl⟩ := Environment.detect_fails_iff.mp unknown
            cases failed
            exact .environment present named unsupported
    · next absent =>
        cases failed
        exact .directory (by simpa using absent)
  · intro first
    cases first with
    | directory absent => simp [fromSurroundings, absent]
    | environment present named unsupported =>
        have unknown := Environment.detect_fails_iff.mpr ⟨_, named, unsupported, rfl⟩
        simp only [fromSurroundings, present, if_true, unknown]
    | settings present detected stops =>
        simp only [fromSurroundings, present, if_true, detected, stops.fails]

theorem shown_in_settings (files : Files) (name : String) :
    (files.directory Files.settingsFolder).shown name = "configuration/" ++ name := by
  have path : (files.directory Files.settingsFolder).path = ["configuration"] := by
    simp only [Files.directory]
    decide +kernel
  have joined : "configuration" ++ "/" = "configuration/" := by decide
  rw [Directory.shown, path, ← joined]
  rfl

/-- Loading ends in an error with this message. -/
def Rejects (result : Except LoadFailure Configuration) (error : LoadError)
    (message : String) : Prop :=
  result = .error (.rejected error) ∧ error.message = message

/-- A failure is reported if and only if it is the first. So nothing hides a
missing working directory, and after that an unsupported name of an environment, a
base file that is refused, and a file of the environment that is refused where
there is no base file or one that is a table without positions in its keys. -/
theorem first_failure_is_reported (files : Files) (exported : Variables) :
    (∀ failure, fromSurroundings files exported = .error failure ↔
      FirstFailure files exported failure) ∧
    (files.present = false →
      Rejects (fromSurroundings files exported) .directoryUnknown
        ("Failed to determine the current directory: " ++ OsError.noSuchFile.text)) ∧
    (files.present = true → ∀ given, Environment.given? exported = some given →
      Environment.Unsupported given →
      Rejects (fromSurroundings files exported) (.environmentUnknown ⟨Text.lowercase given⟩)
        ("Invalid APP_ENVIRONMENT: " ++ (Text.lowercase given
          ++ " is not a supported environment. Use either `local` or `production`."))) ∧
    (files.present = true → ∀ environment, Environment.detect exported = .ok environment →
      ∀ stem, stem = baseStem ∨ stem = environment.name ∧
        Layer.Unindexed (files.directory Files.settingsFolder) baseStem →
      ∀ file error, Layer.Refused (files.directory Files.settingsFolder) stem file error →
        Rejects (fromSurroundings files exported)
          (.unparsable ("configuration/" ++ file.name) error)
          (error.text ++ " in " ++ ("configuration/" ++ file.name))) := by
  refine ⟨fun failure => fromSurroundings_fails_iff, ?directory, ?environment, ?files⟩
  case directory =>
    intro absent
    exact ⟨fromSurroundings_fails_iff.mpr (.directory absent), rfl⟩
  case environment =>
    intro present given named unsupported
    exact ⟨fromSurroundings_fails_iff.mpr (.environment present named unsupported), rfl⟩
  case files =>
    intro present environment detected stem earlier file error refused
    have unread := Layer.Unread.refused refused
    rw [shown_in_settings] at unread
    have stops : Stops (files.directory Files.settingsFolder) environment exported
        (.rejected (.unparsable ("configuration/" ++ file.name) error)) := by
      rcases earlier with rfl | ⟨rfl, unindexed⟩
      · exact .base unread
      · exact unindexed_specific unindexed unread
    exact ⟨fromSurroundings_fails_iff.mpr (.settings present detected stops), rfl⟩

def troubledFiles : Files where
  present := true
  entries :=
    [ (["configuration", "base.json"], .file (Bytes.ofText "\x7b"))
    , (["configuration", "production.json"], .file (Bytes.ofText "\x7b")) ]

def troubledProduction : Files := troubledFiles.remove ["configuration", "base.json"]

def troubledVariables (environment : String) : Variables :=
  [(Bytes.ofText Environment.variableName, Bytes.ofText environment), (Bytes.ofText "OTHER", [255])]

theorem given_in_troubled (environment : String) :
    Environment.given? (troubledVariables environment) = some environment := by
  simp [Environment.given?, Variables.value?, troubledVariables, Bytes.toText?_ofText]

theorem troubled_detected :
    Environment.detect (troubledVariables "production") = .ok .production := by
  have small : Text.lowercase "production" = "production" := by decide +kernel
  rw [Environment.detect_eq, given_in_troubled, Option.getD_some]
  simp only [Environment.ofName, small]
  rfl

/-- Where all is wrong at once, what comes first is reported. -/
theorem troubles_are_reported_in_order :
    fromSurroundings { troubledFiles with present := false } (troubledVariables "Staging") =
        .error (.rejected .directoryUnknown) ∧
      fromSurroundings troubledFiles (troubledVariables "Staging") =
        .error (.rejected (.environmentUnknown ⟨"staging"⟩)) ∧
      fromSurroundings troubledFiles (troubledVariables "production") =
        .error (.rejected (.unparsable ("configuration/" ++ "base.json") .malformed)) ∧
      fromSurroundings troubledProduction (troubledVariables "production") =
        .error (.rejected (.unparsable ("configuration/" ++ "production.json") .malformed)) := by
  have small : Text.lowercase "Staging" = "staging" := by decide +kernel
  have refused : Format.json.read "\x7b".toList = .error (.rejected .malformed) :=
    failure_of_failure?.mp (by decide +kernel)
  refine ⟨?directory, ?environment, ?base, ?specific⟩
  case directory =>
    have order := first_failure_is_reported { troubledFiles with present := false }
      (troubledVariables "Staging")
    exact (order.2.1 rfl).1
  case environment =>
    have order := first_failure_is_reported troubledFiles (troubledVariables "Staging")
    have unsupported : Environment.Unsupported "Staging" := by
      intro environment
      rw [small]
      cases environment <;> decide
    rw [← small]
    exact (order.2.2.1 rfl "Staging" (given_in_troubled _) unsupported).1
  case base =>
    have order := first_failure_is_reported troubledFiles (troubledVariables "production")
    apply (order.2.2.2 rfl .production troubled_detected baseStem (.inl rfl)
      ⟨"base.json", .json, Bytes.ofText "\x7b"⟩ .malformed _).1
    exact ⟨by decide +kernel, "\x7b", Bytes.toText?_ofText _, refused⟩
  case specific =>
    have order := first_failure_is_reported troubledProduction (troubledVariables "production")
    have absent : Layer.Unindexed (troubledProduction.directory Files.settingsFolder) baseStem :=
      .absent (by decide +kernel)
    apply (order.2.2.2 rfl .production troubled_detected _ (.inr ⟨rfl, absent⟩)
      ⟨"production.json", .json, Bytes.ofText "\x7b"⟩ .malformed _).1
    exact ⟨by decide +kernel, "\x7b", Bytes.toText?_ofText _, refused⟩

end Loading
end CustomerNotice
