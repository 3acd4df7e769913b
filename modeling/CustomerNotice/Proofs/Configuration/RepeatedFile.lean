import CustomerNotice.Proofs.Configuration.Lookup
import CustomerNotice.Proofs.Configuration.Outline
import CustomerNotice.Proofs.Configuration.Settings
import CustomerNotice.Proofs.Tree.Rewriting

/-!
# A file for all environments or for one

Reading cannot tell which of two files a setting came from, and putting in a layer
a second time changes nothing in outline. So a file gives one configuration, or
none, wherever it stands: as the file for all environments, as the file of one, or
as both. No key may count from the end of a list for that, as it would mean another
item once the list has grown.
-/

namespace CustomerNotice

/-- The format and the content of the file that is taken for a stem. -/
def Directory.offers (directory : Directory) (stem : String) : Option (Format × Bytes) :=
  (directory.find? stem).map fun file => (file.format, file.content)

namespace Loading

open CustomerNotice.Tree (outline)

/-- Whether the settings can be put in after the files, and what then is read,
shows in the outline of what the files say. -/
theorem fromDirectory_of_outline {left right : Directory} {environment : Environment}
    (same : (filed left environment).toOption.map (fun tree => outline (some tree)) =
      (filed right environment).toOption.map fun tree => outline (some tree))
    (exported : Variables) :
    (fromDirectory left environment exported).toOption =
      (fromDirectory right environment exported).toOption := by
  have stages : ∀ directory, (fromDirectory directory environment exported).toOption =
      (filed directory environment).toOption.bind fun tree =>
        (Layer.ofVariables exported).toOption.bind fun settings =>
          (tree.assignAll settings).toOption.bind fun sources =>
            (Reading.configuration (settled sources)).toOption := by
    intro directory
    simp only [fromDirectory, sources_eq, bind_assoc, toOption_bind, toOption_mapError, apply]
  rw [stages, stages]
  apply bind_of_view same
  intro left_tree right_tree left_found right_found outlines
  have left_tidy := filed_tidy (value_of_toOption.mp left_found)
  have right_tidy := filed_tidy (value_of_toOption.mp right_found)
  apply congrArg (Option.bind (Layer.ofVariables exported).toOption)
  funext settings
  have assigned : (left_tree.assignAll settings).toOption.map (fun tree => outline (some tree)) =
      (right_tree.assignAll settings).toOption.map fun tree => outline (some tree) := by
    rw [← toOption_map, ← toOption_map, Outline.outline_assignAll, Outline.outline_assignAll,
      outlines]
  apply bind_of_view assigned
  intro left_after right_after left_done right_done outlines_after
  exact reading_depends_on_outline (left_tidy.assignAll (value_of_toOption.mp left_done))
    (right_tidy.assignAll (value_of_toOption.mp right_done)) outlines_after

def written (offered? : Option (Format × Bytes)) (before : Outline) : Option Outline :=
  match offered? with
  | none => some before
  | some (format, content) =>
      match Bytes.toText? content with
      | none => some before
      | some text =>
          (format.read text.toList).toOption.bind fun tree =>
            (Outline.assignedAll before tree.entries).toOption

theorem entries_stamp (source : Origin) (tree : Tree) :
    (tree.stamp source).entries = Tree.stampEntries source tree.entries := by
  cases tree <;> rfl

theorem written_by_layer (directory : Directory) (stem : String) (before : Outline) :
    ((Layer.ofDirectory directory stem).toOption.bind fun layer =>
        (Outline.assignedAll before layer).toOption) =
      written (directory.offers stem) before := by
  rw [Layer.ofDirectory, Directory.offers]
  cases directory.find? stem with
  | none => rfl
  | some file =>
      dsimp only [Option.map, written]
      cases Bytes.toText? file.content with
      | none => rfl
      | some text =>
          dsimp only
          rw [Layer.ofText]
          cases file.format.read text.toList with
          | error failure => cases failure <;> rfl
          | ok tree =>
              change (Outline.assignedAll before (tree.stamp _).entries).toOption = _
              rw [entries_stamp, Outline.assignedAll_stamp]
              rfl

theorem outline_of_written (tree : Tree) (directory : Directory) (stem : String) :
    (Layer.ofDirectory directory stem >>= apply tree).toOption.map
        (fun after => outline (some after)) =
      written (directory.offers stem) (outline (some tree)) := by
  rw [← written_by_layer]
  cases Layer.ofDirectory directory stem with
  | error failure => rfl
  | ok layer =>
      change (apply tree layer).toOption.map _ =
        (Outline.assignedAll (outline (some tree)) layer).toOption
      rw [← Outline.outline_assignAll, apply]
      cases tree.assignAll layer <;> rfl

theorem filed_outline (directory : Directory) (environment : Environment) :
    (filed directory environment).toOption.map (fun tree => outline (some tree)) =
      (written (directory.offers baseStem) (outline (some .empty))).bind
        (written (directory.offers environment.name)) := by
  have first := outline_of_written .empty directory baseStem
  have parts : filed directory environment =
      (Layer.ofDirectory directory baseStem >>= apply .empty) >>= fun tree =>
        Layer.ofDirectory directory environment.name >>= apply tree := by
    simp only [filed, bind_assoc]
  rw [parts, ← first]
  cases Layer.ofDirectory directory baseStem >>= apply .empty with
  | error failure => rfl
  | ok tree => exact outline_of_written tree directory environment.name

/-- No key at the top of the file counts from the end of a list. -/
def Forward (offered : Format × Bytes) : Prop :=
  ∀ text tree, Bytes.toText? offered.2 = some text → offered.1.read text.toList = .ok tree →
    Layer.Forward tree.entries

theorem written_again {offered : Format × Bytes} (forward : Forward offered)
    {before after : Outline} (itemless : ∀ spot, Kind.items (before spot) = 0)
    (done : written (some offered) before = some after) :
    written (some offered) after = some after := by
  obtain ⟨format, content⟩ := offered
  simp only [written] at done ⊢
  cases spelled : Bytes.toText? content with
  | none => rfl
  | some text =>
      rw [spelled] at done
      obtain ⟨tree, read, done⟩ := Option.bind_eq_some_iff.mp done
      rw [value_of_toOption] at done
      have ahead := forward text tree spelled (value_of_toOption.mp read)
      dsimp only
      rw [read, Option.bind_some, Outline.assignedAll_again ahead itemless done]
      rfl

theorem empty_itemless (spot : List Turn) : Kind.items (outline (some .empty) spot) = 0 := by
  cases spot with
  | nil => rfl
  | cons turn spot =>
      have nothing : Tree.empty.child? turn = none := by cases turn <;> rfl
      rw [Tree.outline_below, nothing, Tree.outline_none]
      rfl

/-- A file gives the same configuration, or none, whether it stands for all
environments, for one, or for both, as long as no key in it counts from the end
of a list. -/
theorem place_of_a_file_does_not_matter {base specific both : Directory}
    {environment : Environment} {offered : Format × Bytes} (forward : Forward offered)
    (as_base : base.offers baseStem = some offered ∧ base.offers environment.name = none)
    (as_specific : specific.offers baseStem = none ∧
      specific.offers environment.name = some offered)
    (as_both : both.offers baseStem = some offered ∧
      both.offers environment.name = some offered)
    (exported : Variables) :
    (fromDirectory base environment exported).toOption =
        (fromDirectory specific environment exported).toOption ∧
      (fromDirectory base environment exported).toOption =
        (fromDirectory both environment exported).toOption := by
  constructor
  · apply fromDirectory_of_outline
    rw [filed_outline, filed_outline, as_base.1, as_base.2, as_specific.1, as_specific.2]
    exact Option.bind_fun_some _
  · apply fromDirectory_of_outline
    rw [filed_outline, filed_outline, as_base.1, as_base.2, as_both.1, as_both.2]
    cases done : written (some offered) (outline (some .empty)) with
    | none => rfl
    | some after => exact (written_again forward empty_itemless done).symm

def mixedSettings : String :=
  "customer.email = ada@example.com\nnotes[1] = x\n[output]\nreveal_api_key = false\n"

def mixedTree : Tree :=
  .table none
    [ ("customer.email", .scalar none (.text "ada@example.com"))
    , ("notes[1]", .scalar none (.text "x"))
    , ("output", .table none [("reveal_api_key", .scalar none (.text "false"))]) ]

def mixedDirectory (names : List String) : Directory where
  path := [Files.settingsFolder]
  entries := names.map fun name => (name, .file (Bytes.ofText mixedSettings))

def mixedOffer : Format × Bytes := (.ini, Bytes.ofText mixedSettings)

theorem mixed_forward : Forward mixedOffer := by
  have read : Format.ini.read mixedSettings.toList = .ok mixedTree := by
    simp only [mixedSettings, String.reduceToList]
    rfl
  intro text tree spelled found
  rw [mixedOffer, Bytes.toText?_ofText, Option.some.injEq] at spelled
  rw [← spelled] at found
  obtain rfl : mixedTree = tree := Except.ok.inj (read.symm.trans found)
  decide +kernel

/-- The file conceals the key and replaces the email in each of the three places. -/
theorem mixed_settings_count_anywhere :
    Forward mixedOffer ∧
      (fromDirectory (mixedDirectory ["base.ini"]) .production []).toOption =
        some
          { Configuration.default with
            customer := { Configuration.default.customer with email := "ada@example.com" }
            output := { revealApiKey := false } } ∧
      (fromDirectory (mixedDirectory ["base.ini"]) .production []).toOption =
        (fromDirectory (mixedDirectory ["production.ini"]) .production []).toOption ∧
      (fromDirectory (mixedDirectory ["base.ini"]) .production []).toOption =
        (fromDirectory (mixedDirectory ["base.ini", "production.ini"]) .production
          []).toOption := by
  have as_base : (mixedDirectory ["base.ini"]).offers baseStem = some mixedOffer ∧
      (mixedDirectory ["base.ini"]).offers Environment.production.name = none := ⟨rfl, rfl⟩
  have as_specific : (mixedDirectory ["production.ini"]).offers baseStem = none ∧
      (mixedDirectory ["production.ini"]).offers Environment.production.name =
        some mixedOffer := ⟨rfl, rfl⟩
  have as_both : (mixedDirectory ["base.ini", "production.ini"]).offers baseStem =
        some mixedOffer ∧
      (mixedDirectory ["base.ini", "production.ini"]).offers Environment.production.name =
        some mixedOffer := ⟨rfl, rfl⟩
  have loaded : (fromDirectory (mixedDirectory ["base.ini"]) .production []).toOption =
      some
        { Configuration.default with
          customer := { Configuration.default.customer with email := "ada@example.com" }
          output := { revealApiKey := false } } := by decide +kernel
  exact ⟨mixed_forward, loaded,
    place_of_a_file_does_not_matter mixed_forward as_base as_specific as_both []⟩

end Loading
end CustomerNotice
