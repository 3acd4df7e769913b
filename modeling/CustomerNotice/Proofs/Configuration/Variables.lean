import CustomerNotice.Configuration.Loading
import CustomerNotice.Proofs.Format.DistinctKeys

/-!
# Variables that are no settings

A variable whose name has no key adds nothing to the settings. The only other
thing that loading asks of it is that it is a text, so two processes that differ
in such a variable load the same configuration whenever both load one.
-/

namespace CustomerNotice

namespace Variables

/-- The same variables up to one name. -/
def AgreeExcept (name : String) (left right : Variables) : Prop :=
  left.unset (Bytes.ofText name) = right.unset (Bytes.ofText name)

theorem value_unset {name other : String} (different : other ≠ name) (exported : Variables) :
    (exported.unset (Bytes.ofText name)).value? other = exported.value? other := by
  have distinct : Bytes.ofText other ≠ Bytes.ofText name :=
    fun same => different (Bytes.ofText_injective same)
  rw [value?, unset, value?, List.find?_filter]
  congr 2
  funext entry
  by_cases named : entry.1 = Bytes.ofText other
  · simp [named, distinct]
  · simp [named]

theorem AgreeExcept.value {name other : String} {left right : Variables}
    (agree : AgreeExcept name left right) (different : other ≠ name) :
    left.value? other = right.value? other := by
  rw [← value_unset different left, agree, value_unset different right]

/-- Setting a variable changes nothing else. -/
theorem agree_except_set (exported : Variables) (name : String) (value : Bytes) :
    AgreeExcept name exported (exported.set (Bytes.ofText name) value) := by
  unfold AgreeExcept unset
  induction exported with
  | nil => simp [set]
  | cons entry rest induction =>
      by_cases same : entry.1 = Bytes.ofText name
      · rw [set, if_pos same]
        simp [same]
      · rw [set, if_neg same, List.filter_cons, List.filter_cons, induction]

end Variables

namespace Layer

/-- Without a variable that nothing is taken from, the same is taken. -/
theorem decoded_unset {Taken : Type} {name : String} (take : String × String → Option Taken)
    (silent : ∀ value, take (name, value) = none)
    {exported : Variables} {texts : List (String × String)}
    (decoded : decodeVariables exported = .ok texts) :
    ∃ kept, decodeVariables (exported.unset (Bytes.ofText name)) = .ok kept ∧
      kept.filterMap take = texts.filterMap take := by
  induction exported generalizing texts with
  | nil =>
      cases decoded
      exact ⟨[], rfl, rfl⟩
  | cons entry rest induction =>
      obtain ⟨bytes, value⟩ := entry
      rw [decodeVariables] at decoded
      split at decoded
      · next spelled text spelling reading =>
          obtain ⟨others, found, same⟩ := steps_of_bind_ok decoded
          cases same
          obtain ⟨kept, unset, settings⟩ := induction found
          by_cases removed : bytes = Bytes.ofText name
          · rw [removed, Bytes.toText?_ofText, Option.some.injEq] at spelling
            have none : take (spelled, text) = none := by
              rw [← spelling]
              exact silent text
            refine ⟨kept, ?_, ?_⟩
            · simpa [Variables.unset, removed] using unset
            · rw [List.filterMap_cons_none none, settings]
          · refine ⟨(spelled, text) :: kept, ?_, ?_⟩
            · have stays : Variables.unset ((bytes, value) :: rest) (Bytes.ofText name) =
                  (bytes, value) :: Variables.unset rest (Bytes.ofText name) := by
                simp [Variables.unset, removed]
              rw [stays, decodeVariables, spelling, reading]
              dsimp only
              rw [unset]
              rfl
            · rw [List.filterMap_cons, List.filterMap_cons, settings]
      · contradiction

theorem ofVariables_unset {name : String} (silent : variableKey? name = none)
    {exported : Variables} {settings : Layer} (read : ofVariables exported = .ok settings) :
    ofVariables (exported.unset (Bytes.ofText name)) = .ok settings := by
  obtain ⟨texts, decoded, same⟩ := steps_of_bind_ok read
  have nothing : ∀ value, ofVariable? (name, value) = none := by
    intro value
    rw [ofVariable?, silent]
    rfl
  obtain ⟨kept, unset, settled⟩ := decoded_unset ofVariable? nothing decoded
  cases same
  rw [ofVariables, unset, ← settled]
  rfl

end Layer

namespace Loading

/-- Loading looks at the variables only for the settings in them. -/
theorem fromDirectory_congr (directory : Directory) (environment : Environment)
    {left right : Variables} (same : Layer.ofVariables left = Layer.ofVariables right) :
    fromDirectory directory environment left = fromDirectory directory environment right := by
  rw [fromDirectory, fromDirectory, sources, sources, same]

/-- What is loaded had settings among its variables that could be read. -/
theorem settings_of_loaded {directory : Directory} {environment : Environment}
    {exported : Variables} {configuration : Configuration}
    (loaded : fromDirectory directory environment exported = .ok configuration) :
    ∃ settings, Layer.ofVariables exported = .ok settings := by
  obtain ⟨sources, found, _⟩ := steps_of_bind_ok loaded
  rw [Loading.sources] at found
  obtain ⟨base, _, found⟩ := steps_of_bind_ok found
  obtain ⟨tree, _, found⟩ := steps_of_bind_ok found
  obtain ⟨specific, _, found⟩ := steps_of_bind_ok found
  obtain ⟨tree, _, found⟩ := steps_of_bind_ok found
  obtain ⟨settings, read, _⟩ := steps_of_bind_ok found
  cases given : Layer.ofVariables exported with
  | ok settings => exact ⟨settings, rfl⟩
  | error crash =>
      rw [given] at read
      contradiction

theorem fromDirectory_agree {name : String} (silent : Layer.variableKey? name = none)
    {directory : Directory} {environment : Environment} {left right : Variables}
    (agree : left.AgreeExcept name right) {one other : Configuration}
    (loaded : fromDirectory directory environment left = .ok one)
    (also : fromDirectory directory environment right = .ok other) : one = other := by
  have onward : ∀ {exported : Variables} {configuration : Configuration},
      fromDirectory directory environment exported = .ok configuration →
      fromDirectory directory environment (exported.unset (Bytes.ofText name)) =
        .ok configuration := by
    intro exported configuration loaded
    obtain ⟨settings, read⟩ := settings_of_loaded loaded
    rw [← loaded]
    apply fromDirectory_congr
    rw [read, Layer.ofVariables_unset silent read]
  have first := onward loaded
  rw [agree, onward also] at first
  cases first
  rfl

/-- What is loaded comes from the settings folder, for an environment that is known. -/
theorem directory_of_loaded {files : Files} {exported : Variables}
    {configuration : Configuration}
    (loaded : fromSurroundings files exported = .ok configuration) :
    ∃ environment, Environment.detect exported = .ok environment ∧
      fromDirectory (files.directory Files.settingsFolder) environment exported =
        .ok configuration := by
  rw [fromSurroundings] at loaded
  split at loaded
  · split at loaded
    · next environment detected => exact ⟨environment, detected, loaded⟩
    · contradiction
  · contradiction

/-- Two processes that differ in a variable that is no setting load the same
configuration, if each loads one. -/
theorem fromSurroundings_agree {name : String} (silent : Layer.variableKey? name = none)
    (unasked : Environment.variableName ≠ name) {files : Files} {left right : Variables}
    (agree : left.AgreeExcept name right) {one other : Configuration}
    (loaded : fromSurroundings files left = .ok one)
    (also : fromSurroundings files right = .ok other) : one = other := by
  obtain ⟨environment, detected, loaded⟩ := directory_of_loaded loaded
  obtain ⟨same, found, also⟩ := directory_of_loaded also
  rw [Environment.detect, agree.value unasked, ← Environment.detect, found] at detected
  cases detected
  exact fromDirectory_agree silent agree loaded also

end Loading
end CustomerNotice
