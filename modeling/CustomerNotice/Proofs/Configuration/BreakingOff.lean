import CustomerNotice.Proofs.Configuration.Lookup
import CustomerNotice.Proofs.Format.HjsonNumbers
import CustomerNotice.Proofs.Format.YamlReals
import CustomerNotice.Proofs.Tree.Positions

/-!
# Where loading breaks off

Loading answers with a configuration or with an error, except in three cases: a
variable that is no text, a key with a position that a list has no place for, and
a number of YAML or Hjson that looks like one and has no value.
-/

namespace CustomerNotice

/-- A text has something in it that its format takes for a number and cannot read. -/
def Format.Unreadable : Format → List Char → Prop
  | yaml, text => Yaml.NamesUnread text
  | hjson, text => Hjson.HasHuge text
  | _, _ => False

theorem Format.read_breaks (format : Format) (text : List Char) :
    Yields (fun _ => True)
      (FormatFailure.Caused fun crash => crash = .unreadableNumber ∧ format.Unreadable text)
      (format.read text) := by
  cases format with
  | yaml => exact Yaml.read_breaks text
  | hjson => exact Hjson.read_breaks text
  | json => exact Yields.require fun _ _ => True.intro
  | toml => exact Yields.require fun _ _ => True.intro
  | ini => exact Yields.require fun _ _ => True.intro

/-- Loading may be rejected; where it breaks off, there is a cause. -/
def LoadFailure.Caused (cause : Crash → Prop) : LoadFailure → Prop
  | .rejected _ => True
  | .crashed crash => cause crash

def Variables.Undecodable (exported : Variables) : Prop :=
  ∃ entry ∈ exported, Bytes.toText? entry.1 = none ∨ Bytes.toText? entry.2 = none

namespace Layer

/-- The file for a stem has a number that cannot be read. -/
def Unreadable (directory : Directory) (stem : String) : Prop :=
  ∃ file, directory.find? stem = some file ∧
    ∃ text, Bytes.toText? file.content = some text ∧ file.format.Unreadable text.toList

theorem ofDirectory_breaks (directory : Directory) (stem : String) :
    Yields (fun _ => True)
      (LoadFailure.Caused fun crash => crash = .unreadableNumber ∧ Unreadable directory stem)
      (ofDirectory directory stem) := by
  unfold ofDirectory
  split
  · exact True.intro
  · next file found =>
      split
      · exact True.intro
      · next text decoded =>
          have reads := file.format.read_breaks text.toList
          unfold ofText
          cases read : file.format.read text.toList with
          | ok tree => exact True.intro
          | error failure =>
              rw [read] at reads
              cases failure with
              | rejected error => exact True.intro
              | crashed crash => exact ⟨reads.1, file, found, text, decoded, reads.2⟩

/-- The file for a stem is one of YAML that uses a number without a value. -/
def NamesUnread (directory : Directory) (stem : String) : Prop :=
  ∃ file, directory.find? stem = some file ∧ file.format = .yaml ∧
    ∃ text, Bytes.toText? file.content = some text ∧ Yaml.NamesUnread text.toList

theorem ofDirectory_of_unread {directory : Directory} {stem : String}
    (names : NamesUnread directory stem) :
    ofDirectory directory stem = .error (.crashed .unreadableNumber) := by
  obtain ⟨file, found, yaml, text, decoded, unread⟩ := names
  simp only [ofDirectory, found, decoded, ofText, yaml, Format.read, Yaml.read_of_unread unread]

theorem decodeVariables_breaks (exported : Variables) :
    Yields (fun _ => ¬exported.Undecodable)
      (fun crash => crash = .undecodableVariable ∧ exported.Undecodable)
      (decodeVariables exported) := by
  induction exported with
  | nil => exact nofun
  | cons entry rest induction =>
      obtain ⟨name, value⟩ := entry
      rw [decodeVariables]
      split
      · next named valued =>
          refine Yields.bind (induction.weaken (fun _ => id) ?_) ?_
          · intro crash broken
            obtain ⟨same, other, member, unspelled⟩ := broken
            exact ⟨same, other, List.mem_cons_of_mem _ member, unspelled⟩
          · intro texts decodable undecodable
            obtain ⟨other, member, unspelled⟩ := undecodable
            rcases List.mem_cons.mp member with rfl | later
            · simp [named, valued] at unspelled
            · exact decodable ⟨other, later, unspelled⟩
      · next unspelled =>
          refine ⟨rfl, _, List.mem_cons_self, ?_⟩
          cases named : Bytes.toText? name with
          | none => exact .inl rfl
          | some spelled =>
              cases valued : Bytes.toText? value with
              | none => exact .inr rfl
              | some text => exact absurd valued (unspelled spelled text named)

theorem ofVariables_breaks (exported : Variables) :
    Yields (fun _ => ¬exported.Undecodable)
      (fun crash => crash = .undecodableVariable ∧ exported.Undecodable)
      (ofVariables exported) :=
  Yields.bind (decodeVariables_breaks exported) fun _ decodable => decodable

theorem ofVariables_of_undecodable {exported : Variables}
    (undecodable : exported.Undecodable) :
    ofVariables exported = .error .undecodableVariable := by
  have yields := ofVariables_breaks exported
  cases read : ofVariables exported with
  | ok settings =>
      rw [read] at yields
      exact absurd undecodable yields
  | error crash =>
      rw [read] at yields
      rw [yields.1]

end Layer

namespace Loading

/-- The layers that loading can come to put in. -/
def Taken (directory : Directory) (environment : Environment) (exported : Variables)
    (layer : Layer) : Prop :=
  Layer.ofDirectory directory baseStem = .ok layer ∨
    Layer.ofDirectory directory environment.name = .ok layer ∨
    Layer.ofVariables exported = .ok layer

/-- What makes loading break off, for each way in which it does. -/
inductive BreaksOff (directory : Directory) (environment : Environment)
    (exported : Variables) : Crash → Prop
  | undecodable (unspelled : exported.Undecodable) :
      BreaksOff directory environment exported .undecodableVariable
  | position {layer : Layer} {setting : String × Tree} {step : Step}
      (taken : Taken directory environment exported layer) (member : setting ∈ layer)
      (inside : step ∈ (Path.ofKey setting.1).rest) (strays : step.Strays) :
      BreaksOff directory environment exported .positionOutOfRange
  | number {stem : String} (asked : stem = baseStem ∨ stem = environment.name)
      (unreadable : Layer.Unreadable directory stem) :
      BreaksOff directory environment exported .unreadableNumber

variable {directory : Directory} {environment : Environment} {exported : Variables}

theorem file_breaks {stem : String} (asked : stem = baseStem ∨ stem = environment.name) :
    Yields (fun layer => Layer.ofDirectory directory stem = .ok layer)
      (LoadFailure.Caused (BreaksOff directory environment exported))
      (Layer.ofDirectory directory stem) := by
  refine ((Layer.ofDirectory_breaks directory stem).weaken (fun _ => id) ?_).known
  intro failure broken
  cases failure with
  | rejected error => exact True.intro
  | crashed crash =>
      obtain ⟨rfl, unreadable⟩ := broken
      exact .number asked unreadable

theorem variables_break :
    Yields (fun layer => Layer.ofVariables exported = .ok layer)
      (LoadFailure.Caused (BreaksOff directory environment exported))
      ((Layer.ofVariables exported).mapError .crashed) := by
  refine Yields.mapError ((Layer.ofVariables_breaks exported).weaken (fun _ => id) ?_).known
  intro crash broken
  obtain ⟨rfl, undecodable⟩ := broken
  exact .undecodable undecodable

theorem apply_breaks {layer : Layer} (taken : Taken directory environment exported layer)
    (tree : Tree) :
    Yields (fun _ => True) (LoadFailure.Caused (BreaksOff directory environment exported))
      (apply tree layer) := by
  refine Yields.mapError ((tree.assignAll_breaks layer).weaken (fun _ => id) ?_)
  intro crash broken
  obtain ⟨setting, member, rfl, step, inside, strays⟩ := broken
  exact .position taken member inside strays

theorem sources_break (directory : Directory) (environment : Environment)
    (exported : Variables) :
    Yields (fun _ => True) (LoadFailure.Caused (BreaksOff directory environment exported))
      (sources directory environment exported) := by
  unfold sources
  refine Yields.bind (file_breaks (.inl rfl)) ?_
  intro base base_read
  refine Yields.bind (apply_breaks (.inl base_read) _) ?_
  intro tree _
  refine Yields.bind (file_breaks (.inr rfl)) ?_
  intro specific specific_read
  refine Yields.bind (apply_breaks (.inr (.inl specific_read)) _) ?_
  intro tree _
  refine Yields.bind variables_break ?_
  intro settings settings_read
  exact apply_breaks (.inr (.inr settings_read)) _

theorem fromDirectory_breaks (directory : Directory) (environment : Environment)
    (exported : Variables) :
    Yields (fun _ => True) (LoadFailure.Caused (BreaksOff directory environment exported))
      (fromDirectory directory environment exported) := by
  refine Yields.bind (sources_break directory environment exported) ?_
  intro sources _
  refine Yields.mapError ?_
  cases Reading.configuration (settled sources) with
  | ok configuration => exact True.intro
  | error error => exact True.intro

/-- Loading came to a configuration or to an error. -/
def Answers (result : Except LoadFailure Configuration) : Prop :=
  (∃ configuration, result = .ok configuration) ∨ ∃ error, result = .error (.rejected error)

theorem answers_or_breaks {cause : Crash → Prop} {result : Except LoadFailure Configuration}
    (yields : Yields (fun _ => True) (LoadFailure.Caused cause) result) :
    Answers result ∨ ∃ crash, result = .error (.crashed crash) ∧ cause crash := by
  cases result with
  | ok configuration => exact .inl (.inl ⟨configuration, rfl⟩)
  | error failure =>
      cases failure with
      | rejected error => exact .inl (.inr ⟨error, rfl⟩)
      | crashed crash => exact .inr ⟨crash, rfl, yields⟩

theorem fromSurroundings_breaks (files : Files) (exported : Variables) :
    Yields (fun _ => True)
      (LoadFailure.Caused fun crash => ∃ environment,
        Environment.detect exported = .ok environment ∧
          BreaksOff (files.directory Files.settingsFolder) environment exported crash)
      (fromSurroundings files exported) := by
  unfold fromSurroundings
  split
  · split
    · next environment detected =>
        refine (fromDirectory_breaks _ environment exported).weaken (fun _ => id) ?_
        intro failure broken
        cases failure with
        | rejected error => exact True.intro
        | crashed crash => exact ⟨environment, detected, broken⟩
    · exact True.intro
  · exact True.intro

/-- Where the files load, the variables are looked at. -/
theorem undecodable_breaks (undecodable : exported.Undecodable) {configuration : Configuration}
    (loaded : fromDirectory directory environment [] = .ok configuration) :
    fromDirectory directory environment exported = .error (.crashed .undecodableVariable) := by
  rw [fromDirectory_eq] at loaded ⊢
  obtain ⟨base, base_read, loaded⟩ := steps_of_bind_ok loaded
  obtain ⟨first, base_applied, loaded⟩ := steps_of_bind_ok loaded
  obtain ⟨specific, specific_read, loaded⟩ := steps_of_bind_ok loaded
  obtain ⟨second, specific_applied, _⟩ := steps_of_bind_ok loaded
  simp only [fromFiles, base_read, base_applied, specific_read, specific_applied,
    Layer.ofVariables_of_undecodable undecodable, bind, Except.bind, mapError_error]

/-- Loading answers, or it breaks off for a cause. A variable that is no text is
never passed over, even where it is no setting, nor is a number without a value in
the YAML file for all environments. -/
theorem loading_answers_or_has_a_cause (directory : Directory) (environment : Environment)
    (files : Files) (exported : Variables) :
    (Answers (fromDirectory directory environment exported) ∨
      ∃ crash, fromDirectory directory environment exported = .error (.crashed crash) ∧
        BreaksOff directory environment exported crash) ∧
    (Answers (fromSurroundings files exported) ∨
      ∃ crash, fromSurroundings files exported = .error (.crashed crash) ∧
        ∃ detected, Environment.detect exported = .ok detected ∧
          BreaksOff (files.directory Files.settingsFolder) detected exported crash) ∧
    ((∃ configuration, fromDirectory directory environment [] = .ok configuration) →
      (fromDirectory directory environment exported =
        .error (.crashed .undecodableVariable) ↔ exported.Undecodable)) ∧
    (Layer.NamesUnread directory baseStem →
      fromDirectory directory environment exported = .error (.crashed .unreadableNumber)) := by
  refine ⟨?directory, ?surroundings, ?undecodable, ?unread⟩
  case directory => exact answers_or_breaks (fromDirectory_breaks directory environment exported)
  case surroundings => exact answers_or_breaks (fromSurroundings_breaks files exported)
  case undecodable =>
    intro loads
    obtain ⟨configuration, loaded⟩ := loads
    refine ⟨?_, fun undecodable => undecodable_breaks undecodable loaded⟩
    intro broken
    have cause := fromDirectory_breaks directory environment exported
    rw [broken] at cause
    cases cause with
    | undecodable unspelled => exact unspelled
  case unread =>
    intro names
    simp only [fromDirectory_eq, fromFiles, Layer.ofDirectory_of_unread names, bind, Except.bind]

def lonely (name text : String) : Directory where
  path := [Files.settingsFolder]
  entries := [(name, .file (Bytes.ofText text))]

/-- A foreign variable, a key and a number, each of which makes loading break off. -/
theorem foreign_variable_key_and_number_break_loading :
    fromSurroundings .empty [(Bytes.ofText "OTHER", [255])] =
        .error (.crashed .undecodableVariable) ∧
      fromDirectory (lonely "base.json" "\x7b\"a[-1]\":0\x7d") .development [] =
        .error (.crashed .positionOutOfRange) ∧
      fromDirectory (lonely "base.yaml" ".inf") .development [] =
        .error (.crashed .unreadableNumber) ∧
      ¬Answers (fromSurroundings .empty [(Bytes.ofText "OTHER", [255])]) := by
  have foreign : fromSurroundings .empty [(Bytes.ofText "OTHER", [255])] =
      .error (.crashed .undecodableVariable) := failure_of_failure?.mp (by decide +kernel)
  refine ⟨foreign, ?position, ?number, ?silent⟩
  case position => exact failure_of_failure?.mp (by decide +kernel)
  case number => exact failure_of_failure?.mp (by decide +kernel)
  case silent =>
    rw [foreign]
    intro answers
    rcases answers with loaded | rejected
    · obtain ⟨configuration, same⟩ := loaded
      cases same
    · obtain ⟨error, same⟩ := rejected
      cases same

end Loading
end CustomerNotice
