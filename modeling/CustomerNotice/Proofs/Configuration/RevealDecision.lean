import CustomerNotice.Application
import CustomerNotice.Proofs.Configuration.EffectiveValue
import CustomerNotice.Proofs.Configuration.Lookup
import CustomerNotice.Proofs.Number.Literals

/-!
# Whether the key is shown

The effective value of the switch decides. A truth value, the numbers one and zero
and the texts that spell them say yes or no; with anything else that is no
floating-point number nothing is loaded. So a value that cannot be used never
gives way to the default, by which the key is shown.
-/

namespace CustomerNotice
namespace Reading

/-- What a whole number says: one is yes, zero is no. -/
inductive WholeVerdict : Int → Option Bool → Prop
  | one : WholeVerdict 1 (some true)
  | zero : WholeVerdict 0 (some false)
  | other {value : Int} (no_one : value ≠ 1) (no_zero : value ≠ 0) : WholeVerdict value none

/-- What a value says about the switch, if it is no floating-point number. -/
inductive Verdict : Tree → Option Bool → Prop
  | bool {origin : Option Origin} {value : Bool} :
      Verdict (.scalar origin (.bool value)) (some value)
  | integer {origin : Option Origin} {value : Int} {verdict : Option Bool}
      (judged : WholeVerdict value verdict) : Verdict (.scalar origin (.int value)) verdict
  | digits {origin : Option Origin} {text : String} {value : Int} {verdict : Option Bool}
      (whole : Text.IsWhole text.toList value) (judged : WholeVerdict value verdict) :
      Verdict (.scalar origin (.text text)) verdict
  | yes {origin : Option Origin} : Verdict (.scalar origin (.text "true")) (some true)
  | no {origin : Option Origin} : Verdict (.scalar origin (.text "false")) (some false)
  | text {origin : Option Origin} {text : String} (no_word : text ≠ "true" ∧ text ≠ "false")
      (no_number : ¬Binary64.IsLiteral text.toList) : Verdict (.scalar origin (.text text)) none
  | null {origin : Option Origin} : Verdict (.scalar origin .null) none
  | list {origin : Option Origin} {items : List Tree} : Verdict (.list origin items) none
  | table {origin : Option Origin} {entries : List (String × Tree)} :
      Verdict (.table origin entries) none

theorem switch_of_found {left right : Tree} (same : left.found = right.found) :
    switchOfTree left = switchOfTree right := by
  cases left with
  | scalar origin value =>
      cases right with
      | scalar other_origin other =>
          cases same
          cases value <;> rfl
      | list other_origin items => contradiction
      | table other_origin entries => contradiction
  | list origin items =>
      cases right with
      | scalar other_origin other => contradiction
      | list other_origin other_items => rfl
      | table other_origin entries => contradiction
  | table origin entries =>
      cases right with
      | scalar other_origin other => contradiction
      | list other_origin items => contradiction
      | table other_origin other_entries => rfl

theorem switch_of_integer {value : Int} {verdict : Option Bool}
    (judged : WholeVerdict value verdict) : (switchOfInt value).toOption = verdict := by
  cases judged with
  | one => rfl
  | zero => rfl
  | other no_one no_zero =>
      rw [switchOfInt, if_neg no_one, if_neg no_zero]
      rfl

/-- A whole number that no word holds is far from one and zero. -/
theorem switch_of_overlong {value : Int} (overlong : Text.fitsWord value = false)
    (negative : Bool) :
    switchOfFloat (Binary64.ofDecimal negative value.natAbs 0) = .error .float := by
  have large : Text.halfWordCount ≤ value.natAbs := by
    have outside : ¬(Text.fitsWord value = true) := by
      rw [overlong]
      exact Bool.false_ne_true
    rw [Text.fitsWord_iff] at outside
    unfold Text.halfWordCount at outside ⊢
    omega
  obtain ⟨no_one, no_zero⟩ := Binary64.ofDecimal_of_large large negative
  rw [switchOfFloat, no_one, no_zero]
  rfl

theorem no_word_of_whole {text : String} {value : Int} (whole : Text.IsWhole text.toList value) :
    text ≠ "true" ∧ text ≠ "false" := by
  have read := Text.readInt_iff.mpr whole
  constructor
  · rintro rfl
    contradiction
  · rintro rfl
    contradiction

/-- Digits decide by their value, however many there are. -/
theorem switch_of_digits {text : String} {value : Int} {verdict : Option Bool}
    (whole : Text.IsWhole text.toList value) (judged : WholeVerdict value verdict) :
    (switchOfText text).toOption = verdict := by
  obtain ⟨no_yes, no_no⟩ := no_word_of_whole whole
  have read : Text.readWord? 10 text.toList = (some value).filter Text.fitsWord := by
    rw [Text.readWord?, Text.readInt_iff.mpr whole]
  rw [switchOfText, if_neg no_yes, if_neg no_no, read, Option.filter_some]
  by_cases fits : Text.fitsWord value = true
  · rw [if_pos fits]
    exact switch_of_integer judged
  · -- No word holds the value, so the text is read as a floating-point number.
    obtain ⟨negative, number⟩ := Binary64.read_of_whole whole
    simp only [Bool.not_eq_true] at fits
    rw [fits, if_neg Bool.false_ne_true, number]
    dsimp only
    rw [switch_of_overlong fits]
    cases judged with
    | one => contradiction
    | zero => contradiction
    | other _ _ => rfl

theorem switch_of_text {text : String} (no_word : text ≠ "true" ∧ text ≠ "false")
    (no_number : ¬Binary64.IsLiteral text.toList) :
    switchOfText text = .error (.text text) := by
  have no_float : Binary64.read? text.toList = none := by
    rw [← Option.not_isSome_iff_eq_none, Binary64.read_isSome_iff]
    exact no_number
  have no_integer : Text.readWord? 10 text.toList = none := by
    cases read : Text.readInt? 10 text.toList with
    | none => rw [Text.readWord?, read, Option.filter_none]
    | some value =>
        obtain ⟨negative, number⟩ := Binary64.read_of_whole (Text.readInt_iff.mp read)
        rw [no_float] at number
        contradiction
  rw [switchOfText, if_neg no_word.1, if_neg no_word.2, no_integer, no_float]

example : ∀ text ∈ ["False", "no", "off", "0 ", ""],
    (switchOfText text).toOption = none := by decide +kernel

theorem switch_of_verdict {value : Tree} {verdict : Option Bool} (judged : Verdict value verdict) :
    (switchOfTree value).toOption = verdict := by
  cases judged with
  | bool => rfl
  | integer judged => exact switch_of_integer judged
  | digits whole judged => exact switch_of_digits whole judged
  | yes => rfl
  | no => rfl
  | text no_word no_number =>
      rw [switchOfTree, switch_of_text no_word no_number]
      rfl
  | null => rfl
  | list => rfl
  | table => rfl

end Reading

namespace Notice

def redactedText (contact : Contact) : String :=
  String.join (contactLine contact) ++ "API Key: [REDACTED]\n" ++
    String.join (emailLine contact.email contact.name)

theorem text_concealed (contact : Contact) : text contact false = redactedText contact := by
  have line : String.join (keyLine contact false) = "API Key: [REDACTED]\n" := by
    simp only [keyLine, shownKey, Bool.false_eq_true, if_false, redactedKey]
    decide
  rw [text, details, line, redactedText]

end Notice

namespace Loading

variable {directory : Directory} {environment : Environment} {exported : Variables}
  {base specific settings : Layer} {tree : Tree} {application : ApplicationSettings}
  {customer : CustomerSettings}

/-- The effective value of the switch: the last that is given and no empty table,
or the default. -/
def revealValue (layer : Layer) : Tree :=
  effective (layer.valuesFor "output" "reveal_api_key")
    (.scalar none (.bool Configuration.default.output.revealApiKey))

def withSwitch (application : ApplicationSettings) (customer : CustomerSettings) :
    Except SwitchError Bool → Except LoadFailure Configuration
  | .ok reveal => .ok ⟨application, customer, ⟨reveal⟩⟩
  | .error error => .error (.rejected (.notSwitch error))

theorem output_of_table {output value : Tree} (holds : output.isTable = true)
    (found : output.get? "reveal_api_key" = some value) :
    Reading.output output =
      ((Reading.switchOfTree value).mapError .notSwitch).map OutputSettings.mk := by
  obtain ⟨origin, entries, rfl⟩ := Tree.exists_table_of_isTable holds
  have under : Entries.get? "reveal_api_key" entries = some value := found
  have field : Reading.field .output (.table origin entries) 0 =
      .ok ⟨"output" ++ "." ++ "reveal_api_key", value⟩ := by
    simp only [Reading.field, Section.output, List.getD_cons_zero, under]
  rw [Reading.output_eq, field]
  unfold Reading.switch
  simp only [bind, Except.bind]
  cases Reading.switchOfTree value <;> rfl

/-- The effective value of the switch is all that is left to decide. -/
theorem fromDirectory_of_switch {layer : Layer}
    (put : sources directory environment exported = .ok tree)
    (assigned : Tree.empty.assignAll layer = .ok tree)
    (tables : layer.Keeps Section.output.key)
    (application_read : (Reading.sectionOf .application (settled tree) >>= Reading.application) =
      .ok application)
    (customer_read : (Reading.sectionOf .customer (settled tree) >>= Reading.customer) =
      .ok customer) :
    fromDirectory directory environment exported =
      withSwitch application customer (Reading.switchOfTree (revealValue layer)) := by
  have known : Section.output ∈ Section.all := by decide
  have built_in : Section.output.builtIn? "reveal_api_key" =
      some (.scalar none (.bool Configuration.default.output.revealApiKey)) := rfl
  obtain ⟨output, value, output_found, holds, found, same⟩ :=
    field_effective known built_in rfl tables assigned
  obtain ⟨application_tree, application_found, application_read⟩ :=
    steps_of_bind_ok application_read
  obtain ⟨customer_tree, customer_found, customer_read⟩ := steps_of_bind_ok customer_read
  have switch : Reading.switchOfTree value = Reading.switchOfTree (revealValue layer) :=
    Reading.switch_of_found same
  simp only [fromDirectory, put, Reading.configuration, application_found, application_read,
    customer_found, customer_read, output_found, output_of_table holds found, switch, bind,
    Except.bind]
  cases Reading.switchOfTree (revealValue layer) <;> rfl

/-- Where the section of the switch is a table and everything else can be read, the
last value of the switch that is no empty table decides, or else the default: with
yes or no the rest is loaded, and with anything that is neither nothing is loaded.
After a no the key is not in the notice. -/
theorem reveal_decision_fails_closed
    (base_read : Layer.ofDirectory directory baseStem = .ok base)
    (specific_read : Layer.ofDirectory directory environment.name = .ok specific)
    (settings_read : Layer.ofVariables exported = .ok settings)
    (put : sources directory environment exported = .ok tree)
    (tables : (base ++ specific ++ settings).Keeps "output")
    (application_read : (Reading.sectionOf .application (settled tree) >>= Reading.application) =
      .ok application)
    (customer_read : (Reading.sectionOf .customer (settled tree) >>= Reading.customer) =
      .ok customer) {verdict : Option Bool}
    (judged : Reading.Verdict (revealValue (base ++ specific ++ settings)) verdict) :
    (∀ reveal, verdict = some reveal → fromDirectory directory environment exported =
      .ok ⟨application, customer, ⟨reveal⟩⟩) ∧
    (verdict = none → ∃ error, fromDirectory directory environment exported =
      .error (.rejected (.notSwitch error))) ∧
    (verdict = some false → ∃ configuration,
      fromDirectory directory environment exported = .ok configuration ∧
        (Application.ofConfiguration configuration).text =
          Notice.redactedText configuration.customer.toCustomer.toContact) := by
  have assigned : Tree.empty.assignAll (base ++ specific ++ settings) = .ok tree := by
    rw [sources_of_read base_read specific_read settings_read] at put
    exact value_of_mapError.mp put
  have loaded := fromDirectory_of_switch put assigned tables application_read customer_read
  have decided := Reading.switch_of_verdict judged
  have yes_or_no : ∀ reveal, verdict = some reveal →
      fromDirectory directory environment exported = .ok ⟨application, customer, ⟨reveal⟩⟩ := by
    rintro reveal rfl
    have switch := value_of_toOption.mp decided
    rw [loaded, switch]
    rfl
  refine ⟨yes_or_no, ?neither, ?no⟩
  case neither =>
    rintro rfl
    obtain ⟨error, switch⟩ := failure_of_toOption.mp decided
    rw [loaded, switch]
    exact ⟨error, rfl⟩
  case no =>
    intro no
    exact ⟨_, yes_or_no false no, Notice.text_concealed _⟩

def switchVariable (text : String) : Variables :=
  Layer.ofTexts [("APP_OUTPUT__REVEAL_API_KEY", text)]

def switchSettings (text : String) : Layer :=
  [("output.reveal_api_key", .scalar (some .environment) (.text text))]

theorem switch_variable_read (text : String) :
    Layer.ofVariables (switchVariable text) = .ok (switchSettings text) := by
  have key : Layer.variableKey? "APP_OUTPUT__REVEAL_API_KEY" = some "output.reveal_api_key" := by
    decide +kernel
  have decoded := Layer.decode_ofTexts [("APP_OUTPUT__REVEAL_API_KEY", text)]
  rw [switchVariable, Layer.ofVariables_decoded decoded, Layer.settingsOf]
  simp only [List.filterMap_cons, List.filterMap_nil, Layer.ofVariable?, key, Option.map_some]
  rfl

theorem concealing_file_read :
    Layer.ofDirectory concealingDirectory Environment.production.name = .ok concealingLayer := by
  have found : concealingDirectory.find? Environment.production.name =
      some ⟨"production.ini", .ini, Bytes.ofText concealing⟩ := by decide
  simp only [Layer.ofDirectory, found, Bytes.toText?_ofText]
  exact concealing_read

theorem switch_key :
    Path.ofKey "output.reveal_api_key" = ⟨"output", [.key "reveal_api_key"]⟩ :=
  Path.ofKey_of_parts (by decide)

theorem output_key : Path.ofKey "output" = ⟨"output", []⟩ := Path.ofKey_name (by decide)

def switchSources (text : String) : Tree :=
  Tree.empty.merge (concealingLayer ++
    [("output", .table none [("reveal_api_key", .scalar (some .environment) (.text text))])])

theorem switch_sources (text : String) :
    sources concealingDirectory .production (switchVariable text) = .ok (switchSources text) := by
  rw [sources_of_read rfl concealing_file_read (switch_variable_read text)]
  have named : ∀ setting ∈ [] ++ concealingLayer ++ switchSettings text,
      (Path.ofKey setting.1).IsNamed := by
    simp [concealingLayer, switchSettings, output_key, switch_key, Path.IsNamed]
  have spread : ([] ++ concealingLayer ++ switchSettings text).map Tree.spread = concealingLayer ++
      [("output", .table none [("reveal_api_key", .scalar (some .environment) (.text text))])] := by
    simp [concealingLayer, switchSettings, Tree.spread, output_key, switch_key, Tree.nestedIn]
  rw [Tree.assignAll_named named, spread]
  rfl

theorem switch_tables (text : String) :
    Layer.Keeps "output" ([] ++ concealingLayer ++ switchSettings text) := by
  simp [Layer.Keeps, concealingLayer, switchSettings, output_key, switch_key, Tree.KeepsTable,
    Tree.isTable]

theorem switch_value (text : String) :
    revealValue ([] ++ concealingLayer ++ switchSettings text) =
      .scalar (some .environment) (.text text) := by
  simp [revealValue, Layer.valuesFor, Layer.valuesOf, concealingLayer, switchSettings, output_key,
    switch_key, Tree.givenTo, Tree.under, Tree.entries, Tree.made, effective, Tree.lastGiven?,
    Tree.isVoid]

/-- A file says no; a variable over it says no in many digits, or nothing of use. -/
theorem variable_decides_over_file :
    fromDirectory concealingDirectory .production (switchVariable "-000000000000000000000") =
        .ok concealed ∧
      ∃ error, fromDirectory concealingDirectory .production (switchVariable "no") =
        .error (.rejected (.notSwitch error)) := by
  have digits : Text.IsDigits "000000000000000000000".toList :=
    ⟨by decide, List.all_eq_true.mp (by decide)⟩
  have zero : Text.IsWhole "-000000000000000000000".toList 0 := .minus digits
  have no_number : ¬Binary64.IsLiteral "no".toList := by
    rw [← Binary64.read_isSome_iff]
    decide +kernel
  constructor
  · have judged : Reading.Verdict (revealValue ([] ++ concealingLayer ++
        switchSettings "-000000000000000000000")) (some false) := by
      rw [switch_value]
      exact .digits zero .zero
    have decision := reveal_decision_fails_closed rfl concealing_file_read
      (switch_variable_read _) (switch_sources _) (switch_tables _) rfl rfl judged
    exact decision.1 false rfl
  · have judged : Reading.Verdict (revealValue ([] ++ concealingLayer ++ switchSettings "no"))
        none := by
      rw [switch_value]
      exact .text (by decide) no_number
    have decision := reveal_decision_fails_closed rfl concealing_file_read
      (switch_variable_read _) (switch_sources _) (switch_tables _) rfl rfl judged
    exact decision.2.1 rfl

end Loading
end CustomerNotice
