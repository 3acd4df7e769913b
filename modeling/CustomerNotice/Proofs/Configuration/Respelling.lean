import CustomerNotice.Proofs.Configuration.Lookup
import CustomerNotice.Proofs.Configuration.Settings
import CustomerNotice.Proofs.Tree.Collecting

/-!
# Spelling and order of the variables

Settings whose places do not lie below each other are put in in any order with
the same effect, and the case of the letters in a name does not change its key.
So variables may be reordered and written in another case, and of several with
one key only the last counts, wherever it stands.
-/

namespace CustomerNotice

namespace Layer

def keys (texts : List (String × String)) : List String :=
  texts.filterMap fun entry => variableKey? entry.1

/-- No key has a bracket, and no path is a proper prefix of another. -/
structure Independent (texts : List (String × String)) : Prop where
  plain : ∀ key ∈ keys texts, '[' ∉ key.toList
  apart : ∀ key ∈ keys texts, ∀ other ∈ keys texts,
    (Path.ofKey key).names <+: (Path.ofKey other).names →
      (Path.ofKey key).names = (Path.ofKey other).names

def smallName (entry : String × String) : List Char × String :=
  (Text.smallLetters entry.1.toList, entry.2)

/-- A reordering in which names may be written in another case. -/
def Respelled (texts others : List (String × String)) : Prop :=
  (texts.map smallName).Perm (others.map smallName)

theorem small_smallLetters (characters : List Char) :
    Text.smallLetters (Text.smallLetters characters) = Text.smallLetters characters := by
  have same : Char.toLower ∘ Char.toLower = Char.toLower := by
    funext character
    exact Text.unchanged_by_case Char.toLower (Text.all_capitals (by decide)) character
  rw [Text.smallLetters, Text.smallLetters, List.map_map, same]

theorem ofVariable_smallName (entry : String × String) :
    ofVariable? (String.ofList (smallName entry).1, (smallName entry).2) = ofVariable? entry := by
  have key : variableKey? (String.ofList (Text.smallLetters entry.1.toList)) =
      variableKey? entry.1 := by
    apply variableKey_of_smallLetters
    rw [String.toList_ofList, small_smallLetters]
  simp only [ofVariable?, smallName, key]

theorem settings_of_smallNames (texts : List (String × String)) :
    (texts.map smallName).filterMap
        (fun entry => ofVariable? (String.ofList entry.1, entry.2)) =
      texts.filterMap ofVariable? := by
  have same : (fun entry : List Char × String => ofVariable? (String.ofList entry.1, entry.2)) ∘
      smallName = ofVariable? := by
    funext entry
    exact ofVariable_smallName entry
  rw [List.filterMap_map, same]

theorem Respelled.settings {texts others : List (String × String)}
    (respelled : Respelled texts others) :
    (texts.filterMap ofVariable?).Perm (others.filterMap ofVariable?) := by
  have chosen := respelled.filterMap fun entry => ofVariable? (String.ofList entry.1, entry.2)
  rwa [settings_of_smallNames, settings_of_smallNames] at chosen

theorem names_of_settings (texts : List (String × String)) :
    Entries.names (texts.filterMap ofVariable?) = keys texts := by
  have key_of_setting : (fun entry : String × String =>
      (ofVariable? entry).map Prod.fst) = fun entry => variableKey? entry.1 := by
    funext entry
    rw [ofVariable?, Option.map_map]
    exact Option.map_id'
  rw [Entries.names, List.map_filterMap, key_of_setting]
  rfl

theorem key_of_setting {texts : List (String × String)} {setting : String × Tree}
    (member : setting ∈ settingsOf texts) : setting.1 ∈ keys texts := by
  rw [← names_of_settings]
  exact List.mem_map_of_mem (Entries.mem_ofList member)

theorem settingsOf_distinct (texts : List (String × String)) :
    Entries.Distinct (settingsOf texts) := Entries.distinct_ofList _

theorem Independent.settings_plain {texts : List (String × String)}
    (independent : Independent texts) : (settingsOf texts).Plain := by
  intro setting member
  exact independent.plain setting.1 (key_of_setting member)

/-- Different settings stand at places of which none lies below the other. -/
theorem Independent.settings_apart {texts : List (String × String)}
    (independent : Independent texts) :
    ∀ one ∈ settingsOf texts, ∀ other ∈ settingsOf texts, one ≠ other →
      Tree.Apart (Path.ofKey one.1).names (Path.ofKey other.1).names := by
  have below : ∀ one ∈ settingsOf texts, ∀ other ∈ settingsOf texts,
      (Path.ofKey one.1).names <+: (Path.ofKey other.1).names → one = other := by
    intro one member other also starts
    have key := key_of_setting member
    have other_key := key_of_setting also
    have names := independent.apart one.1 key other.1 other_key starts
    have same := Path.key_of_names (independent.plain _ key) (independent.plain _ other_key) names
    exact Entries.entry_of_name (settingsOf_distinct texts) member also same
  intro one member other also different
  constructor
  · intro starts
    exact different (below one member other also starts)
  · intro starts
    exact different (below other also one member starts).symm

theorem settings_are_texts {texts : List (String × String)} :
    ∀ setting ∈ settingsOf texts, setting.2.isTable = false := by
  intro setting member
  obtain ⟨entry, _, read⟩ := List.mem_filterMap.mp (Entries.mem_ofList member)
  exact ofVariable_plain read

theorem settings_of_respelled {texts others : List (String × String)}
    (distinct : (keys texts).Nodup) (respelled : Respelled texts others) :
    (settingsOf texts).Perm (settingsOf others) := by
  have perm := respelled.settings
  have names : Entries.Distinct (texts.filterMap ofVariable?) := by
    rw [Entries.Distinct, names_of_settings]
    exact distinct
  have other_names : Entries.Distinct (others.filterMap ofVariable?) :=
    (perm.map Prod.fst).nodup names
  rw [settingsOf, settingsOf, Entries.ofList_of_distinct names,
    Entries.ofList_of_distinct other_names]
  exact perm

/-- The variables before one of them without those of its key. -/
def without (key : String) (texts : List (String × String)) : List (String × String) :=
  texts.filter fun entry => variableKey? entry.1 ≠ some key

theorem latest_without {key other : String} (different : other ≠ key)
    (texts : List (String × String)) :
    Entries.latest? other ((without key texts).filterMap ofVariable?) =
      Entries.latest? other (texts.filterMap ofVariable?) := by
  induction texts with
  | nil => rfl
  | cons entry rest induction =>
      by_cases same : variableKey? entry.1 = some key
      · have dropped : without key (entry :: rest) = without key rest := by simp [without, same]
        have setting : ofVariable? entry =
            some (key, .scalar (some .environment) (.text entry.2)) := by
          rw [ofVariable?, same]
          rfl
        rw [dropped, induction, List.filterMap_cons_some setting, Entries.latest?_cons,
          if_neg (Ne.symm different), Option.or_none]
      · have kept : without key (entry :: rest) = entry :: without key rest := by
          simp [without, same]
        rw [kept]
        cases setting : ofVariable? entry with
        | none =>
            rw [List.filterMap_cons_none setting, List.filterMap_cons_none setting, induction]
        | some value =>
            rw [List.filterMap_cons_some setting, List.filterMap_cons_some setting,
              Entries.latest?_cons, Entries.latest?_cons, induction]

theorem latest_of_no_key {key : String} {texts : List (String × String)}
    (absent : ∀ entry ∈ texts, variableKey? entry.1 ≠ some key) :
    Entries.latest? key (texts.filterMap ofVariable?) = none := by
  rw [Entries.latest?, Entries.get?_eq_none_iff, Entries.names, List.map_reverse,
    List.mem_reverse, ← Entries.names, names_of_settings, keys, List.mem_filterMap]
  rintro ⟨entry, member, found⟩
  exact absent entry member found

/-- Of several variables with one key the last decides, and the others may be dropped. -/
theorem settings_of_last {key name : String} (value : String) (before : List (String × String))
    {after : List (String × String)} (found : variableKey? name = some key)
    (absent : ∀ entry ∈ after, variableKey? entry.1 ≠ some key) :
    (settingsOf (without key before ++ (name, value) :: after)).Perm
      (settingsOf (before ++ (name, value) :: after)) := by
  apply Entries.perm_of_get? (settingsOf_distinct _) (settingsOf_distinct _)
  intro other
  have setting : ofVariable? (name, value) =
      some (key, .scalar (some .environment) (.text value)) := by
    rw [ofVariable?, found]
    rfl
  simp only [settingsOf, Entries.get?_ofList, List.filterMap_append, Entries.latest?_append,
    List.filterMap_cons_some setting, Entries.latest?_cons]
  by_cases same : key = other
  · subst same
    simp [latest_of_no_key absent]
  · rw [if_neg same, latest_without (Ne.symm same)]

end Layer

namespace Loading

/-- Settings that are the same up to their order load the same. -/
theorem fromDirectory_of_perm {exported others : Variables}
    {texts other_texts : List (String × String)}
    (decoded : Layer.decodeVariables exported = .ok texts)
    (also : Layer.decodeVariables others = .ok other_texts)
    (independent : Layer.Independent texts)
    (perm : (Layer.settingsOf texts).Perm (Layer.settingsOf other_texts))
    (directory : Directory) (environment : Environment) :
    fromDirectory directory environment exported =
      fromDirectory directory environment others := by
  have plain := independent.settings_plain
  have other_plain : (Layer.settingsOf other_texts).Plain := by
    intro setting member
    exact plain setting (perm.symm.subset member)
  apply fromDirectory_of_seen (Layer.ofVariables_decoded decoded) (Layer.ofVariables_decoded also)
    plain other_plain
  intro tree shape known
  have named : ∀ setting ∈ Layer.settingsOf texts, (Path.ofKey setting.1).IsNamed := by
    intro setting member
    exact Path.named_of_plain (plain setting member)
  have other_named : ∀ setting ∈ Layer.settingsOf other_texts,
      (Path.ofKey setting.1).IsNamed := by
    intro setting member
    exact Path.named_of_plain (other_plain setting member)
  have seen : Tree.seen (some (tree.merge ((Layer.settingsOf texts).map Tree.spread))) =
      Tree.seen (some (tree.merge ((Layer.settingsOf other_texts).map Tree.spread))) := by
    rw [Tree.seen_merge_spread named Layer.settings_are_texts,
      Tree.seen_merge_spread other_named Layer.settings_are_texts]
    exact Tree.settings_commute perm independent.settings_apart _
  funext names
  exact congrFun seen (shape.key :: names)

/-- Where no path of a setting starts with that of another, variables with
different keys load the same in any order and any case, and of several with one
key only the last has an effect. -/
theorem spelling_and_order_do_not_matter {exported : Variables} {texts : List (String × String)}
    (decoded : Layer.decodeVariables exported = .ok texts)
    (independent : Layer.Independent texts) (directory : Directory) (environment : Environment) :
    (∀ (others : Variables) (other_texts : List (String × String)),
      Layer.decodeVariables others = .ok other_texts →
      (Layer.keys texts).Nodup → Layer.Respelled texts other_texts →
      fromDirectory directory environment others =
        fromDirectory directory environment exported) ∧
    ∀ (others : Variables) (before after : List (String × String)) (name value key : String),
      texts = before ++ (name, value) :: after → Layer.variableKey? name = some key →
      (∀ entry ∈ after, Layer.variableKey? entry.1 ≠ some key) →
      Layer.decodeVariables others =
        .ok (Layer.without key before ++ (name, value) :: after) →
      fromDirectory directory environment others =
        fromDirectory directory environment exported := by
  constructor
  · intro others other_texts also distinct respelled
    have perm := Layer.settings_of_respelled distinct respelled
    exact (fromDirectory_of_perm decoded also independent perm directory environment).symm
  · intro others before after name value key split found absent also
    subst split
    have perm := (Layer.settings_of_last value before found absent).symm
    exact (fromDirectory_of_perm decoded also independent perm directory environment).symm

def twoSettings : List (String × String) :=
  [("APP_CUSTOMER__EMAIL", "ada"), ("APP_OUTPUT__REVEAL_API_KEY", "false")]

def twoRespelled : List (String × String) :=
  [("app_Output__Reveal_Api_Key", "false"), ("App_Customer__Email", "ada")]

def twoAndOneBefore : List (String × String) :=
  ("app_customer__email", "grace") :: twoSettings

theorem keys_of_two : Layer.keys twoSettings = ["customer.email", "output.reveal_api_key"] := by
  decide +kernel

theorem keys_of_three : Layer.keys twoAndOneBefore =
    ["customer.email", "customer.email", "output.reveal_api_key"] := by
  decide +kernel

theorem independent_of_keys {texts : List (String × String)}
    (known : ∀ key ∈ Layer.keys texts, key ∈ ["customer.email", "output.reveal_api_key"]) :
    Layer.Independent texts := by
  have email : Path.ofKey "customer.email" = ⟨"customer", [.key "email"]⟩ :=
    Path.ofKey_of_parts (by decide)
  have reveal : Path.ofKey "output.reveal_api_key" = ⟨"output", [.key "reveal_api_key"]⟩ :=
    Path.ofKey_of_parts (by decide)
  constructor
  · intro key member
    have plain : ∀ key ∈ ["customer.email", "output.reveal_api_key"], '[' ∉ key.toList := by decide
    exact plain key (known key member)
  · intro key member other also
    have one := known key member
    have another := known other also
    simp only [List.mem_cons, List.not_mem_nil, or_false] at one another
    rcases one with rfl | rfl <;> rcases another with rfl | rfl <;>
      simp [email, reveal, Path.names]

theorem two_settings_load_the_same :
    fromDirectory concealingDirectory .production (Layer.ofTexts twoRespelled) =
        fromDirectory concealingDirectory .production (Layer.ofTexts twoSettings) ∧
      fromDirectory concealingDirectory .production (Layer.ofTexts twoSettings) =
        fromDirectory concealingDirectory .production (Layer.ofTexts twoAndOneBefore) := by
  have independent : Layer.Independent twoSettings := by
    apply independent_of_keys
    rw [keys_of_two]
    exact fun key member => member
  have also_independent : Layer.Independent twoAndOneBefore := by
    apply independent_of_keys
    rw [keys_of_three]
    decide
  constructor
  · have order := (spelling_and_order_do_not_matter (Layer.decode_ofTexts twoSettings) independent
      concealingDirectory .production).1
    apply order _ twoRespelled (Layer.decode_ofTexts twoRespelled)
    · rw [keys_of_two]
      decide
    · unfold Layer.Respelled
      decide
  · have last := (spelling_and_order_do_not_matter (Layer.decode_ofTexts twoAndOneBefore)
      also_independent concealingDirectory .production).2
    apply last _ [("app_customer__email", "grace")] [("APP_OUTPUT__REVEAL_API_KEY", "false")]
      "APP_CUSTOMER__EMAIL" "ada" "customer.email" rfl
    · decide +kernel
    · decide +kernel
    · have kept : Layer.without "customer.email" [("app_customer__email", "grace")] = [] := by
        decide +kernel
      rw [kept]
      exact Layer.decode_ofTexts twoSettings

end Loading
end CustomerNotice
